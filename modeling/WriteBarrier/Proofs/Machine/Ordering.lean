import WriteBarrier.Proofs.Machine.Counting
import Mathlib.Algebra.BigOperators.Group.List.Basic
/-!
The order of notifications and of registered tables.

Main statement: neither matters to the cards that are dirty in the end, nor to the counters, and
neither does the number of entries of a registered table.
-/

namespace WriteBarrier

namespace Machine

variable {s : Machine} {entries : List TableId} {ns ns' : List Notification}

/-- The state with another list of entries that record. -/
def withEntries (s : Machine) (entries : List TableId) : Machine :=
  { s with registry := { s.registry with entries } }

/-- Notifications that are handed to their managers in any order, while the same tables record in
any order and with any number of entries each, succeed and leave the same cards and counters. -/
theorem run_deliver_perm (hcounts : s.diagnostics.statsEnabled = true) (hfit : s.CardsFit)
    (hentries : ∀ id, id ∈ entries ↔ id ∈ s.registry.entries) (hns : ns'.Perm ns) :
    ∃ one other, s.run (ns.map .deliver) = (one, List.replicate ns.length (.ok .nothing)) ∧
      (s.withEntries entries).run (ns'.map .deliver) =
        (other, List.replicate ns.length (.ok .nothing)) ∧
      other.registry.tables = one.registry.tables ∧
      other.diagnostics.counters = one.diagnostics.counters := by
  have hsame : ∀ id, id ∈ (s.withEntries entries).registry.entries ↔ id ∈ s.registry.entries :=
    hentries
  have hlayouts : (s.withEntries entries).registry.layouts = s.registry.layouts := rfl
  have hfit_other : (s.withEntries entries).CardsFit := by
    rw [CardsFit, Registry.registeredCards_congr hsame hlayouts]
    exact hfit
  obtain ⟨one, hone, hcounted⟩ := run_deliver_counted ns hfit hcounts
  obtain ⟨other, hother, hcounted_other⟩ := run_deliver_counted ns' hfit_other hcounts
  have htables : other.registry.tables = one.registry.tables := by
    apply Registry.tables_eq_of_dirty_iff
    · exact hcounted_other.layouts_eq.trans hcounted.layouts_eq.symm
    · intro id card
      rw [hcounted_other.dirty_iff, hcounted.dirty_iff,
        Registry.markedBy_congr hsame hlayouts fun n => hns.mem_iff]
      rfl
  refine ⟨one, other, hone, ?_, htables, ?_⟩
  · rw [hother, hns.length_eq]
  · have hcharge : (s.withEntries entries).registry.charge = s.registry.charge :=
      Registry.charge_congr hsame hlayouts
    have hcards : (s.withEntries entries).registry.newCards other.registry =
        s.registry.newCards one.registry := Registry.newCards_congr rfl htables
    rw [hcounted_other.counters_eq, hcounted.counters_eq, hcharge, hcards,
      (hns.map s.registry.charge).sum_eq]
    rfl

namespace Overlap

/-- A write that ends outside both tables, and two that it meets, of which one is empty. -/
def writes : List Notification :=
  [⟨.cardTable, 0x1018, 0x40⟩, ⟨.cardTable, 0x1030, 4⟩, ⟨.cardTable, 0x1000, 0⟩]

end Overlap

theorem run_overlap_perm :
    Overlap.machine.CardsFit ∧ Overlap.machine.registry.entries = [0, 1, 0] ∧
      ∃ one other,
        Overlap.machine.run (Overlap.writes.map .deliver) = (one, List.replicate 3 (.ok .nothing)) ∧
        (Overlap.machine.withEntries [1, 0]).run (Overlap.writes.reverse.map .deliver) =
          (other, List.replicate 3 (.ok .nothing)) ∧
        other.registry.tables = one.registry.tables ∧
        other.diagnostics.counters = one.diagnostics.counters ∧
        one.diagnostics.counters = ⟨3, 68, 5, 1⟩ := by
  have hfit : Overlap.machine.CardsFit := by decide +kernel
  have hentries : ∀ id, id ∈ [1, 0] ↔ id ∈ Overlap.machine.registry.entries := by
    intro id
    simp only [Overlap.machine, List.mem_cons, List.not_mem_nil]
    tauto
  obtain ⟨one, other, hone, hother, htables, hcounters⟩ :=
    run_deliver_perm rfl hfit hentries (List.reverse_perm Overlap.writes)
  have hcounts : (Overlap.machine.run (Overlap.writes.map .deliver)).1.diagnostics.counters =
      ⟨3, 68, 5, 1⟩ := by decide +kernel
  rw [hone] at hcounts
  exact ⟨hfit, rfl, one, other, hone, hother, htables, hcounters, hcounts⟩

end Machine

end WriteBarrier
