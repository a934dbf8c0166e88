import WriteBarrier.Proofs.Counters
import WriteBarrier.Proofs.Machine.Notification
import Mathlib.Tactic.Abel
/-!
What notifications come to in the counters.

Main statement: while notifications are counted, a list of them adds to the counters what each of
them adds by itself, and once each card that the whole list took from clean to dirty.
-/

namespace WriteBarrier

namespace Registry

/-- What a notification adds to the counters by itself.  The cards that it dirties are left out:
they hang on the cards that are dirty before it. -/
def charge (r : Registry) (n : Notification) : Counters :=
  if n.manager = .cardTable then
    { notifyCalls := 1
      bytesNotified := n.bytes
      unrecordedWrites := if r.Uncovered n.address.toNat n.bytes.toNat then 1 else 0 }
  else 0

theorem cardsDirtied_charge (r : Registry) (n : Notification) : (r.charge n).cardsDirtied = 0 := by
  unfold charge
  split <;> rfl

theorem cardsDirtied_sum_charge (r : Registry) (ns : List Notification) :
    (ns.map r.charge).sum.cardsDirtied = 0 := by
  induction ns with
  | nil => rfl
  | cons n rest ih =>
    rw [List.map_cons, List.sum_cons, Counters.cardsDirtied_add, cardsDirtied_charge, ih]
    rfl

/-- The cards that are dirty in the second registry and clean in the first, as counters. -/
def newCards (r after : Registry) : Counters :=
  { cardsDirtied := UInt64.ofNat (r.newlyDirty after).card }

theorem charge_cardTable (r : Registry) (address bytes : UInt64) :
    r.charge ⟨.cardTable, address, bytes⟩ =
      { notifyCalls := 1
        bytesNotified := bytes
        unrecordedWrites := if r.Uncovered address.toNat bytes.toNat then 1 else 0 } :=
  if_pos rfl

theorem charge_congr {r r' : Registry} (hentries : ∀ id, id ∈ r'.entries ↔ id ∈ r.entries)
    (hlayouts : r'.layouts = r.layouts) : r'.charge = r.charge := by
  funext n
  simp only [charge, uncovered_congr hentries hlayouts]

theorem newCards_congr {r r' after after' : Registry} (htables : r'.tables = r.tables)
    (hafter : after'.tables = after.tables) : r'.newCards after' = r.newCards after := by
  rw [newCards, newCards, newlyDirty, newlyDirty, dirtyPairs_congr htables,
    dirtyPairs_congr hafter]

theorem newCards_self (r : Registry) : r.newCards r = 0 := by
  rw [newCards, newlyDirty_self]
  rfl

theorem newCards_trans {r marked after : Registry} (h : r.dirtyPairs ⊆ marked.dirtyPairs)
    (hafter : marked.dirtyPairs ⊆ after.dirtyPairs) :
    r.newCards after = r.newCards marked + marked.newCards after := by
  ext1
  · rfl
  · rfl
  · rw [Counters.cardsDirtied_add, newCards, card_newlyDirty_trans h hafter, UInt64.ofNat_add]
    rfl
  · rfl

end Registry

namespace Machine

variable {s s' : Machine}

theorem Notified.dirtyPairs_subset {ns : List Notification} (h : Notified s s' ns) :
    s.registry.dirtyPairs ⊆ s'.registry.dirtyPairs :=
  Registry.dirtyPairs_subset fun id card hdirty => (h.dirty_iff id card).mpr (Or.inl hdirty)

/-- `s'` is the state after some notifications reached their managers and were counted. -/
structure Counted (s s' : Machine) (ns : List Notification) : Prop extends Notified s s' ns where
  statsEnabled_eq : s'.diagnostics.statsEnabled = s.diagnostics.statsEnabled
  counters_eq : s'.diagnostics.counters =
    s.diagnostics.counters + (ns.map s.registry.charge).sum + s.registry.newCards s'.registry

theorem Counted.silent (s : Machine) : Counted s s [] where
  toNotified := .silent rfl rfl rfl
  statsEnabled_eq := rfl
  counters_eq := by rw [Registry.newCards_self, List.map_nil, List.sum_nil, add_zero, add_zero]

theorem Counted.trans {after : Machine} {first rest : List Notification}
    (h : Counted s s' first) (hrest : Counted s' after rest) :
    Counted s after (first ++ rest) where
  toNotified := h.toNotified.trans hrest.toNotified
  statsEnabled_eq := hrest.statsEnabled_eq.trans h.statsEnabled_eq
  counters_eq := by
    have hcharge : s'.registry.charge = s.registry.charge :=
      Registry.charge_congr h.mem_entries_iff h.layouts_eq
    have hcards := Registry.newCards_trans h.dirtyPairs_subset hrest.dirtyPairs_subset
    rw [hrest.counters_eq, h.counters_eq, hcharge, hcards, List.map_append, List.sum_append]
    abel

/-- The cards that notifications count are those that they dirty. -/
theorem Counted.cardsDirtied_eq {ns : List Notification} (h : Counted s s' ns) :
    s'.diagnostics.counters.cardsDirtied = s.diagnostics.counters.cardsDirtied +
      UInt64.ofNat (s.registry.newlyDirty s'.registry).card := by
  rw [h.counters_eq, Counters.cardsDirtied_add, Counters.cardsDirtied_add,
    Registry.cardsDirtied_sum_charge, UInt64.add_zero]
  rfl

/-- Memory has no part in what notifications come to. -/
theorem Counted.withMemory {ns : List Notification} (h : Counted s s' ns) (m : Memory) :
    Counted { s with memory := m } { s' with memory := m } ns where
  build_eq := h.build_eq
  memory_eq := rfl
  entries_eq := h.entries_eq
  layouts_eq := h.layouts_eq
  dirty_iff := h.dirty_iff
  statsEnabled_eq := h.statsEnabled_eq
  counters_eq := h.counters_eq

/-- A notification of another manager counts for nothing. -/
theorem Counted.of_notified {n : Notification} (h : Notified s s' [n])
    (hmanager : n.manager ≠ .cardTable) (hregistry : s'.registry = s.registry)
    (hdiagnostics : s'.diagnostics = s.diagnostics) : Counted s s' [n] where
  toNotified := h
  statsEnabled_eq := by rw [hdiagnostics]
  counters_eq := by
    rw [hdiagnostics, hregistry, Registry.newCards_self, List.map_singleton, List.sum_singleton,
      Registry.charge, if_neg hmanager, add_zero, add_zero]

theorem deliver_counted (n : Notification) (hfit : s.CardsFit)
    (hcounts : s.diagnostics.statsEnabled = true) :
    ∃ s', s.deliver n = (s', .ok ()) ∧ Counted s s' [n] := by
  obtain ⟨s', hdeliver, hnotified⟩ := deliver_notified n hfit
  obtain ⟨manager, address, bytes⟩ := n
  refine ⟨s', hdeliver, ?_⟩
  cases manager with
  | declared name =>
    cases hdeliver
    exact .of_notified hnotified nofun rfl rfl
  | discard =>
    cases hdeliver
    exact .of_notified hnotified nofun rfl rfl
  | cardTable =>
    obtain ⟨marked, recorded, hmark, _, hcards, hcovered⟩ := deliver_cardTable address bytes hfit
    have huncovered := covered_lt_iff hcovered
    rw [hmark] at hdeliver
    cases hdeliver
    refine ⟨hnotified, ?_, ?_⟩
    · rw [Diagnostics.noteNotification_eq]
    · rw [Diagnostics.noteNotification_eq, List.map_singleton, List.sum_singleton,
        Registry.charge_cardTable, Registry.newCards, ← hcards, UInt64.ofNat_toNat]
      simp only [hcounts, huncovered, if_true]
      ext1 <;> simp

/-- Notifications that are handed to their managers one after the other. -/
theorem run_deliver_counted (ns : List Notification) (hfit : s.CardsFit)
    (hcounts : s.diagnostics.statsEnabled = true) :
    ∃ s', s.run (ns.map .deliver) = (s', List.replicate ns.length (.ok .nothing)) ∧
      Counted s s' ns := by
  induction ns generalizing s with
  | nil => exact ⟨s, rfl, .silent s⟩
  | cons n rest ih =>
    obtain ⟨s₁, hdeliver, hone⟩ := deliver_counted n hfit hcounts
    obtain ⟨s₂, hrun, hrest⟩ := ih (hone.cardsFit hfit) (hone.statsEnabled_eq.trans hcounts)
    refine ⟨s₂, ?_, hone.trans hrest⟩
    simp only [List.map_cons, run, step, hdeliver, notified, hrun, List.length_cons,
      List.replicate_succ]

theorem notify_counted (n : Notification) (hfit : s.CardsFit)
    (hcounts : s.diagnostics.statsEnabled = true) :
    ∃ s', s.notify n = (s', .ok ()) ∧ Counted s s' (s.heard [n]) := by
  unfold notify heard
  split
  · exact deliver_counted n hfit hcounts
  · exact ⟨s, rfl, .silent s⟩

theorem notifyAll_counted (ns : List Notification) (hfit : s.CardsFit)
    (hcounts : s.diagnostics.statsEnabled = true) :
    ∃ s', s.notifyAll ns = (s', .ok ()) ∧ Counted s s' (s.heard ns) := by
  induction ns generalizing s with
  | nil =>
    rw [heard_nil]
    exact ⟨s, rfl, .silent s⟩
  | cons n rest ih =>
    obtain ⟨s₁, hone, hcounted⟩ := notify_counted n hfit hcounts
    obtain ⟨s₂, hrest, hcounted_rest⟩ :=
      ih (hcounted.cardsFit hfit) (hcounted.statsEnabled_eq.trans hcounts)
    refine ⟨s₂, ?_, ?_⟩
    · simp only [notifyAll, hone, hrest]
    · have hheard : s₁.heard rest = s.heard rest := by rw [heard, heard, hcounted.build_eq]
      rw [← List.singleton_append, heard_append, ← hheard]
      exact hcounted.trans hcounted_rest

/-- An operation on memory comes to its own outcome, and its notifications are counted. -/
theorem absorb_counted (e : Effect) (hfit : s.CardsFit)
    (hcounts : s.diagnostics.statsEnabled = true) :
    ∃ s', s.absorb e = (s', e.outcome) ∧
      Counted { s with memory := e.memory } s' (s.heard e.notifications) := by
  obtain ⟨s', hall, hcounted⟩ :=
    notifyAll_counted (s := { s with memory := e.memory }) e.notifications hfit hcounts
  refine ⟨s', ?_, hcounted⟩
  simp only [absorb, hall]

/-- An operation on memory, in a build that notifies. -/
theorem step_storage_counted {c : StorageCommand} {m : Memory} {ns : List Notification}
    {outcome : Outcome Answer} (hperform : c.perform s.memory = ⟨m, ns, outcome⟩)
    (hnotifies : s.build = .notifying) (hcounts : s.diagnostics.statsEnabled = true)
    (hfit : s.CardsFit) :
    ∃ s', s.step (.storage c) = (s', outcome) ∧ Counted { s with memory := m } s' ns := by
  obtain ⟨s', habsorb, hcounted⟩ := absorb_counted ⟨m, ns, outcome⟩ hfit hcounts
  rw [heard_of_notifying hnotifies] at hcounted
  refine ⟨s', ?_, hcounted⟩
  rw [step, hperform]
  exact habsorb

end Machine

end WriteBarrier
