import WriteBarrier.Proofs.Machine.Registration
/-!
Whether a table stops recording when it is unregistered.

Main statement: it does exactly where it has no entry but the one that is removed.  A table that was
registered twice goes on recording after it was unregistered, and every notification that meets one
of its cards dirties it.
-/

namespace WriteBarrier

namespace Machine

variable {s : Machine} {c : Command} {cs : List Command} {id : TableId} {t : CardTable}

/-- Until the table is registered again, nothing that stores or notifies changes it, whatever else
the run does. -/
def Silenced (s : Machine) (id : TableId) : Prop :=
  ∀ cs, Command.cards (.register id) ∉ cs → ∀ c : Command, c.Notifies →
    ((s.run cs).1.step c).1.registry.get? id = (s.run cs).1.registry.get? id

/-! ### Without an entry -/

theorem not_mem_step (h : id ∉ s.registry.entries) (hc : c ≠ .cards (.register id)) :
    id ∉ (s.step c).1.registry.entries := by
  have hcount := s.step_count c id
  have hregisters : registers id (c, (s.step c).2) ≠ true :=
    fun hregisters => hc (registers_iff.mp hregisters).1
  rw [if_neg hregisters, List.count_eq_zero.mpr h] at hcount
  exact List.count_eq_zero.mp (by omega)

/-- A table gains an entry only by being registered. -/
theorem not_mem_run (h : id ∉ s.registry.entries) (hcs : Command.cards (.register id) ∉ cs) :
    id ∉ (s.run cs).1.registry.entries := by
  induction cs generalizing s with
  | nil => exact h
  | cons c rest ih =>
    obtain ⟨hc, hrest⟩ := not_or.mp (mt List.mem_cons.mpr hcs)
    exact ih (not_mem_step h (Ne.symm hc)) hrest

theorem Silenced.of_not_mem (h : id ∉ s.registry.entries) : s.Silenced id := by
  intro cs hcs c hc
  exact (step_undisturbed _ hc).get?_eq id (not_mem_run h hcs)

/-! ### With an entry -/

/-- The capacity hangs on which tables record, not on how often. -/
theorem CardsFit.congr {s' : Machine} (hfit : s.CardsFit)
    (hentries : ∀ id, id ∈ s'.registry.entries ↔ id ∈ s.registry.entries)
    (hlayouts : s'.registry.layouts = s.registry.layouts) : s'.CardsFit := by
  rw [CardsFit, Registry.registeredCards_congr hentries hlayouts]
  exact hfit

/-- A registered table records. -/
theorem dirty_deliver_of_mem (hmem : id ∈ s.registry.entries) (hfit : s.CardsFit)
    {address bytes : UInt64} {card : Nat}
    (hmeets : s.registry.Meets id card address.toNat bytes.toNat) :
    (s.step (.deliver ⟨.cardTable, address, bytes⟩)).1.registry.Dirty id card := by
  obtain ⟨s', hdeliver, hnotified⟩ := deliver_notified ⟨.cardTable, address, bytes⟩ hfit
  have hdirty := (hnotified.dirty_iff id card).mpr
    (Or.inr (Registry.markedBy_singleton_iff.mpr ⟨hmem, rfl, hmeets⟩))
  simpa only [step, hdeliver, notified] using hdirty

/-- A registered table that is cleared is changed by a write to its first byte. -/
theorem not_silenced_of_mem (hget : s.registry.get? id = some t) (hmem : id ∈ s.registry.entries)
    (hfit : s.CardsFit) : ¬s.Silenced id := by
  intro hsilenced
  let cleared := s.updateTable id t.clear
  have hclear : (s.run [.cards (.clear id)]).1 = cleared := by
    simp only [run, step, CardCommand.perform, withTable, hget, cleared]
  have hlayouts : cleared.registry.layouts = s.registry.layouts :=
    Registry.layouts_update hget rfl
  have hcleared : cleared.registry.get? id = some t.clear := Registry.get?_update_self hget
  have hfits : cleared.CardsFit := hfit.congr (fun _ => Iff.rfl) hlayouts
  have hmeets : cleared.registry.Meets id (t.layout.cardOf t.layout.start)
      t.layout.base.toNat (1 : UInt64).toNat := by
    rw [Registry.meets_iff_of_get? hcleared]
    exact ⟨t.layout.start, le_rfl, Nat.lt_succ_self _, ⟨le_rfl, CardLayout.start_lt_stop⟩, rfl⟩
  obtain ⟨after, hafter, hdirty⟩ := dirty_deliver_of_mem (s := cleared) hmem hfits hmeets
  have hsame := hsilenced [.cards (.clear id)] (by simp)
    (.deliver ⟨.cardTable, t.layout.base, 1⟩) ⟨by simp, by simp⟩
  rw [hclear, hafter, hcleared] at hsame
  cases hsame
  rw [CardTable.isDirtyCard_clear] at hdirty
  exact Bool.false_ne_true hdirty

/-- Unregistering a table stops it from recording, in every run that does not register it again, if
it has no more than one entry.  If it has more, it goes on recording: each notification that meets
one of its cards dirties it. -/
theorem step_unregister_silences (hget : s.registry.get? id = some t) :
    (s.registry.entries.count id ≤ 1 →
      (s.step (.cards (.unregister id))).1.Silenced id) ∧
    (2 ≤ s.registry.entries.count id → s.CardsFit →
      ¬(s.step (.cards (.unregister id))).1.Silenced id ∧
      ∀ address bytes card, s.registry.Meets id card address.toNat bytes.toNat →
        ((s.step (.cards (.unregister id))).1.step
          (.deliver ⟨.cardTable, address, bytes⟩)).1.registry.Dirty id card) := by
  obtain ⟨s', hstep, htables, hentries⟩ := step_unregister hget
  have hcount : s'.registry.entries.count id = s.registry.entries.count id - 1 := by
    rw [hentries.count_eq, List.count_erase_self]
  simp only [hstep]
  constructor
  · intro hone
    exact .of_not_mem (List.count_eq_zero.mp (by omega))
  · intro htwo hfit
    have hmem : id ∈ s'.registry.entries := List.count_pos_iff.mp (by omega)
    have hmembers : ∀ other, other ∈ s'.registry.entries ↔ other ∈ s.registry.entries := by
      intro other
      by_cases hother : other = id
      · subst hother
        exact ⟨fun _ => List.count_pos_iff.mp (by omega), fun _ => hmem⟩
      · rw [hentries.mem_iff, List.mem_erase_of_ne hother]
    have hlayouts : s'.registry.layouts = s.registry.layouts := by
      rw [Registry.layouts, Registry.layouts, htables]
    have hfits : s'.CardsFit := hfit.congr hmembers hlayouts
    have hget' : s'.registry.get? id = some t := by
      rw [Registry.get?, htables]
      exact hget
    refine ⟨not_silenced_of_mem hget' hmem hfits, ?_⟩
    intro address bytes card hmeets
    exact dirty_deliver_of_mem hmem hfits ((Registry.meets_congr hlayouts).mpr hmeets)

/-- Of the overlapping tables the second one stops recording, and the first one, which records
twice, does not. -/
theorem step_overlap_unregister :
    Overlap.machine.registry.get? 1 = some (.clean Overlap.high) ∧
      (Overlap.machine.step (.cards (.unregister 1))).1.Silenced 1 ∧
      Overlap.machine.registry.get? 0 = some (.clean Overlap.low) ∧ Overlap.machine.CardsFit ∧
      ¬(Overlap.machine.step (.cards (.unregister 0))).1.Silenced 0 := by
  have hhigh : Overlap.machine.registry.get? 1 = some (.clean Overlap.high) := rfl
  have hlow : Overlap.machine.registry.get? 0 = some (.clean Overlap.low) := rfl
  have hfit : Overlap.machine.CardsFit := by decide +kernel
  exact ⟨hhigh, (step_unregister_silences hhigh).1 (by decide), hlow, hfit,
    ((step_unregister_silences hlow).2 (by decide) hfit).1⟩

namespace Overlap

/-- A table that is registered twice and unregistered once. -/
def twice : List Command :=
  [.cards (.make 0x1000 0x40 4), .cards (.register 0), .cards (.register 0),
    .cards (.unregister 0)]

end Overlap

/-- The last command took an entry away, nothing registers the table again, and a notification still
dirties its first card. -/
theorem twice_registered_records :
    (Overlap.fresh.run Overlap.twice).2 =
        [.ok (.table 0 Overlap.low), .ok (.count 1), .ok (.count 2), .ok (.removal true 1)] ∧
      ¬(Overlap.fresh.run Overlap.twice).1.registry.Dirty 0 0 ∧
      ((Overlap.fresh.run Overlap.twice).1.step
        (.deliver ⟨.cardTable, 0x1000, 1⟩)).1.registry.Dirty 0 0 := by
  decide +kernel

end Machine

end WriteBarrier
