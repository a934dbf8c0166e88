import WriteBarrier.Proofs.Machine.Frame
import WriteBarrier.Proofs.Machine.History
/-!
Registering and unregistering, counted over a run.

Main statement: the registry is a multiset.  A table has as many entries as it was registered, less
the times that an entry was removed; whatever else a run does, only the two operations change the
list of entries, and neither of them can fail for a table that was made.
-/

namespace WriteBarrier

namespace Machine

variable {s : Machine} {c : Command} {outcome : Outcome Answer} {id : TableId} {t : CardTable}

/-- The table was made, and the command registers it, whatever comes of it. -/
def registers (id : TableId) : Command × Outcome Answer → Bool
  | (.cards (.register other), outcome) => other = id && outcome ≠ .error (.unknownTable id)
  | _ => false

/-- The command unregisters the table and found an entry of it. -/
def removes (id : TableId) : Command × Outcome Answer → Bool
  | (.cards (.unregister other), .ok (.removal found _)) => found && other = id
  | _ => false

theorem registers_iff : registers id (c, outcome) = true ↔
    c = .cards (.register id) ∧ outcome ≠ .error (.unknownTable id) := by
  constructor
  · intro h
    unfold registers at h
    split at h
    · next other outcome' hcall =>
      cases hcall
      simp only [Bool.and_eq_true, decide_eq_true_eq] at h
      obtain ⟨rfl, hanswer⟩ := h
      exact ⟨rfl, hanswer⟩
    · cases h
  · rintro ⟨rfl, hanswer⟩
    simp [registers, hanswer]

theorem registers_eq_false (hc : ∀ id, c ≠ .cards (.register id)) :
    registers id (c, outcome) = false :=
  Bool.eq_false_iff.mpr fun hregisters => hc id (registers_iff.mp hregisters).1

theorem removes_eq_false (hc : ∀ id, c ≠ .cards (.unregister id)) :
    removes id (c, outcome) = false := by
  unfold removes
  split
  · next other _ _ h =>
    cases h
    exact absurd rfl (hc other)
  · rfl

/-! ### The two operations -/

/-- Registering a table that was made appends an entry of it, whatever the logger does. -/
theorem step_register (hget : s.registry.get? id = some t) :
    ∃ s', s.step (.cards (.register id)) = (s', .ok (.count s'.registry.entries.length)) ∧
      s'.registry = s.registry.register id := by
  obtain ⟨diagnostics, hregister⟩ := s.registerTable_eq id t
  refine ⟨{ s with registry := s.registry.register id, diagnostics }, ?_, rfl⟩
  simp only [step, CardCommand.perform, withTable, hget, hregister]

/-- Unregistering a table that was made removes an entry of it, if it has one, and tells whether it
had one. -/
theorem step_unregister (hget : s.registry.get? id = some t) :
    ∃ s', s.step (.cards (.unregister id)) =
        (s', .ok (.removal (decide (0 < s.registry.entries.count id))
          s'.registry.entries.length)) ∧
      s'.registry.tables = s.registry.tables ∧
      s'.registry.entries.Perm (s.registry.entries.erase id) := by
  by_cases hmem : id ∈ s.registry.entries
  · obtain ⟨removed, hremoved, htables, hentries⟩ := Registry.exists_unregister hmem
    obtain ⟨diagnostics, hunregister⟩ := unregisterTable_eq_of_some hremoved t
    refine ⟨{ s with registry := removed, diagnostics }, ?_, htables, hentries⟩
    simp only [step, CardCommand.perform, withTable, hget, hunregister, List.count_pos_iff, hmem,
      decide_true]
  · have hunregister :=
      unregisterTable_eq_of_none (s := s) (Registry.unregister_eq_none_iff.mpr hmem) t
    refine ⟨s, ?_, rfl, ?_⟩
    · simp only [step, CardCommand.perform, withTable, hget, hunregister, List.count_pos_iff, hmem,
        decide_false]
    · rw [List.erase_of_not_mem hmem]

theorem step_register_of_none (hget : s.registry.get? id = none) :
    s.step (.cards (.register id)) = (s, .error (.unknownTable id)) := by
  simp only [step, CardCommand.perform, withTable, hget]

theorem step_unregister_of_none (hget : s.registry.get? id = none) :
    s.step (.cards (.unregister id)) = (s, .error (.unknownTable id)) := by
  simp only [step, CardCommand.perform, withTable, hget]

/-! ### One command -/

theorem count_register (s : Machine) (other id : TableId) :
    (s.step (.cards (.register other))).1.registry.entries.count id =
      s.registry.entries.count id +
        if registers id (.cards (.register other), (s.step (.cards (.register other))).2)
        then 1 else 0 := by
  cases hget : s.registry.get? other with
  | none =>
    simp only [step_register_of_none hget, registers]
    by_cases hother : other = id
    · simp [hother]
    · simp [hother]
  | some t =>
    obtain ⟨s', hstep, hregistry⟩ := step_register hget
    simp [hstep, hregistry, Registry.register, registers, List.count_singleton]

theorem count_unregister (s : Machine) (other id : TableId) :
    (s.step (.cards (.unregister other))).1.registry.entries.count id +
        (if removes id (.cards (.unregister other), (s.step (.cards (.unregister other))).2)
        then 1 else 0) =
      s.registry.entries.count id := by
  cases hget : s.registry.get? other with
  | none => simp [step_unregister_of_none hget, removes]
  | some t =>
    obtain ⟨s', hstep, _, hentries⟩ := step_unregister hget
    simp only [hstep, hentries.count_eq, List.count_erase]
    by_cases hother : other = id
    · subst hother
      cases hcount : s.registry.entries.count other with
      | zero => simp [removes]
      | succ n => simp [removes]
    · simp [removes, hother]

/-- The entries of a table grow by one where it is registered, shrink by one where an entry of it is
removed, and stay as many by any other command. -/
theorem step_count (s : Machine) (c : Command) (id : TableId) :
    (s.step c).1.registry.entries.count id + (if removes id (c, (s.step c).2) then 1 else 0) =
      s.registry.entries.count id + if registers id (c, (s.step c).2) then 1 else 0 := by
  by_cases hregister : ∃ other, c = .cards (.register other)
  · obtain ⟨other, rfl⟩ := hregister
    exact s.count_register other id
  · have hregister := not_exists.mp hregister
    by_cases hunregister : ∃ other, c = .cards (.unregister other)
    · obtain ⟨other, rfl⟩ := hunregister
      exact s.count_unregister other id
    · have hunregister := not_exists.mp hunregister
      simp only [s.entries_step hregister hunregister, registers_eq_false hregister,
        removes_eq_false hunregister]

/-- Every entry is the number of a table that was made. -/
def EntriesMade (s : Machine) : Prop :=
  ∀ id ∈ s.registry.entries, id < s.registry.tables.size

theorem size_step_le (s : Machine) (c : Command) :
    s.registry.tables.size ≤ (s.step c).1.registry.tables.size := by
  by_cases hsettings : ∃ cmd, c = .settings cmd
  · obtain ⟨cmd, rfl⟩ := hsettings
    rw [step, (s.settings_agrees cmd).registry_eq]
  · exact (s.step_kept (not_exists.mp hsettings)).size_le

theorem EntriesMade.step (h : s.EntriesMade) (c : Command) : (s.step c).1.EntriesMade := by
  intro id hid
  by_cases hbefore : id ∈ s.registry.entries
  · exact (h id hbefore).trans_le (s.size_step_le c)
  · -- an entry that was not there before comes from registering its table
    have hcount := s.step_count c id
    have hentry := List.count_pos_iff.mpr hid
    have hregisters : registers id (c, (s.step c).2) = true := by
      by_contra hnot
      rw [if_neg hnot, List.count_eq_zero.mpr hbefore] at hcount
      omega
    obtain ⟨rfl, hanswer⟩ := registers_iff.mp hregisters
    cases hget : s.registry.get? id with
    | none => exact absurd (congrArg Prod.snd (step_register_of_none hget)) hanswer
    | some t => exact (Registry.lt_size_of_get? hget).trans_le (s.size_step_le _)

theorem EntriesMade.run (h : s.EntriesMade) (cs : List Command) : (s.run cs).1.EntriesMade := by
  induction cs generalizing s with
  | nil => exact h
  | cons c rest ih => exact ih (h.step c)

/-- The entries are as many as those of all tables together. -/
theorem EntriesMade.length_eq (h : s.EntriesMade) : s.registry.entries.length =
    ∑ id ∈ Finset.range s.registry.tables.size, s.registry.entries.count id := by
  have hmade : ∀ id ∈ (s.registry.entries : Multiset TableId),
      id ∈ Finset.range s.registry.tables.size :=
    fun id hid => Finset.mem_range.mpr (h id hid)
  simpa only [Multiset.coe_card, Multiset.coe_count] using (Multiset.sum_count_eq_card hmade).symm

/-! ### A run -/

/-- Over a run, an entry of a table stands for each time that it was registered, but for those that
were removed. -/
theorem run_count (s : Machine) (cs : List Command) (id : TableId) :
    (s.run cs).1.registry.entries.count id + (s.answered cs).countP (removes id) =
      s.registry.entries.count id + (s.answered cs).countP (registers id) := by
  induction cs generalizing s with
  | nil => rfl
  | cons c rest ih =>
    have hstep := s.step_count c id
    have hrest := ih (s.step c).1
    simp only [run_cons, answered_cons, List.countP_cons]
    omega

/-- After any run, a table has as many entries as it was registered less the times that an entry of
it was removed; all entries are those of the tables that were made; and for such a table registering
comes to its end whatever the logger is set to, and unregistering finds an entry exactly where there
is one, and removes it and no other. -/
theorem run_registry_multiset (build : Build) (clock : Clock) (memory : Memory)
    (environment : Environment) (cs : List Command) :
    let start := initial build clock memory environment
    let s := (start.run cs).1
    (∀ id, s.registry.entries.count id + (start.answered cs).countP (removes id) =
      (start.answered cs).countP (registers id)) ∧
    s.registry.entries.length =
      ∑ id ∈ Finset.range s.registry.tables.size, s.registry.entries.count id ∧
    ∀ id t, s.registry.get? id = some t →
      (∃ s', s.step (.cards (.register id)) = (s', .ok (.count s'.registry.entries.length)) ∧
        s'.registry = s.registry.register id) ∧
      ∃ s', s.step (.cards (.unregister id)) =
          (s', .ok (.removal (decide (0 < s.registry.entries.count id))
            s'.registry.entries.length)) ∧
        s'.registry.tables = s.registry.tables ∧
        s'.registry.entries.Perm (s.registry.entries.erase id) := by
  intro start s
  have hmade : start.EntriesMade := fun id hid => absurd hid List.not_mem_nil
  refine ⟨?_, (hmade.run cs).length_eq, ?_⟩
  · intro id
    have hempty : start.registry.entries.count id = 0 := rfl
    have hcount := start.run_count cs id
    rwa [hempty, Nat.zero_add] at hcount
  · intro id t hget
    exact ⟨step_register hget, step_unregister hget⟩

-- the first of the overlapping tables is registered twice and loses one entry
example : (Overlap.fresh.run Overlap.commands).1.registry.entries = [0, 1] ∧
    (Overlap.fresh.answered Overlap.commands).countP (registers 0) = 2 ∧
    (Overlap.fresh.answered Overlap.commands).countP (removes 0) = 1 := by
  decide +kernel

end Machine

end WriteBarrier
