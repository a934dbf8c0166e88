import WriteBarrier.Proofs.Machine.Step
/-!
Runs of any length, and the cards that are dirty in their end.

Main statement: a card is dirty exactly where some command marked it and no later one drained or
cleared its table.
-/

namespace WriteBarrier

namespace Machine

variable {s : Machine} {c : Command} {rest : List Command} {id : TableId} {card : Nat}

/-- Every state of a run has the property, the first and the last one included. -/
def Throughout (p : Machine → Prop) (s : Machine) : List Command → Prop
  | [] => p s
  | c :: rest => p s ∧ (s.step c).1.Throughout p rest

instance decidableThroughout (p : Machine → Prop) [DecidablePred p] (s : Machine) :
    (cs : List Command) → Decidable (s.Throughout p cs)
  | [] => inferInstanceAs (Decidable (p s))
  | c :: rest =>
    have := decidableThroughout p (s.step c).1 rest
    inferInstanceAs (Decidable (p s ∧ _))

/-- A run that has not begun: no table was made, and all settings have their defaults. -/
def initial (build : Build) (clock : Clock) (memory : Memory) (environment : Environment) :
    Machine :=
  { build, clock, memory, environment }

/-- The commands of a run, each with what it answered. -/
def answered (s : Machine) (cs : List Command) : List (Command × Outcome Answer) :=
  cs.zip (s.run cs).2

/-- The notifications that a run hands to managers, in order. -/
def told (s : Machine) : List Command → List Notification
  | [] => []
  | c :: rest => s.notifications c ++ (s.step c).1.told rest

/-- A command of the run marks the card, and no later command cleans its table. -/
def MarkedSince (s : Machine) (cs : List Command) (id : TableId) (card : Nat) : Prop :=
  ∃ before c after, cs = before ++ c :: after ∧ (s.run before).1.Marks id card c ∧
    ∀ d ∈ after, ¬d.Cleans id

theorem run_cons : (s.run (c :: rest)).1 = ((s.step c).1.run rest).1 :=
  rfl

theorem run_append (s : Machine) (before after : List Command) :
    (s.run (before ++ after)).1 = ((s.run before).1.run after).1 := by
  induction before generalizing s with
  | nil => rfl
  | cons c rest ih => exact ih (s.step c).1

theorem run_concat (s : Machine) (cs : List Command) (c : Command) :
    (s.run (cs ++ [c])).1 = ((s.run cs).1.step c).1 := by
  rw [run_append]
  rfl

theorem told_append (s : Machine) (before after : List Command) :
    s.told (before ++ after) = s.told before ++ (s.run before).1.told after := by
  induction before generalizing s with
  | nil => rfl
  | cons c rest ih => rw [List.cons_append, told, told, ih, run_cons, List.append_assoc]

theorem answered_cons :
    s.answered (c :: rest) = (c, (s.step c).2) :: (s.step c).1.answered rest :=
  rfl

/-- An empty run cannot be split at a command. -/
theorem not_exists_split_nil {p : List Command → Command → List Command → Prop} :
    ¬∃ before c after, [] = before ++ c :: after ∧ p before c after := by
  rintro ⟨before, c, after, hrun, _⟩
  exact absurd hrun.symm (List.append_ne_nil_of_right_ne_nil _ (List.cons_ne_nil _ _))

/-- A run is split at its first command, or at one of the others. -/
theorem exists_split_cons_iff {p : List Command → Command → List Command → Prop} :
    (∃ before d after, c :: rest = before ++ d :: after ∧ p before d after) ↔
      p [] c rest ∨ ∃ before d after, rest = before ++ d :: after ∧ p (c :: before) d after := by
  constructor
  · rintro ⟨before, d, after, hrun, hp⟩
    cases before with
    | nil =>
      obtain ⟨rfl, rfl⟩ := List.cons.inj hrun
      exact Or.inl hp
    | cons first before =>
      obtain ⟨rfl, hrest⟩ := List.cons.inj hrun
      exact Or.inr ⟨before, d, after, hrest, hp⟩
  · rintro (hp | ⟨before, d, after, rfl, hp⟩)
    · exact ⟨[], c, rest, rfl, hp⟩
    · exact ⟨c :: before, d, after, rfl, hp⟩

theorem not_markedSince_nil : ¬s.MarkedSince [] id card :=
  not_exists_split_nil

/-- The first command of a run marks the card for good, or the others do. -/
theorem markedSince_cons_iff : s.MarkedSince (c :: rest) id card ↔
    (s.Marks id card c ∧ ∀ d ∈ rest, ¬d.Cleans id) ∨ (s.step c).1.MarkedSince rest id card :=
  exists_split_cons_iff

/-- A card that is dirty in the end was dirty at first, and its table was never cleaned, or it was
marked since.  The induction is on the run and carries the cards that are dirty at first. -/
theorem run_dirty_iff_or {cs : List Command} (hfit : s.Throughout CardsFit cs) :
    (s.run cs).1.registry.Dirty id card ↔
      (s.registry.Dirty id card ∧ ∀ c ∈ cs, ¬c.Cleans id) ∨ s.MarkedSince cs id card := by
  induction cs generalizing s with
  | nil => simp [run, not_markedSince_nil]
  | cons c rest ih =>
    obtain ⟨hfit, hrest⟩ := hfit
    have hstep := (step_advanced c hfit).dirty_iff id card
    rw [run_cons, ih hrest, hstep, markedSince_cons_iff, List.forall_mem_cons]
    tauto

/-- From clean tables on, a card is dirty after a run exactly where, after the last drain or clear
of its table, a notification that reached the table had a byte in the card while the table was
registered, or a range with a byte in the card was marked in the table itself. -/
theorem run_dirty_iff_markedSince {cs : List Command}
    (hclean : ∀ id card, ¬s.registry.Dirty id card) (hfit : s.Throughout CardsFit cs)
    (id : TableId) (card : Nat) :
    (s.run cs).1.registry.Dirty id card ↔ s.MarkedSince cs id card := by
  rw [run_dirty_iff_or hfit]
  simp [hclean]

namespace Overlap

/-- A run that has made no table yet. -/
def fresh : Machine :=
  { machine with registry := {} }

/-- The tables are made, the first one records twice; a write marks both, and the first one is
drained and loses an entry; a write runs past the end of the address space; a range is marked in the
second one, which is then cleared; a last write marks both. -/
def commands : List Command :=
  [.cards (.make 0x1000 0x40 4), .cards (.make 0x1020 0x28 5), .cards (.register 0),
    .cards (.register 1), .cards (.register 0), .deliver ⟨.cardTable, 0x1018, 0x40⟩,
    .cards (.drain 0), .cards (.unregister 0), .deliver ⟨.cardTable, 0xFFFFFFFFFFFFFF00, 0x1FF⟩,
    .cards (.dirtyRange 1 0x1040 8), .cards (.clear 1), .deliver ⟨.cardTable, 0x1038, 1⟩]

end Overlap

theorem run_overlap_markedSince :
    (∀ id card, ¬Overlap.fresh.registry.Dirty id card) ∧
      Overlap.fresh.Throughout CardsFit Overlap.commands ∧
      Overlap.fresh.MarkedSince Overlap.commands 0 3 ∧
      Overlap.fresh.MarkedSince Overlap.commands 1 0 ∧
      ¬Overlap.fresh.MarkedSince Overlap.commands 0 2 ∧
      ¬Overlap.fresh.MarkedSince Overlap.commands 1 1 := by
  have hclean : ∀ id card, ¬Overlap.fresh.registry.Dirty id card :=
    fun _ _ => Registry.not_dirty_of_get?_none rfl
  have hfit : Overlap.fresh.Throughout CardsFit Overlap.commands := by decide +kernel
  have hdirty := run_dirty_iff_markedSince hclean hfit
  refine ⟨hclean, hfit, ?_⟩
  rw [← hdirty, ← hdirty, ← hdirty, ← hdirty]
  decide +kernel

end Machine

end WriteBarrier
