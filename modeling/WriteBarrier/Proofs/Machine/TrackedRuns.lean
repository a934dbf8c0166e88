import WriteBarrier.Proofs.Machine.ArrayStore
import WriteBarrier.Proofs.Machine.StorageRuns
/-!
Runs of operations on tracked pointers.

Main statement: each operation is refused by its lengths and changes nothing, or it reports nothing
and succeeds, or it stores pointers into the front of a destination and then reports the whole
destination to its manager, once.  Which of these it is does not hang on memory, so the operations
alone tell what a run reports.
-/

namespace WriteBarrier

namespace Machine

variable {s : Machine} {manager : Manager} {c : TrackedCommand} {dest count : UInt64}

/-- What an operation answers whose report came to the result. -/
def answering (answer : Answer) (result : Machine × Except Fault Unit) :
    Machine × Outcome Answer :=
  (result.1, Outcome.ofChecked (result.2.map fun _ => answer))

theorem absorb_answering (hnotifies : s.build = .notifying) (m : Memory) (n : Notification)
    (answer : Answer) :
    s.absorb ⟨m, [n], .ok answer⟩ = answering answer ({ s with memory := m }.deliver n) := by
  simp only [absorb, notifyAll, notify_of_notifying (s := { s with memory := m }) hnotifies]
  generalize Machine.deliver { s with memory := m } n = result
  obtain ⟨s', f | _⟩ := result
  · rfl
  · rfl

/-- What an operation on tracked pointers does to a state of a build that notifies. -/
structure TrackedStep (s : Machine) (manager : Manager) (c : TrackedCommand) : Prop where
  /-- An operation that is refused changes nothing at all and tells nobody. -/
  refused : ∀ f, c.refusal? = some f →
    s.step (.storage (.tracked manager c)) = (s, .error f) ∧
      s.notifications (.storage (.tracked manager c)) = []
  /-- An operation without a destination succeeds, changes memory at most, and tells nobody. -/
  silent : c.destination? = none → ∃ m answer,
    s.step (.storage (.tracked manager c)) = ({ s with memory := m }, .ok answer) ∧
      s.notifications (.storage (.tracked manager c)) = []
  /-- Any other operation stores its pointers first, then tells its manager of the destination, and
  answers if that is done.  All bytes outside the destination are as they were, and so are the slots
  of it that the pointers do not reach. -/
  reported : ∀ dest count, c.refusal? = none → c.destination? = some (dest, count) →
    8 * count.toNat < 2 ^ 64 → ∃ m,
      s.step (.storage (.tracked manager c)) = answering (c.storeAnswer s.memory)
        ({ s with memory := m }.deliver ⟨manager, dest, UInt64.ofNat (8 * count.toNat)⟩) ∧
      s.notifications (.storage (.tracked manager c)) =
        [⟨manager, dest, UInt64.ofNat (8 * count.toNat)⟩] ∧
      (s.step (.storage (.tracked manager c))).1.memory = m ∧
      m = s.memory.setWords dest.toNat (c.pointers s.memory) ∧
      s.memory.Written m dest.toNat (8 * count.toNat) ∧
      ∀ k, (c.pointers s.memory).length ≤ k →
        m.word (dest.toNat + 8 * k) = s.memory.word (dest.toNat + 8 * k)
  /-- An array whose bytes are more than a word counts is stored into and not reported. -/
  overlong : ∀ dest count, c.refusal? = none → c.destination? = some (dest, count) →
    2 ^ 64 ≤ 8 * count.toNat → ∃ m,
      s.step (.storage (.tracked manager c)) =
        ({ s with memory := m }, .error (.fault .mulOverflow)) ∧
      s.notifications (.storage (.tracked manager c)) = []

theorem notifications_tracked (hnotifies : s.build = .notifying) (manager : Manager)
    (c : TrackedCommand) :
    s.notifications (.storage (.tracked manager c)) = (c.report? manager).toList := by
  rw [notifications, heard_of_notifying hnotifies]
  exact TrackedCommand.notifications_perform manager s.memory c

theorem ofArray_overlong (manager : Manager) (dest : UInt64) (h : 2 ^ 64 ≤ 8 * count.toNat) :
    Notification.ofArray manager dest pointerSize count = .error .mulOverflow := by
  have hproduct : checkedMul pointerSize count = .error .mulOverflow :=
    if_neg (Nat.not_lt.mpr h)
  rw [Notification.ofArray, hproduct]

theorem trackedStep_of_notifying (hnotifies : s.build = .notifying) (manager : Manager)
    (c : TrackedCommand) : s.TrackedStep manager c := by
  have htold := notifications_tracked hnotifies manager c
  refine ⟨?_, ?_, ?_, ?_⟩
  · intro f hrefusal
    rw [htold, TrackedCommand.report?_of_refusal hrefusal, step, StorageCommand.perform,
      TrackedCommand.perform_of_refusal hrefusal]
    exact ⟨rfl, rfl⟩
  · intro hdest
    obtain ⟨after, answer, hperform⟩ :=
      TrackedCommand.perform_of_destination_none hdest manager s.memory
    rw [htold, TrackedCommand.report?_of_destination_none hdest, step, StorageCommand.perform,
      hperform]
    exact ⟨after, answer, rfl, rfl⟩
  · intro dest count hfits hdest hspace
    have hwritten := s.memory.written_setWords dest.toNat (c.pointers s.memory)
    have hlength := TrackedCommand.length_pointers_le hfits hdest s.memory
    have harray := Tracked.ofArray_eq manager dest hspace
    have hperform := TrackedCommand.perform_of_destination hfits hdest manager s.memory
    have hmemory := (s.step_storage_frame (.tracked manager c)).2
    rw [harray] at hperform
    rw [StorageCommand.perform, hperform] at hmemory
    refine ⟨_, ?_, ?_, hmemory, rfl, hwritten.mono (by omega), ?_⟩
    · rw [step, StorageCommand.perform, hperform]
      exact absorb_answering hnotifies _ _ _
    · rw [htold, TrackedCommand.report?_of_destination hfits hdest, harray]
      rfl
    · intro k hk
      exact hwritten.word_eq (Or.inr (by omega))
  · intro dest count hfits hdest hspace
    have harray := ofArray_overlong manager dest hspace
    rw [htold, TrackedCommand.report?_of_destination hfits hdest, step, StorageCommand.perform,
      TrackedCommand.perform_of_destination hfits hdest, harray]
    exact ⟨_, rfl, rfl⟩

/-! ### Runs -/

/-- The operations, each on the slots of its manager. -/
def onSlots (ops : List (Manager × TrackedCommand)) : List Command :=
  ops.map fun op => .storage (.tracked op.1 op.2)

/-- The reports of the operations, each to its own manager. -/
def slotsReported (ops : List (Manager × TrackedCommand)) : List Notification :=
  ops.filterMap fun op => op.2.report? op.1

/-- The induction is on the run, of which no operation changes the build. -/
theorem told_tracked (hnotifies : s.build = .notifying) (ops : List (Manager × TrackedCommand)) :
    s.told (onSlots ops) = slotsReported ops := by
  induction ops generalizing s with
  | nil => rfl
  | cons op rest ih =>
    have hbuild := (s.step_storage_frame (.tracked op.1 op.2)).1.trans hnotifies
    rw [onSlots, List.map_cons, told, notifications_tracked hnotifies, ← onSlots, ih hbuild]
    cases hreport : op.2.report? op.1 <;> simp [slotsReported, hreport]

/-- In a build that notifies, the operations of a run tell what it reports, whatever memory holds:
one range for each operation that has a destination and is not refused, in order and to its own
manager.  The run comes to its stores and these reports, of which declared managers are told in that
order; and each operation of it stores before it reports, changes nothing outside its range, and
changes nothing at all where it is refused. -/
theorem run_tracked (hnotifies : s.build = .notifying) (ops : List (Manager × TrackedCommand)) :
    s.told (onSlots ops) = slotsReported ops ∧
      (s.run (onSlots ops)).1 = ({ s with memory := (s.run (onSlots ops)).1.memory }.run
        ((slotsReported ops).map .deliver)).1 ∧
      (s.run (onSlots ops)).1.calls =
        s.calls ++ (slotsReported ops).filter (·.manager.isDeclared) ∧
      ∀ before op after, ops = before ++ op :: after →
        (s.run (onSlots before)).1.TrackedStep op.1 op.2 := by
  have hcommands : ∀ ops, onSlots ops =
      (ops.map fun op => StorageCommand.tracked op.1 op.2).map .storage := by
    intro ops
    rw [onSlots, List.map_map]
    rfl
  have htold := told_tracked hnotifies ops
  have hrun : (s.run (onSlots ops)).1 = ({ s with memory := (s.run (onSlots ops)).1.memory }.run
      ((slotsReported ops).map .deliver)).1 := by
    rw [← htold, hcommands, (s.run_storage_frame _).2]
    exact s.run_storage_eq _
  refine ⟨htold, hrun, ?_, ?_⟩
  · rw [hrun, calls_run_deliver]
  · intro before op after _
    have hbuild : (s.run (onSlots before)).1.build = s.build := by
      rw [hcommands]
      exact (s.run_storage_frame _).1
    exact trackedStep_of_notifying (hbuild.trans hnotifies) op.1 op.2

namespace Overlap

/-- Stores of one slot and of several for two managers, a move that has no room and a copy that is
too long among them. -/
def slotStores : List (Manager × TrackedCommand) :=
  [(recorder, .set 0x1028 7), (recorder, .assign 0x1030 0x1028 .cardTable),
    (.cardTable, .copyFromRaw 0x1000 4 [1, 2]), (recorder, .moveWithin 0x1028 6 0 5 2),
    (recorder, .copyArrayFromRaw 0x1000 1 [1, 2]), (recorder, .clearSlice 0x1028 2),
    (recorder, .moveWithin 0x1028 6 0 5 1)]

end Overlap

theorem run_overlap_slotStores :
    Overlap.holding.build = .notifying ∧
      Overlap.holding.told (onSlots Overlap.slotStores) =
        [⟨Overlap.recorder, 0x1028, 8⟩, ⟨Overlap.recorder, 0x1030, 8⟩, ⟨.cardTable, 0x1000, 32⟩,
          ⟨Overlap.recorder, 0x1030, 40⟩] ∧
      (Overlap.holding.run (onSlots Overlap.slotStores)).1.calls =
        [⟨Overlap.recorder, 0x1028, 8⟩, ⟨Overlap.recorder, 0x1030, 8⟩,
          ⟨Overlap.recorder, 0x1030, 40⟩] ∧
      (Overlap.holding.run (onSlots (Overlap.slotStores.take 3))).1.step
          (.storage (.tracked Overlap.recorder (.moveWithin 0x1028 6 0 5 2))) =
        ((Overlap.holding.run (onSlots (Overlap.slotStores.take 3))).1,
          .error (.error (.rangeOutOfBounds 2 7 6))) ∧
      ∃ m, (Overlap.holding.run (onSlots (Overlap.slotStores.take 2))).1.memory.Written m 0x1000 32 ∧
        ((Overlap.holding.run (onSlots (Overlap.slotStores.take 2))).1.step
          (.storage (.tracked .cardTable (.copyFromRaw 0x1000 4 [1, 2])))).1.memory = m := by
  have hnotifies : Overlap.holding.build = .notifying := rfl
  obtain ⟨htold, _, hcalls, hsteps⟩ := run_tracked hnotifies Overlap.slotStores
  refine ⟨hnotifies, htold.trans (by decide), hcalls.trans (by decide), ?_, ?_⟩
  · exact ((hsteps (Overlap.slotStores.take 3) _ _ rfl).refused _ rfl).1
  · obtain ⟨m, _, _, hmemory, _, hwritten, _⟩ :=
      (hsteps (Overlap.slotStores.take 2) _ _ rfl).reported 0x1000 4 rfl rfl (by decide)
    exact ⟨m, hwritten, hmemory⟩

end Machine

end WriteBarrier
