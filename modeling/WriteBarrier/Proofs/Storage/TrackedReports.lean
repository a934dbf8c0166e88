import WriteBarrier.Proofs.Storage.ArrayStore
/-!
What each operation on tracked pointers stores, reports and refuses.

Main statement: an operation is refused by its lengths and changes nothing; or it reports nothing
and succeeds; or it stores pointers into the front of a destination and reports the whole of it.
Which of these it is does not hang on memory.
-/

namespace WriteBarrier

namespace Tracked

variable {length start stop dest : UInt64}

theorem moveCount_of_not_inside
    (hrange : ¬(start.toNat ≤ stop.toNat ∧ stop.toNat ≤ length.toNat)) :
    moveCount length start stop dest = .error (.error (.rangeOutOfBounds start stop length)) := by
  rw [← UInt64.le_iff_toNat_le, ← UInt64.le_iff_toNat_le] at hrange
  exact if_neg hrange

/-- A destination without room is named with the end that the range would have there, cut off at the
largest word. -/
theorem moveCount_of_no_room (hrange : start.toNat ≤ stop.toNat ∧ stop.toNat ≤ length.toNat)
    (hroom : length.toNat < dest.toNat + (stop.toNat - start.toNat)) :
    moveCount length start stop dest = .error (.error (.rangeOutOfBounds dest
      (UInt64.ofNat (min (dest.toNat + (stop.toNat - start.toNat)) (2 ^ 64 - 1))) length)) := by
  have hend : UInt64.ofNat (min (dest.toNat + (stop.toNat - start.toNat)) (2 ^ 64 - 1)) =
      saturatingAdd dest (stop - start) := by
    rw [← toNat_sub_of_le hrange.1]
    exact (congrArg UInt64.ofNat (toNat_saturatingAdd ..)).symm.trans UInt64.ofNat_toNat
  rw [hend]
  unfold moveCount
  rw [if_pos (by rwa [UInt64.le_iff_toNat_le, UInt64.le_iff_toNat_le]),
    checkedSub_of_le hrange.1]
  split
  · next hdest =>
    rw [UInt64.le_iff_toNat_le] at hdest
    have hcount : ¬stop - start ≤ length - dest := by
      rw [UInt64.le_iff_toNat_le, toNat_sub_of_le hrange.1, toNat_sub_of_le hdest]
      omega
    rw [checkedSub_of_le hdest]
    exact if_neg hcount
  · rfl

theorem moveCount_of_room (hrange : start.toNat ≤ stop.toNat ∧ stop.toNat ≤ length.toNat)
    (hroom : dest.toNat + (stop.toNat - start.toNat) ≤ length.toNat) :
    moveCount length start stop dest = .ok (stop - start) := by
  rw [moveCount_eq_ok_iff, toNat_sub_of_le hrange.1]
  omega

end Tracked

namespace TrackedCommand

open Tracked

variable {m : Memory} {manager : Manager} {c : TrackedCommand} {dest count : UInt64} {f : Failure}

/-- The failure of an operation whose lengths do not fit together. -/
def refusal? : TrackedCommand → Option Failure
  | moveWithin _ length start stop dest =>
      if start.toNat ≤ stop.toNat ∧ stop.toNat ≤ length.toNat then
        if dest.toNat + (stop.toNat - start.toNat) ≤ length.toNat then none
        else some (.error (.rangeOutOfBounds dest
          (UInt64.ofNat (min (dest.toNat + (stop.toNat - start.toNat)) (2 ^ 64 - 1))) length))
      else some (.error (.rangeOutOfBounds start stop length))
  | copyFromRaw _ length source =>
      if source.length ≤ length.toNat then none
      else some (.error (.lengthMismatch length (UInt64.ofNat source.length)))
  | copyFromTracked _ length _ sourceLength =>
      if sourceLength ≤ length then none else some (.error (.lengthMismatch length sourceLength))
  | copyArrayFromRaw _ destCount source =>
      if source.length ≤ destCount.toNat then none
      else some (.fault (.copyTooLong (UInt64.ofNat source.length) destCount))
  | copyArray _ destCount _ sourceCount =>
      if sourceCount ≤ destCount then none else some (.fault (.copyTooLong sourceCount destCount))
  | null _ | build .. | set .. | setUnbarriered .. | replace .. | assign .. | read _ | target _
  | equals .. | equalsRaw .. | clearSlice .. | moveArray .. | clearArray .. => none

/-- The slots that an operation reports unless it is refused: where they start, and their number. -/
def destination? : TrackedCommand → Option (UInt64 × UInt64)
  | set slot _ | replace slot _ | assign slot _ _ => some (slot, 1)
  | moveWithin slice _ start stop dest => some (slotAt slice dest, stop - start)
  | moveArray dest _ count => some (dest, count)
  | copyFromRaw slice length _ | copyFromTracked slice length _ _ => some (slice, length)
  | copyArrayFromRaw dest destCount _ | copyArray dest destCount _ _ => some (dest, destCount)
  | null _ | build .. | setUnbarriered .. | read _ | target _ | equals .. | equalsRaw ..
  | clearSlice .. | clearArray .. => none

/-- The pointers that an operation stores into its destination, from the first slot on. -/
def pointers (m : Memory) : TrackedCommand → List UInt64
  | set _ pointer | replace _ pointer => [pointer]
  | assign _ source _ => [m.word source.toNat]
  | moveWithin slice _ start stop _ => m.words (slotAt slice start).toNat (stop - start).toNat
  | moveArray _ source count => m.words source.toNat count.toNat
  | copyFromRaw _ _ source | copyArrayFromRaw _ _ source => source
  | copyFromTracked _ _ source count | copyArray _ _ source count =>
      m.words source.toNat count.toNat
  | null _ | build .. | setUnbarriered .. | read _ | target _ | equals .. | equalsRaw ..
  | clearSlice .. | clearArray .. => []

/-- What an operation with a destination answers. -/
def storeAnswer (m : Memory) : TrackedCommand → Answer
  | replace slot _ => .word (m.word slot.toNat)
  | _ => .nothing

/-- The report of an operation, if it is not refused and its length in bytes is a word. -/
def report? (manager : Manager) (c : TrackedCommand) : Option Notification :=
  match c.refusal?, c.destination? with
  | none, some (dest, count) => (Notification.ofArray manager dest pointerSize count).toOption
  | _, _ => none

theorem perform_of_refusal (h : c.refusal? = some f) (manager : Manager) (m : Memory) :
    c.perform manager m = .failed m f := by
  cases c with
  | null | build | set | setUnbarriered | replace | assign | read | target | equals | equalsRaw
  | clearSlice | moveArray | clearArray => cases h
  | moveWithin slice length start stop dest =>
    simp only [refusal?] at h
    split at h
    · next hrange =>
      obtain ⟨hroom, hfailure⟩ := Option.ite_none_left_eq_some.mp h
      obtain rfl := Option.some.inj hfailure
      rw [perform, Tracked.moveWithin, moveCount_of_no_room hrange (Nat.not_le.mp hroom)]
    · next hrange =>
      rw [perform, Tracked.moveWithin, moveCount_of_not_inside hrange, Option.some.inj h]
  | copyFromRaw | copyFromTracked | copyArrayFromRaw | copyArray =>
    obtain ⟨hlong, hfailure⟩ := Option.ite_none_left_eq_some.mp h
    obtain rfl := Option.some.inj hfailure
    exact if_neg hlong

theorem ite_none_eq_none {p : Prop} [Decidable p] {failure : Failure}
    (h : (if p then none else some failure) = none) : p := by
  by_contra hp
  rw [if_neg hp] at h
  cases h

theorem copyArray_of_le (manager : Manager) (m : Memory) (dest source : UInt64)
    {sourceCount : UInt64} (h : sourceCount ≤ count) :
    Tracked.copyArray manager m dest count source sourceCount =
      writtenArray manager (m.setWords dest.toNat (m.words source.toNat sourceCount.toNat)) dest
        count := by
  rw [Memory.setWords_words]
  exact if_pos h

/-- An operation with a destination that is not refused stores its pointers there and reports all
slots of it. -/
theorem perform_of_destination (hfits : c.refusal? = none)
    (hdest : c.destination? = some (dest, count)) (manager : Manager) (m : Memory) :
    c.perform manager m = .written (m.setWords dest.toNat (c.pointers m))
      ((Notification.ofArray manager dest pointerSize count).map fun n => [n])
      (c.storeAnswer m) := by
  cases c with
  | null | build | setUnbarriered | read | target | equals | equalsRaw | clearSlice | clearArray =>
    cases hdest
  | set | replace | assign =>
    cases hdest
    rfl
  | moveWithin slice length start stop dest =>
    cases hdest
    simp only [refusal?] at hfits
    split at hfits
    · next hrange =>
      rw [perform, Tracked.moveWithin, moveCount_of_room hrange (ite_none_eq_none hfits)]
      dsimp only [pointers, storeAnswer]
      rw [Memory.setWords_words]
      rfl
    · cases hfits
  | moveArray dest source count =>
    cases hdest
    rw [pointers, Memory.setWords_words]
    rfl
  | copyFromRaw slice length source =>
    cases hdest
    have hle := ite_none_eq_none hfits
    exact (if_pos hle).trans (if_pos hle)
  | copyFromTracked slice length source sourceLength =>
    cases hdest
    have hle := ite_none_eq_none hfits
    exact (if_pos hle).trans (copyArray_of_le manager m _ source hle)
  | copyArrayFromRaw dest destCount source =>
    cases hdest
    exact if_pos (ite_none_eq_none hfits)
  | copyArray dest destCount source sourceCount =>
    cases hdest
    exact copyArray_of_le manager m _ source (ite_none_eq_none hfits)

theorem perform_of_destination_none (h : c.destination? = none) (manager : Manager)
    (m : Memory) : ∃ after answer, c.perform manager m = .silent after answer := by
  cases c with
  | set | replace | assign | moveWithin | moveArray | copyFromRaw | copyFromTracked
  | copyArrayFromRaw | copyArray => cases h
  | null | build | setUnbarriered | read | target | equals | equalsRaw | clearSlice | clearArray =>
    exact ⟨_, _, rfl⟩

/-- The pointers fit into the destination. -/
theorem length_pointers_le (hfits : c.refusal? = none)
    (hdest : c.destination? = some (dest, count)) (m : Memory) :
    (c.pointers m).length ≤ count.toNat := by
  cases c with
  | null | build | setUnbarriered | read | target | equals | equalsRaw | clearSlice | clearArray =>
    cases hdest
  | set | replace | assign =>
    cases hdest
    exact Nat.le_refl 1
  | moveWithin | moveArray =>
    cases hdest
    exact Nat.le_of_eq (Memory.length_words ..)
  | copyFromRaw | copyArrayFromRaw =>
    cases hdest
    exact ite_none_eq_none hfits
  | copyFromTracked | copyArray =>
    cases hdest
    rw [pointers, Memory.length_words]
    exact UInt64.le_iff_toNat_le.mp (ite_none_eq_none hfits)

theorem report?_of_refusal (h : c.refusal? = some f) (manager : Manager) :
    c.report? manager = none := by
  rw [report?, h]

theorem report?_of_destination_none (h : c.destination? = none) (manager : Manager) :
    c.report? manager = none := by
  rw [report?, h]
  cases c.refusal? <;> rfl

theorem report?_of_destination (hfits : c.refusal? = none)
    (hdest : c.destination? = some (dest, count)) (manager : Manager) :
    c.report? manager = (Notification.ofArray manager dest pointerSize count).toOption := by
  rw [report?, hfits, hdest]

/-- The notifications of an operation are told by the operation alone. -/
theorem notifications_perform (manager : Manager) (m : Memory) (c : TrackedCommand) :
    (c.perform manager m).notifications = (c.report? manager).toList := by
  cases hrefusal : c.refusal? with
  | some f =>
    rw [perform_of_refusal hrefusal, report?_of_refusal hrefusal]
    rfl
  | none =>
    cases hdest : c.destination? with
    | none =>
      obtain ⟨after, answer, hperform⟩ := perform_of_destination_none hdest manager m
      rw [hperform, report?_of_destination_none hdest]
      rfl
    | some d =>
      rw [perform_of_destination hrefusal hdest, report?_of_destination hrefusal hdest]
      cases Notification.ofArray manager d.1 pointerSize d.2 <;> rfl

end TrackedCommand

end WriteBarrier
