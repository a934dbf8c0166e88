import WriteBarrier.Proofs.Machine.ArrayStore
import WriteBarrier.Proofs.Memory.Moving
import WriteBarrier.Proofs.Storage.TrackedReports
/-!
Moves inside a slice of tracked pointers.

Main statement: a range moves inside its slice exactly where the range lies in the slice and the slice
has room for it.  Then all pointers move at once, nothing else changes and their manager is told of
the destination once; otherwise nothing happens, and the answer names the range that does not fit.
-/

namespace WriteBarrier

namespace Tracked

variable {length start stop dest : UInt64}

/-- A range that fits is moved as the bytes of its slots, and the slots of the destination are
reported. -/
theorem moveWithin_of_room (manager : Manager) (m : Memory) {slice : UInt64}
    (hspace : slice.toNat + 8 * length.toNat < 2 ^ 64)
    (hrange : start.toNat ≤ stop.toNat ∧ stop.toNat ≤ length.toNat)
    (hroom : dest.toNat + (stop.toNat - start.toNat) ≤ length.toNat) :
    moveWithin manager m slice length start stop dest =
      ⟨m.move (slice.toNat + 8 * dest.toNat) (slice.toNat + 8 * start.toNat)
          (8 * (stop.toNat - start.toNat)),
        [⟨manager, UInt64.ofNat (slice.toNat + 8 * dest.toNat),
          UInt64.ofNat (8 * (stop.toNat - start.toNat))⟩], .ok .nothing⟩ := by
  have hcount : (stop - start).toNat = stop.toNat - start.toNat := toNat_sub_of_le hrange.1
  have hdest : (slotAt slice dest).toNat = slice.toNat + 8 * dest.toNat := toNat_slotAt (by omega)
  have hstart : (slotAt slice start).toNat = slice.toNat + 8 * start.toNat :=
    toNat_slotAt (by omega)
  rw [moveWithin, moveCount_of_room hrange hroom]
  dsimp only
  rw [moveArray, writtenArray_eq manager _ _ (by omega), slotBytes, hcount, hdest, hstart, ← hdest,
    UInt64.ofNat_toNat]

/-- A move is carried out exactly where it fits; it is refused anywhere else, and never stops half
way. -/
theorem outcome_moveWithin (manager : Manager) (m : Memory) {slice : UInt64}
    (hspace : slice.toNat + 8 * length.toNat < 2 ^ 64) :
    (∀ fault, (moveWithin manager m slice length start stop dest).outcome ≠
      .error (.fault fault)) ∧
    ((moveWithin manager m slice length start stop dest).outcome = .ok .nothing ↔
      (start.toNat ≤ stop.toNat ∧ stop.toNat ≤ length.toNat) ∧
        dest.toNat + (stop.toNat - start.toNat) ≤ length.toNat) := by
  by_cases hrange : start.toNat ≤ stop.toNat ∧ stop.toNat ≤ length.toNat
  · by_cases hroom : dest.toNat + (stop.toNat - start.toNat) ≤ length.toNat
    · rw [moveWithin_of_room manager m hspace hrange hroom]
      simp [hrange, hroom]
    · rw [moveWithin, moveCount_of_no_room hrange (Nat.not_le.mp hroom)]
      simp [Effect.failed, hroom]
  · rw [moveWithin, moveCount_of_not_inside hrange]
    simp [Effect.failed, hrange]

end Tracked

namespace Machine

open Bulk

/-- A move inside a slice, whose three positions may be any words, is refused exactly where the range
does not lie in the slice, which the answer says first, or the slice has no room for it; then nothing
happens.  Else each slot of the destination holds the pointer that the slot of the source held
before, all other bytes are as they were, and the manager is told once of the destination, which may
be empty.  No move stops half way.  A raw move assigns its bytes as simultaneously and tells
nobody. -/
theorem step_moveWithin_exact (s : Machine) :
    (∀ (manager : Manager) (slice length start stop dest : UInt64),
      s.memory.Writable slice.toNat (8 * length.toNat) →
      slice.toNat + 8 * length.toNat < 2 ^ 64 →
      (¬(start.toNat ≤ stop.toNat ∧ stop.toNat ≤ length.toNat) →
        s.step (.storage (.tracked manager (.moveWithin slice length start stop dest))) =
          (s, .error (.error (.rangeOutOfBounds start stop length)))) ∧
      (start.toNat ≤ stop.toNat ∧ stop.toNat ≤ length.toNat →
        length.toNat < dest.toNat + (stop.toNat - start.toNat) →
        s.step (.storage (.tracked manager (.moveWithin slice length start stop dest))) =
          (s, .error (.error (.rangeOutOfBounds dest
            (UInt64.ofNat (min (dest.toNat + (stop.toNat - start.toNat)) (2 ^ 64 - 1)))
            length)))) ∧
      (start.toNat ≤ stop.toNat ∧ stop.toNat ≤ length.toNat →
        dest.toNat + (stop.toNat - start.toNat) ≤ length.toNat → ∃ m,
        s.memory.Moved m (slice.toNat + 8 * dest.toNat) (slice.toNat + 8 * start.toNat)
          (8 * (stop.toNat - start.toNat)) ∧
        (∀ k < stop.toNat - start.toNat,
          m.word (slice.toNat + 8 * (dest.toNat + k)) =
            s.memory.word (slice.toNat + 8 * (start.toNat + k))) ∧
        s.step (.storage (.tracked manager (.moveWithin slice length start stop dest))) =
          notified ({ s with memory := m }.notify
            ⟨manager, UInt64.ofNat (slice.toNat + 8 * dest.toNat),
              UInt64.ofNat (8 * (stop.toNat - start.toNat))⟩)) ∧
      (s.CardsFit →
        (∀ fault, (s.step (.storage (.tracked manager
          (.moveWithin slice length start stop dest)))).2 ≠ .error (.fault fault)) ∧
        ((s.step (.storage (.tracked manager
          (.moveWithin slice length start stop dest)))).2 = .ok .nothing ↔
            (start.toNat ≤ stop.toNat ∧ stop.toNat ≤ length.toNat) ∧
              dest.toNat + (stop.toNat - start.toNat) ≤ length.toNat))) ∧
    ∀ (element : Element) (target source count : UInt64),
      s.memory.Writable target.toNat (elementBytes element count) → ∃ m,
      s.memory.Moved m target.toNat source.toNat (elementBytes element count) ∧
      s.step (.storage (.memory (.move element target source count))) =
        ({ s with memory := m }, .ok .nothing) := by
  constructor
  · intro manager slice length start stop dest hheld hspace
    simp only [step, StorageCommand.perform, TrackedCommand.perform]
    refine ⟨?_, ?_, ?_, fun hfit => ?_⟩
    · intro hrange
      rw [Tracked.moveWithin, Tracked.moveCount_of_not_inside hrange]
      rfl
    · intro hrange hroom
      rw [Tracked.moveWithin, Tracked.moveCount_of_no_room hrange hroom]
      rfl
    · intro hrange hroom
      have htarget : s.memory.Writable (slice.toNat + 8 * dest.toNat)
          (8 * (stop.toNat - start.toNat)) := hheld.part (by omega)
      have hmoved := Memory.moved_move (slice.toNat + 8 * start.toNat) htarget
      rw [Tracked.moveWithin_of_room manager s.memory hspace hrange hroom, absorb_singleton]
      refine ⟨_, hmoved, ?_, rfl⟩
      intro k hk
      have hword := hmoved.word_eq (k := k) (by omega)
      rwa [Nat.add_assoc, ← Nat.mul_add, Nat.add_assoc, ← Nat.mul_add] at hword
    · obtain ⟨s', habsorb, _⟩ := absorb_notified
        (Tracked.moveWithin manager s.memory slice length start stop dest) hfit
      rw [habsorb]
      exact Tracked.outcome_moveWithin manager s.memory hspace
  · intro element target source count hheld
    exact ⟨_, Memory.moved_move source.toNat hheld, rfl⟩

/-- Five pointers move one slot up over themselves; a range that passes the largest word is refused
with its end cut off; and an empty range is still told of. -/
theorem step_moveWithin_overlap :
    (∃ m, (∀ k < 5, m.word (0x1028 + 8 * (1 + k)) =
        Overlap.holding.memory.word (0x1028 + 8 * (0 + k))) ∧
      Overlap.holding.step (.storage (.tracked Overlap.recorder (.moveWithin 0x1028 6 0 5 1))) =
        ({ Overlap.holding with memory := m, calls := [⟨Overlap.recorder, 0x1030, 40⟩] },
          .ok .nothing)) ∧
      Overlap.holding.step (.storage (.tracked Overlap.recorder
          (.moveWithin 0x1028 6 1 4 0xFFFFFFFFFFFFFFFE))) =
        (Overlap.holding, .error (.error
          (.rangeOutOfBounds 0xFFFFFFFFFFFFFFFE 0xFFFFFFFFFFFFFFFF 6))) ∧
      ∃ m, Overlap.holding.memory.Moved m 0x1058 0x1038 0 ∧
        Overlap.holding.step (.storage (.tracked Overlap.recorder (.moveWithin 0x1028 6 2 2 6))) =
          ({ Overlap.holding with memory := m, calls := [⟨Overlap.recorder, 0x1058, 0⟩] },
            .ok .nothing) := by
  have hmoves := fun start stop dest => (step_moveWithin_exact Overlap.holding).1 Overlap.recorder
    0x1028 6 start stop dest (by decide +kernel) (by decide)
  refine ⟨?_, ?_, ?_⟩
  · obtain ⟨m, _, hwords, hstep⟩ := (hmoves 0 5 1).2.2.1 (by decide) (by decide)
    exact ⟨m, hwords, hstep⟩
  · exact (hmoves 1 4 0xFFFFFFFFFFFFFFFE).2.1 (by decide) (by decide)
  · obtain ⟨m, hmoved, _, hstep⟩ := (hmoves 2 2 6).2.2.1 (by decide) (by decide)
    exact ⟨m, hmoved, hstep⟩

end Machine

end WriteBarrier
