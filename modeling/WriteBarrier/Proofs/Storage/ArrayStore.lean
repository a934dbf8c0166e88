import WriteBarrier.Proofs.Memory.Words
import WriteBarrier.Proofs.Storage.Reporting
/-!
Bulk stores into arrays of tracked pointers.

Main statement: a bulk store, whether its pointers are raw, read from another array or moved within
their slice, leaves them in consecutive slots of the destination and reports the destination once.
-/

namespace WriteBarrier

namespace Tracked

/-- An array whose length in bytes is a word is one range. -/
theorem ofArray_eq (manager : Manager) (dest : UInt64) {count : UInt64}
    (h : 8 * count.toNat < 2 ^ 64) :
    Notification.ofArray manager dest pointerSize count =
      .ok ⟨manager, dest, UInt64.ofNat (8 * count.toNat)⟩ := by
  have hsize : 8 * count = UInt64.ofNat (8 * count.toNat) := by
    rw [UInt64.ofNat_mul, UInt64.ofNat_toNat]
    rfl
  rw [Notification.ofArray_slots manager dest h, hsize]

/-- An array whose length in bytes is a word is reported as one range. -/
theorem writtenArray_eq (manager : Manager) (m : Memory) (dest : UInt64) {count : UInt64}
    (h : 8 * count.toNat < 2 ^ 64) :
    writtenArray manager m dest count =
      ⟨m, [⟨manager, dest, UInt64.ofNat (8 * count.toNat)⟩], .ok .nothing⟩ := by
  rw [writtenArray, ofArray_eq manager dest h]
  rfl

theorem moveArray_eq (manager : Manager) (m : Memory) (dest source : UInt64) {count : UInt64}
    (h : 8 * count.toNat < 2 ^ 64) :
    moveArray manager m dest source count =
      ⟨m.setWords dest.toNat (m.words source.toNat count.toNat),
        [⟨manager, dest, UInt64.ofNat (8 * count.toNat)⟩], .ok .nothing⟩ := by
  rw [Memory.setWords_words]
  exact writtenArray_eq manager _ dest h

end Tracked

namespace TrackedCommand

/-- The command stores the pointers into an array of as many slots.  Pointers that it reads from
memory are those that were there before. -/
inductive StoresArray (m : Memory) (array : UInt64) (pointers : List UInt64) :
    TrackedCommand → Prop where
  | raw {length : UInt64} (length_eq : length.toNat = pointers.length) :
      StoresArray m array pointers (.copyFromRaw array length pointers)
  | tracked {length source : UInt64} (length_eq : length.toNat = pointers.length)
      (read : m.words source.toNat pointers.length = pointers) :
      StoresArray m array pointers (.copyFromTracked array length source length)
  | moved {slice length start stop dest : UInt64}
      (range : start.toNat + pointers.length = stop.toNat ∧ stop.toNat ≤ length.toNat)
      (room : dest.toNat + pointers.length ≤ length.toNat)
      (dest_eq : Tracked.slotAt slice dest = array)
      (read : m.words (Tracked.slotAt slice start).toNat pointers.length = pointers) :
      StoresArray m array pointers (.moveWithin slice length start stop dest)

/-- A bulk store is its pointers in consecutive slots and one report of the whole array. -/
theorem StoresArray.perform_eq {m : Memory} {array : UInt64} {pointers : List UInt64}
    {c : TrackedCommand} (hc : c.StoresArray m array pointers)
    (hspace : 8 * pointers.length < 2 ^ 64) (manager : Manager) :
    c.perform manager m = ⟨m.setWords array.toNat pointers,
      [⟨manager, array, UInt64.ofNat (8 * pointers.length)⟩], .ok .nothing⟩ := by
  cases hc with
  | @raw length length_eq =>
    have hle : pointers.length ≤ length.toNat := Nat.le_of_eq length_eq.symm
    rw [← length_eq] at hspace ⊢
    rw [perform, if_pos hle, Tracked.copyArrayFromRaw, if_pos hle]
    exact Tracked.writtenArray_eq manager _ array hspace
  | @tracked length source length_eq read =>
    have hle : length ≤ length := UInt64.le_refl length
    rw [← length_eq] at hspace read ⊢
    rw [perform, if_pos hle, Tracked.copyArray, if_pos hle]
    -- a copy of all slots is a move of them
    have hmove := Tracked.moveArray_eq manager m array source hspace
    rwa [read] at hmove
  | @moved slice length start stop dest range room dest_eq read =>
    have hcount : (UInt64.ofNat pointers.length).toNat = pointers.length :=
      UInt64.toNat_ofNat_of_lt' (by change pointers.length < 2 ^ 64; omega)
    have hmove : Tracked.moveCount length start stop dest =
        .ok (UInt64.ofNat pointers.length) := by
      rw [Tracked.moveCount_eq_ok_iff, hcount]
      exact ⟨range, room⟩
    rw [perform, Tracked.moveWithin, hmove]
    dsimp only
    rw [Tracked.moveArray_eq manager m _ _ (by rwa [hcount]), hcount, read, dest_eq]

end TrackedCommand

end WriteBarrier
