import WriteBarrier.Proofs.Memory.Frame
/-!
Moves of bytes as simultaneous assignments.

Main statement: a move leaves in its target what its source held before, however the two ranges
overlap, and changes no other byte; so a move of slots leaves in each slot the word of its source.
-/

namespace WriteBarrier

namespace Memory

variable {m m' : Memory} {target source count : Nat}

/-- A range that may be written: it lies in the memory, or it is empty and may stand anywhere. -/
def Writable (m : Memory) (address count : Nat) : Prop :=
  count = 0 ∨ m.Holds address count

instance (m : Memory) (address count : Nat) : Decidable (m.Writable address count) :=
  inferInstanceAs (Decidable (_ ∨ _))

/-- `m'` is the memory after bytes were moved, all at once: a write into the target, which then holds
what the source held before. -/
structure Moved (m m' : Memory) (target source count : Nat) : Prop extends
    Written m m' target count where
  byte_target : ∀ k < count, m'.byte (target + k) = m.byte (source + k)

/-- A part of a range that may be written may be written. -/
theorem Writable.part {address first part : Nat} (h : m.Writable address count)
    (hle : first + part ≤ count) : m.Writable (address + first) part := by
  rcases h with rfl | ⟨hlo, hhi⟩
  · exact Or.inl (by omega)
  · exact Or.inr ⟨by omega, by omega⟩

theorem Writable.mono {address part : Nat} (h : m.Writable address count) (hle : part ≤ count) :
    m.Writable address part :=
  @Writable.part m count address 0 part h (by omega)

theorem Writable.holds_byte {address k : Nat} (h : m.Writable address count) (hk : k < count) :
    m.Holds (address + k) 1 := by
  rcases h with rfl | ⟨hlo, hhi⟩
  · omega
  · exact ⟨by omega, by omega⟩

theorem moved_move (source : Nat) (h : m.Writable target count) :
    m.Moved (m.move target source count) target source count where
  toWritten := written_move ..
  byte_target k hk := by
    rw [move, byte_store, if_pos ⟨Nat.le_add_right .., h.holds_byte hk⟩, Nat.add_sub_cancel_left]
    simp [load, hk]

/-- A moved word is the one that the source held before. -/
theorem Moved.word_eq (h : m.Moved m' target source count) {k : Nat} (hk : 8 * k + 8 ≤ count) :
    m'.word (target + 8 * k) = m.word (source + 8 * k) := by
  have hload : m'.load (target + 8 * k) 8 = m.load (source + 8 * k) 8 := by
    apply List.map_congr_left
    intro i hi
    rw [List.mem_range] at hi
    rw [Nat.add_assoc, Nat.add_assoc]
    exact h.byte_target _ (by omega)
  rw [word, word, hload]

end Memory

end WriteBarrier
