import WriteBarrier.Memory.Basic
/-!
What the operations on memory leave alone.

Main statements: every store, move and fill keeps all bytes outside its own range, and so every word
that does not reach into the range; a fill makes the words inside its range zero.
-/

namespace WriteBarrier

namespace Memory

variable {m m' : Memory}

theorem holds_congr (hstart : m'.start = m.start) (hsize : m'.bytes.size = m.bytes.size)
    {address count : Nat} : m'.Holds address count ↔ m.Holds address count := by
  rw [Holds, Holds, hstart, hsize]

/-- `m'` is the memory after a write into `count` bytes from `address` on. -/
structure Written (m m' : Memory) (address count : Nat) : Prop where
  start_eq : m'.start = m.start
  size_eq : m'.bytes.size = m.bytes.size
  byte_eq : ∀ x, x < address ∨ address + count ≤ x → m'.byte x = m.byte x

theorem Written.refl (m : Memory) (address count : Nat) : Written m m address count :=
  ⟨rfl, rfl, fun _ _ => rfl⟩

/-- Two writes are one write into any range with both of theirs. -/
theorem Written.trans {after : Memory} {address count first rest firstCount restCount : Nat}
    (h : Written m m' first firstCount) (hrest : Written m' after rest restCount)
    (hfirst : address ≤ first ∧ first + firstCount ≤ address + count)
    (hlast : address ≤ rest ∧ rest + restCount ≤ address + count) :
    Written m after address count where
  start_eq := hrest.start_eq.trans h.start_eq
  size_eq := hrest.size_eq.trans h.size_eq
  byte_eq x hx := by
    rw [hrest.byte_eq x (by omega), h.byte_eq x (by omega)]

theorem written_store (m : Memory) (address : Nat) (bs : List UInt8) :
    Written m (m.store address bs) address bs.length where
  start_eq := start_store ..
  size_eq := size_store ..
  byte_eq x hx := by
    rw [byte_store]
    split
    · next hin =>
      rw [List.getD_eq_getElem?_getD, List.getElem?_eq_none (by omega), Option.getD_none]
    · rfl

theorem written_setWord (m : Memory) (address : Nat) (w : UInt64) :
    Written m (m.setWord address w) address 8 := by
  have h := written_store m address (Bytes.ofWord w)
  rwa [Bytes.length_ofWord] at h

theorem written_move (m : Memory) (target source count : Nat) :
    Written m (m.move target source count) target count := by
  have h := written_store m target (m.load source count)
  rwa [length_load] at h

theorem written_zero (m : Memory) (target count : Nat) :
    Written m (m.zero target count) target count := by
  have h := written_store m target (List.replicate count 0)
  rwa [List.length_replicate] at h

theorem written_setWords (m : Memory) (address : Nat) (ws : List UInt64) :
    Written m (m.setWords address ws) address (8 * ws.length) := by
  induction ws generalizing m address with
  | nil => exact .refl ..
  | cons w ws ih =>
    rw [setWords, List.length_cons]
    exact (written_setWord m address w).trans (ih _ _) (by omega) (by omega)

theorem Written.mono {address count more : Nat} (h : Written m m' address count)
    (hle : count ≤ more) : Written m m' address more :=
  h.trans (.refl m' address 0) (by omega) (by omega)

/-! ### Words -/

theorem load_congr {address count : Nat}
    (h : ∀ x, address ≤ x → x < address + count → m'.byte x = m.byte x) :
    m'.load address count = m.load address count := by
  apply List.map_congr_left
  intro k hk
  rw [List.mem_range] at hk
  exact h _ (by omega) (by omega)

/-- A word that does not reach into the range of a write is kept. -/
theorem Written.word_eq {address count slot : Nat} (h : Written m m' address count)
    (hslot : slot + 8 ≤ address ∨ address + count ≤ slot) : m'.word slot = m.word slot := by
  rw [word, word, load_congr]
  intro x hlo hhi
  exact h.byte_eq x (by omega)

theorem byte_zero {target count x : Nat} (hin : target ≤ x ∧ x < target + count)
    (hheld : m.Holds x 1) : (m.zero target count).byte x = 0 := by
  have hlt : x - target < count := by omega
  rw [zero, byte_store, if_pos ⟨hin.1, hheld⟩, List.getD_eq_getElem?_getD,
    List.getElem?_replicate_of_lt hlt]
  rfl

theorem word_zero {target count slot : Nat} (hin : target ≤ slot ∧ slot + 8 ≤ target + count)
    (hheld : m.Holds slot 8) : (m.zero target count).word slot = 0 := by
  have hload : (m.zero target count).load slot 8 = List.replicate 8 0 := by
    apply List.ext_getElem (by simp)
    intro k hk _
    rw [length_load] at hk
    simp only [load, List.getElem_map, List.getElem_range, List.getElem_replicate]
    apply byte_zero (by omega)
    unfold Holds at hheld ⊢
    omega
  rw [word, hload]
  rfl

end Memory

end WriteBarrier
