import WriteBarrier.Memory.Basic
/-!
Words as the unit of stores.

Main statement: storing the words of a range one after the other at another place moves the bytes of
the range, even where the two ranges overlap.
-/

namespace WriteBarrier

namespace Memory

theorem store_append (m : Memory) (address : Nat) (first rest : List UInt8) :
    m.store address (first ++ rest) = (m.store address first).store (address + first.length) rest := by
  induction first generalizing m address with
  | nil => rfl
  | cons b bs ih =>
    rw [List.cons_append, store, ih, store, List.length_cons, Nat.add_assoc, Nat.add_comm 1]

/-- Words are stored as their bytes. -/
theorem setWords_eq_store (m : Memory) (address : Nat) (ws : List UInt64) :
    m.setWords address ws = m.store address (ws.flatMap Bytes.ofWord) := by
  induction ws generalizing m address with
  | nil => rfl
  | cons w ws ih =>
    rw [setWords, ih, setWord, List.flatMap_cons, store_append, Bytes.length_ofWord]

theorem load_add (m : Memory) (address first rest : Nat) :
    m.load address (first + rest) = m.load address first ++ m.load (address + first) rest := by
  simp only [load, List.range_add, List.map_append, List.map_map, Function.comp_def, Nat.add_assoc]

theorem length_words (m : Memory) (address count : Nat) :
    (m.words address count).length = count := by
  simp [words]

theorem ofWord_word (m : Memory) (address : Nat) : Bytes.ofWord (m.word address) = m.load address 8 :=
  Bytes.ofWord_toWord (length_load ..)

/-- The bytes of a range are those of its words. -/
theorem flatMap_words (m : Memory) (address count : Nat) :
    (m.words address count).flatMap Bytes.ofWord = m.load address (8 * count) := by
  induction count with
  | zero => rfl
  | succ count ih =>
    have hlast : m.words address (count + 1) =
        m.words address count ++ [m.word (address + 8 * count)] := by
      simp [words, List.range_succ]
    rw [hlast, List.flatMap_append, ih, List.flatMap_singleton, ofWord_word, Nat.mul_succ, load_add]

/-- A move stores the words that its source held before. -/
theorem setWords_words (m : Memory) (target source count : Nat) :
    m.setWords target (m.words source count) = m.move target source (8 * count) := by
  rw [setWords_eq_store, flatMap_words, move]

end Memory

end WriteBarrier
