import WriteBarrier.Memory.Bytes
/-!
Memory: one run of bytes at consecutive addresses.

A byte outside the run reads as zero and cannot be written.  A move loads all its bytes before it
stores the first one, so source and destination may overlap.
Main statements: a store changes exactly the held bytes of its range, and what was stored in a held
range is loaded from it.
-/

namespace WriteBarrier

/-- Memory that starts at an address. -/
structure Memory where
  start : Nat
  bytes : Array UInt8
  deriving DecidableEq, Repr

namespace Memory

/-- Memory of zero bytes. -/
def zeroed (start size : Nat) : Memory :=
  ⟨start, Array.replicate size 0⟩

/-- A range of addresses that lies in the memory. -/
def Holds (m : Memory) (address count : Nat) : Prop :=
  m.start ≤ address ∧ address + count ≤ m.start + m.bytes.size

instance (m : Memory) (address count : Nat) : Decidable (m.Holds address count) :=
  inferInstanceAs (Decidable (_ ∧ _))

def byte (m : Memory) (address : Nat) : UInt8 :=
  if m.start ≤ address then m.bytes.getD (address - m.start) 0 else 0

/-- The memory after a store of one byte. -/
def setByte (m : Memory) (address : Nat) (b : UInt8) : Memory :=
  if m.start ≤ address then
    ⟨m.start, m.bytes.setIfInBounds (address - m.start) b⟩
  else m

/-- The bytes of a range of addresses. -/
def load (m : Memory) (address count : Nat) : List UInt8 :=
  (List.range count).map fun k => m.byte (address + k)

/-- The memory after a store of bytes at consecutive addresses. -/
def store (m : Memory) (address : Nat) : List UInt8 → Memory
  | [] => m
  | b :: bs => (m.setByte address b).store (address + 1) bs

@[simp] theorem start_setByte (m : Memory) (address : Nat) (b : UInt8) :
    (m.setByte address b).start = m.start := by
  unfold setByte
  split <;> rfl

@[simp] theorem size_setByte (m : Memory) (address : Nat) (b : UInt8) :
    (m.setByte address b).bytes.size = m.bytes.size := by
  unfold setByte
  split
  · exact Array.size_setIfInBounds
  · rfl

/-- A byte store changes its own byte, if the memory holds it, and no other. -/
theorem byte_setByte (m : Memory) (address : Nat) (b : UInt8) (x : Nat) :
    (m.setByte address b).byte x = if x = address ∧ m.Holds x 1 then b else m.byte x := by
  unfold setByte byte Holds
  split
  · next hle =>
    dsimp only
    split
    · next hx =>
      rw [Array.getD_eq_getD_getElem?, Array.getD_eq_getD_getElem?, Array.getElem?_setIfInBounds]
      by_cases heq : x = address
      · subst heq
        by_cases hin : x - m.start < m.bytes.size
        · rw [if_pos rfl, if_pos hin, if_pos ⟨rfl, hx, by omega⟩]
          rfl
        · rw [if_pos rfl, if_neg hin, if_neg (by omega), Array.getElem?_eq_none (by omega)]
      · rw [if_neg (by omega), if_neg (fun h => heq h.1)]
    · next hx =>
      rw [if_neg (fun h => hx h.2.1)]
  · next hle =>
    have hout : ¬(x = address ∧ m.start ≤ x ∧ x + 1 ≤ m.start + m.bytes.size) := by omega
    rw [if_neg hout]

@[simp] theorem start_store (m : Memory) (address : Nat) (bs : List UInt8) :
    (m.store address bs).start = m.start := by
  induction bs generalizing m address with
  | nil => rfl
  | cons b bs ih => rw [store, ih, start_setByte]

@[simp] theorem size_store (m : Memory) (address : Nat) (bs : List UInt8) :
    (m.store address bs).bytes.size = m.bytes.size := by
  induction bs generalizing m address with
  | nil => rfl
  | cons b bs ih => rw [store, ih, size_setByte]

/-- A store keeps the addresses that the memory holds. -/
theorem holds_store_iff {m : Memory} {address : Nat} {bs : List UInt8} {x count : Nat} :
    (m.store address bs).Holds x count ↔ m.Holds x count := by
  simp [Holds]

/-- A store changes the held bytes of its range and no others. -/
theorem byte_store (m : Memory) (address : Nat) (bs : List UInt8) (x : Nat) :
    (m.store address bs).byte x =
      if address ≤ x ∧ m.Holds x 1 then bs.getD (x - address) (m.byte x) else m.byte x := by
  induction bs generalizing m address with
  | nil => simp [store]
  | cons b bs ih =>
    have hheld : (m.setByte address b).Holds x 1 ↔ m.Holds x 1 := by simp [Holds]
    simp only [store, ih, byte_setByte, hheld]
    by_cases hin : m.Holds x 1
    · rcases Nat.lt_trichotomy x address with hlt | heq | hgt
      · simp [show ¬address + 1 ≤ x by omega, show ¬address ≤ x by omega,
          show x ≠ address by omega]
      · subst heq
        simp [hin, show ¬x + 1 ≤ x by omega]
      · have hidx : x - address = (x - (address + 1)) + 1 := by omega
        simp [show address + 1 ≤ x by omega, show address ≤ x by omega, hin, hidx,
          show x ≠ address by omega]
    · simp [hin]

@[simp] theorem length_load (m : Memory) (address count : Nat) :
    (m.load address count).length = count := by
  simp [load]

/-- What was stored in a held range is loaded from it. -/
theorem load_store_self {m : Memory} {address : Nat} {bs : List UInt8}
    (h : m.Holds address bs.length) : (m.store address bs).load address bs.length = bs := by
  apply List.ext_getElem (length_load ..)
  intro i hi hlt
  have hheld : m.Holds (address + i) 1 := by
    unfold Holds at h ⊢
    omega
  simp [load, byte_store, hheld, hlt]

def word (m : Memory) (address : Nat) : UInt64 :=
  Bytes.toWord (m.load address 8)

/-- The memory after a store of one word. -/
def setWord (m : Memory) (address : Nat) (w : UInt64) : Memory :=
  m.store address (Bytes.ofWord w)

/-- A stored word is read back. -/
theorem word_setWord_self {m : Memory} {address : Nat} (h : m.Holds address 8) (w : UInt64) :
    (m.setWord address w).word address = w := by
  have hload : (m.store address (Bytes.ofWord w)).load address (Bytes.ofWord w).length =
      Bytes.ofWord w := load_store_self (by rwa [Bytes.length_ofWord])
  rw [Bytes.length_ofWord] at hload
  rw [word, setWord, hload, Bytes.toWord_ofWord]

/-- The words at consecutive slots. -/
def words (m : Memory) (address count : Nat) : List UInt64 :=
  (List.range count).map fun k => m.word (address + 8 * k)

/-- The memory after a store of words at consecutive slots. -/
def setWords (m : Memory) (address : Nat) : List UInt64 → Memory
  | [] => m
  | w :: ws => (m.setWord address w).setWords (address + 8) ws

/-- The memory after a move of bytes. -/
def move (m : Memory) (target source count : Nat) : Memory :=
  m.store target (m.load source count)

/-- The memory after a range was filled with zero bytes. -/
def zero (m : Memory) (target count : Nat) : Memory :=
  m.store target (List.replicate count 0)

end Memory

end WriteBarrier
