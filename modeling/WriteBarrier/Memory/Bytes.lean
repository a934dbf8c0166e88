/-!
Words as bytes, the least significant byte first.
Main statements: a word is read back from its eight bytes, and eight bytes are those of the word
that is read from them.
-/

namespace WriteBarrier.Bytes

/-- The `count` low bytes of a number, the least significant first. -/
def ofNat : Nat → Nat → List UInt8
  | 0, _ => []
  | count + 1, n => UInt8.ofNat (n % 256) :: ofNat count (n / 256)

/-- The number with the given bytes, the least significant first. -/
def toNat : List UInt8 → Nat
  | [] => 0
  | b :: bs => b.toNat + 256 * toNat bs

/-- The eight bytes of a word. -/
def ofWord (w : UInt64) : List UInt8 :=
  ofNat 8 w.toNat

/-- The word with the given bytes. -/
def toWord (bs : List UInt8) : UInt64 :=
  UInt64.ofNat (toNat bs)

@[simp] theorem length_ofNat (count n : Nat) : (ofNat count n).length = count := by
  induction count generalizing n with
  | zero => rfl
  | succ count ih => rw [ofNat, List.length_cons, ih]

@[simp] theorem length_ofWord (w : UInt64) : (ofWord w).length = 8 :=
  length_ofNat ..

/-- One more byte holds 256 times as many numbers. -/
theorem shiftLeft_succ (count : Nat) : 1 <<< (8 * (count + 1)) = 256 * 1 <<< (8 * count) := by
  rw [Nat.mul_succ, Nat.shiftLeft_add, Nat.shiftLeft_eq _ 8, Nat.mul_comm]

/-- The low bytes of a number hold it up to a power of 256. -/
theorem toNat_ofNat (count n : Nat) : toNat (ofNat count n) = n % 1 <<< (8 * count) := by
  induction count generalizing n with
  | zero => exact (Nat.mod_one n).symm
  | succ count ih =>
    rw [ofNat, toNat, ih, UInt8.toNat_ofNat', Nat.mod_mod, shiftLeft_succ, Nat.mod_mul]

/-- Bytes hold a number below a power of 256. -/
theorem toNat_lt (bs : List UInt8) : toNat bs < 1 <<< (8 * bs.length) := by
  induction bs with
  | nil => exact Nat.one_pos
  | cons b bs ih =>
    have hb := b.toNat_lt
    rw [toNat, List.length_cons, shiftLeft_succ]
    omega

/-- Bytes are the low bytes of the number that they hold. -/
theorem ofNat_toNat (bs : List UInt8) : ofNat bs.length (toNat bs) = bs := by
  induction bs with
  | nil => rfl
  | cons b bs ih =>
    have hb : b.toNat < 256 := b.toNat_lt
    have hlow : (b.toNat + 256 * toNat bs) % 256 = b.toNat := by omega
    have hhigh : (b.toNat + 256 * toNat bs) / 256 = toNat bs := by omega
    rw [List.length_cons, toNat, ofNat, hlow, hhigh, ih, UInt8.ofNat_toNat]

/-- A word is read back from its bytes. -/
@[simp] theorem toWord_ofWord (w : UInt64) : toWord (ofWord w) = w := by
  have hw : w.toNat % 1 <<< (8 * 8) = w.toNat := Nat.mod_eq_of_lt w.toNat_lt
  rw [toWord, ofWord, toNat_ofNat, hw, UInt64.ofNat_toNat]

/-- Eight bytes are those of the word that is read from them. -/
theorem ofWord_toWord {bs : List UInt8} (h : bs.length = 8) : ofWord (toWord bs) = bs := by
  have hlt : toNat bs < 2 ^ 64 := by
    have hpow := toNat_lt bs
    rw [h] at hpow
    exact hpow
  rw [ofWord, toWord, UInt64.toNat_ofNat', Nat.mod_eq_of_lt hlt, ← h, ofNat_toNat]

end WriteBarrier.Bytes
