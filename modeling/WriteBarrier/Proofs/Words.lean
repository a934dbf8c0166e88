import WriteBarrier.Checked
import Mathlib.Data.UInt
/-!
Words as numbers: where the checked operations answer and what the answers are.
-/

namespace WriteBarrier

variable {a b : UInt64}

theorem checkedAdd_of_lt (h : a.toNat + b.toNat < 2 ^ 64) : checkedAdd a b = .ok (a + b) :=
  if_pos h

theorem checkedAdd_of_le (h : 2 ^ 64 ≤ a.toNat + b.toNat) :
    checkedAdd a b = .error .addOverflow :=
  if_neg (Nat.not_lt.mpr h)

theorem checkedMul_of_lt (h : a.toNat * b.toNat < 2 ^ 64) : checkedMul a b = .ok (a * b) :=
  if_pos h

theorem checkedMul_of_le (h : 2 ^ 64 ≤ a.toNat * b.toNat) :
    checkedMul a b = .error .mulOverflow :=
  if_neg (Nat.not_lt.mpr h)

theorem checkedSub_of_le (h : b.toNat ≤ a.toNat) : checkedSub a b = .ok (a - b) :=
  if_pos h

theorem toNat_add_of_lt (h : a.toNat + b.toNat < 2 ^ 64) :
    (a + b).toNat = a.toNat + b.toNat := by
  rw [UInt64.toNat_add, Nat.mod_eq_of_lt h]

theorem toNat_sub_of_le (h : b.toNat ≤ a.toNat) : (a - b).toNat = a.toNat - b.toNat :=
  UInt64.toNat_sub_of_le a b (UInt64.le_iff_toNat_le.mpr h)

theorem toNat_mul_of_lt (h : a.toNat * b.toNat < 2 ^ 64) :
    (a * b).toNat = a.toNat * b.toNat := by
  rw [UInt64.toNat_mul, Nat.mod_eq_of_lt h]

/-- A power of two whose exponent is below the word width is a word. -/
theorem toNat_one_shiftLeft {shift : UInt32} (h : shift.toNat < 64) :
    ((1 : UInt64) <<< shift.toUInt64).toNat = 2 ^ shift.toNat := by
  have hlt : 2 ^ shift.toNat < 2 ^ 64 := Nat.pow_lt_pow_right (by decide) h
  rw [UInt64.toNat_shiftLeft, UInt32.toNat_toUInt64, Nat.mod_eq_of_lt h, UInt64.toNat_one,
    Nat.one_shiftLeft, Nat.mod_eq_of_lt hlt]

/-- The bits of a word below a power of two are its remainder. -/
theorem toNat_and_mask (a : UInt64) {shift : UInt32} (h : shift.toNat < 64) :
    (a &&& ((1 <<< shift.toUInt64) - 1)).toNat = a.toNat % 2 ^ shift.toNat := by
  have hsize := toNat_one_shiftLeft h
  have hone : (1 : UInt64).toNat ≤ ((1 : UInt64) <<< shift.toUInt64).toNat := by
    rw [hsize]
    exact Nat.one_le_two_pow
  rw [UInt64.toNat_and, toNat_sub_of_le hone, hsize, UInt64.toNat_one,
    Nat.and_two_pow_sub_one_eq_mod]

theorem ne_zero_iff_toNat_pos : a ≠ 0 ↔ 0 < a.toNat := by
  rw [← UInt64.pos_iff_ne_zero, UInt64.lt_iff_toNat_lt, UInt64.toNat_zero]

end WriteBarrier
