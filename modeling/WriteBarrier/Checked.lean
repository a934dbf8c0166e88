/-!
Sixty-four bit arithmetic that stops instead of wrapping.

A sum, difference or product outside the word range, a shift by the word width or more, an index
past the end of an array and a copy that does not fit are `Fault`s, each with one wording.
Main statements: a checked operation answers exactly where the numbers' sum, difference or product
is a word, and with that word; a saturating sum is cut off at the largest word.
-/

namespace WriteBarrier

/-- The reasons for which an operation stops half way. -/
inductive Fault where
  | addOverflow
  | subOverflow
  | mulOverflow
  | shiftOverflow
  | rangePastEnd (stop length : Nat)
  | indexPastEnd (index length : Nat)
  /-- A copy of more elements than the destination holds. -/
  | copyTooLong (source target : UInt64)
  deriving DecidableEq, Repr

namespace Fault

def message : Fault → String
  | addOverflow => "attempt to add with overflow"
  | subOverflow => "attempt to subtract with overflow"
  | mulOverflow => "attempt to multiply with overflow"
  | shiftOverflow => "attempt to shift left with overflow"
  | rangePastEnd stop length =>
      "range end index " ++ stop.repr ++ " out of range for slice of length " ++ length.repr
  | indexPastEnd index length =>
      "index out of bounds: the len is " ++ length.repr ++ " but the index is " ++ index.repr
  | copyTooLong source target =>
      "copy of " ++ source.toNat.repr ++ " elements into " ++ target.toNat.repr

end Fault

/-- The sum of two words, if it is a word. -/
def checkedAdd (a b : UInt64) : Except Fault UInt64 :=
  if a.toNat + b.toNat < 0x10000000000000000 then .ok (a + b) else .error .addOverflow

/-- The difference of two words, if it is not negative. -/
def checkedSub (a b : UInt64) : Except Fault UInt64 :=
  if b.toNat ≤ a.toNat then .ok (a - b) else .error .subOverflow

/-- The product of two words, if it is a word. -/
def checkedMul (a b : UInt64) : Except Fault UInt64 :=
  if a.toNat * b.toNat < 0x10000000000000000 then .ok (a * b) else .error .mulOverflow

theorem checkedAdd_eq_ok_iff {a b c : UInt64} :
    checkedAdd a b = .ok c ↔ c.toNat = a.toNat + b.toNat := by
  have hc := c.toNat_lt
  unfold checkedAdd
  split
  · rw [Except.ok.injEq, ← UInt64.toNat_inj, UInt64.toNat_add]
    omega
  · constructor
    · intro h
      cases h
    · omega

theorem checkedSub_eq_ok_iff {a b c : UInt64} :
    checkedSub a b = .ok c ↔ b.toNat + c.toNat = a.toNat := by
  unfold checkedSub
  split
  · next hle =>
    rw [Except.ok.injEq, ← UInt64.toNat_inj,
      UInt64.toNat_sub_of_le a b (UInt64.le_iff_toNat_le.mpr hle)]
    omega
  · constructor
    · intro h
      cases h
    · omega

theorem checkedMul_eq_ok_iff {a b c : UInt64} :
    checkedMul a b = .ok c ↔ c.toNat = a.toNat * b.toNat := by
  have hc := c.toNat_lt
  unfold checkedMul
  split
  · next hlt =>
    rw [Except.ok.injEq, ← UInt64.toNat_inj, UInt64.toNat_mul, Nat.mod_eq_of_lt hlt]
    exact eq_comm
  · constructor
    · intro h
      cases h
    · omega

/-- The sum of two words, or the largest word where the sum is above it. -/
def saturatingAdd (a b : UInt64) : UInt64 :=
  if a.toNat + b.toNat < 0x10000000000000000 then a + b else 0xFFFFFFFFFFFFFFFF

/-- A saturating sum is the sum of the numbers, cut off at the largest word. -/
theorem toNat_saturatingAdd (a b : UInt64) :
    (saturatingAdd a b).toNat = min (a.toNat + b.toNat) 0xFFFFFFFFFFFFFFFF := by
  unfold saturatingAdd
  split
  · rw [UInt64.toNat_add]
    omega
  · change 0xFFFFFFFFFFFFFFFF = _
    omega

end WriteBarrier
