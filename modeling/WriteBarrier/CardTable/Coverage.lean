import WriteBarrier.Checked
/-!
Coverage: how many bytes of a write lie in at least one of several ranges.

A cursor walks over the write.  Where a range holds it, it moves to the furthest end of such a range
and counts the way; in a gap it jumps to the next start of a range.  Overlaps count once, whatever
the order or repetition of the ranges.
-/

namespace WriteBarrier

/-- A range of addresses from its first byte to one past its last. -/
abbrev AddressRange := UInt64 × UInt64

namespace Coverage

/-- The furthest end of a range that holds the cursor. -/
def reach (ranges : List AddressRange) (cursor : UInt64) : Option UInt64 :=
  ((ranges.filter fun r => r.1 ≤ cursor && cursor < r.2).map fun r => r.2).max?

/-- The nearest start of a range after the cursor. -/
def nextStart (ranges : List AddressRange) (cursor : UInt64) : Option UInt64 :=
  ((ranges.map fun r => r.1).filter fun lo => cursor < lo).min?

private theorem max_eq_or (a b : UInt64) : max a b = a ∨ max a b = b := by
  by_cases h : a ≤ b
  · exact .inr (if_pos h)
  · exact .inl (if_neg h)

private theorem min_eq_or (a b : UInt64) : min a b = a ∨ min a b = b := by
  by_cases h : a ≤ b
  · exact .inl (if_pos h)
  · exact .inr (if_neg h)

/-- The cursor moves on to the end of a range that holds it. -/
theorem lt_of_reach {ranges : List AddressRange} {cursor hi : UInt64}
    (h : reach ranges cursor = some hi) : cursor.toNat < hi.toNat := by
  have : Std.MaxEqOr UInt64 := ⟨max_eq_or⟩
  have hmem := List.max?_mem h
  simp only [List.mem_map, List.mem_filter, Bool.and_eq_true, decide_eq_true_eq] at hmem
  obtain ⟨r, ⟨_, _, hlt⟩, rfl⟩ := hmem
  exact UInt64.lt_iff_toNat_lt.mp hlt

/-- The cursor moves on to the next start of a range. -/
theorem lt_of_nextStart {ranges : List AddressRange} {cursor lo : UInt64}
    (h : nextStart ranges cursor = some lo) : cursor.toNat < lo.toNat := by
  have : Std.MinEqOr UInt64 := ⟨min_eq_or⟩
  have hmem := List.min?_mem h
  simp only [List.mem_filter, decide_eq_true_eq] at hmem
  exact UInt64.lt_iff_toNat_lt.mp hmem.2

/-- A step to the nearer of two words after the cursor is a step after the cursor. -/
private theorem lt_min {cursor hi stop : UInt64} (hhi : cursor.toNat < hi.toNat)
    (hstop : cursor.toNat < stop.toNat) : cursor.toNat < (min hi stop).toNat := by
  rcases min_eq_or hi stop with h | h <;> rw [h] <;> assumption

/-- The walk from a cursor, with what it has counted so far. -/
def walk (ranges : List AddressRange) (stop cursor covered : UInt64) : Except Fault UInt64 :=
  if _hlt : cursor.toNat < stop.toNat then
    match _hreach : reach ranges cursor with
    | some hi =>
      match checkedSub (min hi stop) cursor with
      | .error f => .error f
      | .ok part =>
        match checkedAdd covered part with
        | .error f => .error f
        | .ok total => walk ranges stop (min hi stop) total
    | none =>
      match _hnext : nextStart ranges cursor with
      | some lo => walk ranges stop lo covered
      | none => .ok covered
  else .ok covered
termination_by stop.toNat - cursor.toNat
decreasing_by
  · have := lt_min (lt_of_reach _hreach) _hlt
    omega
  · have := lt_of_nextStart _hnext
    omega

end Coverage

/-- The number of bytes from `start` up to `stop` that lie in at least one of the ranges. -/
def coveredBytes (ranges : List AddressRange) (start stop : UInt64) : Except Fault UInt64 :=
  Coverage.walk ranges stop start 0

end WriteBarrier
