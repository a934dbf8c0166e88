import WriteBarrier.CardTable.Coverage
import WriteBarrier.Proofs.Words
import Mathlib.Order.Interval.Finset.Nat
/-!
Coverage as a count.

Main statement: the walk ends without a fault, and it has counted each byte of the write that lies
in some range exactly once, whatever the order, overlap or repetition of the ranges.
-/

namespace WriteBarrier

namespace Coverage

variable {ranges : List AddressRange}

/-- A byte that lies in some range. -/
def Covered (ranges : List AddressRange) (x : Nat) : Prop :=
  ∃ r ∈ ranges, r.1.toNat ≤ x ∧ x < r.2.toNat

instance (ranges : List AddressRange) : DecidablePred (Covered ranges) :=
  fun x => inferInstanceAs (Decidable (∃ r ∈ ranges, r.1.toNat ≤ x ∧ x < r.2.toNat))

/-- The bytes from `start` up to `stop` that lie in some range. -/
def coveredSet (ranges : List AddressRange) (start stop : Nat) : Finset Nat :=
  (Finset.Ico start stop).filter (Covered ranges)

theorem mem_coveredSet {start stop x : Nat} :
    x ∈ coveredSet ranges start stop ↔ (start ≤ x ∧ x < stop) ∧ Covered ranges x := by
  rw [coveredSet, Finset.mem_filter, Finset.mem_Ico]

theorem card_coveredSet_le (ranges : List AddressRange) (start stop : Nat) :
    (coveredSet ranges start stop).card ≤ stop - start := by
  rw [← Nat.card_Ico]
  exact Finset.card_filter_le ..

theorem coveredSet_of_gap {start next stop : Nat} (hle : start ≤ next)
    (hgap : ∀ x, start ≤ x → x < next → ¬Covered ranges x) :
    coveredSet ranges start stop = coveredSet ranges next stop := by
  ext x
  rw [mem_coveredSet, mem_coveredSet]
  constructor
  · rintro ⟨⟨hstart, hstop⟩, hx⟩
    have hnext : next ≤ x := by
      by_contra hlt
      exact hgap x hstart (by omega) hx
    exact ⟨⟨hnext, hstop⟩, hx⟩
  · rintro ⟨⟨hnext, hstop⟩, hx⟩
    exact ⟨⟨by omega, hstop⟩, hx⟩

theorem coveredSet_eq_empty {start stop : Nat}
    (hgap : ∀ x, start ≤ x → x < stop → ¬Covered ranges x) : coveredSet ranges start stop = ∅ := by
  rw [Finset.eq_empty_iff_forall_notMem]
  intro x hx
  obtain ⟨⟨hstart, hstop⟩, hcovered⟩ := mem_coveredSet.mp hx
  exact hgap x hstart hstop hcovered

/-- A covered stretch at the front adds its length. -/
theorem card_coveredSet_of_covered {start next stop : Nat} (hstart : start ≤ next)
    (hstop : next ≤ stop) (hcovered : ∀ x, start ≤ x → x < next → Covered ranges x) :
    (coveredSet ranges start stop).card =
      (next - start) + (coveredSet ranges next stop).card := by
  have hsplit : coveredSet ranges start stop =
      Finset.Ico start next ∪ coveredSet ranges next stop := by
    ext x
    rw [Finset.mem_union, Finset.mem_Ico, mem_coveredSet, mem_coveredSet]
    constructor
    · rintro ⟨⟨hx, hxs⟩, hin⟩
      by_cases hnext : x < next
      · exact Or.inl ⟨hx, hnext⟩
      · exact Or.inr ⟨⟨by omega, hxs⟩, hin⟩
    · rintro (⟨hx, hnext⟩ | ⟨⟨hx, hxs⟩, hin⟩)
      · exact ⟨⟨hx, by omega⟩, hcovered x hx hnext⟩
      · exact ⟨⟨by omega, hxs⟩, hin⟩
  have hdisjoint : Disjoint (Finset.Ico start next) (coveredSet ranges next stop) := by
    rw [Finset.disjoint_left]
    intro x hx hin
    have hlt := (Finset.mem_Ico.mp hx).2
    have hle := (mem_coveredSet.mp hin).1.1
    omega
  rw [hsplit, Finset.card_union_of_disjoint hdisjoint, Nat.card_Ico]

instance lawfulOrderMax : Std.LawfulOrderMax UInt64 where
  max_eq_or a b := by
    rw [← UInt64.toNat_inj, ← UInt64.toNat_inj, UInt64.toNat_max]
    omega
  max_le_iff a b c := by
    rw [UInt64.le_iff_toNat_le, UInt64.le_iff_toNat_le, UInt64.le_iff_toNat_le, UInt64.toNat_max,
      Nat.max_le]

instance lawfulOrderMin : Std.LawfulOrderMin UInt64 where
  min_eq_or a b := by
    rw [← UInt64.toNat_inj, ← UInt64.toNat_inj, UInt64.toNat_min]
    omega
  le_min_iff a b c := by
    rw [UInt64.le_iff_toNat_le, UInt64.le_iff_toNat_le, UInt64.le_iff_toNat_le, UInt64.toNat_min,
      Nat.le_min]

theorem covered_of_reach {cursor hi : UInt64} (h : reach ranges cursor = some hi) {x : Nat}
    (hcursor : cursor.toNat ≤ x) (hhi : x < hi.toNat) : Covered ranges x := by
  obtain ⟨hmem, _⟩ := List.max?_eq_some_iff.mp h
  simp only [List.mem_map, List.mem_filter, Bool.and_eq_true, decide_eq_true_eq] at hmem
  obtain ⟨r, ⟨hr, hlo, _⟩, rfl⟩ := hmem
  exact ⟨r, hr, Nat.le_trans (UInt64.le_iff_toNat_le.mp hlo) hcursor, hhi⟩

theorem not_covered_of_reach {cursor : UInt64} (h : reach ranges cursor = none) :
    ¬Covered ranges cursor.toNat := by
  rw [reach, List.max?_eq_none_iff, List.map_eq_nil_iff, List.filter_eq_nil_iff] at h
  rintro ⟨r, hr, hlo, hhi⟩
  apply h r hr
  rw [Bool.and_eq_true, decide_eq_true_eq, decide_eq_true_eq]
  exact ⟨UInt64.le_iff_toNat_le.mpr hlo, UInt64.lt_iff_toNat_lt.mpr hhi⟩

/-- A range that holds a byte past an uncovered cursor starts after the cursor. -/
theorem lt_start_of_covered {cursor x : Nat} (hcursor : ¬Covered ranges cursor)
    (hle : cursor ≤ x) (hx : Covered ranges x) :
    ∃ r ∈ ranges, cursor < r.1.toNat ∧ r.1.toNat ≤ x := by
  obtain ⟨r, hr, hlo, hhi⟩ := hx
  refine ⟨r, hr, ?_, hlo⟩
  by_contra hstart
  exact hcursor ⟨r, hr, by omega, by omega⟩

/-- No range starts between an uncovered cursor and the next start. -/
theorem not_covered_of_nextStart {cursor lo : UInt64} (hreach : reach ranges cursor = none)
    (hnext : nextStart ranges cursor = some lo) {x : Nat} (hcursor : cursor.toNat ≤ x)
    (hlo : x < lo.toNat) : ¬Covered ranges x := by
  intro hx
  obtain ⟨r, hr, hstart, hle⟩ := lt_start_of_covered (not_covered_of_reach hreach) hcursor hx
  have hfirst := (List.min?_eq_some_iff.mp hnext).2 r.1 (by
    rw [List.mem_filter, decide_eq_true_eq]
    exact ⟨List.mem_map_of_mem hr, UInt64.lt_iff_toNat_lt.mpr hstart⟩)
  rw [UInt64.le_iff_toNat_le] at hfirst
  omega

theorem not_covered_of_nextStart_none {cursor : UInt64} (hreach : reach ranges cursor = none)
    (hnext : nextStart ranges cursor = none) {x : Nat} (hcursor : cursor.toNat ≤ x) :
    ¬Covered ranges x := by
  intro hx
  obtain ⟨r, hr, hstart, _⟩ := lt_start_of_covered (not_covered_of_reach hreach) hcursor hx
  rw [nextStart, List.min?_eq_none_iff, List.filter_eq_nil_iff] at hnext
  apply hnext r.1 (List.mem_map_of_mem hr)
  rw [decide_eq_true_eq]
  exact UInt64.lt_iff_toNat_lt.mpr hstart

/-- A cursor in a range has the covered bytes up to its next place in front of it. -/
theorem card_coveredSet_of_reach {cursor hi stop : UInt64} (hlt : cursor.toNat < stop.toNat)
    (hreach : reach ranges cursor = some hi) :
    (coveredSet ranges cursor.toNat stop.toNat).card =
      ((min hi stop).toNat - cursor.toNat) +
        (coveredSet ranges (min hi stop).toNat stop.toNat).card := by
  have hcursor := lt_of_reach hreach
  have hnext : (min hi stop).toNat = min hi.toNat stop.toNat := UInt64.toNat_min ..
  apply card_coveredSet_of_covered (by omega) (by omega)
  intro x hx hxs
  exact covered_of_reach hreach hx (by omega)

/-- The walk adds the covered bytes from the cursor on to what it has counted.  The induction is
along the walk; its invariant is that the sum of the two is a word. -/
theorem walk_eq_ok (ranges : List AddressRange) (stop cursor covered : UInt64)
    (hfit : covered.toNat + (coveredSet ranges cursor.toNat stop.toNat).card < 2 ^ 64) :
    ∃ total, walk ranges stop cursor covered = .ok total ∧
      total.toNat = covered.toNat + (coveredSet ranges cursor.toNat stop.toNat).card := by
  fun_induction walk ranges stop cursor covered with
  | case1 cursor covered hlt hi hreach f hpart =>
    have hcursor := lt_of_reach hreach
    rw [checkedSub_of_le (by rw [UInt64.toNat_min]; omega)] at hpart
    cases hpart
  | case2 cursor covered hlt hi hreach part hpart f htotal =>
    have hcount := card_coveredSet_of_reach hlt hreach
    rw [checkedSub_eq_ok_iff] at hpart
    rw [checkedAdd_of_lt (by omega)] at htotal
    cases htotal
  | case3 cursor covered hlt hi hreach part hpart total htotal ih =>
    have hcount := card_coveredSet_of_reach hlt hreach
    rw [checkedSub_eq_ok_iff] at hpart
    rw [checkedAdd_eq_ok_iff] at htotal
    obtain ⟨final, hwalk, hfinal⟩ := ih (by omega)
    exact ⟨final, hwalk, by omega⟩
  | case4 cursor covered hlt hreach lo hnext ih =>
    rw [coveredSet_of_gap (Nat.le_of_lt (lt_of_nextStart hnext))
      (fun x => not_covered_of_nextStart hreach hnext)] at hfit ⊢
    exact ih hfit
  | case5 cursor covered hlt hreach hnext =>
    refine ⟨covered, rfl, ?_⟩
    rw [coveredSet_eq_empty fun x hx _ => not_covered_of_nextStart_none hreach hnext hx]
    rfl
  | case6 cursor covered hge =>
    refine ⟨covered, rfl, ?_⟩
    rw [coveredSet_eq_empty fun x hx hxs => by omega]
    rfl

end Coverage

/-- The number of covered bytes is computed without a fault. -/
theorem coveredBytes_eq_ok (ranges : List AddressRange) (start stop : UInt64) :
    ∃ n, coveredBytes ranges start stop = .ok n ∧
      n.toNat = (Coverage.coveredSet ranges start.toNat stop.toNat).card := by
  have hle := Coverage.card_coveredSet_le ranges start.toNat stop.toNat
  have hstop := stop.toNat_lt
  obtain ⟨n, hwalk, hn⟩ := Coverage.walk_eq_ok ranges stop start 0 (by
    rw [UInt64.toNat_zero]
    omega)
  refine ⟨n, hwalk, ?_⟩
  rw [hn, UInt64.toNat_zero, Nat.zero_add]

namespace Coverage

theorem coveredSet_congr {others : List AddressRange} (h : ∀ r, r ∈ others ↔ r ∈ ranges)
    (start stop : Nat) : coveredSet others start stop = coveredSet ranges start stop := by
  ext x
  simp only [mem_coveredSet, Covered, h]

theorem card_coveredSet_eq_iff {start stop : Nat} :
    (coveredSet ranges start stop).card = stop - start ↔
      ∀ x, start ≤ x → x < stop → Covered ranges x := by
  rw [← Nat.card_Ico, coveredSet, Finset.card_filter_eq_iff]
  simp only [Finset.mem_Ico, and_imp]

end Coverage

/-- The number of covered bytes is computed without a fault, and it counts each byte of the write
that lies in some range once.  Neither the order nor the repetition of the ranges matters to it, and
it is the length of the write exactly where each byte lies in some range. -/
theorem coveredBytes_exact (ranges : List AddressRange) (start stop : UInt64) :
    ∃ n, coveredBytes ranges start stop = .ok n ∧
      n.toNat = ((Finset.Ico start.toNat stop.toNat).filter fun x =>
        ∃ r ∈ ranges, r.1.toNat ≤ x ∧ x < r.2.toNat).card ∧
      (∀ others : List AddressRange, (∀ r, r ∈ others ↔ r ∈ ranges) →
        coveredBytes others start stop = .ok n) ∧
      (start ≤ stop → (n = stop - start ↔ ∀ x, start.toNat ≤ x → x < stop.toNat →
        ∃ r ∈ ranges, r.1.toNat ≤ x ∧ x < r.2.toNat)) := by
  obtain ⟨n, hwalk, hcard⟩ := coveredBytes_eq_ok ranges start stop
  refine ⟨n, hwalk, hcard, ?_, ?_⟩
  · intro others hothers
    obtain ⟨m, hwalk_others, hcard_others⟩ := coveredBytes_eq_ok others start stop
    have hsame : m = n := by
      rw [← UInt64.toNat_inj, hcard_others, hcard, Coverage.coveredSet_congr hothers]
    rw [hwalk_others, hsame]
  · intro hle
    rw [← UInt64.toNat_inj, UInt64.toNat_sub_of_le stop start hle, hcard]
    exact Coverage.card_coveredSet_eq_iff

end WriteBarrier
