import WriteBarrier.CardTable.Layout
import WriteBarrier.Proofs.Words
import Mathlib.Tactic.SplitIfs
/-!
Cards as sets of bytes.

Main statements: every covered byte lies in a card of the table, every card holds a covered byte,
the cards of a covered range are those between its first and its last byte, and a card has a range
unless it ends at the very end of the address space.
-/

namespace WriteBarrier

namespace CardLayout

variable {l : CardLayout}

/-- A byte of the covered range. -/
def Contains (l : CardLayout) (x : Nat) : Prop :=
  l.start ≤ x ∧ x < l.stop

instance (l : CardLayout) (x : Nat) : Decidable (l.Contains x) :=
  inferInstanceAs (Decidable (_ ∧ _))

/-- The card of a byte at or after the start. -/
def cardOf (l : CardLayout) (x : Nat) : Nat :=
  (x - l.start) >>> l.shift.toNat

/-- A covered byte of the card lies in the range of bytes. -/
def Meets (l : CardLayout) (card address bytes : Nat) : Prop :=
  ∃ x, address ≤ x ∧ x < address + bytes ∧ l.Contains x ∧ l.cardOf x = card

/-- The start of a card. -/
def cardStart (l : CardLayout) (card : Nat) : Nat :=
  l.start + card * l.cardSize

theorem cardSize_eq : l.cardSize = 2 ^ l.shift.toNat :=
  Nat.one_shiftLeft _

theorem cardSize_pos : 0 < l.cardSize := by
  rw [cardSize_eq]
  exact Nat.two_pow_pos _

theorem start_lt_stop : l.start < l.stop :=
  Nat.lt_add_of_pos_right l.len_pos

theorem stop_lt : l.stop < 2 ^ 64 :=
  l.fits

theorem toNat_endWord : l.endWord.toNat = l.stop :=
  toNat_add_of_lt l.fits

/-- A layout is made from a range and a card size exactly where they are its own. -/
theorem make_eq_ok_iff {base len : UInt64} {shift : UInt32} :
    make base len shift = .ok l ↔ l.base = base ∧ l.len = len ∧ l.shift = shift := by
  constructor
  · intro h
    unfold make at h
    split_ifs at h
    cases h
    exact ⟨rfl, rfl, rfl⟩
  · rintro ⟨rfl, rfl, rfl⟩
    rw [make, dif_pos ⟨l.shift_ge, l.shift_le⟩, dif_pos l.len_pos, dif_pos l.fits,
      dif_pos l.aligned]

theorem shift_lt : l.shift.toNat < 64 :=
  Nat.lt_of_le_of_lt l.shift_le (by decide)

theorem toNat_cardSizeWord : l.cardSizeWord.toNat = l.cardSize := by
  rw [cardSizeWord, toNat_one_shiftLeft shift_lt, cardSize_eq]

theorem cardOf_eq_div (x : Nat) : l.cardOf x = (x - l.start) / l.cardSize := by
  rw [cardOf, cardSize_eq, Nat.shiftRight_eq_div_pow]

theorem lt_cardCount_iff {card : Nat} : card < l.cardCount ↔ l.cardStart card < l.stop := by
  have hsize := l.cardSize_pos
  rw [cardCount, ← Nat.succ_le_iff, Nat.le_div_iff_mul_le hsize, Nat.succ_mul]
  unfold cardStart stop start
  omega

theorem cardCount_pos : 0 < l.cardCount := by
  rw [lt_cardCount_iff, cardStart, Nat.zero_mul]
  exact start_lt_stop

theorem cardCount_lt : l.cardCount < 2 ^ 64 := by
  have hle : l.cardCount ≤ l.stop := by
    apply Nat.not_lt.mp
    intro hlt
    -- a card whose number is the end of the range would start past it
    have hpast : l.stop ≤ l.cardStart l.stop :=
      Nat.le_trans (Nat.le_mul_of_pos_right _ cardSize_pos) (Nat.le_add_left ..)
    exact absurd (lt_cardCount_iff.mp hlt) (Nat.not_lt.mpr hpast)
  exact Nat.lt_of_le_of_lt hle stop_lt

theorem cardOf_eq_iff {x card : Nat} (h : l.start ≤ x) :
    l.cardOf x = card ↔ l.cardStart card ≤ x ∧ x < l.cardStart (card + 1) := by
  rw [cardOf_eq_div, Nat.div_eq_iff l.cardSize_pos, cardStart, cardStart, Nat.succ_mul]
  have hsize := l.cardSize_pos
  omega

/-- Every covered byte lies in a card of the table. -/
theorem cardOf_lt {x : Nat} (h : l.Contains x) : l.cardOf x < l.cardCount := by
  have hcard := (cardOf_eq_iff h.1).mp rfl
  rw [lt_cardCount_iff]
  exact Nat.lt_of_le_of_lt hcard.1 h.2

/-- Every card holds a covered byte. -/
theorem exists_cardOf_eq {card : Nat} (h : card < l.cardCount) :
    ∃ x, l.Contains x ∧ l.cardOf x = card := by
  have hstart : l.start ≤ l.cardStart card := Nat.le_add_right ..
  refine ⟨l.cardStart card, ⟨hstart, lt_cardCount_iff.mp h⟩, ?_⟩
  rw [cardOf_eq_iff hstart, cardStart, cardStart, Nat.succ_mul]
  have hsize := l.cardSize_pos
  omega

theorem cardOf_mono {x y : Nat} (h : x ≤ y) : l.cardOf x ≤ l.cardOf y := by
  rw [cardOf_eq_div, cardOf_eq_div]
  exact Nat.div_le_div_right (Nat.sub_le_sub_right h _)

theorem Meets.mono {card address bytes first count : Nat} (h : l.Meets card address bytes)
    (hlo : first ≤ address) (hhi : address + bytes ≤ first + count) : l.Meets card first count := by
  obtain ⟨x, hx, hlt, hcontains, hcard⟩ := h
  exact ⟨x, by omega, by omega, hcontains, hcard⟩

theorem not_meets_zero {card address : Nat} : ¬l.Meets card address 0 := by
  rintro ⟨x, hx, hxs, _⟩
  omega

/-- A range of bytes in two parts meets the cards of both. -/
theorem meets_add_iff {card address first rest : Nat} :
    l.Meets card address (first + rest) ↔
      l.Meets card address first ∨ l.Meets card (address + first) rest := by
  constructor
  · rintro ⟨x, hx, hxs, hin, hcard⟩
    by_cases hfirst : x < address + first
    · exact Or.inl ⟨x, hx, hfirst, hin, hcard⟩
    · exact Or.inr ⟨x, by omega, by omega, hin, hcard⟩
  · rintro (h | h)
    · exact h.mono (Nat.le_refl _) (by omega)
    · exact h.mono (by omega) (by omega)

/-- The cards of a covered range are those between its first and its last byte. -/
theorem meets_iff_between {card address bytes : Nat} (hlo : l.start ≤ address)
    (hhi : address + bytes ≤ l.stop) (hpos : 0 < bytes) :
    l.Meets card address bytes ↔
      l.cardOf address ≤ card ∧ card ≤ l.cardOf (address + bytes - 1) := by
  constructor
  · rintro ⟨x, hx, hxs, _, rfl⟩
    exact ⟨cardOf_mono hx, cardOf_mono (by omega)⟩
  · rintro ⟨hfirst, hlast⟩
    have hfirst_card := (cardOf_eq_iff hlo).mp rfl
    have hlast_card := (cardOf_eq_iff (l := l) (x := address + bytes - 1) (by omega)).mp rfl
    have hstart : l.cardStart card ≤ l.cardStart (l.cardOf (address + bytes - 1)) :=
      Nat.add_le_add_left (Nat.mul_le_mul_right _ hlast) _
    have hstop : l.cardStart (l.cardOf address + 1) ≤ l.cardStart (card + 1) :=
      Nat.add_le_add_left (Nat.mul_le_mul_right _ (Nat.succ_le_succ hfirst)) _
    -- the first byte of the range that is not before the card lies in the card
    refine ⟨max address (l.cardStart card), Nat.le_max_left .., by omega, ⟨by omega, by omega⟩, ?_⟩
    rw [cardOf_eq_iff (by omega)]
    have hnext : l.cardStart card < l.cardStart (card + 1) := by
      rw [cardStart, cardStart, Nat.succ_mul]
      have hsize := l.cardSize_pos
      omega
    omega

/-- Clipping a write to the covered range, or cutting it off at the end of the address space, loses
no card. -/
theorem meets_clip_iff {card address bytes lo hi : Nat}
    (hlo : lo = max address l.start) (hhi : hi = min (min (address + bytes) 0xFFFFFFFFFFFFFFFF) l.stop) :
    l.Meets card lo (hi - lo) ↔ l.Meets card address bytes := by
  have hstop := l.stop_lt
  constructor
  · rintro ⟨x, hx, hxs, hin, hcard⟩
    exact ⟨x, by omega, by omega, hin, hcard⟩
  · rintro ⟨x, hx, hxs, hin, hcard⟩
    have hin' := hin
    unfold Contains at hin'
    exact ⟨x, by omega, by omega, hin, hcard⟩

theorem not_meets_of_le {card address bytes : Nat}
    (h : min (min (address + bytes) 0xFFFFFFFFFFFFFFFF) l.stop ≤ max address l.start) :
    ¬l.Meets card address bytes := by
  rw [← meets_clip_iff rfl rfl]
  rintro ⟨x, hx, hxs, _⟩
  omega

theorem cardIndex_of_le {address : UInt64} (h : l.start ≤ address.toNat) :
    l.cardIndex address = .ok (l.cardOf address.toNat) := by
  have hsub : (address - l.base).toNat = address.toNat - l.start := toNat_sub_of_le h
  rw [cardIndex, checkedSub_of_le h]
  simp only [UInt64.toNat_shiftRight, UInt32.toNat_toUInt64, Nat.mod_eq_of_lt l.shift_lt, hsub,
    cardOf]

theorem covers_iff {address bytes : UInt64} :
    l.covers address bytes = true ↔
      l.start ≤ address.toNat ∧ address.toNat + bytes.toNat ≤ l.stop := by
  rw [covers, Bool.and_eq_true, decide_eq_true_eq, decide_eq_true_eq]

theorem cardsOf_of_covers {address bytes : UInt64} (h : l.covers address bytes = true)
    (hpos : 0 < bytes.toNat) :
    l.cardsOf address bytes =
      .ok (l.cardOf address.toNat, l.cardOf (address.toNat + bytes.toNat - 1)) := by
  obtain ⟨hlo, hhi⟩ := covers_iff.mp h
  have hstop := l.stop_lt
  have hsum : address.toNat + bytes.toNat < 2 ^ 64 := by omega
  have hpast : (address + bytes).toNat = address.toNat + bytes.toNat := toNat_add_of_lt hsum
  have hone : (1 : UInt64).toNat ≤ (address + bytes).toNat := by
    rw [hpast, UInt64.toNat_one]
    omega
  have hlast : (address + bytes - 1).toNat = address.toNat + bytes.toNat - 1 := by
    rw [toNat_sub_of_le hone, hpast, UInt64.toNat_one]
  have hlast_le : l.start ≤ (address + bytes - 1).toNat := by omega
  rw [cardsOf, cardIndex_of_le hlo, checkedAdd_of_lt hsum]
  simp only [bind, Except.bind, pure, Except.pure, checkedSub_of_le hone, cardIndex_of_le hlast_le,
    hlast]

/-- No card but the last reaches past the end of the address space, and the last one ends there at
the latest. -/
theorem cardStart_succ_le {card : Nat} (h : card < l.cardCount) :
    l.cardStart (card + 1) ≤ 2 ^ 64 := by
  have hlt : l.cardStart card < 2 ^ 64 := Nat.lt_trans (lt_cardCount_iff.mp h) stop_lt
  have hpow : 2 ^ 64 = 2 ^ (64 - l.shift.toNat) * l.cardSize := by
    rw [cardSize_eq, ← Nat.pow_add, Nat.sub_add_cancel (Nat.le_of_lt shift_lt)]
  have hbase : l.start = l.start / l.cardSize * l.cardSize :=
    (Nat.div_mul_cancel (Nat.dvd_of_mod_eq_zero l.aligned)).symm
  -- the card starts at a multiple of its size, and so does the end of the address space
  have hmul : ∀ k, l.cardStart k = (l.start / l.cardSize + k) * l.cardSize := by
    intro k
    rw [Nat.add_mul, ← hbase, cardStart]
  rw [hmul, hpow] at hlt
  rw [hmul, hpow]
  exact Nat.mul_le_mul_right _ (Nat.lt_of_mul_lt_mul_right hlt)

theorem cardStart_succ_lt {card : Nat} (h : card + 1 < l.cardCount) :
    l.cardStart (card + 1) < 2 ^ 64 :=
  Nat.lt_trans (lt_cardCount_iff.mp h) stop_lt

/-- The part of a card inside the covered range, as its start and its length. -/
def clippedRange (l : CardLayout) (card : Nat) : UInt64 × UInt64 :=
  (UInt64.ofNat (l.cardStart card),
    UInt64.ofNat (min (l.cardStart (card + 1)) l.stop - l.cardStart card))

theorem cardStart_lt_cardStart {card other : Nat} (h : card < other) :
    l.cardStart card < l.cardStart other :=
  Nat.add_lt_add_left (Nat.mul_lt_mul_of_pos_right h cardSize_pos) _

theorem clippedRange_inj {card other : Nat} (hcard : card < l.cardCount)
    (hother : other < l.cardCount) (h : l.clippedRange card = l.clippedRange other) :
    card = other := by
  have hstart := congrArg (fun range => range.1.toNat) h
  have hcard_lt := Nat.lt_trans (lt_cardCount_iff.mp hcard) stop_lt
  have hother_lt := Nat.lt_trans (lt_cardCount_iff.mp hother) stop_lt
  dsimp only [clippedRange] at hstart
  rw [UInt64.toNat_ofNat_of_lt' hcard_lt, UInt64.toNat_ofNat_of_lt' hother_lt] at hstart
  rcases Nat.lt_trichotomy card other with hlt | heq | hgt
  · exact absurd hstart (Nat.ne_of_lt (cardStart_lt_cardStart hlt))
  · exact heq
  · exact absurd hstart (Nat.ne_of_gt (cardStart_lt_cardStart hgt))

theorem checkedAdd_base {card : Nat} (h : card < l.cardCount) :
    checkedAdd l.base (UInt64.ofNat card <<< l.shift.toUInt64) =
      .ok (UInt64.ofNat (l.cardStart card)) := by
  have hlt : l.cardStart card < 2 ^ 64 := Nat.lt_trans (lt_cardCount_iff.mp h) stop_lt
  have hle : card ≤ card * l.cardSize := Nat.le_mul_of_pos_right _ cardSize_pos
  have hoffset : card * l.cardSize ≤ l.cardStart card := Nat.le_add_left ..
  have hshift : (UInt64.ofNat card <<< l.shift.toUInt64).toNat = card * l.cardSize := by
    rw [UInt64.toNat_shiftLeft, UInt32.toNat_toUInt64, Nat.mod_eq_of_lt shift_lt,
      UInt64.toNat_ofNat_of_lt' (by change card < 2 ^ 64; omega), Nat.shiftLeft_eq, ← cardSize_eq]
    exact Nat.mod_eq_of_lt (by omega)
  have hsum : (UInt64.ofNat (l.cardStart card)).toNat =
      l.base.toNat + (UInt64.ofNat card <<< l.shift.toUInt64).toNat := by
    rw [UInt64.toNat_ofNat_of_lt' hlt, hshift]
    rfl
  exact checkedAdd_eq_ok_iff.mpr hsum

/-- A card that ends before the end of the address space has its clipped range. -/
theorem cardRange_of_lt {card : Nat} (h : card < l.cardCount)
    (hend : l.cardStart (card + 1) < 2 ^ 64) : l.cardRange card = .ok (l.clippedRange card) := by
  have hstart : l.cardStart card < 2 ^ 64 := Nat.lt_trans (lt_cardCount_iff.mp h) stop_lt
  have hnext : l.cardStart (card + 1) = l.cardStart card + l.cardSize := by
    rw [cardStart, Nat.succ_mul, ← Nat.add_assoc, cardStart]
  have hfirst : (UInt64.ofNat (l.cardStart card)).toNat = l.cardStart card :=
    UInt64.toNat_ofNat_of_lt' hstart
  have hpast : checkedAdd (UInt64.ofNat (l.cardStart card)) l.cardSizeWord =
      .ok (UInt64.ofNat (l.cardStart (card + 1))) := by
    rw [checkedAdd_eq_ok_iff, UInt64.toNat_ofNat_of_lt' hend, hfirst, toNat_cardSizeWord, hnext]
  have hstop := lt_cardCount_iff.mp h
  have hbytes : checkedSub (min (UInt64.ofNat (l.cardStart (card + 1))) l.endWord)
      (UInt64.ofNat (l.cardStart card)) =
        .ok (UInt64.ofNat (min (l.cardStart (card + 1)) l.stop - l.cardStart card)) := by
    rw [checkedSub_eq_ok_iff, UInt64.toNat_min, UInt64.toNat_ofNat_of_lt' hend, toNat_endWord,
      hfirst, UInt64.toNat_ofNat_of_lt' (by change _ < 2 ^ 64; omega)]
    omega
  rw [cardRange, checkedAdd_base h]
  simp only [bind, Except.bind, hpast, hbytes, pure, Except.pure, clippedRange]

/-- A card that ends at the end of the address space has no range. -/
theorem cardRange_of_le {card : Nat} (h : card < l.cardCount)
    (hend : 2 ^ 64 ≤ l.cardStart (card + 1)) : l.cardRange card = .error .addOverflow := by
  have hstart : l.cardStart card < 2 ^ 64 := Nat.lt_trans (lt_cardCount_iff.mp h) stop_lt
  have hpast : checkedAdd (UInt64.ofNat (l.cardStart card)) l.cardSizeWord =
      .error .addOverflow := by
    apply checkedAdd_of_le
    rw [UInt64.toNat_ofNat_of_lt' hstart, toNat_cardSizeWord]
    rw [cardStart, Nat.succ_mul, ← Nat.add_assoc] at hend
    exact hend
  rw [cardRange, checkedAdd_base h]
  simp only [bind, Except.bind, hpast]

end CardLayout

end WriteBarrier
