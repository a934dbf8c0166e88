import WriteBarrier.Proofs.CardTable.Marking
import WriteBarrier.Proofs.Config.Validation
/-!
Which card tables are made, and how their cards tile the range.

Main statement: a table is made exactly where its card size is within the bounds and its range is
not empty, ends inside the address space and starts at a card boundary; otherwise the first check
that fails is named.  All cards of a new table are clean, and they are the aligned blocks of the
address space that meet its range.
-/

namespace WriteBarrier

/-- Two errors of one kind: they are the same, or both refuse a configuration. -/
inductive BarrierError.SameKind : BarrierError → BarrierError → Prop where
  | refl (e : BarrierError) : SameKind e e
  | configuration (e e' : ConfigError) : SameKind (.configuration e) (.configuration e')

namespace CardLayout

variable {l : CardLayout} {base len : UInt64} {shift : UInt32} {e : BarrierError}

/-- The cards have one of the allowed sizes. -/
def ShiftInBounds (shift : UInt32) : Prop :=
  4 ≤ shift.toNat ∧ shift.toNat ≤ 20

instance (shift : UInt32) : Decidable (ShiftInBounds shift) :=
  inferInstanceAs (Decidable (_ ∧ _))

/-- A range and a card size of which a table can be made. -/
structure WellFormed (base len : UInt64) (shift : UInt32) : Prop where
  shift_in : ShiftInBounds shift
  len_pos : 0 < len.toNat
  fits : base.toNat + len.toNat < 2 ^ 64
  aligned : base.toNat % 2 ^ shift.toNat = 0

/-- The first check that a range and a card size fail, by the error that names it. -/
inductive Refused (base len : UInt64) (shift : UInt32) : BarrierError → Prop where
  | cardShift (hshift : ¬ShiftInBounds shift) :
      Refused base len shift (.configuration (.invalidCardShift
        ("card_shift must be within 4..=20 (got " ++ shift.toNat.repr ++ ")")))
  | empty (hshift : ShiftInBounds shift) (hlen : len.toNat = 0) :
      Refused base len shift (.invalidArgument "card table must cover at least one byte")
  | overflow (hshift : ShiftInBounds shift) (hlen : 0 < len.toNat)
      (hfits : 2 ^ 64 ≤ base.toNat + len.toNat) :
      Refused base len shift (.invalidArgument
        ("range " ++ Text.hex base ++ "+" ++ Text.decimal len ++ " overflows the address space"))
  | misaligned (hshift : ShiftInBounds shift) (hlen : 0 < len.toNat)
      (hfits : base.toNat + len.toNat < 2 ^ 64) (haligned : base.toNat % 2 ^ shift.toNat ≠ 0) :
      Refused base len shift (.misaligned base (UInt64.ofNat (2 ^ shift.toNat)))

theorem exists_make (h : WellFormed base len shift) : ∃ l, make base len shift = .ok l := by
  have haligned : base.toNat % (1 <<< shift.toNat) = 0 := by
    rw [Nat.one_shiftLeft]
    exact h.aligned
  exact ⟨⟨base, len, shift, h.shift_in.1, h.shift_in.2, h.len_pos, h.fits, haligned⟩,
    make_eq_ok_iff.mpr ⟨rfl, rfl, rfl⟩⟩

theorem wellFormed_or_refused (base len : UInt64) (shift : UInt32) :
    WellFormed base len shift ∨ ∃ e, Refused base len shift e := by
  by_cases hshift : ShiftInBounds shift
  · rcases Nat.eq_zero_or_pos len.toNat with hlen | hlen
    · exact Or.inr ⟨_, .empty hshift hlen⟩
    · by_cases hfits : base.toNat + len.toNat < 2 ^ 64
      · by_cases haligned : base.toNat % 2 ^ shift.toNat = 0
        · exact Or.inl ⟨hshift, hlen, hfits, haligned⟩
        · exact Or.inr ⟨_, .misaligned hshift hlen hfits haligned⟩
      · exact Or.inr ⟨_, .overflow hshift hlen (Nat.not_lt.mp hfits)⟩
  · exact Or.inr ⟨_, .cardShift hshift⟩

theorem make_of_refused (h : Refused base len shift e) : make base len shift = .error e := by
  cases h with
  | cardShift hshift => exact dif_neg hshift
  | empty hshift hlen =>
    exact (dif_pos hshift).trans (dif_neg (Nat.not_lt.mpr (Nat.le_of_eq hlen)))
  | overflow hshift hlen hfits =>
    exact (dif_pos hshift).trans ((dif_pos hlen).trans (dif_neg (Nat.not_lt.mpr hfits)))
  | misaligned hshift hlen hfits haligned =>
    have hsize : UInt64.ofNat (2 ^ shift.toNat) = 1 <<< shift.toUInt64 := by
      rw [← toNat_one_shiftLeft (Nat.lt_of_le_of_lt hshift.2 (by decide)), UInt64.ofNat_toNat]
    rw [← Nat.one_shiftLeft] at haligned
    rw [hsize]
    exact (dif_pos hshift).trans ((dif_pos hlen).trans ((dif_pos hfits).trans (dif_neg haligned)))

/-- The layout of a well-formed range is made, and for any other the first failing check is named. -/
theorem make_eq_error_iff : make base len shift = .error e ↔ Refused base len shift e := by
  constructor
  · intro hmake
    rcases wellFormed_or_refused base len shift with hwell | ⟨e', he'⟩
    · obtain ⟨l, hl⟩ := exists_make hwell
      rw [hl] at hmake
      cases hmake
    · rw [make_of_refused he'] at hmake
      cases hmake
      exact he'
  · exact make_of_refused

theorem wellFormed (l : CardLayout) : WellFormed l.base l.len l.shift where
  shift_in := ⟨l.shift_ge, l.shift_le⟩
  len_pos := l.len_pos
  fits := l.fits
  aligned := by
    rw [← Nat.one_shiftLeft]
    exact l.aligned

/-- The cards are the aligned blocks of the address space that meet the range: each covered byte has
the index of a card, each card is the card of a covered byte, and two covered bytes have one card
exactly where they lie in one block. -/
structure Tiled (l : CardLayout) : Prop where
  cardIndex_lt : ∀ x : UInt64, l.Contains x.toNat →
    ∃ card, l.cardIndex x = .ok card ∧ card < l.cardCount
  exists_cardIndex : ∀ card < l.cardCount,
    ∃ x : UInt64, l.Contains x.toNat ∧ l.cardIndex x = .ok card
  cardIndex_eq_iff : ∀ x y : UInt64, l.Contains x.toNat → l.Contains y.toNat →
    (l.cardIndex x = l.cardIndex y ↔
      x.toNat / 2 ^ l.shift.toNat = y.toNat / 2 ^ l.shift.toNat)

/-- The start is a multiple of the card size, so cards are counted from a block on. -/
theorem cardOf_add_start {x : Nat} (h : l.start ≤ x) :
    l.cardOf x + l.start / l.cardSize = x / l.cardSize := by
  have hstart : l.start = l.start / l.cardSize * l.cardSize :=
    (Nat.div_mul_cancel (Nat.dvd_of_mod_eq_zero l.aligned)).symm
  have hsum : x = x - l.start + l.start / l.cardSize * l.cardSize := by omega
  rw [cardOf_eq_div]
  conv_rhs => rw [hsum, Nat.add_mul_div_right _ _ l.cardSize_pos]

theorem tiled (l : CardLayout) : l.Tiled where
  cardIndex_lt x hx := ⟨_, cardIndex_of_le hx.1, cardOf_lt hx⟩
  exists_cardIndex card hcard := by
    obtain ⟨x, hx, hcardOf⟩ := exists_cardOf_eq hcard
    have hword : (UInt64.ofNat x).toNat = x :=
      UInt64.toNat_ofNat_of_lt' (Nat.lt_trans hx.2 l.stop_lt)
    refine ⟨UInt64.ofNat x, by rwa [hword], ?_⟩
    rw [cardIndex_of_le (by rw [hword]; exact hx.1), hword, hcardOf]
  cardIndex_eq_iff x y hx hy := by
    rw [cardIndex_of_le hx.1, cardIndex_of_le hy.1, Except.ok.injEq, ← cardSize_eq,
      ← cardOf_add_start hx.1, ← cardOf_add_start hy.1, Nat.add_right_cancel_iff]

end CardLayout

namespace CardTable

variable {base len : UInt64} {shift : UInt32} {t : CardTable} {e : BarrierError}

theorem new_eq_error_iff : new base len shift = .error e ↔ CardLayout.Refused base len shift e := by
  rw [← CardLayout.make_eq_error_iff, new]
  cases CardLayout.make base len shift with
  | error e' => simp only [Except.map, Except.error.injEq]
  | ok l => exact ⟨nofun, nofun⟩

/-- A new table has the range and the card size that it was made from, and all its cards are
clean. -/
theorem new_eq_ok_iff : new base len shift = .ok t ↔
    (t.layout.base = base ∧ t.layout.len = len ∧ t.layout.shift = shift) ∧ t = clean t.layout := by
  rw [← CardLayout.make_eq_ok_iff, new]
  cases CardLayout.make base len shift with
  | error e' => exact ⟨nofun, nofun⟩
  | ok l =>
    constructor
    · intro h
      cases h
      exact ⟨rfl, rfl⟩
    · rintro ⟨hl, ht⟩
      cases hl
      exact congrArg Except.ok ht.symm

theorem exists_new_iff :
    (∃ t, new base len shift = .ok t) ↔ CardLayout.WellFormed base len shift := by
  constructor
  · rintro ⟨t, ht⟩
    obtain ⟨⟨rfl, rfl, rfl⟩, _⟩ := new_eq_ok_iff.mp ht
    exact t.layout.wellFormed
  · intro h
    obtain ⟨l, hl⟩ := CardLayout.exists_make h
    exact ⟨clean l, by rw [new, hl]; rfl⟩

/-- A configuration is checked before the table is, but the check refuses the same card sizes. -/
theorem withConfig_cases (base len : UInt64) (config : BarrierConfig) :
    withConfig base len config = new base len config.cardShift ∨
      ∃ e e', withConfig base len config = .error (.configuration e) ∧
        new base len config.cardShift = .error (.configuration e') := by
  by_cases hvalid : config.Valid
  · left
    rw [withConfig, BarrierConfig.validate_of_valid hvalid]
  · right
    obtain ⟨e, hinvalid⟩ := BarrierConfig.exists_validate_eq_error hvalid
    refine ⟨e, _, ?_, new_eq_error_iff.mpr (.cardShift hvalid)⟩
    rw [withConfig, hinvalid]

/-- A table is made exactly where its range and card size are well formed; the masked bits of its
start are zero exactly where the start is a multiple of the card size.  Otherwise the error names the
first check that fails.  A new table has the range and card size that were asked for and clean cards
only, and its cards are the aligned blocks that meet the range.  A configuration with the same card
size makes the same tables, and is refused by errors of the same kind. -/
theorem new_tiled_or_refused (base len : UInt64) (shift : UInt32) :
    ((∃ t, new base len shift = .ok t) ↔ CardLayout.WellFormed base len shift) ∧
    (shift.toNat ≤ 20 →
      (base &&& ((1 <<< shift.toUInt64) - 1) = 0 ↔ base.toNat % 2 ^ shift.toNat = 0)) ∧
    (∀ e, new base len shift = .error e ↔ CardLayout.Refused base len shift e) ∧
    (∀ t, new base len shift = .ok t →
      t.layout.base = base ∧ t.layout.len = len ∧ t.layout.shift = shift ∧
      t.cards.size = t.layout.cardCount ∧ (∀ card, t.isDirtyCard card = false) ∧
      t.layout.Tiled) ∧
    ∀ config : BarrierConfig, config.cardShift = shift →
      (∀ t, withConfig base len config = .ok t ↔ new base len shift = .ok t) ∧
      ∀ e, new base len shift = .error e →
        ∃ e', withConfig base len config = .error e' ∧ e.SameKind e' := by
  refine ⟨exists_new_iff, ?_, fun _ => new_eq_error_iff, ?_, ?_⟩
  · intro hshift
    rw [← UInt64.toNat_inj, toNat_and_mask base (Nat.lt_of_le_of_lt hshift (by decide)),
      UInt64.toNat_zero]
  · intro t ht
    obtain ⟨⟨hbase, hlen, hshift⟩, hclean⟩ := new_eq_ok_iff.mp ht
    refine ⟨hbase, hlen, hshift, t.size_eq, ?_, t.layout.tiled⟩
    rw [hclean]
    exact isDirtyCard_clean
  · rintro config rfl
    rcases withConfig_cases base len config with heq | ⟨e, e', hconfig, hnew⟩
    · rw [heq]
      exact ⟨fun _ => Iff.rfl, fun e he => ⟨e, he, .refl e⟩⟩
    · rw [hconfig, hnew]
      refine ⟨fun t => ⟨nofun, nofun⟩, ?_⟩
      intro _ he
      cases he
      exact ⟨_, rfl, .configuration e' e⟩

/-- A range and a card size with several defects are refused for the first of them, and a table may
end at the last byte but one of the address space. -/
theorem new_refused_in_order :
    new 0x2001 0 21 = .error (.configuration (.invalidCardShift
      "card_shift must be within 4..=20 (got 21)")) ∧
    new 0x2001 0 9 = .error (.invalidArgument "card table must cover at least one byte") ∧
    new 0xFFFFFFFFFFFFFE01 0x1FF 9 = .error (.invalidArgument
      ("range " ++ Text.hex 0xFFFFFFFFFFFFFE01 ++ "+" ++ Text.decimal 0x1FF ++
        " overflows the address space")) ∧
    new 0x2001 0x200 9 = .error (.misaligned 0x2001 0x200) ∧
    (∃ t, new 0xFFFFFFFFFFFFFE00 0x1FF 9 = .ok t) ∧
    ∃ e, withConfig 0x2001 0 { cardShift := 21 } = .error e := by
  have hrefused : ∀ {base len shift e}, CardLayout.Refused base len shift e →
      new base len shift = .error e :=
    fun h => ((new_tiled_or_refused ..).2.2.1 _).mpr h
  have hfirst : new 0x2001 0 21 = .error (.configuration (.invalidCardShift
      "card_shift must be within 4..=20 (got 21)")) := hrefused (.cardShift (by decide))
  obtain ⟨_, _, _, _, hconfig⟩ := new_tiled_or_refused 0x2001 0 21
  obtain ⟨e, he, _⟩ := (hconfig { cardShift := 21 } rfl).2 _ hfirst
  refine ⟨hfirst, hrefused (.empty (by decide) rfl),
    hrefused (.overflow (by decide) (by decide) (by decide)),
    hrefused (.misaligned (by decide) (by decide) (by decide) (by decide)), ?_, e, he⟩
  exact (new_tiled_or_refused ..).1.mpr ⟨by decide, by decide, by decide, by decide⟩

end CardTable

end WriteBarrier
