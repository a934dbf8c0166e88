import WriteBarrier.Config.Environment
import Mathlib.Data.List.Forall2
import Mathlib.Data.List.Induction
import Mathlib.Data.UInt
import Mathlib.Tactic.Common
/-!
What an environment asks for, told from the texts of its variables.

Main statement: a card shift is set by a numeral, with or without a plus sign and whatever zeros it
begins with, of a number below `2 ^ 32`.  Any other text leaves it at the default and is warned
about.  A flag is on for `1` and for `true` in any mixture of cases, and off for any other text.
-/

namespace WriteBarrier

namespace Environment

variable {value : Option ByteArray} {s : String} {cs : List Char} {l c : Char} {n : Nat}

/-- The variable is set, and its bytes are the encoding of the text. -/
def Holds (value : Option ByteArray) (s : String) : Prop :=
  value = some s.toUTF8

/-- Decimal digits, at least one of them, and their value. -/
inductive Digits : List Char → Nat → Prop where
  | single {d : Nat} (hd : d < 10) : Digits [d.digitChar] d
  | concat {cs : List Char} {n d : Nat} (h : Digits cs n) (hd : d < 10) :
      Digits (cs ++ [d.digitChar]) (10 * n + d)

/-- Decimal digits, after a plus sign or none, and their value. -/
inductive Numeral : List Char → Nat → Prop where
  | unsigned {cs : List Char} {n : Nat} (h : Digits cs n) : Numeral cs n
  | plus {cs : List Char} {n : Nat} (h : Digits cs n) : Numeral ('+' :: cs) n

/-- The text is the word, each of its letters in the one case or the other. -/
def InAnyCase (word s : String) : Prop :=
  List.Forall₂ (fun l c => c = l ∨ c = l.toUpper) word.toList s.toList

/-- The text turns a flag on. -/
def TurnsOn (s : String) : Prop :=
  s = "1" ∨ InAnyCase "true" s

/-- The configuration that the texts of the variables ask for, with the warnings about them.  The
flags differ in their defaults: without a text, the first is on and the second is off. -/
structure Asks (env : Environment) (config : BarrierConfig) (warnings : List LogRecord) :
    Prop where
  numeral : ∀ s n, Holds env.cardShift s → Numeral s.toList n → n < 2 ^ 32 →
    config.cardShift.toNat = n ∧ warnings = []
  otherText : ∀ s, Holds env.cardShift s → (∀ n, Numeral s.toList n → 2 ^ 32 ≤ n) →
    config.cardShift = 9 ∧ warnings =
      [{ level := .warn
         target := "fwb::config"
         message := "Ignoring FWB_CARD_SHIFT=" ++ Text.quoted s ++ ": not a number" }]
  noText : (∀ s, ¬Holds env.cardShift s) → config.cardShift = 9 ∧ warnings = []
  statsEnabled_iff : config.statsEnabled = true ↔ ∀ s, Holds env.stats s → TurnsOn s
  verbose_iff : config.verbose = true ↔ ∃ s, Holds env.verbose s ∧ TurnsOn s

/-! ### Texts -/

theorem text?_eq_some_iff : text? value = some s ↔ Holds value s := by
  cases value with
  | none => exact ⟨nofun, nofun⟩
  | some bytes =>
    rw [text?, Option.bind_some, Holds, Option.some_inj, String.fromUTF8?]
    split
    · next hvalid =>
      rw [Option.some_inj, ← String.toByteArray_inj]
      exact Iff.rfl
    · next hinvalid =>
      constructor
      · exact nofun
      · rintro rfl
        exact absurd s.isValidUTF8 hinvalid

theorem text?_eq_none_iff : text? value = none ↔ ∀ s, ¬Holds value s := by
  simp only [Option.eq_none_iff_forall_ne_some, ne_eq, text?_eq_some_iff]

/-! ### Numerals -/

theorem digitsValue_concat (cs : List Char) (c : Char) :
    digitsValue (cs ++ [c]) = 10 * digitsValue cs + (c.toNat - 48) := by
  rw [digitsValue, List.foldl_append, List.foldl_cons, List.foldl_nil, digitsValue]

theorem exists_digitChar_eq (h : c.isDigit = true) :
    ∃ d < 10, Nat.digitChar d = c ∧ c.toNat - 48 = d := by
  have hzero : '0'.toNat = 48 := rfl
  have hnine : '9'.toNat = 57 := rfl
  rw [Char.isDigit_iff_toNat, hzero, hnine] at h
  refine ⟨c.toNat - 48, by omega, Char.toNat_inj.mp ?_, rfl⟩
  rw [Nat.toNat_digitChar_of_lt_ten (by omega)]
  omega

theorem Digits.digitsValue_eq (h : Digits cs n) : digitsValue cs = n := by
  induction h with
  | single hd =>
    rw [← List.nil_append [_], digitsValue_concat, Nat.toNat_digitChar_sub_48_of_lt_ten hd]
    exact Nat.zero_add _
  | concat h hd ih =>
    rw [digitsValue_concat, Nat.toNat_digitChar_sub_48_of_lt_ten hd, ih]

theorem Digits.all_isDigit (h : Digits cs n) : cs.all Char.isDigit = true := by
  induction h with
  | single hd => simp [Nat.isDigit_digitChar, hd]
  | concat h hd ih => simp [ih, Nat.isDigit_digitChar, hd]

theorem Digits.ne_nil (h : Digits cs n) : cs ≠ [] := by
  cases h <;> simp

/-- The induction is on the digits, from the last one, which adds to ten times the value before. -/
theorem digits_of_all (hne : cs ≠ []) (hall : cs.all Char.isDigit = true) :
    Digits cs (digitsValue cs) := by
  induction cs using List.reverseRecOn with
  | nil => exact absurd rfl hne
  | append_singleton cs c ih =>
    rw [List.all_append, Bool.and_eq_true, List.all_cons, List.all_nil, Bool.and_true] at hall
    obtain ⟨d, hd, rfl, hvalue⟩ := exists_digitChar_eq hall.2
    rw [digitsValue_concat, hvalue]
    by_cases hcs : cs = []
    · subst hcs
      exact (Nat.zero_add d).symm ▸ .single hd
    · exact .concat (ih hcs hall.1) hd

theorem digits_iff :
    Digits cs n ↔ cs ≠ [] ∧ cs.all Char.isDigit = true ∧ digitsValue cs = n := by
  constructor
  · exact fun h => ⟨h.ne_nil, h.all_isDigit, h.digitsValue_eq⟩
  · rintro ⟨hne, hall, rfl⟩
    exact digits_of_all hne hall

/-- The digits of a text after its plus sign, if it has one. -/
def unsign : List Char → List Char
  | '+' :: rest => rest
  | cs => cs

/-- A plus sign is no digit, so what follows it are all the digits there are. -/
theorem numeral_iff : Numeral cs n ↔ Digits (unsign cs) n := by
  unfold unsign
  split
  · constructor
    · rintro (h | h)
      · have hplus := h.all_isDigit
        rw [List.all_cons, Bool.and_eq_true] at hplus
        exact absurd hplus.1 (by decide)
      · exact h
    · exact .plus
  · next hplus =>
    constructor
    · rintro (h | h)
      · exact h
      · exact absurd rfl (hplus _)
    · exact .unsigned

theorem number?_eq (s : String) :
    number? s = if unsign s.toList ≠ [] ∧ (unsign s.toList).all Char.isDigit ∧
      digitsValue (unsign s.toList) < 2 ^ 32 then
        some (UInt32.ofNat (digitsValue (unsign s.toList))) else none :=
  rfl

theorem number?_of_numeral (h : Numeral s.toList n) (hlt : n < 2 ^ 32) :
    number? s = some (UInt32.ofNat n) := by
  obtain ⟨hne, hall, rfl⟩ := digits_iff.mp (numeral_iff.mp h)
  rw [number?_eq, if_pos ⟨hne, hall, hlt⟩]

theorem number?_of_not_numeral (h : ∀ n, Numeral s.toList n → 2 ^ 32 ≤ n) : number? s = none := by
  rw [number?_eq, if_neg]
  rintro ⟨hne, hall, hlt⟩
  exact Nat.not_le.mpr hlt (h _ (numeral_iff.mpr (digits_of_all hne hall)))

-- zeros in front do not count, and the value may be too large
example : number? "+0012" = some 12 ∧ number? "4294967296" = none := by
  decide

/-! ### Flags -/

theorem toLower_eq_iff (hl : l.isLower = true) : c.toLower = l ↔ c = l ∨ c = l.toUpper := by
  -- the two cases of a letter are 32 apart, and going down is an addition that wraps around
  have hA : 'A'.val.toNat = 65 := rfl
  have hZ : 'Z'.val.toNat = 90 := rfl
  have ha : 'a'.val.toNat = 97 := rfl
  have hz : 'z'.val.toNat = 122 := rfl
  have hdown : ('a'.val - 'A'.val).toNat = 32 := rfl
  have hup : ('A'.val - 'a'.val).toNat = 2 ^ 32 - 32 := rfl
  delta Char.isLower at hl
  delta Char.toUpper Char.toLower
  rw [Bool.and_eq_true, decide_eq_true_eq, decide_eq_true_eq] at hl
  rw [dif_pos hl]
  simp only [← Char.val_inj, UInt32.le_iff_toNat_le, ← UInt32.toNat_inj] at hl ⊢
  split
  · simp only [UInt32.toNat_add, hup, hdown]
    omega
  · simp only [UInt32.toNat_add, hup]
    omega

theorem inAnyCase_iff {word : String} (hword : word.toList.all Char.isLower = true) :
    InAnyCase word s ↔ s.toList.map Char.toLower = word.toList := by
  rw [InAnyCase]
  generalize s.toList = cs
  generalize word.toList = ls at hword ⊢
  induction ls generalizing cs with
  | nil => simp
  | cons l ls ih =>
    rw [List.all_cons, Bool.and_eq_true] at hword
    cases cs with
    | nil => simp
    | cons c cs =>
      rw [List.forall₂_cons, List.map_cons, List.cons.injEq, toLower_eq_iff hword.1, ih cs hword.2]

theorem flag_eq_true_iff : flag s = true ↔ TurnsOn s := by
  have hone : s.toList = ['1'] ↔ s = "1" := @String.toList_inj s "1"
  have htrue : InAnyCase "true" s ↔ s.toList.map Char.toLower = ['t', 'r', 'u', 'e'] :=
    inAnyCase_iff rfl
  rw [flag, Bool.or_eq_true, decide_eq_true_eq, decide_eq_true_eq, TurnsOn, hone, htrue]

/-- A flag that is on by default is on unless a text turns it off. -/
theorem flagSetting_true_iff :
    flagSetting value true = true ↔ ∀ s, Holds value s → TurnsOn s := by
  simp only [← text?_eq_some_iff, ← flag_eq_true_iff, flagSetting]
  cases text? value with
  | none => exact iff_of_true rfl nofun
  | some t => exact ⟨fun h s hs => Option.some.inj hs ▸ h, fun h => h t rfl⟩

/-- A flag that is off by default is off unless a text turns it on. -/
theorem flagSetting_false_iff :
    flagSetting value false = true ↔ ∃ s, Holds value s ∧ TurnsOn s := by
  simp only [← text?_eq_some_iff, ← flag_eq_true_iff, flagSetting]
  cases text? value with
  | none => exact iff_of_false nofun (by rintro ⟨s, hs, _⟩; cases hs)
  | some t => exact ⟨fun h => ⟨t, rfl, h⟩, fun ⟨s, hs, h⟩ => Option.some.inj hs ▸ h⟩

/-! ### The configuration -/

theorem config_asks (env : Environment) : Asks env env.config.1 env.config.2 where
  numeral s n hs hn hlt := by
    simp only [config, cardShiftSetting, text?_eq_some_iff.mpr hs, number?_of_numeral hn hlt,
      UInt32.toNat_ofNat_of_lt' hlt, and_self]
  otherText s hs hother := by
    simp only [config, cardShiftSetting, text?_eq_some_iff.mpr hs,
      number?_of_not_numeral hother, notANumber, warningTarget, and_self]
  noText hno := by
    simp only [config, cardShiftSetting, text?_eq_none_iff.mpr hno, and_self]
  statsEnabled_iff := flagSetting_true_iff
  verbose_iff := flagSetting_false_iff

end Environment

end WriteBarrier
