import WriteBarrier.Text.Numeral
import Mathlib.Data.List.TakeWhile
import Mathlib.Tactic.Common
/-!
Numerals that stand inside a longer text.

Main statement: a numeral ends where its digits end, and its digits identify its word, so equal
texts that begin with a numeral begin with the numeral of the same word, and go on alike.
-/

namespace WriteBarrier.Text

variable {xs ys rest rest' : List Char} {b m n : Nat}

/-- The digits of the bases up to sixteen. -/
def isNumeral (c : Char) : Bool :=
  c.isDigit || ('a' ≤ c && c ≤ 'f')

/-- A text that does not continue a numeral before it. -/
def EndsNumeral (rest : List Char) : Prop :=
  ∀ c ∈ rest.head?, isNumeral c = false

theorem endsNumeral_nil : EndsNumeral [] := by
  simp [EndsNumeral]

theorem endsNumeral_cons {c : Char} (hc : isNumeral c = false) : EndsNumeral (c :: rest) := by
  simp [EndsNumeral, hc]

/-- Two texts that begin with characters of a class, and go on with another character, begin and go
on alike. -/
theorem append_inj_of_all {p : Char → Bool} (hxs : ∀ c ∈ xs, p c = true)
    (hys : ∀ c ∈ ys, p c = true) (hrest : ∀ c ∈ rest.head?, p c = false)
    (hrest' : ∀ c ∈ rest'.head?, p c = false) (h : xs ++ rest = ys ++ rest') :
    xs = ys ∧ rest = rest' := by
  have htake : ∀ {zs more : List Char}, (∀ c ∈ zs, p c = true) →
      (∀ c ∈ more.head?, p c = false) → (zs ++ more).takeWhile p = zs := by
    intro zs more hzs hmore
    rw [List.takeWhile_append_of_pos hzs]
    cases more with
    | nil => simp
    | cons c cs => simp [hmore c rfl]
  have hxy : xs = ys := by
    rw [← htake hxs hrest, h, htake hys hrest']
  subst hxy
  exact ⟨rfl, List.append_cancel_left h⟩

theorem digitChar_inj (hm : m < 16) (hn : n < 16) (h : m.digitChar = n.digitChar) : m = n := by
  have hall : ∀ m < 16, ∀ n < 16, Nat.digitChar m = Nat.digitChar n → m = n := by decide
  exact hall m hm n hn h

theorem isNumeral_digitChar (hn : n < 16) : isNumeral n.digitChar = true := by
  have hall : ∀ n < 16, isNumeral (Nat.digitChar n) = true := by decide
  exact hall n hn

/-- The induction is on the number, which its last digit divides by the base. -/
theorem isNumeral_of_mem_toDigits (hb : 1 < b) (hle : b ≤ 16) :
    ∀ c ∈ Nat.toDigits b n, isNumeral c = true := by
  induction n using Nat.strong_induction_on with
  | _ n ih =>
    by_cases hlt : n < b
    · rw [Nat.toDigits_of_lt_base hlt]
      simp [isNumeral_digitChar (Nat.lt_of_lt_of_le hlt hle)]
    · have hpos : 0 < n := by omega
      have hlast : n % b < 16 := Nat.lt_of_lt_of_le (Nat.mod_lt n (by omega)) hle
      rw [Nat.toDigits_of_base_le hb (Nat.not_lt.mp hlt), List.forall_mem_append]
      exact ⟨ih (n / b) (Nat.div_lt_self hpos hb), by simp [isNumeral_digitChar hlast]⟩

/-- The digits of a number in a base up to sixteen identify it.  Cut off the last one: it is the
remainder, and the others are the digits of the quotient. -/
theorem toDigits_injective (hb : 1 < b) (hle : b ≤ 16) : Function.Injective (Nat.toDigits b) := by
  intro m
  induction m using Nat.strong_induction_on with
  | _ m ih =>
    intro n h
    have hsingle : ∀ {k j : Nat}, b ≤ k → Nat.toDigits b k ≠ [Nat.digitChar j] := by
      intro k j hk hone
      rw [Nat.toDigits_of_base_le hb hk] at hone
      have hnil := (List.append_eq_singleton_iff.mp hone).resolve_right (by simp)
      exact Nat.toDigits_ne_nil hnil.1
    by_cases hm : m < b
    · by_cases hn : n < b
      · rw [Nat.toDigits_of_lt_base hm, Nat.toDigits_of_lt_base hn, List.singleton_inj] at h
        exact digitChar_inj (Nat.lt_of_lt_of_le hm hle) (Nat.lt_of_lt_of_le hn hle) h
      · rw [Nat.toDigits_of_lt_base hm] at h
        exact absurd h.symm (hsingle (Nat.not_lt.mp hn))
    · by_cases hn : n < b
      · rw [Nat.toDigits_of_lt_base hn] at h
        exact absurd h (hsingle (Nat.not_lt.mp hm))
      · rw [Nat.toDigits_of_base_le hb (Nat.not_lt.mp hm),
          Nat.toDigits_of_base_le hb (Nat.not_lt.mp hn)] at h
        obtain ⟨hfirst, hlast⟩ := List.append_inj' h rfl
        have hquotient : m / b = n / b := ih (m / b) (Nat.div_lt_self (by omega) hb) hfirst
        have hremainder : m % b = n % b :=
          digitChar_inj (Nat.lt_of_lt_of_le (Nat.mod_lt m (by omega)) hle)
            (Nat.lt_of_lt_of_le (Nat.mod_lt n (by omega)) hle) (List.singleton_inj.mp hlast)
        rw [← Nat.div_add_mod m b, ← Nat.div_add_mod n b, hquotient, hremainder]

theorem toDigits_append_inj (hb : 1 < b) (hle : b ≤ 16) (hrest : EndsNumeral rest)
    (hrest' : EndsNumeral rest') (h : Nat.toDigits b m ++ rest = Nat.toDigits b n ++ rest') :
    m = n ∧ rest = rest' := by
  obtain ⟨hdigits, hmore⟩ := append_inj_of_all (isNumeral_of_mem_toDigits hb hle)
    (isNumeral_of_mem_toDigits hb hle) hrest hrest' h
  exact ⟨toDigits_injective hb hle hdigits, hmore⟩

/-! ### Words -/

variable {v w : UInt64}

theorem toList_decimal (w : UInt64) : (decimal w).toList = Nat.toDigits 10 w.toNat := by
  rw [decimal, Nat.repr_eq_ofList_toDigits, String.toList_ofList]

theorem toList_hex (w : UInt64) : (hex w).toList = '0' :: 'x' :: Nat.toDigits 16 w.toNat := by
  simp [hex]

theorem decimal_append_inj (hrest : EndsNumeral rest) (hrest' : EndsNumeral rest')
    (h : (decimal v).toList ++ rest = (decimal w).toList ++ rest') : v = w ∧ rest = rest' := by
  rw [toList_decimal, toList_decimal] at h
  obtain ⟨hvalue, hmore⟩ := toDigits_append_inj (by decide) (by decide) hrest hrest' h
  exact ⟨UInt64.toNat_inj.mp hvalue, hmore⟩

theorem hex_append_inj (hrest : EndsNumeral rest) (hrest' : EndsNumeral rest')
    (h : (hex v).toList ++ rest = (hex w).toList ++ rest') : v = w ∧ rest = rest' := by
  rw [toList_hex, toList_hex, List.cons_append, List.cons_append, List.cons_append,
    List.cons_append, List.cons_inj_right, List.cons_inj_right] at h
  obtain ⟨hvalue, hmore⟩ := toDigits_append_inj (by decide) (by decide) hrest hrest' h
  exact ⟨UInt64.toNat_inj.mp hvalue, hmore⟩

theorem decimal_injective : Function.Injective decimal := fun _ _ h =>
  (decimal_append_inj endsNumeral_nil endsNumeral_nil (congrArg (·.toList ++ []) h)).1

theorem hex_injective : Function.Injective hex := fun _ _ h =>
  (hex_append_inj endsNumeral_nil endsNumeral_nil (congrArg (·.toList ++ []) h)).1

/-- A text that begins with a decimal numeral begins with a digit. -/
theorem decimal_append_ne_cons {c : Char} (hc : isNumeral c = false) (w : UInt64) :
    (decimal w).toList ++ rest ≠ c :: rest' := by
  rw [toList_decimal]
  have hdigits := isNumeral_of_mem_toDigits (b := 10) (n := w.toNat) (by decide) (by decide)
  intro h
  cases hw : Nat.toDigits 10 w.toNat with
  | nil => exact Nat.toDigits_ne_nil hw
  | cons d ds =>
    rw [hw, List.cons_append] at h
    rw [hw, (List.cons.inj h).1, List.forall_mem_cons, hc] at hdigits
    cases hdigits.1

/-! ### Texts in pieces -/

variable {s t : String} {ps qs : List String}

/-- A piece that ends a numeral before it. -/
def Separates (s : String) : Prop :=
  (s.toList.head?.any fun c => !isNumeral c) = true

instance (s : String) : Decidable (Separates s) :=
  inferInstanceAs (Decidable (_ = true))

theorem Separates.exists_toList_join (hs : Separates s) (ps : List String) :
    ∃ c cs, (String.join (s :: ps)).toList = c :: cs ∧ isNumeral c = false := by
  cases hchars : s.toList with
  | nil => simp [Separates, hchars] at hs
  | cons c cs => exact ⟨c, cs ++ (String.join ps).toList, by simp [hchars], by
      simpa [Separates, hchars] using hs⟩

theorem Separates.endsNumeral_join (hs : Separates s) (ps : List String) :
    EndsNumeral (String.join (s :: ps)).toList := by
  obtain ⟨c, cs, hcons, hc⟩ := hs.exists_toList_join ps
  rw [hcons]
  exact endsNumeral_cons hc

theorem join_inj_right (h : String.join (s :: ps) = String.join (s :: qs)) :
    String.join ps = String.join qs := by
  rw [String.join_cons, String.join_cons, ← String.toList_inj, String.toList_append,
    String.toList_append] at h
  exact String.toList_inj.mp (List.append_cancel_left h)

theorem join_decimal_inj (hs : Separates s) (ht : Separates t)
    (h : String.join (decimal v :: s :: ps) = String.join (decimal w :: t :: qs)) :
    v = w ∧ String.join (s :: ps) = String.join (t :: qs) := by
  rw [String.join_cons, String.join_cons (s := decimal w), ← String.toList_inj,
    String.toList_append, String.toList_append] at h
  obtain ⟨hvalue, hmore⟩ :=
    decimal_append_inj (hs.endsNumeral_join ps) (ht.endsNumeral_join qs) h
  exact ⟨hvalue, String.toList_inj.mp hmore⟩

theorem join_hex_inj (hs : Separates s) (ht : Separates t)
    (h : String.join (hex v :: s :: ps) = String.join (hex w :: t :: qs)) :
    v = w ∧ String.join (s :: ps) = String.join (t :: qs) := by
  rw [String.join_cons, String.join_cons (s := hex w), ← String.toList_inj,
    String.toList_append, String.toList_append] at h
  obtain ⟨hvalue, hmore⟩ := hex_append_inj (hs.endsNumeral_join ps) (ht.endsNumeral_join qs) h
  exact ⟨hvalue, String.toList_inj.mp hmore⟩

theorem join_decimal_ne (hs : Separates s) :
    String.join (decimal v :: ps) ≠ String.join (s :: qs) := by
  intro h
  obtain ⟨c, cs, hcons, hc⟩ := hs.exists_toList_join qs
  rw [String.join_cons, ← String.toList_inj, String.toList_append, hcons] at h
  exact decimal_append_ne_cons hc v h

end WriteBarrier.Text
