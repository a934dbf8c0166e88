import WriteBarrier.Proofs.Text.Numeral
import WriteBarrier.Text.Json
/-!
JSON texts that can be read back.

Main statement: a value ends where it ends, whatever follows it in an object, so equal objects have
the same members with the same values.
-/

namespace WriteBarrier.Text.Json

variable {cs ds rest rest' : List Char} {v w : String} {m n : String × String}
  {ms ns : List (String × String)}

/-! ### Strings -/

/-- The value of a hexadecimal digit. -/
def digitValue (c : Char) : Nat :=
  (List.range 16).findIdx fun n => Nat.digitChar n == c

/-- The character that a letter stands for after a backslash. -/
def unescape : Char → Char
  | 'n' => '\n'
  | 'r' => '\r'
  | 't' => '\t'
  | 'b' => '\x08'
  | 'f' => '\x0c'
  | c => c

/-- The first character inside a string and what is left, or nothing at the closing quote. -/
def readChar : List Char → Option (Char × List Char)
  | [] => none
  | '"' :: _ => none
  | '\\' :: 'u' :: '0' :: '0' :: high :: low :: rest =>
      some (Char.ofNat (16 * digitValue high + digitValue low), rest)
  | '\\' :: letter :: rest => some (unescape letter, rest)
  | c :: rest => some (c, rest)

theorem digitValue_digitChar {k : Nat} (h : k < 16) : digitValue k.digitChar = k := by
  have hall : ∀ k < 16, digitValue (Nat.digitChar k) = k := by decide
  exact hall k h

/-- Every character is read back from its escape.  The cases are those of the escapes. -/
theorem readChar_escape (c : Char) (rest : List Char) :
    readChar (escape c ++ rest) = some (c, rest) := by
  unfold escape
  split_ifs with hquote hbackslash hnewline hreturn htab hback hfeed hcontrol
  · simp [readChar, unescape, hquote]
  · simp [readChar, unescape, hbackslash]
  · simp [readChar, unescape, hnewline]
  · simp [readChar, unescape, hreturn]
  · simp [readChar, unescape, htab]
  · simp [readChar, unescape, hback]
  · simp [readChar, unescape, hfeed]
  · have hhigh : digitValue (c.toNat / 16).digitChar = c.toNat / 16 :=
      digitValue_digitChar (by omega)
    have hlow : digitValue (c.toNat % 16).digitChar = c.toNat % 16 :=
      digitValue_digitChar (by omega)
    simp only [List.cons_append, List.nil_append, readChar, hhigh, hlow, Nat.div_add_mod,
      Char.ofNat_toNat]
  · simp [readChar, hbackslash]

/-- The induction is on the first string: the reader finds its characters in the text, and the
closing quote after them. -/
theorem escaped_append_inj
    (h : cs.flatMap escape ++ '"' :: rest = ds.flatMap escape ++ '"' :: rest') :
    cs = ds ∧ rest = rest' := by
  induction cs generalizing ds with
  | nil =>
    cases ds with
    | nil => exact ⟨rfl, List.tail_eq_of_cons_eq h⟩
    | cons d ds =>
      have hread := congrArg readChar h
      rw [List.flatMap_cons, List.append_assoc, readChar_escape] at hread
      cases hread
  | cons c cs ih =>
    have hread := congrArg readChar h
    rw [List.flatMap_cons, List.append_assoc, readChar_escape] at hread
    cases ds with
    | nil => cases hread
    | cons d ds =>
      rw [List.flatMap_cons, List.append_assoc, readChar_escape] at hread
      obtain ⟨rfl, hmore⟩ := Prod.mk.inj (Option.some.inj hread)
      obtain ⟨rfl, hrest⟩ := ih hmore
      exact ⟨rfl, hrest⟩

theorem text_append_inj (h : (text v).toList ++ rest = (text w).toList ++ rest') :
    v = w ∧ rest = rest' := by
  simp only [text, quote, String.toList_ofList, List.cons_append, List.append_assoc,
    List.nil_append, List.cons_inj_right] at h
  obtain ⟨hchars, hrest⟩ := escaped_append_inj h
  exact ⟨String.toList_injective hchars, hrest⟩

theorem text_injective : Function.Injective text := by
  intro v w h
  have hchars : (text v).toList ++ [] = (text w).toList ++ [] := by rw [h]
  exact (text_append_inj hchars).1

theorem number_injective : Function.Injective number :=
  decimal_injective

/-! ### Values -/

/-- The numbers, strings and objects. -/
inductive IsValue : String → Prop
  | number (n : UInt64) : IsValue (number n)
  | text (s : String) : IsValue (text s)
  | object (ms : List (String × String)) (h : ∀ m ∈ ms, IsValue m.2) : IsValue (object ms)

/-- The value is known from every text that begins with it and does not go on with a digit. -/
def Delimited (v : String) : Prop :=
  ∀ ⦃w : String⦄ ⦃rest rest' : List Char⦄, IsValue w → EndsNumeral rest → EndsNumeral rest' →
    v.toList ++ rest = w.toList ++ rest' → v = w ∧ rest = rest'

/-- The characters of a member. -/
def memberChars (m : String × String) : List Char :=
  (text m.1).toList ++ ':' :: m.2.toList

/-- The members after the first one, each with its comma, and the closing brace. -/
def moreMembers (ms : List (String × String)) (rest : List Char) : List Char :=
  ms.flatMap (fun m => ',' :: memberChars m) ++ '\x7d' :: rest

theorem moreMembers_cons (m : String × String) (ms : List (String × String)) (rest : List Char) :
    moreMembers (m :: ms) rest = ',' :: (memberChars m ++ moreMembers ms rest) := by
  simp [moreMembers]

theorem endsNumeral_moreMembers (ms : List (String × String)) (rest : List Char) :
    EndsNumeral (moreMembers ms rest) := by
  cases ms with
  | nil => exact endsNumeral_cons (c := '\x7d') (by decide)
  | cons m ms =>
    rw [moreMembers_cons]
    exact endsNumeral_cons (by decide)

theorem toList_intercalate_cons (s : String) (ss : List String) :
    (",".intercalate (s :: ss)).toList = s.toList ++ ss.flatMap fun t => ',' :: t.toList := by
  induction ss generalizing s with
  | nil => simp
  | cons t ss ih => simp [String.intercalate_cons_cons, ih]

theorem toList_object_nil : (object []).toList = ['\x7b', '\x7d'] := by
  simp [object]

theorem toList_object_cons_append (m : String × String) (ms : List (String × String))
    (rest : List Char) : (object (m :: ms)).toList ++ rest =
      '\x7b' :: (memberChars m ++ moreMembers ms rest) := by
  rw [object, List.map_cons, String.toList_append, String.toList_append, toList_intercalate_cons]
  simp [memberChars, moreMembers, List.flatMap_map]

theorem member_append_inj (hm : Delimited m.2) (hn : IsValue n.2) (hrest : EndsNumeral rest)
    (hrest' : EndsNumeral rest') (h : memberChars m ++ rest = memberChars n ++ rest') :
    m = n ∧ rest = rest' := by
  simp only [memberChars, List.append_assoc, List.cons_append] at h
  obtain ⟨hname, hmore⟩ := text_append_inj h
  obtain ⟨hvalue, hrest⟩ := hm hn hrest hrest' (List.tail_eq_of_cons_eq hmore)
  exact ⟨Prod.ext hname hvalue, hrest⟩

/-- The induction is on the members of the first object, of which each ends at a comma or at the
closing brace. -/
theorem moreMembers_inj (hms : ∀ m ∈ ms, Delimited m.2) (hns : ∀ n ∈ ns, IsValue n.2)
    (h : moreMembers ms rest = moreMembers ns rest') : ms = ns ∧ rest = rest' := by
  induction ms generalizing ns with
  | nil =>
    cases ns with
    | nil => exact ⟨rfl, List.tail_eq_of_cons_eq h⟩
    | cons n ns => simp [moreMembers] at h
  | cons m ms ih =>
    cases ns with
    | nil => simp [moreMembers] at h
    | cons n ns =>
      rw [moreMembers_cons, moreMembers_cons, List.cons_inj_right] at h
      rw [List.forall_mem_cons] at hms hns
      obtain ⟨rfl, hmore⟩ := member_append_inj hms.1 hns.1 (endsNumeral_moreMembers ms rest)
        (endsNumeral_moreMembers ns rest') h
      obtain ⟨rfl, hrest⟩ := ih hms.2 hns.2 hmore
      exact ⟨rfl, hrest⟩

theorem object_append_inj (hms : ∀ m ∈ ms, Delimited m.2) (hns : ∀ n ∈ ns, IsValue n.2)
    (h : (object ms).toList ++ rest = (object ns).toList ++ rest') : ms = ns ∧ rest = rest' := by
  cases ms with
  | nil =>
    cases ns with
    | nil => exact ⟨rfl, List.append_cancel_left h⟩
    | cons n ns =>
      rw [toList_object_cons_append, toList_object_nil] at h
      simp [memberChars, text, quote] at h
  | cons m ms =>
    cases ns with
    | nil =>
      rw [toList_object_cons_append, toList_object_nil] at h
      simp [memberChars, text, quote] at h
    | cons n ns =>
      rw [toList_object_cons_append, toList_object_cons_append, List.cons_inj_right] at h
      rw [List.forall_mem_cons] at hms hns
      obtain ⟨rfl, hmore⟩ := member_append_inj hms.1 hns.1 (endsNumeral_moreMembers ms rest)
        (endsNumeral_moreMembers ns rest') h
      obtain ⟨rfl, hrest⟩ := moreMembers_inj hms.2 hns.2 hmore
      exact ⟨rfl, hrest⟩

/-! A value's first character tells its kind. -/

theorem exists_toList_text (s : String) : ∃ cs, (text s).toList = '"' :: cs :=
  ⟨_, String.toList_ofList⟩

theorem exists_toList_object (ms : List (String × String)) :
    ∃ cs, (object ms).toList = '\x7b' :: cs :=
  ⟨_, by rw [object, String.toList_append, String.toList_append]; rfl⟩

/-- The induction is on the value; the value beside it is of the same kind, as their first
characters are equal. -/
theorem IsValue.delimited (hv : IsValue v) : Delimited v := by
  induction hv with
  | number k =>
    intro w rest rest' hw hrest hrest' h
    cases hw with
    | number j =>
      obtain ⟨rfl, hmore⟩ := decimal_append_inj hrest hrest' h
      exact ⟨rfl, hmore⟩
    | text s =>
      obtain ⟨cs, hs⟩ := exists_toList_text s
      rw [hs] at h
      exact absurd h (decimal_append_ne_cons (by decide) k)
    | object ns =>
      obtain ⟨cs, hns⟩ := exists_toList_object ns
      rw [hns] at h
      exact absurd h (decimal_append_ne_cons (by decide) k)
  | text s =>
    intro w rest rest' hw _ _ h
    obtain ⟨cs, hs⟩ := exists_toList_text s
    cases hw with
    | number j =>
      rw [hs] at h
      exact absurd h.symm (decimal_append_ne_cons (by decide) j)
    | text t =>
      obtain ⟨rfl, hmore⟩ := text_append_inj h
      exact ⟨rfl, hmore⟩
    | object ns =>
      obtain ⟨ds, hns⟩ := exists_toList_object ns
      simp [hs, hns] at h
  | object ms _ ih =>
    intro w rest rest' hw _ _ h
    obtain ⟨cs, hms⟩ := exists_toList_object ms
    cases hw with
    | number j =>
      rw [hms] at h
      exact absurd h.symm (decimal_append_ne_cons (by decide) j)
    | text t =>
      obtain ⟨ds, ht⟩ := exists_toList_text t
      simp [hms, ht] at h
    | object ns hns =>
      obtain ⟨rfl, hmore⟩ := object_append_inj ih hns h
      exact ⟨rfl, hmore⟩

/-- Equal objects have the same members, in the same order. -/
theorem object_inj (hms : ∀ m ∈ ms, IsValue m.2) (hns : ∀ n ∈ ns, IsValue n.2)
    (h : object ms = object ns) : ms = ns := by
  have hchars : (object ms).toList ++ [] = (object ns).toList ++ [] := by rw [h]
  exact (object_append_inj (fun m hm => (hms m hm).delimited) hns hchars).1

end WriteBarrier.Text.Json
