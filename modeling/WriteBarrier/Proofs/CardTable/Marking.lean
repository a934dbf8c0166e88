import WriteBarrier.CardTable.Basic
import WriteBarrier.Proofs.CardTable.Layout
/-!
Marking a range of bytes in one card table.

Main statement: a covered range is marked without a fault, it dirties exactly the cards that it
meets, and the answer is the number of cards that it dirtied.
-/

namespace WriteBarrier

namespace CardTable

variable {t marked : CardTable}

/-- `marked` is the table after a write of some bytes, of which `fresh` cards went from clean to
dirty. -/
structure Marked (t marked : CardTable) (address bytes fresh : Nat) : Prop where
  layout_eq : marked.layout = t.layout
  isDirtyCard_iff : ∀ card, marked.isDirtyCard card = true ↔
    t.isDirtyCard card = true ∨ t.layout.Meets card address bytes
  dirtyCount_eq : marked.dirtyCount = t.dirtyCount + fresh

/-- Marking a run of cards makes the cards of the run dirty and leaves all others alone. -/
theorem markRun_getD_iff (cards : Array Bool) (first fresh count i : Nat) :
    (markRun cards first fresh count).1[i]?.getD false = true ↔
      cards[i]?.getD false = true ∨ (first ≤ i ∧ i < first + count) ∧ i < cards.size := by
  induction count generalizing cards first fresh with
  | zero =>
    rw [markRun]
    constructor
    · exact Or.inl
    · rintro (h | ⟨h, _⟩)
      · exact h
      · omega
  | succ count ih =>
    rw [markRun]
    split
    · next hfirst =>
      obtain ⟨hlt, _⟩ := Array.getElem?_eq_some_iff.mp hfirst
      rw [ih, Array.getElem?_setIfInBounds, Array.size_setIfInBounds, if_pos hlt]
      by_cases hi : first = i
      · subst hi
        simp only [if_pos, Option.getD_some, true_or, true_iff]
        right
        omega
      · rw [if_neg hi]
        constructor
        · rintro (h | h)
          · exact Or.inl h
          · exact Or.inr (by omega)
        · rintro (h | h)
          · exact Or.inl h
          · exact Or.inr (by omega)
    · next hfirst =>
      rw [ih]
      constructor
      · rintro (h | h)
        · exact Or.inl h
        · exact Or.inr (by omega)
      · rintro (h | h)
        · exact Or.inl h
        · by_cases hi : first = i
          · -- the first card of the run is skipped where it is dirty already
            subst hi
            rw [Array.getElem?_eq_getElem h.2] at hfirst ⊢
            left
            simpa using hfirst
          · exact Or.inr (by omega)

/-- Marking a run of cards counts those that it makes dirty. -/
theorem count_markRun (cards : Array Bool) (first fresh count : Nat) :
    (markRun cards first fresh count).1.count true + fresh =
      cards.count true + (markRun cards first fresh count).2 := by
  induction count generalizing cards first fresh with
  | zero => rfl
  | succ count ih =>
    rw [markRun]
    split
    · next hfirst =>
      obtain ⟨hlt, hclean⟩ := Array.getElem?_eq_some_iff.mp hfirst
      have hset : (cards.setIfInBounds first true).count true = cards.count true + 1 := by
        rw [Array.setIfInBounds, dif_pos hlt, Array.count_set, hclean]
        rfl
      have hrest := ih (cards.setIfInBounds first true) (first + 1) (fresh + 1)
      omega
    · exact ih cards (first + 1) fresh

theorem markCards_of_lt (first : Nat) {last : Nat} (h : last < t.cards.size) :
    ∃ marked fresh, t.markCards first last = .ok (marked, fresh) ∧ marked.layout = t.layout ∧
      (∀ card, marked.isDirtyCard card = true ↔
        t.isDirtyCard card = true ∨ first ≤ card ∧ card ≤ last) ∧
      marked.dirtyCount = t.dirtyCount + fresh := by
  refine ⟨_, _, if_pos h, rfl, ?_, ?_⟩
  · intro card
    rw [isDirtyCard, markRun_getD_iff]
    constructor
    · rintro (hdirty | hcard)
      · exact Or.inl hdirty
      · exact Or.inr (by omega)
    · rintro (hdirty | hcard)
      · exact Or.inl hdirty
      · exact Or.inr (by omega)
  · exact count_markRun t.cards first 0 (last + 1 - first)

/-- A covered range is marked without a fault, and it dirties exactly the cards that it meets. -/
theorem dirtyRange_of_covers {address bytes : UInt64} (h : t.layout.covers address bytes = true) :
    ∃ marked fresh, t.dirtyRange address bytes = .ok (marked, fresh) ∧
      Marked t marked address.toNat bytes.toNat fresh := by
  by_cases hzero : bytes = 0
  · subst hzero
    refine ⟨t, 0, by rw [dirtyRange, if_pos h, if_pos rfl], rfl, ?_, rfl⟩
    intro card
    constructor
    · exact Or.inl
    · rintro (hdirty | ⟨x, hx, hxs, _⟩)
      · exact hdirty
      · rw [UInt64.toNat_zero] at hxs
        omega
  · have hpos := ne_zero_iff_toNat_pos.mp hzero
    obtain ⟨hlo, hhi⟩ := CardLayout.covers_iff.mp h
    have hlast : t.layout.cardOf (address.toNat + bytes.toNat - 1) < t.cards.size := by
      rw [t.size_eq]
      exact CardLayout.cardOf_lt ⟨by omega, by omega⟩
    obtain ⟨marked, fresh, hmark, hlayout, hdirty, hcount⟩ :=
      markCards_of_lt (t.layout.cardOf address.toNat) hlast
    refine ⟨marked, fresh, ?_, hlayout, ?_, hcount⟩
    · rw [dirtyRange, if_pos h, if_neg hzero, CardLayout.cardsOf_of_covers h hpos]
      simp only [bind, Except.bind, hmark, Outcome.ofChecked]
    · intro card
      rw [hdirty, CardLayout.meets_iff_between hlo hhi hpos]

theorem dirtyRange_of_not_covers {address bytes : UInt64}
    (h : ¬t.layout.covers address bytes = true) :
    t.dirtyRange address bytes = .error (.error (.addressOutOfRange address bytes)) :=
  if_neg h

theorem isDirtyCard_clean {layout : CardLayout} (card : Nat) :
    (clean layout).isDirtyCard card = false := by
  rw [isDirtyCard, clean, Array.getElem?_replicate]
  split <;> rfl

theorem isDirtyCard_clear (card : Nat) : t.clear.isDirtyCard card = false := by
  rw [isDirtyCard, clear, Array.getElem?_map]
  cases t.cards[card]? <;> rfl

theorem lt_cardCount_of_isDirtyCard {card : Nat} (h : t.isDirtyCard card = true) :
    card < t.layout.cardCount := by
  rw [← t.size_eq]
  by_contra hle
  rw [isDirtyCard, Array.getElem?_eq_none (by omega)] at h
  cases h

/-- The card of a covered byte can be asked for. -/
theorem isDirty_of_contains {x : UInt64} (h : t.layout.Contains x.toNat) :
    t.isDirty x = .ok (t.isDirtyCard (t.layout.cardOf x.toNat)) := by
  have hcovers : t.layout.covers x 1 = true := CardLayout.covers_iff.mpr ⟨h.1, h.2⟩
  have hcard : t.layout.cardOf x.toNat < t.cards.size := by
    rw [t.size_eq]
    exact CardLayout.cardOf_lt h
  rw [isDirty, if_pos hcovers, CardLayout.cardIndex_of_le h.1, isDirtyCard]
  simp only [bind, Except.bind, Array.getElem?_eq_getElem hcard, Outcome.ofChecked,
    Option.getD_some]

theorem mem_dirtyCards {card : Nat} : card ∈ t.dirtyCards ↔ t.isDirtyCard card = true := by
  rw [dirtyCards, List.mem_filter, List.mem_range, t.size_eq]
  exact ⟨And.right, fun h => ⟨lt_cardCount_of_isDirtyCard h, h⟩⟩

theorem nodup_dirtyCards : t.dirtyCards.Nodup :=
  List.nodup_range.filter _

theorem pairwise_dirtyCards : t.dirtyCards.Pairwise (· < ·) :=
  List.pairwise_lt_range.filter _

theorem toList_cards : t.cards.toList = (List.range t.cards.size).map t.isDirtyCard := by
  apply List.ext_getElem
  · simp
  · intro i hi _
    simp only [Array.length_toList] at hi
    simp [isDirtyCard, hi]

/-- A table is its layout and its dirty cards. -/
theorem ext_of_isDirtyCard {u : CardTable} (hlayout : u.layout = t.layout)
    (hdirty : ∀ card, u.isDirtyCard card = true ↔ t.isDirtyCard card = true) : u = t := by
  have hstate : u.isDirtyCard = t.isDirtyCard := by
    funext card
    exact Bool.eq_iff_iff.mpr (hdirty card)
  have hcards : u.cards = t.cards := by
    rw [← Array.toList_inj, toList_cards, toList_cards, u.size_eq, t.size_eq, hlayout, hstate]
  cases t
  cases u
  cases hlayout
  cases hcards
  rfl

theorem length_dirtyCards : t.dirtyCards.length = t.dirtyCount := by
  rw [dirtyCount, ← Array.count_toList, toList_cards, dirtyCards, ← List.countP_eq_length_filter,
    List.count_eq_countP, List.countP_map]
  congr 1
  funext card
  simp

theorem dirtyCount_clear : t.clear.dirtyCount = 0 := by
  have hnone : t.clear.dirtyCards = [] := by
    apply List.eq_nil_iff_forall_not_mem.mpr
    intro card hcard
    rw [mem_dirtyCards, isDirtyCard_clear] at hcard
    cases hcard
  rw [← length_dirtyCards, hnone]
  rfl

theorem dirtyCount_le : t.dirtyCount ≤ t.layout.cardCount := by
  rw [← t.size_eq]
  exact Array.count_le_size

/-- A word can count the dirty cards. -/
theorem length_dirtyCards_lt : t.dirtyCards.length < 2 ^ 64 := by
  rw [length_dirtyCards]
  exact Nat.lt_of_le_of_lt dirtyCount_le CardLayout.cardCount_lt

end CardTable

end WriteBarrier
