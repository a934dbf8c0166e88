import WriteBarrier.Proofs.CardTable.Drain
/-!
The ranges that a drain reports, as sets of bytes.

Main statement: the ranges of the dirty cards stand in address order inside the covered range, none
is empty and no two share a byte, and together they hold exactly the covered bytes whose cards are
dirty.
-/

namespace WriteBarrier

/-- The byte lies in one of the ranges, which are given by their starts and lengths. -/
def InRanges (ranges : List (UInt64 × UInt64)) (x : Nat) : Prop :=
  ∃ range ∈ ranges, range.1.toNat ≤ x ∧ x < range.1.toNat + range.2.toNat

/-- The starts and lengths of the ranges as numbers. -/
def spans (ranges : List (UInt64 × UInt64)) : List (Nat × Nat) :=
  ranges.map fun range => (range.1.toNat, range.2.toNat)

namespace CardLayout

variable {l : CardLayout} {card : Nat} {cards : List Nat}

/-- The covered part of a card, as the numbers of its start and its length. -/
def cardSpan (l : CardLayout) (card : Nat) : Nat × Nat :=
  (l.cardStart card, min (l.cardStart (card + 1)) l.stop - l.cardStart card)

/-- Both ends of the covered part of a card are words. -/
theorem toNat_clippedRange (h : card < l.cardCount) :
    ((l.clippedRange card).1.toNat, (l.clippedRange card).2.toNat) = l.cardSpan card := by
  have hstop := l.stop_lt
  have hfirst : l.cardStart card < 2 ^ 64 := Nat.lt_trans (lt_cardCount_iff.mp h) hstop
  have hbytes : min (l.cardStart (card + 1)) l.stop - l.cardStart card < 2 ^ 64 := by omega
  rw [clippedRange, UInt64.toNat_ofNat_of_lt' hfirst, UInt64.toNat_ofNat_of_lt' hbytes, cardSpan]

theorem spans_map_clippedRange (h : ∀ card ∈ cards, card < l.cardCount) :
    spans (cards.map l.clippedRange) = cards.map l.cardSpan := by
  rw [spans, List.map_map]
  exact List.map_congr_left fun card hcard => toNat_clippedRange (h card hcard)

/-- The covered part of a card starts where the card does and ends where the card or the covered
range ends, but not before it starts. -/
theorem clippedRange_ends (h : card < l.cardCount) :
    (l.clippedRange card).1.toNat = l.cardStart card ∧
      (l.clippedRange card).1.toNat + (l.clippedRange card).2.toNat =
        min (l.cardStart (card + 1)) l.stop ∧
      0 < (l.clippedRange card).2.toNat := by
  obtain ⟨hstart, hlength⟩ := Prod.mk.inj (toNat_clippedRange h)
  have hstop := lt_cardCount_iff.mp h
  have hnext : l.cardStart card < l.cardStart (card + 1) :=
    cardStart_lt_cardStart (Nat.lt_succ_self card)
  have hpast : l.cardStart card < min (l.cardStart (card + 1)) l.stop :=
    Nat.lt_min.mpr ⟨hnext, hstop⟩
  rw [hstart, hlength]
  exact ⟨rfl, Nat.add_sub_cancel' (Nat.le_of_lt hpast), Nat.sub_pos_of_lt hpast⟩

/-- The covered part of a card holds the covered bytes of the card. -/
theorem inRanges_map_clippedRange_iff (h : ∀ card ∈ cards, card < l.cardCount) {x : Nat}
    (hx : l.Contains x) : InRanges (cards.map l.clippedRange) x ↔ l.cardOf x ∈ cards := by
  constructor
  · rintro ⟨range, hrange, hlo, hhi⟩
    obtain ⟨card, hcard, rfl⟩ := List.mem_map.mp hrange
    obtain ⟨hstart, hend, _⟩ := clippedRange_ends (h card hcard)
    have hcardOf : l.cardOf x = card := (cardOf_eq_iff hx.1).mpr ⟨by omega, by omega⟩
    rwa [hcardOf]
  · intro hcard
    obtain ⟨hstart, hend, _⟩ := clippedRange_ends (h _ hcard)
    obtain ⟨hlo, hhi⟩ := (cardOf_eq_iff hx.1).mp rfl
    have hstop : x < l.stop := hx.2
    exact ⟨_, List.mem_map_of_mem hcard, by omega, by omega⟩

/-- Cards in ascending order have their covered parts in ascending order. -/
theorem pairwise_map_clippedRange (h : ∀ card ∈ cards, card < l.cardCount)
    (hcards : cards.Pairwise (· < ·)) :
    (cards.map l.clippedRange).Pairwise fun range other =>
      range.1.toNat + range.2.toNat ≤ other.1.toNat := by
  rw [List.pairwise_map]
  apply hcards.imp_of_mem
  intro card other hcard hother hlt
  obtain ⟨_, hend, _⟩ := clippedRange_ends (h card hcard)
  obtain ⟨hstart, _⟩ := clippedRange_ends (h other hother)
  rw [hend, hstart]
  apply Nat.le_trans (Nat.min_le_left ..)
  exact Nat.add_le_add_left (Nat.mul_le_mul_right _ hlt) _

end CardLayout

namespace CardTable

variable {t : CardTable}

/-- The ranges are those of the dirty cards, one for each, in the order of the cards: none is empty
or reaches past the covered range, each ends before the next one starts, and a covered byte lies in
one of them exactly where its card is dirty. -/
structure Covering (t : CardTable) (ranges : List (UInt64 × UInt64)) : Prop where
  spans_eq : spans ranges = t.dirtyCards.map t.layout.cardSpan
  nonempty : ∀ range ∈ ranges, 0 < range.2.toNat
  inside : ∀ range ∈ ranges,
    t.layout.start ≤ range.1.toNat ∧ range.1.toNat + range.2.toNat ≤ t.layout.stop
  ascending : ranges.Pairwise fun range other => range.1.toNat + range.2.toNat ≤ other.1.toNat
  mem_iff : ∀ x : UInt64, t.layout.Contains x.toNat →
    (InRanges ranges x.toNat ↔ t.isDirty x = .ok true)

theorem lt_cardCount_of_mem_dirtyCards : ∀ card ∈ t.dirtyCards, card < t.layout.cardCount :=
  fun _ hcard => lt_cardCount_of_isDirtyCard (mem_dirtyCards.mp hcard)

theorem covering_dirtyCards (t : CardTable) :
    t.Covering (t.dirtyCards.map t.layout.clippedRange) where
  spans_eq := CardLayout.spans_map_clippedRange lt_cardCount_of_mem_dirtyCards
  nonempty range hrange := by
    obtain ⟨card, hcard, rfl⟩ := List.mem_map.mp hrange
    exact (CardLayout.clippedRange_ends (lt_cardCount_of_mem_dirtyCards card hcard)).2.2
  inside range hrange := by
    obtain ⟨card, hcard, rfl⟩ := List.mem_map.mp hrange
    obtain ⟨hstart, hend, _⟩ :=
      CardLayout.clippedRange_ends (lt_cardCount_of_mem_dirtyCards card hcard)
    rw [hend, hstart]
    exact ⟨Nat.le_add_right .., Nat.min_le_right ..⟩
  ascending :=
    CardLayout.pairwise_map_clippedRange lt_cardCount_of_mem_dirtyCards pairwise_dirtyCards
  mem_iff x hx := by
    rw [CardLayout.inRanges_map_clippedRange_iff lt_cardCount_of_mem_dirtyCards hx,
      isDirty_of_contains hx, mem_dirtyCards, Except.ok.injEq]

end CardTable

end WriteBarrier
