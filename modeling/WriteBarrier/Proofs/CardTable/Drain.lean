import WriteBarrier.CardTable.Drain
import WriteBarrier.Proofs.CardTable.Marking
import Mathlib.Data.List.TakeWhile
/-!
Draining one card table.

Main statements: a drain leaves every card clean; it reports the clipped range of every dirty card
in ascending order, unless the last card is dirty and ends at the end of the address space, where it
stops before that card and the card is lost.
-/

namespace WriteBarrier

namespace CardTable

variable {t : CardTable}

theorem cardRange?_of_lt {card : Nat} (h : card < t.layout.cardCount)
    (hend : t.layout.cardStart (card + 1) < 2 ^ 64) :
    t.cardRange? card = some (t.layout.clippedRange card) := by
  rw [cardRange?, CardLayout.cardRange_of_lt h hend]

theorem cardRange?_of_le {card : Nat} (h : card < t.layout.cardCount)
    (hend : 2 ^ 64 ≤ t.layout.cardStart (card + 1)) : t.cardRange? card = none := by
  rw [cardRange?, CardLayout.cardRange_of_le h hend]

theorem filterMap_cardRange? {cards : List Nat}
    (h : ∀ card ∈ cards, t.cardRange? card = some (t.layout.clippedRange card)) :
    cards.filterMap t.cardRange? = cards.map t.layout.clippedRange := by
  rw [← List.filterMap_eq_map]
  exact List.filterMap_congr h

theorem drain_of_lt
    (h : ∀ card, t.isDirtyCard card = true → t.layout.cardStart (card + 1) < 2 ^ 64) :
    t.drain = ⟨t.clear, t.dirtyCards.map t.layout.clippedRange, none⟩ := by
  have hrange : ∀ card ∈ t.dirtyCards, t.cardRange? card = some (t.layout.clippedRange card) := by
    intro card hcard
    have hdirty := mem_dirtyCards.mp hcard
    exact cardRange?_of_lt (lt_cardCount_of_isDirtyCard hdirty) (h card hdirty)
  have hall : ∀ card ∈ t.dirtyCards, (t.cardRange? card).isSome = true := by
    intro card hcard
    rw [hrange card hcard]
    rfl
  rw [drain, List.dropWhile_eq_nil_iff.mpr hall, List.takeWhile_eq_self_iff.mpr hall,
    filterMap_cardRange? hrange]

theorem dirtyCards_of_last {last : Nat} (hlast : last + 1 = t.layout.cardCount)
    (hdirty : t.isDirtyCard last = true) :
    t.dirtyCards = (List.range last).filter t.isDirtyCard ++ [last] := by
  rw [dirtyCards, t.size_eq, ← hlast, List.range_succ, List.filter_append,
    List.filter_cons_of_pos hdirty, List.filter_nil]

/-- The last card of a table is the last of its dirty cards, if it is dirty. -/
theorem dropLast_dirtyCards (hdirty : t.isDirtyCard (t.layout.cardCount - 1) = true) :
    t.dirtyCards = t.dirtyCards.dropLast ++ [t.layout.cardCount - 1] := by
  have hlast := dirtyCards_of_last (Nat.sub_add_cancel t.layout.cardCount_pos) hdirty
  rw [hlast, List.dropLast_concat]

/-- Cleaning every card up to the last one cleans the table. -/
theorem cleanThrough_last {last : Nat} (hlast : last + 1 = t.layout.cardCount) :
    t.cleanThrough last = t.clear := by
  have hcards : (t.cards.mapIdx fun i dirty => dirty && decide (last < i)) =
      t.cards.map fun _ => false := by
    apply Array.ext
    · simp
    · intro i hi _
      rw [Array.size_mapIdx, t.size_eq] at hi
      have hle : ¬last < i := by omega
      simp [hle]
  rw [cleanThrough, clear]
  simp only [hcards]

/-- A drain whose last card is dirty and ends at the end of the address space stops there: the card
is clean, like all others, and alone has not been reported. -/
theorem drain_of_le {last : Nat} (hlast : last + 1 = t.layout.cardCount)
    (hdirty : t.isDirtyCard last = true) (hend : 2 ^ 64 ≤ t.layout.cardStart (last + 1)) :
    t.drain =
      ⟨t.clear, t.dirtyCards.dropLast.map t.layout.clippedRange, some .addOverflow⟩ := by
  have hrange : ∀ card ∈ (List.range last).filter t.isDirtyCard,
      t.cardRange? card = some (t.layout.clippedRange card) := by
    intro card hcard
    have hlt := List.mem_range.mp (List.mem_filter.mp hcard).1
    exact cardRange?_of_lt (by omega) (CardLayout.cardStart_succ_lt (by omega))
  have hall : ∀ card ∈ (List.range last).filter t.isDirtyCard,
      (t.cardRange? card).isSome = true := by
    intro card hcard
    rw [hrange card hcard]
    rfl
  have hlt : last < t.layout.cardCount := by omega
  have hnone : ¬(t.cardRange? last).isSome = true := by
    rw [cardRange?_of_le hlt hend]
    exact Bool.false_ne_true
  have hfault : t.cardFault? last = some .addOverflow := by
    rw [cardFault?, CardLayout.cardRange_of_le hlt hend]
  rw [drain, dirtyCards_of_last hlast hdirty, List.takeWhile_append_of_pos hall,
    List.dropWhile_append_of_pos hall,
    List.takeWhile_cons_of_neg (p := fun card => (t.cardRange? card).isSome) hnone,
    List.dropWhile_cons_of_neg (p := fun card => (t.cardRange? card).isSome) hnone,
    List.append_nil, filterMap_cardRange? hrange, List.dropLast_concat]
  simp only [cleanThrough_last hlast, hfault]

/-- No dirty card ends at the end of the address space. -/
def Drainable (t : CardTable) : Prop :=
  t.layout.cardStart t.layout.cardCount < 2 ^ 64 ∨ t.isDirtyCard (t.layout.cardCount - 1) = false

instance (t : CardTable) : Decidable t.Drainable :=
  inferInstanceAs (Decidable (_ ∨ _))

/-- The one way not to be drainable: the last card is dirty and ends exactly where the address space
does. -/
theorem not_drainable_iff : ¬t.Drainable ↔
    t.layout.cardStart t.layout.cardCount = 2 ^ 64 ∧
      t.isDirtyCard (t.layout.cardCount - 1) = true := by
  have hpos := t.layout.cardCount_pos
  have hend : t.layout.cardStart t.layout.cardCount ≤ 2 ^ 64 := by
    have hle := CardLayout.cardStart_succ_le (Nat.sub_lt hpos Nat.one_pos)
    rwa [Nat.sub_add_cancel hpos] at hle
  rw [Drainable, not_or, Nat.not_lt, Bool.not_eq_false]
  constructor
  · rintro ⟨hge, hdirty⟩
    exact ⟨Nat.le_antisymm hend hge, hdirty⟩
  · rintro ⟨heq, hdirty⟩
    exact ⟨Nat.le_of_eq heq.symm, hdirty⟩

theorem drain_of_drainable (h : t.Drainable) :
    t.drain = ⟨t.clear, t.dirtyCards.map t.layout.clippedRange, none⟩ := by
  apply drain_of_lt
  intro card hdirty
  have hlt := lt_cardCount_of_isDirtyCard hdirty
  by_cases hlast : card + 1 < t.layout.cardCount
  · exact CardLayout.cardStart_succ_lt hlast
  · have hcard : t.layout.cardCount = card + 1 := by omega
    rcases h with hend | hclean
    · rwa [← hcard]
    · rw [hcard, Nat.add_sub_cancel, hdirty] at hclean
      cases hclean

/-- A table that is not drainable loses its last card. -/
theorem drain_of_not_drainable (h : ¬t.Drainable) :
    t.drain =
      ⟨t.clear, t.dirtyCards.dropLast.map t.layout.clippedRange, some .addOverflow⟩ := by
  obtain ⟨hend, hdirty⟩ := not_drainable_iff.mp h
  have hlast : t.layout.cardCount - 1 + 1 = t.layout.cardCount :=
    Nat.sub_add_cancel t.layout.cardCount_pos
  exact drain_of_le hlast hdirty (by rw [hlast, hend])

/-- A drain leaves every card clean, even one that stops half way. -/
theorem drain_table : t.drain.table = t.clear := by
  by_cases h : t.Drainable
  · rw [drain_of_drainable h]
  · rw [drain_of_not_drainable h]

end CardTable

/-- Every card that a drain of the table cleaned was reported. -/
def Drained.Lossless (d : Drained) (t : CardTable) : Prop :=
  ∀ card, t.isDirtyCard card = true → d.table.isDirtyCard card = false →
    t.layout.clippedRange card ∈ d.ranges

/-- A drain loses nothing exactly where the table is drainable: otherwise the last card is clean and
its range is none of the reported ones. -/
theorem CardTable.drain_lossless_iff {t : CardTable} : t.drain.Lossless t ↔ t.Drainable := by
  constructor
  · intro hlossless
    by_contra h
    obtain ⟨_, hdirty⟩ := not_drainable_iff.mp h
    have hpos := t.layout.cardCount_pos
    have hlast : t.layout.cardCount - 1 + 1 = t.layout.cardCount := Nat.sub_add_cancel hpos
    have hmem := hlossless _ hdirty (by rw [drain_table, isDirtyCard_clear])
    rw [drain_of_not_drainable h, dirtyCards_of_last hlast hdirty, List.dropLast_concat] at hmem
    obtain ⟨card, hcard, hrange⟩ := List.mem_map.mp hmem
    have hlt := List.mem_range.mp (List.mem_filter.mp hcard).1
    have heq := CardLayout.clippedRange_inj (by omega) (by omega) hrange
    omega
  · intro h card hdirty _
    rw [drain_of_drainable h]
    exact List.mem_map_of_mem (mem_dirtyCards.mpr hdirty)

end WriteBarrier
