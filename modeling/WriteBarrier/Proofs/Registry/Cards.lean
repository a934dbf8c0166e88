import WriteBarrier.CardTable.Registry
import WriteBarrier.Proofs.CardTable.Drain
import Mathlib.Algebra.BigOperators.Group.Finset.Sigma
import Mathlib.Algebra.BigOperators.Group.Finset.Piecewise
import Mathlib.Algebra.Order.BigOperators.Group.Finset
/-!
The cards of all tables of a registry: which of them are dirty, how many there are, and what an
exchange of one table changes.

Main statements: exchanging a table by another state of it keeps every layout and changes the cards
of that table alone, and a new table brings no dirty card; the dirty cards of all tables are as many
as the sum of their counts.
-/

namespace WriteBarrier

namespace Registry

variable {r : Registry} {id : TableId} {t u : CardTable}

/-- The layouts of all tables, in the order of their numbers. -/
def layouts (r : Registry) : Array CardLayout :=
  r.tables.map CardTable.layout

/-- The layout of a table by its number. -/
def layout? (r : Registry) (id : TableId) : Option CardLayout :=
  r.layouts[id]?

/-- A card of a table is dirty. -/
def Dirty (r : Registry) (id : TableId) (card : Nat) : Prop :=
  ∃ t, r.get? id = some t ∧ t.isDirtyCard card = true

/-- A covered byte of a card of a table lies in the range of bytes. -/
def Meets (r : Registry) (id : TableId) (card address bytes : Nat) : Prop :=
  ∃ l, r.layout? id = some l ∧ l.Meets card address bytes

/-- The number of cards of a table. -/
def cardCount (r : Registry) (id : TableId) : Nat :=
  ((r.layout? id).map CardLayout.cardCount).getD 0

/-- The number of dirty cards of a table. -/
def dirtyCount (r : Registry) (id : TableId) : Nat :=
  ((r.get? id).map CardTable.dirtyCount).getD 0

/-- The number of cards of the registered tables, each counted once. -/
def registeredCards (r : Registry) : Nat :=
  ∑ id ∈ r.entries.toFinset, r.cardCount id

/-- The dirty cards of a table, ascending. -/
def dirtyCards (r : Registry) (id : TableId) : List Nat :=
  ((r.get? id).map CardTable.dirtyCards).getD []

/-- The dirty cards of all tables, each with the number of its table. -/
def dirtyPairs (r : Registry) : Finset ((_ : TableId) × Nat) :=
  (Finset.range r.tables.size).sigma fun id => (r.dirtyCards id).toFinset

theorem layout?_eq_map : r.layout? id = (r.get? id).map CardTable.layout :=
  Array.getElem?_map ..

theorem layout?_of_get? (h : r.get? id = some t) : r.layout? id = some t.layout := by
  rw [layout?_eq_map, h]
  rfl

theorem size_layouts : r.layouts.size = r.tables.size :=
  Array.size_map ..

theorem layout?_congr {r' : Registry} (h : r'.layouts = r.layouts) (id : TableId) :
    r'.layout? id = r.layout? id := by
  rw [layout?, layout?, h]

theorem meets_congr {r' : Registry} (h : r'.layouts = r.layouts) {card address bytes : Nat} :
    r'.Meets id card address bytes ↔ r.Meets id card address bytes := by
  simp only [Meets, layout?_congr h]

theorem cardCount_congr {r' : Registry} (h : r'.layouts = r.layouts) (id : TableId) :
    r'.cardCount id = r.cardCount id := by
  rw [cardCount, cardCount, layout?_congr h]

/-- The capacity of the registered tables hangs on which tables record and on layouts alone. -/
theorem registeredCards_congr {r' : Registry} (hentries : ∀ id, id ∈ r'.entries ↔ id ∈ r.entries)
    (hlayouts : r'.layouts = r.layouts) : r'.registeredCards = r.registeredCards := by
  have hsame : r'.entries.toFinset = r.entries.toFinset := by
    ext id
    rw [List.mem_toFinset, List.mem_toFinset, hentries]
  simp only [registeredCards, hsame, cardCount_congr hlayouts]

theorem dirty_iff_of_get? (h : r.get? id = some t) {card : Nat} :
    r.Dirty id card ↔ t.isDirtyCard card = true := by
  constructor
  · rintro ⟨u, hu, hdirty⟩
    cases h.symm.trans hu
    exact hdirty
  · intro hdirty
    exact ⟨t, h, hdirty⟩

instance (r : Registry) (id : TableId) (card : Nat) : Decidable (r.Dirty id card) :=
  match hget : r.get? id with
  | none => isFalse fun ⟨_, ht, _⟩ => nomatch hget.symm.trans ht
  | some _ => decidable_of_iff _ (dirty_iff_of_get? hget).symm

theorem not_dirty_of_get?_none (h : r.get? id = none) {card : Nat} : ¬r.Dirty id card := by
  rintro ⟨t, ht, _⟩
  cases h.symm.trans ht

theorem not_meets_of_get?_none (h : r.get? id = none) {card address bytes : Nat} :
    ¬r.Meets id card address bytes := by
  rintro ⟨l, hl, _⟩
  rw [layout?_eq_map, h] at hl
  cases hl

theorem meets_iff_of_get? (h : r.get? id = some t) {card address bytes : Nat} :
    r.Meets id card address bytes ↔ t.layout.Meets card address bytes := by
  rw [Meets, layout?_of_get? h]
  simp

theorem not_meets_zero {card address : Nat} : ¬r.Meets id card address 0 := by
  rintro ⟨l, _, hmeets⟩
  exact CardLayout.not_meets_zero hmeets

theorem meets_add_iff {card address first rest : Nat} :
    r.Meets id card address (first + rest) ↔
      r.Meets id card address first ∨ r.Meets id card (address + first) rest := by
  simp only [Meets, CardLayout.meets_add_iff, and_or_left, exists_or]

theorem tables_unregister {removed : Registry} (h : r.unregister id = some removed) :
    removed.tables = r.tables := by
  unfold unregister at h
  split at h
  · cases h
    rfl
  · cases h

/-! ### A new table -/

theorem lt_size_of_get? (h : r.get? id = some t) : id < r.tables.size :=
  (Array.getElem?_eq_some_iff.mp h).1

theorem get?_insert (r : Registry) (t : CardTable) :
    (r.insert t).get? id = if id = r.tables.size then some t else r.get? id :=
  Array.getElem?_push

theorem layout?_insert {l : CardLayout} (h : r.layout? id = some l) (t : CardTable) :
    (r.insert t).layout? id = some l := by
  rw [layout?_eq_map] at h ⊢
  obtain ⟨u, hu, hlayout⟩ := Option.map_eq_some_iff.mp h
  rw [get?_insert, if_neg (Nat.ne_of_lt (lt_size_of_get? hu)), hu]
  exact congrArg some hlayout

theorem dirty_insert_clean (r : Registry) (layout : CardLayout) {card : Nat} :
    (r.insert (.clean layout)).Dirty id card ↔ r.Dirty id card := by
  unfold Dirty
  rw [get?_insert]
  split
  · next hid =>
    have hnone : r.get? id = none := by rw [hid, get?, Array.getElem?_eq_none (Nat.le_refl _)]
    simp [hnone, CardTable.isDirtyCard_clean]
  · rfl

/-! ### Exchanging one table -/

theorem get?_update_self (h : r.get? id = some t) : (r.update id u).get? id = some u := by
  rw [get?, update, Array.getElem?_setIfInBounds_self_of_lt (lt_size_of_get? h)]

theorem get?_update_of_ne {other : TableId} (h : other ≠ id) :
    (r.update id u).get? other = r.get? other :=
  Array.getElem?_setIfInBounds_ne h.symm

theorem layouts_update (h : r.get? id = some t) (hlayout : u.layout = t.layout) :
    (r.update id u).layouts = r.layouts := by
  obtain ⟨hlt, hget⟩ := Array.getElem?_eq_some_iff.mp h
  have hmap : id < (r.tables.map CardTable.layout).size := by rwa [Array.size_map]
  have hsame : u.layout = (r.tables.map CardTable.layout)[id] := by
    rw [Array.getElem_map, hget, hlayout]
  rw [layouts, layouts, update, Array.map_setIfInBounds, hsame, Array.setIfInBounds, dif_pos hmap,
    Array.set_getElem_self]

theorem dirty_update_self (h : r.get? id = some t) {card : Nat} :
    (r.update id u).Dirty id card ↔ u.isDirtyCard card = true :=
  dirty_iff_of_get? (get?_update_self h)

theorem dirty_update_of_ne {other : TableId} (h : other ≠ id) {card : Nat} :
    (r.update id u).Dirty other card ↔ r.Dirty other card := by
  rw [Dirty, Dirty, get?_update_of_ne h]

/-- The tables of a registry are their layouts and their dirty cards. -/
theorem tables_eq_of_dirty_iff {r' : Registry} (hlayouts : r'.layouts = r.layouts)
    (hdirty : ∀ id card, r'.Dirty id card ↔ r.Dirty id card) : r'.tables = r.tables := by
  have hsize : r'.tables.size = r.tables.size := by
    rw [← size_layouts, hlayouts, size_layouts]
  apply Array.ext hsize
  intro id hid' hid
  have hget' : r'.get? id = some r'.tables[id] := Array.getElem?_eq_getElem hid'
  have hget : r.get? id = some r.tables[id] := Array.getElem?_eq_getElem hid
  apply CardTable.ext_of_isDirtyCard
  · have hlayout := layout?_congr hlayouts id
    rw [layout?_of_get? hget', layout?_of_get? hget] at hlayout
    exact Option.some.inj hlayout
  · intro card
    rw [← dirty_iff_of_get? hget', ← dirty_iff_of_get? hget, hdirty]

/-- A registry is its entries, its layouts and its dirty cards. -/
theorem eq_of_dirty_iff {r' : Registry} (hentries : r'.entries = r.entries)
    (hlayouts : r'.layouts = r.layouts) (hdirty : ∀ id card, r'.Dirty id card ↔ r.Dirty id card) :
    r' = r :=
  congrArg₂ Registry.mk (tables_eq_of_dirty_iff hlayouts hdirty) hentries

/-! ### Counting cards -/

theorem dirtyCount_of_get? (h : r.get? id = some t) : r.dirtyCount id = t.dirtyCount := by
  rw [dirtyCount, h]
  rfl

theorem dirtyCount_le : r.dirtyCount id ≤ r.cardCount id := by
  rw [dirtyCount, cardCount, layout?_eq_map]
  cases r.get? id with
  | none => exact Nat.le_refl 0
  | some t => exact t.dirtyCount_le

theorem sum_dirtyCount_le (ids : Finset TableId) :
    ∑ id ∈ ids, r.dirtyCount id ≤ ∑ id ∈ ids, r.cardCount id :=
  Finset.sum_le_sum fun _ _ => dirtyCount_le

/-- An exchanged table takes its old count out of the sum over every set with the table, and puts
its new count into it. -/
theorem sum_dirtyCount_exchange {ids : Finset TableId} (h : r.get? id = some t) (hid : id ∈ ids) :
    ∑ i ∈ ids, (r.update id u).dirtyCount i + t.dirtyCount =
      ∑ i ∈ ids, r.dirtyCount i + u.dirtyCount := by
  have hothers : ∑ i ∈ ids.erase id, (r.update id u).dirtyCount i =
      ∑ i ∈ ids.erase id, r.dirtyCount i := by
    apply Finset.sum_congr rfl
    intro i hi
    rw [dirtyCount, get?_update_of_ne (Finset.ne_of_mem_erase hi), dirtyCount]
  rw [← Finset.add_sum_erase _ _ hid, ← Finset.add_sum_erase _ r.dirtyCount hid, hothers,
    dirtyCount_of_get? (get?_update_self h), dirtyCount_of_get? h]
  omega

/-- Cards that become dirty in one table add to the sum over every set with the table. -/
theorem sum_dirtyCount_update {fresh : Nat} {ids : Finset TableId} (h : r.get? id = some t)
    (hcount : u.dirtyCount = t.dirtyCount + fresh) (hid : id ∈ ids) :
    ∑ i ∈ ids, (r.update id u).dirtyCount i = ∑ i ∈ ids, r.dirtyCount i + fresh := by
  have hexchange := sum_dirtyCount_exchange (u := u) h hid
  omega

theorem mem_dirtyPairs {card : Nat} : ⟨id, card⟩ ∈ r.dirtyPairs ↔ r.Dirty id card := by
  rw [dirtyPairs, Finset.mem_sigma, Finset.mem_range, List.mem_toFinset, dirtyCards]
  cases h : r.get? id with
  | none => simp [not_dirty_of_get?_none h]
  | some t => simp [lt_size_of_get? h, dirty_iff_of_get? h, CardTable.mem_dirtyCards]

theorem dirtyPairs_subset {r' : Registry} (h : ∀ id card, r.Dirty id card → r'.Dirty id card) :
    r.dirtyPairs ⊆ r'.dirtyPairs := by
  rintro ⟨id, card⟩ hdirty
  rw [mem_dirtyPairs] at hdirty ⊢
  exact h id card hdirty

theorem dirtyPairs_congr {r' : Registry} (h : r'.tables = r.tables) :
    r'.dirtyPairs = r.dirtyPairs := by
  simp only [dirtyPairs, dirtyCards, get?, h]

/-- The dirty cards of all tables are as many as the sum of their counts. -/
theorem card_dirtyPairs {all : Finset TableId} (h : ∀ id < r.tables.size, id ∈ all) :
    r.dirtyPairs.card = ∑ id ∈ all, r.dirtyCount id := by
  have hsubset : Finset.range r.tables.size ⊆ all := by
    intro id hid
    exact h id (Finset.mem_range.mp hid)
  have houtside : ∀ id ∈ all, id ∉ Finset.range r.tables.size → r.dirtyCount id = 0 := by
    intro id _ hid
    rw [Finset.mem_range, Nat.not_lt] at hid
    rw [dirtyCount, get?, Array.getElem?_eq_none hid]
    rfl
  rw [← Finset.sum_subset hsubset houtside, dirtyPairs, Finset.card_sigma]
  apply Finset.sum_congr rfl
  intro id _
  rw [dirtyCards, dirtyCount]
  cases r.get? id with
  | none => rfl
  | some t =>
    simp [List.toFinset_card_of_nodup CardTable.nodup_dirtyCards, CardTable.length_dirtyCards]

/-- The number of dirty cards of all tables that were made, registered or not. -/
def dirtyTotal (r : Registry) : Nat :=
  ∑ id ∈ Finset.range r.tables.size, r.dirtyCount id

theorem dirtyTotal_eq_card : r.dirtyTotal = r.dirtyPairs.card :=
  (card_dirtyPairs fun _ => Finset.mem_range.mpr).symm

theorem dirtyTotal_congr {r' : Registry} (h : ∀ id card, r'.Dirty id card ↔ r.Dirty id card) :
    r'.dirtyTotal = r.dirtyTotal := by
  have hsame : r'.dirtyPairs = r.dirtyPairs :=
    Finset.Subset.antisymm (dirtyPairs_subset fun id card => (h id card).mp)
      (dirtyPairs_subset fun id card => (h id card).mpr)
  rw [dirtyTotal_eq_card, dirtyTotal_eq_card, hsame]

theorem dirtyTotal_update (h : r.get? id = some t) (u : CardTable) :
    (r.update id u).dirtyTotal + t.dirtyCount = r.dirtyTotal + u.dirtyCount := by
  have hsize : (r.update id u).tables.size = r.tables.size := Array.size_setIfInBounds
  rw [dirtyTotal, hsize]
  exact sum_dirtyCount_exchange h (Finset.mem_range.mpr (lt_size_of_get? h))

end Registry

end WriteBarrier
