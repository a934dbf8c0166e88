import WriteBarrier.Proofs.CardTable.Coverage
import WriteBarrier.Proofs.Registry.Cards
/-!
Recording a write in the registered card tables.

Main statements: a write dirties exactly the cards of registered tables that it meets; where the
registered tables have fewer cards together than a word can count, recording does not fault, counts
each card that went from clean to dirty once, and counts each byte that some table covers once.
-/

namespace WriteBarrier

namespace Registry

variable {r marked : Registry}

/-- `marked` is the registry after a write of some bytes was recorded in some tables. -/
structure Marked (r marked : Registry) (ids : List TableId) (address bytes : Nat) : Prop where
  entries_eq : marked.entries = r.entries
  layouts_eq : marked.layouts = r.layouts
  dirty_iff : ∀ id card, marked.Dirty id card ↔
    r.Dirty id card ∨ id ∈ ids ∧ r.Meets id card address bytes

theorem Marked.refl (r : Registry) (address bytes : Nat) : Marked r r [] address bytes where
  entries_eq := rfl
  layouts_eq := rfl
  dirty_iff id card := by simp

theorem Marked.trans {after : Registry} {first rest : List TableId} {address bytes : Nat}
    (h : Marked r marked first address bytes) (hrest : Marked marked after rest address bytes) :
    Marked r after (first ++ rest) address bytes where
  entries_eq := hrest.entries_eq.trans h.entries_eq
  layouts_eq := hrest.layouts_eq.trans h.layouts_eq
  dirty_iff id card := by
    rw [hrest.dirty_iff, h.dirty_iff, meets_congr h.layouts_eq, List.mem_append, or_and_right,
      or_assoc]

theorem Marked.skip {id : TableId} (hget : r.get? id = none) (address bytes : Nat) :
    Marked r r [id] address bytes where
  entries_eq := rfl
  layouts_eq := rfl
  dirty_iff other card := by
    constructor
    · exact Or.inl
    · rintro (h | ⟨hmem, hmeets⟩)
      · exact h
      · rw [List.mem_singleton.mp hmem] at hmeets
        exact absurd hmeets (not_meets_of_get?_none hget)

theorem Marked.update {id : TableId} {t u : CardTable} {address bytes fresh : Nat}
    (hget : r.get? id = some t) (h : t.Marked u address bytes fresh) :
    Marked r (r.update id u) [id] address bytes where
  entries_eq := rfl
  layouts_eq := layouts_update hget h.layout_eq
  dirty_iff other card := by
    rw [List.mem_singleton]
    by_cases hother : other = id
    · subst hother
      rw [dirty_update_self hget, h.isDirtyCard_iff, dirty_iff_of_get? hget,
        meets_iff_of_get? hget]
      simp
    · rw [dirty_update_of_ne hother]
      simp [hother]

/-- The part of a write that a table covers is marked without a fault. -/
theorem markTable_eq_ok (t : CardTable) (address bytes : UInt64) :
    ∃ marked fresh, markTable t address (saturatingAdd address bytes) = .ok (marked, fresh) ∧
      t.Marked marked address.toNat bytes.toNat fresh := by
  have hlo : (max address t.layout.base).toNat = max address.toNat t.layout.start :=
    UInt64.toNat_max ..
  have hhi : (min (saturatingAdd address bytes) t.layout.endWord).toNat =
      min (min (address.toNat + bytes.toNat) 0xFFFFFFFFFFFFFFFF) t.layout.stop := by
    rw [UInt64.toNat_min, toNat_saturatingAdd, CardLayout.toNat_endWord]
  rw [markTable]
  split
  · next hlt =>
    rw [UInt64.lt_iff_toNat_lt] at hlt
    have hlen : (min (saturatingAdd address bytes) t.layout.endWord -
        max address t.layout.base).toNat =
          (min (saturatingAdd address bytes) t.layout.endWord).toNat -
            (max address t.layout.base).toNat := toNat_sub_of_le (Nat.le_of_lt hlt)
    have hcovers : t.layout.covers (max address t.layout.base)
        (min (saturatingAdd address bytes) t.layout.endWord - max address t.layout.base) =
          true := by
      rw [CardLayout.covers_iff, hlen]
      omega
    obtain ⟨marked, fresh, hok, hmarked⟩ := CardTable.dirtyRange_of_covers hcovers
    refine ⟨marked, fresh, by rw [hok], hmarked.layout_eq, ?_, hmarked.dirtyCount_eq⟩
    intro card
    rw [hmarked.isDirtyCard_iff, hlen, CardLayout.meets_clip_iff hlo hhi]
  · next hge =>
    rw [UInt64.lt_iff_toNat_lt, hlo, hhi, Nat.not_lt] at hge
    refine ⟨t, 0, rfl, rfl, ?_, rfl⟩
    intro card
    have hmeets : ¬t.layout.Meets card address.toNat bytes.toNat := CardLayout.not_meets_of_le hge
    constructor
    · exact Or.inl
    · rintro (h | h)
      · exact h
      · exact absurd h hmeets

/-- A write is recorded in a list of tables without a fault, if the cards counted before and the
clean cards of a set with all these tables come to a word.  The induction is on the list; the bound
is its invariant, since a card that is counted is clean no more. -/
theorem markEntries_eq_ok (address bytes : UInt64) (bound : Finset TableId) (ids : List TableId)
    (r : Registry) (cards : UInt64) (hbound : ∀ id ∈ ids, id ∈ bound)
    (hfit : cards.toNat + ∑ id ∈ bound, r.cardCount id <
      2 ^ 64 + ∑ id ∈ bound, r.dirtyCount id) :
    ∃ marked total, markEntries r.tables address (saturatingAdd address bytes) cards ids =
        (marked.tables, .ok total) ∧
      Marked r marked ids address.toNat bytes.toNat ∧
      ∀ all : Finset TableId, (∀ id ∈ ids, id ∈ all) →
        ∑ id ∈ all, marked.dirtyCount id + cards.toNat =
          ∑ id ∈ all, r.dirtyCount id + total.toNat := by
  induction ids generalizing r cards with
  | nil => exact ⟨r, cards, rfl, Marked.refl .., fun _ _ => rfl⟩
  | cons id rest ih =>
    have hid : id ∈ bound := hbound id List.mem_cons_self
    have hrest : ∀ i ∈ rest, i ∈ bound := fun i hi => hbound i (List.mem_cons_of_mem _ hi)
    rw [markEntries]
    cases hget : r.tables[id]? with
    | none =>
      obtain ⟨marked, total, hok, hmarked, hcount⟩ := ih r cards hrest hfit
      refine ⟨marked, total, hok, (Marked.skip hget ..).trans hmarked, ?_⟩
      intro all hall
      exact hcount all fun i hi => hall i (List.mem_cons_of_mem _ hi)
    | some t =>
      obtain ⟨u, fresh, htable, htmarked⟩ := markTable_eq_ok t address bytes
      have hone := Marked.update hget htmarked
      have hsum : ∀ all : Finset TableId, id ∈ all →
          ∑ i ∈ all, (r.update id u).dirtyCount i = ∑ i ∈ all, r.dirtyCount i + fresh :=
        fun _ hall => sum_dirtyCount_update hget htmarked.dirtyCount_eq hall
      -- the cards of the table that are dirty now are no more than its cards
      have hle := (r.update id u).sum_dirtyCount_le bound
      rw [hsum bound hid] at hle
      simp only [cardCount_congr hone.layouts_eq] at hle
      have hfresh : (UInt64.ofNat fresh).toNat = fresh :=
        UInt64.toNat_ofNat_of_lt' (by change fresh < 2 ^ 64; omega)
      have hsmall : cards.toNat + (UInt64.ofNat fresh).toNat < 2 ^ 64 := by omega
      have hadd : (cards + UInt64.ofNat fresh).toNat = cards.toNat + fresh := by
        rw [toNat_add_of_lt hsmall, hfresh]
      obtain ⟨marked, total, hok, hmarked, hcount⟩ :=
        ih (r.update id u) (cards + UInt64.ofNat fresh) hrest (by
          rw [hadd, hsum bound hid]
          simp only [cardCount_congr hone.layouts_eq]
          omega)
      refine ⟨marked, total, ?_, hone.trans hmarked, ?_⟩
      · simp only [htable, checkedAdd_of_lt hsmall]
        exact hok
      · intro all hall
        have hcounted := hcount all fun i hi => hall i (List.mem_cons_of_mem _ hi)
        rw [hadd, hsum all (hall id List.mem_cons_self)] at hcounted
        omega

/-! ### Covered bytes -/

/-- The registered tables, in the order of the entries. -/
def registered (r : Registry) : List CardTable :=
  r.entries.filterMap r.get?

/-- A byte that some registered table covers. -/
def Covers (r : Registry) (x : Nat) : Prop :=
  ∃ t ∈ r.registered, t.layout.Contains x

instance (r : Registry) : DecidablePred r.Covers :=
  fun x => inferInstanceAs (Decidable (∃ t ∈ r.registered, t.layout.Contains x))

/-- The bytes of a write that some registered table covers. -/
def coveredSet (r : Registry) (address bytes : Nat) : Finset Nat :=
  (Finset.Ico address (address + bytes)).filter r.Covers

/-- A byte of the write lies in no registered table. -/
def Uncovered (r : Registry) (address bytes : Nat) : Prop :=
  ∃ x ∈ Finset.Ico address (address + bytes), ¬r.Covers x

instance (r : Registry) (address bytes : Nat) : Decidable (r.Uncovered address bytes) :=
  inferInstanceAs (Decidable (∃ x ∈ Finset.Ico address (address + bytes), ¬r.Covers x))

/-- Which bytes are covered hangs on the registered tables' layouts alone. -/
theorem covers_iff {x : Nat} :
    r.Covers x ↔ ∃ id ∈ r.entries, ∃ l, r.layout? id = some l ∧ l.Contains x := by
  simp only [Covers, registered, List.mem_filterMap, layout?_eq_map, Option.map_eq_some_iff]
  constructor
  · rintro ⟨t, ⟨id, hid, hget⟩, hin⟩
    exact ⟨id, hid, t.layout, ⟨t, hget, rfl⟩, hin⟩
  · rintro ⟨id, hid, _, ⟨t, hget, rfl⟩, hin⟩
    exact ⟨t, ⟨id, hid, hget⟩, hin⟩

/-- Neither the order nor the repetition of the entries matters to coverage. -/
theorem covers_congr {r' : Registry} (hentries : ∀ id, id ∈ r'.entries ↔ id ∈ r.entries)
    (hlayouts : r'.layouts = r.layouts) {x : Nat} : r'.Covers x ↔ r.Covers x := by
  simp only [covers_iff, hentries, layout?_congr hlayouts]

theorem uncovered_congr {r' : Registry} (hentries : ∀ id, id ∈ r'.entries ↔ id ∈ r.entries)
    (hlayouts : r'.layouts = r.layouts) {address bytes : Nat} :
    r'.Uncovered address bytes ↔ r.Uncovered address bytes := by
  simp only [Uncovered, covers_congr hentries hlayouts]

/-- A write in two parts has a byte outside every registered table where one of its parts has. -/
theorem uncovered_add_iff {address first rest : Nat} :
    r.Uncovered address (first + rest) ↔
      r.Uncovered address first ∨ r.Uncovered (address + first) rest := by
  simp only [Uncovered, Finset.mem_Ico]
  constructor
  · rintro ⟨x, ⟨hlo, hhi⟩, hx⟩
    by_cases hfirst : x < address + first
    · exact Or.inl ⟨x, ⟨hlo, hfirst⟩, hx⟩
    · exact Or.inr ⟨x, by omega, hx⟩
  · rintro (⟨x, ⟨hlo, hhi⟩, hx⟩ | ⟨x, ⟨hlo, hhi⟩, hx⟩)
    · exact ⟨x, by omega, hx⟩
    · exact ⟨x, by omega, hx⟩

theorem not_uncovered_zero {address : Nat} : ¬r.Uncovered address 0 := by
  rintro ⟨x, hx, _⟩
  rw [Finset.mem_Ico] at hx
  omega

theorem covered_ranges_iff {x : Nat} : Coverage.Covered r.ranges x ↔ r.Covers x := by
  simp only [Coverage.Covered, ranges, List.mem_map, Covers, registered]
  constructor
  · rintro ⟨_, ⟨t, ht, rfl⟩, hlo, hhi⟩
    exact ⟨t, ht, hlo, by rwa [CardLayout.toNat_endWord] at hhi⟩
  · rintro ⟨t, ht, hlo, hhi⟩
    exact ⟨_, ⟨t, ht, rfl⟩, hlo, by rwa [CardLayout.toNat_endWord]⟩

/-- No table covers the last byte of the address space, or one past it. -/
theorem Covers.lt {x : Nat} (h : r.Covers x) : x < 2 ^ 64 - 1 := by
  obtain ⟨t, _, _, hhi⟩ := h
  have hstop := t.layout.stop_lt
  omega

/-- Cutting a write off at the end of the address space loses no covered byte. -/
theorem coveredSet_ranges (address bytes : UInt64) :
    Coverage.coveredSet r.ranges address.toNat (saturatingAdd address bytes).toNat =
      r.coveredSet address.toNat bytes.toNat := by
  ext x
  rw [Coverage.mem_coveredSet, coveredSet, Finset.mem_filter, Finset.mem_Ico, covered_ranges_iff,
    toNat_saturatingAdd]
  constructor
  · rintro ⟨⟨hlo, hhi⟩, hcovers⟩
    exact ⟨⟨hlo, by omega⟩, hcovers⟩
  · rintro ⟨⟨hlo, hhi⟩, hcovers⟩
    have hlt := hcovers.lt
    exact ⟨⟨hlo, by omega⟩, hcovers⟩

/-- Fewer bytes are covered than written exactly where some byte is not covered. -/
theorem card_coveredSet_lt_iff {address bytes : Nat} :
    (r.coveredSet address bytes).card < bytes ↔ r.Uncovered address bytes := by
  have hcard : (Finset.Ico address (address + bytes)).card = bytes := by
    rw [Nat.card_Ico, Nat.add_sub_cancel_left]
  constructor
  · intro hlt
    by_contra hall
    have hfilter : r.coveredSet address bytes = Finset.Ico address (address + bytes) := by
      apply Finset.filter_true_of_mem
      intro x hx
      by_contra hcovers
      exact hall ⟨x, hx, hcovers⟩
    rw [hfilter, hcard] at hlt
    exact Nat.lt_irrefl _ hlt
  · intro huncovered
    have hlt := Finset.card_lt_card (Finset.filter_ssubset.mpr huncovered)
    rwa [hcard] at hlt

/-! ### Recording -/

/-- The cards of all tables that are dirty in the second registry and clean in the first. -/
def newlyDirty (r after : Registry) : Finset ((_ : TableId) × Nat) :=
  after.dirtyPairs \ r.dirtyPairs

theorem newlyDirty_self (r : Registry) : r.newlyDirty r = ∅ :=
  Finset.sdiff_self _

/-- The dirty cards of a registry and those that became dirty since are all that are dirty now. -/
theorem card_dirtyPairs_add_newlyDirty {after : Registry} (h : r.dirtyPairs ⊆ after.dirtyPairs) :
    r.dirtyPairs.card + (r.newlyDirty after).card = after.dirtyPairs.card := by
  have hle := Finset.card_le_card h
  rw [newlyDirty, Finset.card_sdiff_of_subset h]
  omega

/-- Where no card is cleaned in between, cards that become dirty are counted once. -/
theorem card_newlyDirty_trans {after : Registry} (h : r.dirtyPairs ⊆ marked.dirtyPairs)
    (hafter : marked.dirtyPairs ⊆ after.dirtyPairs) :
    (r.newlyDirty after).card = (r.newlyDirty marked).card + (marked.newlyDirty after).card := by
  have hfirst := card_dirtyPairs_add_newlyDirty h
  have hrest := card_dirtyPairs_add_newlyDirty hafter
  have hall := card_dirtyPairs_add_newlyDirty (h.trans hafter)
  omega

/-- A write only adds dirty cards, and as many as the counts of all tables grow. -/
theorem card_newlyDirty {ids : List TableId} {address bytes : Nat}
    (h : Marked r marked ids address bytes) (all : Finset TableId)
    (hall : ∀ id < r.tables.size, id ∈ all) :
    ∑ id ∈ all, marked.dirtyCount id =
      ∑ id ∈ all, r.dirtyCount id + (r.newlyDirty marked).card := by
  have hsize : marked.tables.size = r.tables.size := by
    rw [← size_layouts, h.layouts_eq, size_layouts]
  have hsubset : r.dirtyPairs ⊆ marked.dirtyPairs :=
    dirtyPairs_subset fun id card hdirty => (h.dirty_iff id card).mpr (Or.inl hdirty)
  rw [← card_dirtyPairs hall, ← card_dirtyPairs (by rwa [hsize]),
    card_dirtyPairs_add_newlyDirty hsubset]

/-- Where the registered tables have fewer cards together than a word can count, a write is recorded
without a fault, counts the cards that it dirties, and counts the bytes that some table covers. -/
theorem record_eq_ok (r : Registry) (address bytes : UInt64) (hfit : r.registeredCards < 2 ^ 64) :
    ∃ marked recorded, r.record address bytes = (marked, .ok recorded) ∧
      Marked r marked r.entries address.toNat bytes.toNat ∧
      recorded.cards.toNat = (r.newlyDirty marked).card ∧
      recorded.covered.toNat = (r.coveredSet address.toNat bytes.toNat).card := by
  obtain ⟨marked, total, hentries, hmarked, hcount⟩ :=
    markEntries_eq_ok address bytes r.entries.toFinset r.entries r 0
      (fun id hid => List.mem_toFinset.mpr hid) (by
        rw [UInt64.toNat_zero]
        unfold registeredCards at hfit
        omega)
  obtain ⟨covered, hcovered, hcovered_eq⟩ :=
    coveredBytes_eq_ok r.ranges address (saturatingAdd address bytes)
  refine ⟨marked, ⟨total, covered⟩, ?_, hmarked, ?_, ?_⟩
  · rw [record, hentries]
    simp only [hcovered, bind, Except.bind, pure, Except.pure, ← hmarked.entries_eq]
  · -- count over all tables and all entries
    have hsum := hcount (Finset.range r.tables.size ∪ r.entries.toFinset) (fun id hid =>
      Finset.mem_union_right _ (List.mem_toFinset.mpr hid))
    rw [card_newlyDirty hmarked _ (fun id hid =>
      Finset.mem_union_left _ (Finset.mem_range.mpr hid)), UInt64.toNat_zero] at hsum
    dsimp only
    omega
  · rw [hcovered_eq, coveredSet_ranges]

end Registry

end WriteBarrier
