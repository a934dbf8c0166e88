import WriteBarrier.Proofs.Registry.Cards
/-!
The entries of a registry, counted with their repetitions.

Main statements: unregistering a table erases one of its entries, if it has one, and no entry of
another table, whatever becomes of the order; and recording a write leaves the entries, and every
table without one, as they are, whether or not it comes to its end.
-/

namespace WriteBarrier

/-- Moving the last member of a list into a place removes what stood there and nothing else. -/
theorem swapRemove_perm {α : Type} {xs : List α} {i : Nat} (h : i < xs.length) :
    (swapRemove xs i).Perm (xs.eraseIdx i) := by
  rcases List.eq_nil_or_concat xs with rfl | ⟨rest, last, rfl⟩
  · exact absurd h (Nat.not_lt_zero i)
  · simp only [List.concat_eq_append] at h ⊢
    have hswap : swapRemove (rest ++ [last]) i = ((rest ++ [last]).set i last).dropLast := by
      simp only [swapRemove, List.getLast?_concat]
    -- the last member stands at the end also after it was stored at the place
    have hend : ((rest ++ [last]).set i last).getLast? = some last := by
      simp only [List.getLast?_eq_getElem?, List.length_set, List.getElem?_set, List.length_append,
        List.length_singleton, Nat.add_sub_cancel]
      by_cases hi : i = rest.length <;> simp [hi]
    obtain ⟨front, hfront⟩ := List.getLast?_eq_some_iff.mp hend
    have hperm := List.set_perm_cons_eraseIdx h last
    simp only [hswap, hfront, List.dropLast_concat] at hperm ⊢
    exact (List.perm_append_singleton last front).symm.trans hperm |>.cons_inv

namespace Registry

variable {r removed : Registry} {id : TableId}

/-! ### Unregistering -/

theorem unregister_eq_none_iff : r.unregister id = none ↔ id ∉ r.entries := by
  unfold unregister
  cases hplace : r.entries.idxOf? id with
  | none => simp [List.idxOf?_eq_none_iff.mp hplace]
  | some i =>
    obtain ⟨hi, hid, _⟩ := List.idxOf?_eq_some_iff.mp hplace
    simp [← hid]

/-- One entry of the table goes, and no other entry does. -/
theorem entries_unregister (h : r.unregister id = some removed) :
    removed.entries.Perm (r.entries.erase id) := by
  unfold unregister at h
  cases hplace : r.entries.idxOf? id with
  | none =>
    simp only [hplace] at h
    cases h
  | some i =>
    simp only [hplace] at h
    cases h
    obtain ⟨hi, hid, _⟩ := List.idxOf?_eq_some_iff.mp hplace
    have hmem : id ∈ r.entries := hid ▸ List.getElem_mem hi
    have hplaced : (id :: r.entries.eraseIdx i).Perm (id :: r.entries.erase id) :=
      (hid ▸ List.getElem_cons_eraseIdx_perm hi).trans (List.perm_cons_erase hmem)
    exact (swapRemove_perm hi).trans hplaced.cons_inv

/-- A registered table loses an entry, and the tables stay what they are. -/
theorem exists_unregister (h : id ∈ r.entries) : ∃ removed, r.unregister id = some removed ∧
    removed.tables = r.tables ∧ removed.entries.Perm (r.entries.erase id) := by
  cases hremoved : r.unregister id with
  | none => exact absurd h (unregister_eq_none_iff.mp hremoved)
  | some removed => exact ⟨removed, rfl, tables_unregister hremoved, entries_unregister hremoved⟩

/-! ### Recording -/

/-- Marking the tables of some entries touches no other table, even where it stops at a fault.  The
induction is on the entries. -/
theorem getElem?_markEntries (tables : Array CardTable) (start stop cards : UInt64)
    {ids : List TableId} (h : id ∉ ids) :
    (markEntries tables start stop cards ids).1[id]? = tables[id]? := by
  induction ids generalizing tables cards with
  | nil => rfl
  | cons first rest ih =>
    obtain ⟨hfirst, hrest⟩ := not_or.mp (mt List.mem_cons.mpr h)
    have hother : ∀ t, (tables.setIfInBounds first t)[id]? = tables[id]? :=
      fun t => Array.getElem?_setIfInBounds_ne (Ne.symm hfirst)
    rw [markEntries]
    split
    · exact ih tables cards hrest
    · split
      · rfl
      · split
        · exact hother _
        · exact (ih _ _ hrest).trans (hother _)

theorem size_markEntries (tables : Array CardTable) (start stop cards : UInt64)
    (ids : List TableId) :
    (markEntries tables start stop cards ids).1.size = tables.size := by
  induction ids generalizing tables cards with
  | nil => rfl
  | cons first rest ih =>
    rw [markEntries]
    split
    · exact ih tables cards
    · split
      · rfl
      · split
        · exact Array.size_setIfInBounds
        · exact (ih _ _).trans Array.size_setIfInBounds

end Registry

end WriteBarrier
