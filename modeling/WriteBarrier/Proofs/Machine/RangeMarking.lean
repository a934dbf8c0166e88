import WriteBarrier.Proofs.Machine.Step
/-!
Marking a range of bytes in one table of a run.

Main statement: a range that lies in the table is marked: afterwards the card of a covered byte is
dirty exactly where it was before or a byte of the range lies in the same card, and the answer is the
number of cards by which the table has more dirty ones.  Any other range is refused and changes
nothing.
-/

namespace WriteBarrier

/-- An update of a table by the state that it has changes nothing. -/
theorem Registry.update_self {r : Registry} {id : TableId} {t : CardTable}
    (hget : r.get? id = some t) : r.update id t = r := by
  obtain ⟨hlt, ht⟩ := Array.getElem?_eq_some_iff.mp hget
  have htables : r.tables.setIfInBounds id t = r.tables := by
    rw [Array.setIfInBounds, dif_pos hlt, ← ht, Array.set_getElem_self]
  rw [update, htables]

namespace CardTable

variable {t marked : CardTable} {address bytes : UInt64} {fresh : Nat}

/-- The card of a byte outside the table cannot be asked for. -/
theorem isDirty_of_not_contains {x : UInt64} (h : ¬t.layout.Contains x.toNat) :
    t.isDirty x = .error (.error (.addressOutOfRange x 1)) := by
  apply if_neg
  intro hcovers
  obtain ⟨hlo, hhi⟩ := CardLayout.covers_iff.mp hcovers
  exact h ⟨hlo, hhi⟩

/-- After a range inside the table was marked, the card of a covered byte is dirty exactly where it
was before or a byte of the range lies in the same card. -/
theorem Marked.isDirty_iff (h : t.Marked marked address.toNat bytes.toNat fresh)
    (hcovers : t.layout.covers address bytes = true) {y : UInt64}
    (hy : t.layout.Contains y.toNat) :
    marked.isDirty y = .ok true ↔ t.isDirty y = .ok true ∨
      ∃ x, address.toNat ≤ x ∧ x < address.toNat + bytes.toNat ∧
        t.layout.cardOf x = t.layout.cardOf y.toNat := by
  obtain ⟨hlo, hhi⟩ := CardLayout.covers_iff.mp hcovers
  have hy' : marked.layout.Contains y.toNat := by rwa [h.layout_eq]
  rw [isDirty_of_contains hy, isDirty_of_contains hy', Except.ok.injEq, Except.ok.injEq,
    h.layout_eq, h.isDirtyCard_iff]
  apply or_congr_right
  constructor
  · rintro ⟨x, hx, hxs, _, hcard⟩
    exact ⟨x, hx, hxs, hcard⟩
  · rintro ⟨x, hx, hxs, hcard⟩
    exact ⟨x, hx, hxs, ⟨by omega, by omega⟩, hcard⟩

/-- Marking the same range once more changes nothing. -/
theorem Marked.dirtyRange_again (h : t.Marked marked address.toNat bytes.toNat fresh)
    (hcovers : t.layout.covers address bytes = true) :
    marked.dirtyRange address bytes = .ok (marked, 0) := by
  have hcovers' : marked.layout.covers address bytes = true := by rwa [h.layout_eq]
  obtain ⟨again, more, hok, hagain⟩ := dirtyRange_of_covers hcovers'
  have hsame : again = marked := by
    apply ext_of_isDirtyCard hagain.layout_eq
    intro card
    rw [hagain.isDirtyCard_iff, h.layout_eq, h.isDirtyCard_iff, or_assoc, or_self]
  have hnone : more = 0 := by
    have hcount := hagain.dirtyCount_eq
    rw [hsame] at hcount
    omega
  rw [hok, hsame, hnone]

end CardTable

namespace Machine

variable {s s' : Machine} {id : TableId} {t : CardTable}

theorem step_isDirty_of_get? (hget : s.registry.get? id = some t) (y : UInt64) :
    s.step (.cards (.isDirty id y)) = (s, (t.isDirty y).map .flag) := by
  simp only [step, CardCommand.perform, withTable, hget]

theorem step_dirtyCount_of_get? (hget : s.registry.get? id = some t) :
    s.step (.cards (.dirtyCount id)) = (s, .ok (.count t.dirtyCount)) := by
  simp only [step, CardCommand.perform, withTable, hget]

theorem updateTable_self (hget : s.registry.get? id = some t) : s.updateTable id t = s := by
  rw [updateTable, Registry.update_self hget]

theorem get?_updateTable (hget : s.registry.get? id = some t) (u : CardTable) :
    (s.updateTable id u).registry.get? id = some u :=
  @Registry.get?_update_self s.registry id t u hget

/-- The command answers that the card of the byte is dirty. -/
def ReadsDirty (s : Machine) (id : TableId) (y : UInt64) : Prop :=
  (s.step (.cards (.isDirty id y))).2 = .ok (.flag true)

theorem readsDirty_iff (hget : s.registry.get? id = some t) (y : UInt64) :
    s.ReadsDirty id y ↔ t.isDirty y = .ok true := by
  rw [ReadsDirty, step_isDirty_of_get? hget]
  cases t.isDirty y with
  | error failure => exact ⟨nofun, nofun⟩
  | ok dirty => simp [Except.map]

/-- `s'` is the state after a range of bytes inside the table was marked, of which `fresh` cards went
from clean to dirty.  Nothing but the cards of the table has changed. -/
structure RangeMarked (s s' : Machine) (id : TableId) (t : CardTable) (address bytes : UInt64)
    (fresh : Nat) : Prop where
  only_cards : ∃ marked, s' = s.updateTable id marked ∧ marked.layout = t.layout
  readsDirty_iff : ∀ y : UInt64, t.layout.Contains y.toNat →
    (s'.ReadsDirty id y ↔ s.ReadsDirty id y ∨
      ∃ x, address.toNat ≤ x ∧ x < address.toNat + bytes.toNat ∧
        t.layout.cardOf x = t.layout.cardOf y.toNat)
  dirtyCount_step : ∃ before after,
    (s.step (.cards (.dirtyCount id))).2 = .ok (.count before) ∧
    (s'.step (.cards (.dirtyCount id))).2 = .ok (.count after) ∧ after = before + fresh
  again : s'.step (.cards (.dirtyRange id address bytes)) = (s', .ok (.count 0))
  of_empty : bytes = 0 → s' = s ∧ fresh = 0

theorem step_dirtyRange_of_covers (hget : s.registry.get? id = some t) {address bytes : UInt64}
    (hcovers : t.layout.covers address bytes = true) :
    ∃ s' fresh, s.step (.cards (.dirtyRange id address bytes)) = (s', .ok (.count fresh)) ∧
      RangeMarked s s' id t address bytes fresh := by
  obtain ⟨marked, fresh, hok, hmarked⟩ := CardTable.dirtyRange_of_covers hcovers
  have hget' : (s.updateTable id marked).registry.get? id = some marked :=
    get?_updateTable hget marked
  refine ⟨_, fresh, step_dirtyRange_of_ok hget hok, ⟨marked, rfl, hmarked.layout_eq⟩, ?_, ?_, ?_, ?_⟩
  · intro y hy
    rw [Machine.readsDirty_iff hget, Machine.readsDirty_iff hget', hmarked.isDirty_iff hcovers hy]
  · rw [step_dirtyCount_of_get? hget, step_dirtyCount_of_get? hget']
    exact ⟨_, _, rfl, rfl, hmarked.dirtyCount_eq⟩
  · rw [step_dirtyRange_of_ok hget' (hmarked.dirtyRange_again hcovers), updateTable_self hget']
  · rintro rfl
    rw [CardTable.dirtyRange, if_pos hcovers, if_pos rfl] at hok
    cases hok
    exact ⟨updateTable_self hget, rfl⟩

/-- A range is marked exactly where it lies in the table, as numbers, and then exactly the cards with
a byte of the range are dirty besides those that were; otherwise it is refused and the state is what
it was.  The card of a byte can be asked for exactly where the table covers the byte. -/
theorem step_dirtyRange_exact (hget : s.registry.get? id = some t) (address bytes : UInt64) :
    ((t.layout.start ≤ address.toNat ∧ address.toNat + bytes.toNat ≤ t.layout.stop) ∧
        (∃ s' fresh, s.step (.cards (.dirtyRange id address bytes)) = (s', .ok (.count fresh)) ∧
          RangeMarked s s' id t address bytes fresh) ∨
      ¬(t.layout.start ≤ address.toNat ∧ address.toNat + bytes.toNat ≤ t.layout.stop) ∧
        s.step (.cards (.dirtyRange id address bytes)) =
          (s, .error (.error (.addressOutOfRange address bytes)))) ∧
    ∀ y : UInt64,
      (t.layout.Contains y.toNat ∧
        ∃ dirty, s.step (.cards (.isDirty id y)) = (s, .ok (.flag dirty))) ∨
      (¬t.layout.Contains y.toNat ∧
        s.step (.cards (.isDirty id y)) = (s, .error (.error (.addressOutOfRange y 1)))) := by
  constructor
  · rw [← CardLayout.covers_iff]
    by_cases hcovers : t.layout.covers address bytes = true
    · exact Or.inl ⟨hcovers, step_dirtyRange_of_covers hget hcovers⟩
    · exact Or.inr ⟨hcovers,
        step_dirtyRange_of_error hget (CardTable.dirtyRange_of_not_covers hcovers)⟩
  · intro y
    by_cases hy : t.layout.Contains y.toNat
    · refine Or.inl ⟨hy, t.isDirtyCard (t.layout.cardOf y.toNat), ?_⟩
      rw [step_isDirty_of_get? hget, CardTable.isDirty_of_contains hy]
      rfl
    · refine Or.inr ⟨hy, ?_⟩
      rw [step_isDirty_of_get? hget, CardTable.isDirty_of_not_contains hy]
      rfl

/-- Two bytes on either side of a card boundary dirty the clean card of the two; a range that passes
the end of the address space is refused; and nothing is marked at the end of the table. -/
theorem step_dirtyRange_pair :
    Topmost.pair.registry.get? 0 = some Topmost.partly ∧
      (∃ s', Topmost.pair.step (.cards (.dirtyRange 0 0x23FF 2)) = (s', .ok (.count 1)) ∧
        s'.ReadsDirty 0 0x2200 ∧
        s'.step (.cards (.dirtyRange 0 0x23FF 2)) = (s', .ok (.count 0))) ∧
      Topmost.pair.step (.cards (.dirtyRange 0 0x2400 0xFFFFFFFFFFFFFFFF)) =
        (Topmost.pair, .error (.error (.addressOutOfRange 0x2400 0xFFFFFFFFFFFFFFFF))) ∧
      Topmost.pair.step (.cards (.dirtyRange 0 0x2428 0)) = (Topmost.pair, .ok (.count 0)) := by
  have hget : Topmost.pair.registry.get? 0 = some Topmost.partly := rfl
  refine ⟨hget, ?_, ?_, ?_⟩
  · rcases (step_dirtyRange_exact hget 0x23FF 2).1 with ⟨_, s', fresh, hstep, hmarked⟩ | ⟨hout, _⟩
    · have hanswer : (Topmost.pair.step (.cards (.dirtyRange 0 0x23FF 2))).2 = .ok (.count 1) := by
        decide +kernel
      rw [hstep] at hanswer
      cases hanswer
      refine ⟨s', hstep, ?_, hmarked.again⟩
      exact (hmarked.readsDirty_iff 0x2200 (by decide)).mpr
        (Or.inr ⟨0x23FF, by decide, by decide, by decide⟩)
    · exact absurd (by decide) hout
  · rcases (step_dirtyRange_exact hget 0x2400 0xFFFFFFFFFFFFFFFF).1 with ⟨hin, _⟩ | ⟨_, hstep⟩
    · exact absurd hin (by decide)
    · exact hstep
  · rcases (step_dirtyRange_exact hget 0x2428 0).1 with ⟨_, s', fresh, hstep, hmarked⟩ | ⟨hout, _⟩
    · obtain ⟨rfl, rfl⟩ := hmarked.of_empty rfl
      exact hstep
    · exact absurd (by decide) hout

end Machine

end WriteBarrier
