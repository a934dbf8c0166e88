import WriteBarrier.Machine.Run
import WriteBarrier.Proofs.CardTable.Ranges
import WriteBarrier.Proofs.Log.Logger
import WriteBarrier.Proofs.Registry.Cards
/-!
Draining a table in a run.

Main statements: a drain comes to its end and reports every card that it cleans exactly where no
dirty card ends at the end of the address space.  A table whose last card does is accepted, though,
and loses that card.  What a drain reports and what it tells the logger are exact: the covered parts
of the dirty cards in address order, and one event with their number.
-/

namespace WriteBarrier

/-- A drain that came to its end can always be told of, by one record and one event. -/
theorem Diagnostics.noteDrain_eq (d : Diagnostics) (clock : Clock) (base dirtyCards : UInt64) :
    ∃ logger forwarded,
      d.logger.log clock (.scanned base dirtyCards clock.elapsed) = (logger, .ok forwarded) ∧
      d.noteDrain clock base dirtyCards =
        ({ d with
            logger
            records := d.records ++ drainedRecord clock base dirtyCards :: forwarded },
          .ok ()) := by
  obtain ⟨forwarded, hlog⟩ := d.logger.log_of_inRange clock
    (e := .scanned base dirtyCards clock.elapsed) trivial
  refine ⟨_, forwarded, hlog, ?_⟩
  simp only [noteDrain, logEvent, emit, hlog, List.append_assoc, List.singleton_append]

namespace Machine

variable {s : Machine} {id : TableId} {t : CardTable}

theorem step_drain_of_get? (hget : s.registry.get? id = some t) :
    s.step (.cards (.drain id)) = s.drainTable id t := by
  simp only [step, CardCommand.perform, withTable, hget]

/-- Whatever comes of a drain, it leaves the table clean and touches no other. -/
theorem fst_drainTable (s : Machine) (id : TableId) (t : CardTable) :
    ∃ diagnostics, (s.drainTable id t).1 =
      { s with registry := s.registry.update id t.clear, diagnostics } := by
  rw [← CardTable.drain_table, drainTable]
  cases t.drain.stopped with
  | some f => exact ⟨_, rfl⟩
  | none =>
    dsimp only
    split <;> exact ⟨_, rfl⟩

/-- A drain that comes to its end answers its ranges, and gives the logger one event with their
number. -/
theorem drainTable_eq_of_drainable (s : Machine) (id : TableId) (h : t.Drainable) :
    ∃ logger forwarded,
      s.diagnostics.logger.log s.clock
          (.scanned t.layout.base (UInt64.ofNat t.drain.ranges.length) s.clock.elapsed) =
        (logger, .ok forwarded) ∧
      s.drainTable id t =
        ({ s with
            registry := s.registry.update id t.clear
            diagnostics :=
              { s.diagnostics with
                logger
                records := s.diagnostics.records ++ Diagnostics.drainedRecord s.clock
                  t.layout.base (UInt64.ofNat t.drain.ranges.length) :: forwarded } },
          .ok (.ranges t.drain.ranges)) := by
  obtain ⟨logger, forwarded, hlog, hnote⟩ := s.diagnostics.noteDrain_eq s.clock t.layout.base
    (UInt64.ofNat t.drain.ranges.length)
  refine ⟨logger, forwarded, hlog, ?_⟩
  rw [drainTable, CardTable.drain_table]
  simp only [CardTable.drain_of_drainable h, updateTable] at hnote ⊢
  rw [hnote]

/-- A drain that is stopped tells nobody. -/
theorem drainTable_eq_of_not_drainable (h : ¬t.Drainable) :
    s.drainTable id t =
      ({ s with registry := s.registry.update id t.clear }, .error (.fault .addOverflow)) := by
  rw [drainTable, CardTable.drain_of_not_drainable h]
  rfl

theorem drainTable_of_drainable (h : t.Drainable) :
    (s.drainTable id t).2 = .ok (.ranges t.drain.ranges) := by
  obtain ⟨logger, forwarded, _, hdrain⟩ := s.drainTable_eq_of_drainable id h
  rw [hdrain]

theorem drainTable_of_not_drainable (h : ¬t.Drainable) :
    (s.drainTable id t).2 = .error (.fault .addOverflow) := by
  rw [drainTable_eq_of_not_drainable h]

/-- A drain comes to its end, and loses no dirty card, exactly where the last card is clean or ends
before the end of the address space.  Otherwise it stops at an overflowing sum, and the last card is
clean by then and alone has not been reported. -/
theorem step_drain_lossless_iff (hget : s.registry.get? id = some t) :
    ((s.step (.cards (.drain id))).2 = .ok (.ranges t.drain.ranges) ↔ t.Drainable) ∧
      (t.drain.Lossless t ↔ t.Drainable) ∧
      (¬t.Drainable →
        (s.step (.cards (.drain id))).2 = .error (.fault .addOverflow) ∧
          t.drain.ranges = t.dirtyCards.dropLast.map t.layout.clippedRange) ∧
      ∀ card, ¬(s.step (.cards (.drain id))).1.registry.Dirty id card := by
  rw [step_drain_of_get? hget]
  refine ⟨⟨?_, drainTable_of_drainable⟩, CardTable.drain_lossless_iff, ?_, ?_⟩
  · intro hok
    by_contra h
    rw [drainTable_of_not_drainable h] at hok
    cases hok
  · intro h
    exact ⟨drainTable_of_not_drainable h, by rw [CardTable.drain_of_not_drainable h]⟩
  · intro card
    obtain ⟨diagnostics, hdrain⟩ := s.fst_drainTable id t
    rw [hdrain, Registry.dirty_update_self hget, CardTable.isDirtyCard_clear]
    exact Bool.false_ne_true

namespace Topmost

/-- Half of the last five hundred and twelve bytes of the address space, in cards of that size. -/
def layout : CardLayout :=
  ⟨0xFFFFFFFFFFFFFE00, 0x100, 9, by decide, by decide, by decide, by decide, by decide⟩

/-- The table with its only card dirty. -/
def table : CardTable :=
  ⟨layout, #[true], by decide⟩

def machine : Machine where
  build := .notifying
  clock := ⟨"", 0⟩
  memory := .zeroed 0 0
  registry := ⟨#[table], [0]⟩

end Topmost

theorem step_drain_topmost :
    Topmost.machine.registry.get? 0 = some Topmost.table ∧ ¬Topmost.table.Drainable ∧
      (Topmost.machine.step (.cards (.drain 0))).2 = .error (.fault .addOverflow) := by
  have hget : Topmost.machine.registry.get? 0 = some Topmost.table := rfl
  have hlast : ¬Topmost.table.Drainable := by decide +kernel
  obtain ⟨_, _, hstopped, _⟩ := step_drain_lossless_iff hget
  exact ⟨hget, hlast, (hstopped hlast).1⟩

/-- The table is accepted, its drain stops, and its card is clean without having been reported. -/
theorem topmost_card_lost :
    CardTable.new 0xFFFFFFFFFFFFFE00 0x100 9 = .ok (.clean Topmost.layout) ∧
      Topmost.table.layout = Topmost.layout ∧ Topmost.table.isDirtyCard 0 = true ∧
      Topmost.table.drain = ⟨.clean Topmost.layout, [], some .addOverflow⟩ ∧
      ¬Topmost.table.drain.Lossless Topmost.table := by
  have hdrain : Topmost.table.drain = ⟨.clean Topmost.layout, [], some .addOverflow⟩ := by
    decide +kernel
  have haccepted : CardLayout.make 0xFFFFFFFFFFFFFE00 0x100 9 = .ok Topmost.layout :=
    CardLayout.make_eq_ok_iff.mpr ⟨rfl, rfl, rfl⟩
  refine ⟨by rw [CardTable.new, haccepted]; rfl, rfl, rfl, hdrain, ?_⟩
  intro hlossless
  rw [hdrain] at hlossless
  exact List.not_mem_nil (hlossless 0 rfl rfl)

/-- A drain leaves every card clean.  Where it comes to its end, it answers the covered parts of the
dirty cards in address order and gives the logger one event with their number.  Otherwise the last
card is dirty and ends exactly where the address space does: the drain stops at an overflowing sum,
has reported all dirty cards but that one, and gives the logger nothing. -/
theorem step_drain_exact (hget : s.registry.get? id = some t) :
    (∀ card, ¬(s.step (.cards (.drain id))).1.registry.Dirty id card) ∧
    t.dirtyCards.Pairwise (· < ·) ∧ (∀ card, card ∈ t.dirtyCards ↔ t.isDirtyCard card = true) ∧
    t.dirtyCards.length = t.dirtyCount ∧
    (t.Drainable → ∃ (count : UInt64) (logger : SharedLogger)
        (forwarded : List LogRecord),
      count.toNat = t.dirtyCards.length ∧
      s.diagnostics.logger.log s.clock (.scanned t.layout.base count s.clock.elapsed) =
        (logger, .ok forwarded) ∧
      s.step (.cards (.drain id)) =
        ({ s with
            registry := s.registry.update id t.clear
            diagnostics :=
              { s.diagnostics with
                logger
                records := s.diagnostics.records ++
                  { level := .debug
                    target := "fwb::barrier::card_table"
                    message := "Drained " ++ Text.decimal count ++ " dirty cards from table " ++
                      Text.hex t.layout.base ++ " in " ++ Text.decimal s.clock.elapsed ++
                      " us" } :: forwarded } },
          .ok (.ranges t.drain.ranges)) ∧
      t.drain.ranges.length = t.dirtyCards.length ∧ t.Covering t.drain.ranges) ∧
    (¬t.Drainable →
      t.layout.cardStart t.layout.cardCount = 2 ^ 64 ∧
      t.dirtyCards = t.dirtyCards.dropLast ++ [t.layout.cardCount - 1] ∧
      s.step (.cards (.drain id)) =
        ({ s with registry := s.registry.update id t.clear }, .error (.fault .addOverflow)) ∧
      spans t.drain.ranges = t.dirtyCards.dropLast.map t.layout.cardSpan) := by
  have hclean : ∀ card, ¬(s.step (.cards (.drain id))).1.registry.Dirty id card := by
    intro card
    obtain ⟨diagnostics, hdrain⟩ := s.fst_drainTable id t
    rw [step_drain_of_get? hget, hdrain, Registry.dirty_update_self hget,
      CardTable.isDirtyCard_clear]
    exact Bool.false_ne_true
  refine ⟨hclean, CardTable.pairwise_dirtyCards, fun _ => CardTable.mem_dirtyCards,
    CardTable.length_dirtyCards, ?_, ?_⟩
  · intro h
    have hranges : t.drain.ranges = t.dirtyCards.map t.layout.clippedRange := by
      rw [CardTable.drain_of_drainable h]
    have hlength : t.drain.ranges.length = t.dirtyCards.length := by
      rw [hranges, List.length_map]
    obtain ⟨logger, forwarded, hlog, hdrain⟩ := s.drainTable_eq_of_drainable id h
    refine ⟨_, logger, forwarded, ?_, hlog, (step_drain_of_get? hget).trans hdrain, hlength, ?_⟩
    · rw [hlength]
      exact UInt64.toNat_ofNat_of_lt' CardTable.length_dirtyCards_lt
    · rw [hranges]
      exact t.covering_dirtyCards
  · intro h
    obtain ⟨hend, hdirty⟩ := CardTable.not_drainable_iff.mp h
    refine ⟨hend, CardTable.dropLast_dirtyCards hdirty,
      (step_drain_of_get? hget).trans (drainTable_eq_of_not_drainable h), ?_⟩
    rw [CardTable.drain_of_not_drainable h]
    apply CardLayout.spans_map_clippedRange
    intro card hcard
    exact CardTable.lt_cardCount_of_mem_dirtyCards card (List.mem_of_mem_dropLast hcard)

namespace Topmost

/-- Three cards of five hundred and twelve bytes, of which the last has forty covered ones. -/
def partly : CardTable :=
  ⟨⟨0x2000, 0x428, 9, by decide, by decide, by decide, by decide, by decide⟩,
    #[true, false, true], by decide⟩

/-- Two cards of five hundred and twelve bytes, of which the last ends with the address space. -/
def wide : CardTable :=
  ⟨⟨0xFFFFFFFFFFFFFC00, 0x300, 9, by decide, by decide, by decide, by decide, by decide⟩,
    #[true, true], by decide⟩

/-- The two tables, and a logger that keeps the events of drains. -/
def pair : Machine where
  build := .notifying
  clock := ⟨"", 7⟩
  memory := .zeroed 0 0
  registry := ⟨#[partly, wide], []⟩
  diagnostics := { logger := { config := { level := .debug } } }

end Topmost

/-- The first table is drained and told of; the second one loses its last card. -/
theorem step_drain_pair :
    Topmost.pair.registry.get? 0 = some Topmost.partly ∧ Topmost.partly.Drainable ∧
      (Topmost.pair.step (.cards (.drain 0))).2 =
        .ok (.ranges [(0x2000, 0x200), (0x2400, 0x28)]) ∧
      (Topmost.pair.step (.cards (.drain 0))).1.diagnostics.logger.events =
        [.scanned 0x2000 2 7] ∧
      Topmost.pair.registry.get? 1 = some Topmost.wide ∧ ¬Topmost.wide.Drainable ∧
      (Topmost.pair.step (.cards (.drain 1))).2 = .error (.fault .addOverflow) ∧
      (Topmost.pair.step (.cards (.drain 1))).1.diagnostics = Topmost.pair.diagnostics ∧
      spans Topmost.wide.drain.ranges = [(0xFFFFFFFFFFFFFC00, 0x200)] := by
  have hpartly : Topmost.pair.registry.get? 0 = some Topmost.partly := rfl
  have hwide : Topmost.pair.registry.get? 1 = some Topmost.wide := rfl
  have hdrainable : Topmost.partly.Drainable := by decide +kernel
  have hlast : ¬Topmost.wide.Drainable := by decide +kernel
  obtain ⟨_, _, _, _, hended, _⟩ := step_drain_exact hpartly
  obtain ⟨_, _, _, _, _, hstopped⟩ := step_drain_exact hwide
  obtain ⟨count, logger, forwarded, hcount, hlog, hstep, _⟩ := hended hdrainable
  obtain ⟨_, _, hstep_wide, hranges⟩ := hstopped hlast
  have hcards : Topmost.partly.dirtyCards.length = 2 := by decide +kernel
  have hranges_partly : Topmost.partly.drain.ranges = [(0x2000, 0x200), (0x2400, 0x28)] := by
    decide +kernel
  obtain rfl : count = 2 := UInt64.toNat_inj.mp (hcount.trans hcards)
  cases hlog
  rw [hstep, hstep_wide, hranges, hranges_partly]
  refine ⟨hpartly, hdrainable, rfl, rfl, hwide, hlast, rfl, rfl, ?_⟩
  decide +kernel

end Machine

end WriteBarrier
