import WriteBarrier.Machine.State
/-!
Events that cannot fail to be logged.

Main statements: an event whose text can be written is logged without a fault, and the logger keeps
it where it accepts it.  The log of an event that is accepted and cannot be forwarded is stopped,
and behind its lock the shared logger takes no event from then on.
-/

namespace WriteBarrier

/-- The two ends of the range that the event tells of, if it tells of one, are words. -/
def BarrierEvent.InRange : BarrierEvent → Prop
  | .registered base len _ => base.toNat + len.toNat < 0x10000000000000000
  | _ => True

instance : DecidablePred BarrierEvent.InRange
  | .registered base len _ =>
      inferInstanceAs (Decidable (base.toNat + len.toNat < 0x10000000000000000))
  | .unregistered _ | .scanned .. | .rejected _ | .statistics _ => isTrue trivial

/-- The event can be forwarded: it is not, or as JSON, or its text for readers can be written. -/
def LoggerConfig.Writes (config : LoggerConfig) (e : BarrierEvent) : Prop :=
  config.console = false ∨ config.json = true ∨ e.InRange

instance (config : LoggerConfig) (e : BarrierEvent) : Decidable (config.Writes e) :=
  inferInstanceAs (Decidable (_ ∨ _ ∨ _))

/-- The logger accepts the event and cannot forward it. -/
def Logger.StoppedBy (l : Logger) (e : BarrierEvent) : Prop :=
  l.accepts e = true ∧ ¬l.config.Writes e

instance (l : Logger) (e : BarrierEvent) : Decidable (l.StoppedBy e) :=
  inferInstanceAs (Decidable (_ ∧ _))

theorem BarrierEvent.exists_human {e : BarrierEvent} (h : e.InRange) :
    ∃ text, e.human = .ok text := by
  cases e with
  | registered base len cardSize =>
    have hsum : checkedAdd base len = .ok (base + len) := if_pos h
    simp only [human, hsum]
    exact ⟨_, rfl⟩
  | unregistered base => exact ⟨_, rfl⟩
  | scanned base dirtyCards micros => exact ⟨_, rfl⟩
  | rejected reason => exact ⟨_, rfl⟩
  | statistics counters => exact ⟨_, rfl⟩

theorem BarrierEvent.human_of_not_inRange {e : BarrierEvent} (h : ¬e.InRange) :
    e.human = .error .addOverflow := by
  cases e with
  | registered base len cardSize =>
    have hsum : checkedAdd base len = .error .addOverflow := if_neg h
    simp only [human, hsum]
  | unregistered | scanned | rejected | statistics => exact absurd trivial h

namespace Logger

variable {e : BarrierEvent}

theorem exists_forward {config : LoggerConfig} (clock : Clock) (h : config.Writes e) :
    ∃ records, forward config clock e = .ok records := by
  unfold forward
  rcases h with hconsole | hjson | hrange
  · rw [hconsole]
    exact ⟨_, rfl⟩
  · rw [body, hjson]
    cases config.console <;> exact ⟨_, rfl⟩
  · obtain ⟨text, htext⟩ := BarrierEvent.exists_human hrange
    rw [body, htext]
    cases config.console <;> cases config.json <;> exact ⟨_, rfl⟩

theorem forward_of_not_writes {config : LoggerConfig} (clock : Clock) (h : ¬config.Writes e) :
    forward config clock e = .error .addOverflow := by
  simp only [LoggerConfig.Writes, not_or, Bool.not_eq_false, Bool.not_eq_true] at h
  obtain ⟨hconsole, hjson, hrange⟩ := h
  rw [forward, body, hconsole, hjson, BarrierEvent.human_of_not_inRange hrange]
  rfl

/-- The logger keeps what it accepts and nothing else, unless it accepts what it cannot forward. -/
theorem log_of_writes {l : Logger} (clock : Clock)
    (h : l.accepts e = true → l.config.Writes e) :
    ∃ records, l.log clock e =
      .ok ({ l with events := if l.accepts e then l.events ++ [e] else l.events }, records) := by
  unfold log
  by_cases haccepts : l.accepts e = true
  · obtain ⟨records, hforward⟩ := exists_forward clock (h haccepts)
    rw [if_pos haccepts, if_pos haccepts, hforward]
    exact ⟨records, rfl⟩
  · rw [if_neg haccepts, if_neg haccepts]
    exact ⟨[], rfl⟩

/-- The logger neither keeps nor forwards an event that it accepts and cannot forward. -/
theorem log_of_not_writes {l : Logger} (clock : Clock) (haccepts : l.accepts e = true)
    (h : ¬l.config.Writes e) : l.log clock e = .error .addOverflow := by
  rw [log, if_pos haccepts, forward_of_not_writes clock h]

theorem not_stoppedBy_of_inRange (l : Logger) (h : e.InRange) : ¬l.StoppedBy e :=
  fun hstopped => hstopped.2 (Or.inr (Or.inr h))

/-- At the most important level no event is accepted, so none stops the logger. -/
theorem StoppedBy.level_ne {l : Logger} (h : l.StoppedBy e) : l.config.level ≠ .error := by
  intro hlevel
  have hrank := (Bool.and_eq_true_iff.mp h.1).2
  rw [hlevel, decide_eq_true_eq] at hrank
  cases e <;> cases hrank

/-- An enabled logger keeps a refusal unless its level is the most important one. -/
theorem accepts_rejected_iff {l : Logger} (henabled : l.enabled = true) (reason : String) :
    l.accepts (.rejected reason) = true ↔ l.config.level ≠ .error := by
  unfold accepts
  cases l.config.level <;> simp [henabled, BarrierEvent.level, LogLevel.rank]

end Logger

namespace SharedLogger

variable {g : SharedLogger} {e : BarrierEvent}

/-- The logger after an event that does not stop it: it keeps what it accepts, if its lock opens. -/
def noting (g : SharedLogger) (e : BarrierEvent) : SharedLogger :=
  { g with
    events :=
      if g.poisoned then g.events else if g.accepts e then g.events ++ [e] else g.events }

theorem log_of_not_stoppedBy (clock : Clock) (h : ¬g.StoppedBy e) :
    ∃ records, g.log clock e = (g.noting e, .ok records) := by
  obtain ⟨l, poisoned⟩ := g
  have hwrites : l.accepts e = true → l.config.Writes e := fun haccepts =>
    Decidable.not_not.mp fun hwrites => h ⟨haccepts, hwrites⟩
  obtain ⟨records, hlog⟩ := Logger.log_of_writes clock hwrites
  rw [log, hlog]
  cases poisoned with
  | true => exact ⟨[], rfl⟩
  | false => exact ⟨records, rfl⟩

theorem log_of_inRange (g : SharedLogger) (clock : Clock) (h : e.InRange) :
    ∃ records, g.log clock e = (g.noting e, .ok records) :=
  log_of_not_stoppedBy clock (g.not_stoppedBy_of_inRange h)

/-- Behind a lock that opens, an event that stops the logger poisons the lock. -/
theorem log_of_stoppedBy (clock : Clock) (hopen : g.poisoned = false) (h : g.StoppedBy e) :
    g.log clock e = ({ g with poisoned := true }, .error .addOverflow) := by
  simp only [log, hopen, Bool.false_eq_true, if_false, Logger.log_of_not_writes clock h.1 h.2]

theorem log_of_poisoned (clock : Clock) (e : BarrierEvent) (h : g.poisoned = true) :
    g.log clock e = (g, .ok []) := by
  rw [log, if_pos h]

/-- An event changes no more of the logger than its list of events and its lock, which it poisons
only where it stops the logger. -/
theorem fst_log (g : SharedLogger) (clock : Clock) (e : BarrierEvent) :
    ∃ events, (g.log clock e).1 =
      { g with events, poisoned := g.poisoned || decide (g.StoppedBy e) } := by
  by_cases hstopped : g.StoppedBy e
  · cases hpoisoned : g.poisoned with
    | true =>
      rw [log_of_poisoned clock e hpoisoned]
      exact ⟨g.events, by rw [Bool.true_or, ← hpoisoned]⟩
    | false =>
      rw [log_of_stoppedBy clock hpoisoned hstopped]
      exact ⟨g.events, by simp [hstopped]⟩
  · obtain ⟨records, hlog⟩ := log_of_not_stoppedBy clock hstopped
    rw [hlog]
    exact ⟨(g.noting e).events, by simp [noting, hstopped]⟩

theorem poisoned_configure (g : SharedLogger) (config : LoggerConfig) :
    (g.configure config).poisoned = g.poisoned := by
  unfold configure
  split
  · rfl
  · next hopen => exact (eq_false_of_ne_true hopen).symm

end SharedLogger

theorem Diagnostics.logEvent_of_inRange (d : Diagnostics) (clock : Clock) {e : BarrierEvent}
    (h : e.InRange) : (d.logEvent clock e).2 = .ok () := by
  obtain ⟨records, hlog⟩ := d.logger.log_of_inRange clock h
  rw [logEvent, hlog]

/-- Whatever the logger makes of an event, no more than records come of it. -/
theorem Diagnostics.fst_logEvent (d : Diagnostics) (clock : Clock) (e : BarrierEvent) :
    ∃ records, (d.logEvent clock e).1 =
      { d with logger := (d.logger.log clock e).1, records := d.records ++ records } := by
  unfold logEvent
  rcases d.logger.log clock e with ⟨logger, f | records⟩
  · exact ⟨[], by rw [List.append_nil]⟩
  · exact ⟨records, rfl⟩

theorem Diagnostics.counters_logEvent (d : Diagnostics) (clock : Clock) (e : BarrierEvent) :
    (d.logEvent clock e).1.counters = d.counters := by
  obtain ⟨records, hlog⟩ := d.fst_logEvent clock e
  rw [hlog]

theorem Diagnostics.counters_noteDrain (d : Diagnostics) (clock : Clock)
    (base dirtyCards : UInt64) : (d.noteDrain clock base dirtyCards).1.counters = d.counters :=
  counters_logEvent ..

theorem Machine.fst_logEvent (s : Machine) (e : BarrierEvent) :
    ∃ records, (s.logEvent e).1 =
      { s with
        diagnostics :=
          { s.diagnostics with
            logger := (s.diagnostics.logger.log s.clock e).1
            records := s.diagnostics.records ++ records } } := by
  obtain ⟨records, hlog⟩ := s.diagnostics.fst_logEvent s.clock e
  exact ⟨records, congrArg (fun diagnostics => { s with diagnostics }) hlog⟩

theorem Machine.logEvent_of_inRange (s : Machine) {e : BarrierEvent} (h : e.InRange) :
    ∃ diagnostics, s.logEvent e = ({ s with diagnostics }, .ok ()) := by
  refine ⟨(s.diagnostics.logEvent s.clock e).1, ?_⟩
  rw [logEvent, ← s.diagnostics.logEvent_of_inRange s.clock h]

end WriteBarrier
