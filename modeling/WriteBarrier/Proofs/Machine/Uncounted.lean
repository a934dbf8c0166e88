import WriteBarrier.Proofs.Machine.Step
/-!
Commands that the counters do not see.

Main statements: no setting but a reset changes the counters, and no command on card tables does.
-/

namespace WriteBarrier

namespace Machine

variable {s s' : Machine}

theorem counters_of_logEvent {e : BarrierEvent} {result : Except Fault Unit}
    (h : s.logEvent e = (s', result)) : s'.diagnostics.counters = s.diagnostics.counters := by
  cases h
  exact Diagnostics.counters_logEvent ..

theorem counters_applyConfig (s : Machine) (config : BarrierConfig) :
    (s.applyConfig config).1.diagnostics.counters = s.diagnostics.counters := by
  cases hvalidate : config.validate with
  | error e =>
    rw [applyConfig_of_error hvalidate]
    exact counters_of_logEvent rfl
  | ok _ =>
    simp only [applyConfig, hvalidate]
    cases config.cardSize <;> rfl

/-- Only a reset changes the counters by a setting. -/
theorem counters_settings {c : SettingsCommand} (hc : c ≠ .resetStatistics) (s : Machine) :
    (c.perform s).1.diagnostics.counters = s.diagnostics.counters := by
  cases c with
  | resetStatistics => exact absurd rfl hc
  | start => exact counters_applyConfig s.readEnvironment.1 s.readEnvironment.2
  | startWith config => exact s.counters_applyConfig config
  | logEvent e =>
    rw [SettingsCommand.perform, fst_logged]
    exact counters_of_logEvent rfl
  | logSummary =>
    rw [SettingsCommand.perform, fst_logged]
    exact counters_of_logEvent rfl
  | setEnvironment | fromEnvironment | activeConfig | configureLogger | eventCount | statistics
  | averageBytes | enableStatistics => rfl

theorem counters_withTable {id : TableId} {act : CardTable → Machine × Outcome Answer}
    (hact : ∀ t, (act t).1.diagnostics.counters = s.diagnostics.counters) :
    (s.withTable id act).1.diagnostics.counters = s.diagnostics.counters := by
  unfold withTable
  cases s.registry.get? id with
  | none => rfl
  | some t => exact hact t

theorem counters_keepTable (s : Machine) (made : Except BarrierError CardTable) :
    (s.keepTable made).1.diagnostics.counters = s.diagnostics.counters := by
  cases made <;> rfl

theorem counters_registerTable (s : Machine) (id : TableId) (t : CardTable) :
    (s.registerTable id t).1.diagnostics.counters = s.diagnostics.counters := by
  unfold registerTable
  split
  · next hlog => exact (counters_of_logEvent hlog :)
  · next hlog => exact (counters_of_logEvent hlog :)

theorem counters_unregisterTable (s : Machine) (id : TableId) (t : CardTable) :
    (s.unregisterTable id t).1.diagnostics.counters = s.diagnostics.counters := by
  unfold unregisterTable
  cases s.registry.unregister id with
  | none => rfl
  | some registry =>
    dsimp only
    split
    · next hlog => exact (counters_of_logEvent hlog :)
    · next hlog => exact (counters_of_logEvent hlog :)

theorem counters_drainTable (s : Machine) (id : TableId) (t : CardTable) :
    (s.drainTable id t).1.diagnostics.counters = s.diagnostics.counters := by
  rw [drainTable]
  cases t.drain.stopped with
  | some f => rfl
  | none =>
    have h := Diagnostics.counters_noteDrain s.diagnostics s.clock t.layout.base
      (UInt64.ofNat t.drain.ranges.length)
    dsimp only
    split
    · exact h
    · exact h

/-- Card tables are handled without a word to the counters. -/
theorem counters_cards (s : Machine) (c : CardCommand) :
    (s.step (.cards c)).1.diagnostics.counters = s.diagnostics.counters := by
  cases c with
  | make | makeWith | makeActive => exact s.counters_keepTable _
  | register id => exact counters_withTable (s.counters_registerTable id)
  | unregister id => exact counters_withTable (s.counters_unregisterTable id)
  | drain id => exact counters_withTable (s.counters_drainTable id)
  | dirtyRange id address bytes =>
    apply counters_withTable
    intro t
    split <;> rfl
  | covers | isDirty | dirtyCount | dirtyCards | clear | debug =>
    exact counters_withTable fun _ => rfl

end Machine

end WriteBarrier
