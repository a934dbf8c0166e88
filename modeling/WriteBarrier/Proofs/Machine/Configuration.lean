import WriteBarrier.Proofs.Config.Validation
import WriteBarrier.Proofs.Machine.Frame
import WriteBarrier.Proofs.Machine.History
/-!
The active configuration over a run.

Main statement: a configuration is applied as a whole or not at all.  The active one is the one that
was applied last, or the default, and it is always valid, so no table that takes its card size is
refused for it; a refused configuration leaves no more behind than an event.  The logger takes part
in this until an event stops it: from then on it is neither replaced nor told of a refusal, though
configurations are applied and refused as before.
-/

namespace WriteBarrier

namespace Machine

variable {s s' : Machine} {c : Command} {config : BarrierConfig} {e : ConfigError}

/-- The configuration that a command tries to apply. -/
def requested? (s : Machine) : Command → Option BarrierConfig
  | .settings .start => some s.environment.config.1
  | .settings (.startWith config) => some config
  | _ => none

/-- The configuration that a command applied. -/
def applied? : Command × Outcome Answer → Option BarrierConfig
  | (.settings .start, .ok (.config config)) => some config
  | (.settings (.startWith _), .ok (.config config)) => some config
  | _ => none

/-- The configuration that a run applied last, or the one that it started with. -/
def lastApplied (s : Machine) (cs : List Command) : BarrierConfig :=
  ((s.answered cs).filterMap applied?).getLastD s.config

/-- The command gives the logger an event that it accepts and cannot forward. -/
def Stops (s : Machine) (c : Command) : Prop :=
  ∃ e, c = .settings (.logEvent e) ∧ s.diagnostics.logger.StoppedBy e

theorem stops_logEvent_iff (s : Machine) (e : BarrierEvent) :
    s.Stops (.settings (.logEvent e)) ↔ s.diagnostics.logger.StoppedBy e := by
  simp [Stops]

/-- Some command of the run stops the logger. -/
def LogStopped (s : Machine) (cs : List Command) : Prop :=
  ∃ before c after, cs = before ++ c :: after ∧ (s.run before).1.Stops c

end Machine

/-- The logger that a configuration asks for, before it has kept anything. -/
def BarrierConfig.freshLogger (config : BarrierConfig) : SharedLogger where
  config := { level := if config.verbose then .debug else .info }
  enabled := true
  events := []
  poisoned := false

/-- The logger with the event of a refusal, if its level lets warnings through. -/
def SharedLogger.withRefusal (g : SharedLogger) (e : ConfigError) : SharedLogger :=
  { g with
    events := g.events ++ if g.config.level = .error then [] else [.rejected e.message] }

/-- Behind a lock that opens, an enabled logger is told of a refusal. -/
theorem SharedLogger.log_rejected {g : SharedLogger} (henabled : g.enabled = true) (clock : Clock)
    (e : ConfigError) :
    (g.log clock (.rejected e.message)).1 = if g.poisoned then g else g.withRefusal e := by
  obtain ⟨records, hlog⟩ := g.log_of_inRange clock (e := .rejected e.message) trivial
  have haccepts := Logger.accepts_rejected_iff henabled e.message
  rw [hlog, noting]
  split
  · rfl
  · by_cases hlevel : g.config.level = .error
    · simp [withRefusal, hlevel, mt haccepts.mp (not_not.mpr hlevel)]
    · simp [withRefusal, hlevel, haccepts.mpr hlevel]

/-- The logger is enabled, and its level let the event through that stopped it, if one did. -/
structure SharedLogger.Sound (g : SharedLogger) : Prop where
  enabled : g.enabled = true
  level_ne : g.poisoned = true → g.config.level ≠ .error

theorem SharedLogger.Sound.configure {g : SharedLogger} (h : g.Sound) (config : LoggerConfig) :
    (g.configure config).Sound := by
  unfold SharedLogger.configure
  split
  · exact h
  · exact ⟨rfl, nofun⟩

namespace Machine

variable {s s' : Machine} {c : Command} {config : BarrierConfig} {e : ConfigError}

/-- A configuration was applied: it is active, the counting switch follows it, the logger is a fresh
one, unless its lock is poisoned, and the last record tells of it; the rest is what it was. -/
structure Applied (s s' : Machine) (config : BarrierConfig) : Prop where
  config_eq : s'.config = config
  statsEnabled_eq : s'.diagnostics.statsEnabled = config.statsEnabled
  logger_eq : s'.diagnostics.logger =
    if s.diagnostics.logger.poisoned then s.diagnostics.logger else config.freshLogger
  records_eq : ∃ before, s'.diagnostics.records = before ++
    [{ level := .debug
       target := "fwb"
       message := "FWB " ++ version ++ " initialized: " ++
         Text.decimal (1 <<< config.cardShift.toUInt64) ++ " byte cards, stats " ++
         (if config.statsEnabled then "on" else "off") }]
  counters_eq : s'.diagnostics.counters = s.diagnostics.counters
  registry_eq : s'.registry = s.registry
  memory_eq : s'.memory = s.memory
  calls_eq : s'.calls = s.calls
  environment_eq : s'.environment = s.environment

/-- A configuration was refused: all is what it was, but for an event in a logger whose level lets
warnings through and whose lock is not poisoned. -/
structure Refused (s s' : Machine) (e : ConfigError) : Prop where
  config_eq : s'.config = s.config
  statsEnabled_eq : s'.diagnostics.statsEnabled = s.diagnostics.statsEnabled
  logger_eq : s'.diagnostics.logger =
    if s.diagnostics.logger.poisoned then s.diagnostics.logger
    else s.diagnostics.logger.withRefusal e
  counters_eq : s'.diagnostics.counters = s.diagnostics.counters
  registry_eq : s'.registry = s.registry
  memory_eq : s'.memory = s.memory
  calls_eq : s'.calls = s.calls
  environment_eq : s'.environment = s.environment

/-- The command keeps the logger, but for its events and for its lock, which is poisoned where the
command stops the logger. -/
structure KeepsLogger (s : Machine) (c : Command) : Prop where
  config_eq : (s.step c).1.diagnostics.logger.config = s.diagnostics.logger.config
  enabled_eq : (s.step c).1.diagnostics.logger.enabled = s.diagnostics.logger.enabled
  poisoned_iff : (s.step c).1.diagnostics.logger.poisoned = true ↔
    s.diagnostics.logger.poisoned = true ∨ s.Stops c

/-- The active configuration is valid, and the logger is sound. -/
structure Settled (s : Machine) : Prop where
  valid : s.config.Valid
  logger_sound : s.diagnostics.logger.Sound

/-! ### Applying a configuration -/

theorem applyConfig_of_valid (h : config.Valid) :
    ∃ s', s.applyConfig config = (s', .ok (.config config)) ∧ Applied s s' config := by
  have hsize := BarrierConfig.cardSize_of_valid h
  let started := s.withConfig config
  refine ⟨{ started with
    diagnostics := started.diagnostics.emit
      (startedRecord config (1 <<< config.cardShift.toUInt64)) }, ?_,
    ⟨rfl, rfl, rfl, ⟨_, rfl⟩, rfl, rfl, rfl, rfl, rfl⟩⟩
  simp only [applyConfig, BarrierConfig.validate_of_valid h, hsize, started]

theorem applyConfig_of_not_valid (henabled : s.diagnostics.logger.enabled = true)
    (h : ¬config.Valid) :
    ∃ e s', config.validate = .error e ∧
      s.applyConfig config = (s', .error (.error (.configuration e))) ∧ Refused s s' e := by
  obtain ⟨e, hinvalid⟩ := BarrierConfig.exists_validate_eq_error h
  obtain ⟨records, hlog⟩ := s.fst_logEvent (.rejected e.message)
  refine ⟨e, _, hinvalid, applyConfig_of_error hinvalid, ?_⟩
  rw [hlog]
  exact ⟨rfl, rfl, SharedLogger.log_rejected henabled s.clock e, rfl, rfl, rfl, rfl, rfl⟩

theorem Applied.logger_eq_configure (h : Applied s s' config) :
    s'.diagnostics.logger = s.diagnostics.logger.configure config.loggerConfig :=
  h.logger_eq

/-- The logger is a fresh one exactly where its lock is not poisoned. -/
theorem Applied.logger_fresh_iff (h : Applied s s' config) :
    s'.diagnostics.logger = config.freshLogger ↔ s.diagnostics.logger.poisoned = false := by
  rw [h.logger_eq]
  split
  · next hpoisoned =>
    rw [hpoisoned]
    refine iff_of_false (fun hfresh => ?_) nofun
    rw [hfresh] at hpoisoned
    cases hpoisoned
  · next hopen => exact iff_of_true rfl (eq_false_of_ne_true hopen)

/-- The refusal is told of exactly where the lock is not poisoned. -/
theorem Refused.logger_told_iff (h : Refused s s' e) (hsound : s.diagnostics.logger.Sound) :
    s'.diagnostics.logger = s.diagnostics.logger.withRefusal e ↔
      s.diagnostics.logger.poisoned = false := by
  rw [h.logger_eq]
  split
  · next hpoisoned =>
    rw [hpoisoned]
    refine iff_of_false (fun htold => ?_) nofun
    have hevents := congrArg (fun g => g.events.length) htold
    simp [SharedLogger.withRefusal, hsound.level_ne hpoisoned] at hevents
  · next hopen => exact iff_of_true rfl (eq_false_of_ne_true hopen)

/-! ### One command -/

/-- Reading the environment first does no more than send warnings. -/
theorem step_of_requested (hc : s.requested? c = some config) :
    ∃ records, s.step c =
      applyConfig { s with diagnostics := { s.diagnostics with records } } config := by
  unfold requested? at hc
  split at hc
  · cases hc
    exact ⟨s.diagnostics.records ++ s.environment.config.2, rfl⟩
  · cases hc
    exact ⟨s.diagnostics.records, rfl⟩
  · cases hc

/-- A valid configuration is applied. -/
theorem step_of_valid (hc : s.requested? c = some config) (h : config.Valid) :
    ∃ s', s.step c = (s', .ok (.config config)) ∧ Applied s s' config := by
  obtain ⟨records, hstep⟩ := step_of_requested hc
  obtain ⟨s', happly, happlied⟩ :=
    applyConfig_of_valid (s := { s with diagnostics := { s.diagnostics with records } }) h
  exact ⟨s', hstep.trans happly, { happlied with }⟩

/-- A configuration that is not valid is refused. -/
theorem step_of_not_valid (henabled : s.diagnostics.logger.enabled = true)
    (hc : s.requested? c = some config) (h : ¬config.Valid) :
    ∃ e s', config.validate = .error e ∧
      s.step c = (s', .error (.error (.configuration e))) ∧ Refused s s' e := by
  obtain ⟨records, hstep⟩ := step_of_requested hc
  obtain ⟨e, s', hinvalid, happly, hrefused⟩ := applyConfig_of_not_valid
    (s := { s with diagnostics := { s.diagnostics with records } }) henabled h
  exact ⟨e, s', hinvalid, hstep.trans happly, { hrefused with }⟩

/-- An event is answered by a failure exactly where it stops a logger whose lock opens. -/
theorem step_logEvent_error_iff (s : Machine) (e : BarrierEvent) :
    (∃ f, (s.step (.settings (.logEvent e))).2 = .error f) ↔
      s.diagnostics.logger.poisoned = false ∧ s.diagnostics.logger.StoppedBy e := by
  simp only [step, SettingsCommand.perform, logEvent, Diagnostics.logEvent]
  by_cases hstopped : s.diagnostics.logger.StoppedBy e
  · cases hpoisoned : s.diagnostics.logger.poisoned with
    | true => simp [SharedLogger.log_of_poisoned s.clock e hpoisoned, logged]
    | false => simp [SharedLogger.log_of_stoppedBy s.clock hpoisoned hstopped, logged, hstopped]
  · obtain ⟨records, hlog⟩ := SharedLogger.log_of_not_stoppedBy s.clock hstopped
    simp [hlog, logged, hstopped]

theorem Kept.keepsLogger (h : Kept s (s.step c).1) (hc : ∀ e, c ≠ .settings (.logEvent e)) :
    s.KeepsLogger c where
  config_eq := h.loggerConfig_eq
  enabled_eq := h.enabled_eq
  poisoned_iff := by
    have hrunning : ¬s.Stops c := fun ⟨e, hlog, _⟩ => hc e hlog
    rw [h.poisoned_eq, or_iff_left hrunning]

theorem keepsLogger_logEvent (s : Machine) (e : BarrierEvent) :
    s.KeepsLogger (.settings (.logEvent e)) := by
  obtain ⟨records, hlog⟩ := s.fst_logEvent e
  obtain ⟨events, hlogger⟩ := s.diagnostics.logger.fst_log s.clock e
  have hstep : (s.step (.settings (.logEvent e))).1.diagnostics.logger =
      { s.diagnostics.logger with
        events
        poisoned := s.diagnostics.logger.poisoned ||
          decide (s.diagnostics.logger.StoppedBy e) } := by
    rw [step, SettingsCommand.perform, fst_logged, hlog, hlogger]
  refine ⟨by rw [hstep], by rw [hstep], ?_⟩
  rw [hstep, Bool.or_eq_true, decide_eq_true_eq, stops_logEvent_iff]

/-- Any other command leaves the active configuration alone, and puts a new logger in the place of
the old one at most. -/
theorem step_of_unrequested (hc : s.requested? c = none) :
    (s.step c).1.config = s.config ∧
      ((∃ config, c = .settings (.configureLogger config) ∧
          (s.step c).1.diagnostics.logger = s.diagnostics.logger.configure config) ∨
        s.KeepsLogger c) := by
  by_cases hsettings : ∃ cmd, c = .settings cmd
  · obtain ⟨cmd, rfl⟩ := hsettings
    cases cmd with
    | start | startWith => cases hc
    | configureLogger config => exact ⟨rfl, Or.inl ⟨config, rfl, rfl⟩⟩
    | logEvent e =>
      refine ⟨?_, Or.inr (s.keepsLogger_logEvent e)⟩
      rw [step, SettingsCommand.perform, fst_logged]
      rfl
    | logSummary =>
      have hkept : Kept s (s.step (.settings .logSummary)).1 := by
        rw [step, SettingsCommand.perform, fst_logged]
        exact s.logEvent_kept (e := .statistics s.diagnostics.counters) trivial
      exact ⟨hkept.config_eq, Or.inr (hkept.keepsLogger (by simp))⟩
    | setEnvironment | fromEnvironment | activeConfig | eventCount | statistics | averageBytes
    | resetStatistics | enableStatistics =>
      exact ⟨rfl, Or.inr (Kept.keepsLogger ⟨rfl, rfl, rfl, rfl, le_rfl⟩ (by simp))⟩
  · have hkept := s.step_kept (not_exists.mp hsettings)
    exact ⟨hkept.config_eq, Or.inr (hkept.keepsLogger fun e => not_exists.mp hsettings _)⟩

theorem applied?_of_unrequested (hc : s.requested? c = none) (outcome : Outcome Answer) :
    applied? (c, outcome) = none := by
  unfold applied?
  split
  · next h => cases h; cases hc
  · next h => cases h; cases hc
  · rfl

theorem applied?_of_requested (hc : s.requested? c = some config) :
    applied? (c, .ok (.config config)) = some config := by
  unfold requested? at hc
  split at hc
  · rfl
  · rfl
  · cases hc

theorem applied?_error (c : Command) (failure : Failure) : applied? (c, .error failure) = none := by
  unfold applied?
  split
  · next h => cases h
  · next h => cases h
  · rfl

/-- After a command, the configuration that it applied is the active one, or the one before if it
applied none. -/
theorem Settled.config_step (h : s.Settled) (c : Command) :
    (s.step c).1.config = (applied? (c, (s.step c).2)).getD s.config := by
  cases hc : s.requested? c with
  | none =>
    simp only [applied?_of_unrequested hc, Option.getD_none]
    exact (step_of_unrequested hc).1
  | some config =>
    by_cases hvalid : config.Valid
    · obtain ⟨s', hstep, happlied⟩ := step_of_valid hc hvalid
      simp only [hstep, applied?_of_requested hc, Option.getD_some]
      exact happlied.config_eq
    · obtain ⟨e, s', _, hstep, hrefused⟩ := step_of_not_valid h.logger_sound.enabled hc hvalid
      simp only [hstep, applied?_error, Option.getD_none]
      exact hrefused.config_eq

theorem Applied.logger_sound (h : Applied s s' config) (hsound : s.diagnostics.logger.Sound) :
    s'.diagnostics.logger.Sound := by
  rw [h.logger_eq_configure]
  exact hsound.configure config.loggerConfig

theorem Refused.logger_sound (h : Refused s s' e) (hsound : s.diagnostics.logger.Sound) :
    s'.diagnostics.logger.Sound := by
  rw [h.logger_eq]
  split
  · exact hsound
  · exact ⟨hsound.enabled, hsound.level_ne⟩

theorem Settled.step (h : s.Settled) (c : Command) : (s.step c).1.Settled := by
  cases hc : s.requested? c with
  | none =>
    obtain ⟨hconfig, ⟨config, _, hlogger⟩ | hkeeps⟩ := step_of_unrequested hc
    · exact ⟨hconfig ▸ h.valid, hlogger ▸ h.logger_sound.configure config⟩
    · refine ⟨hconfig ▸ h.valid, hkeeps.enabled_eq.trans h.logger_sound.enabled, ?_⟩
      rw [hkeeps.config_eq, hkeeps.poisoned_iff]
      rintro (hbefore | ⟨e, _, hstopped⟩)
      · exact h.logger_sound.level_ne hbefore
      · exact hstopped.level_ne
  | some config =>
    by_cases hvalid : config.Valid
    · obtain ⟨s', hstep, happlied⟩ := step_of_valid hc hvalid
      simp only [hstep]
      exact ⟨happlied.config_eq ▸ hvalid, happlied.logger_sound h.logger_sound⟩
    · obtain ⟨e, s', _, hstep, hrefused⟩ :=
        step_of_not_valid h.logger_sound.enabled hc hvalid
      simp only [hstep]
      exact ⟨hrefused.config_eq ▸ h.valid, hrefused.logger_sound h.logger_sound⟩

/-- The lock of the logger is poisoned by a command that stops it, and stays so. -/
theorem Settled.poisoned_step (h : s.Settled) (c : Command) :
    (s.step c).1.diagnostics.logger.poisoned = true ↔
      s.diagnostics.logger.poisoned = true ∨ s.Stops c := by
  cases hc : s.requested? c with
  | none =>
    obtain ⟨_, ⟨config, rfl, hlogger⟩ | hkeeps⟩ := step_of_unrequested hc
    · have hrunning : ¬s.Stops (.settings (.configureLogger config)) := by simp [Stops]
      rw [hlogger, SharedLogger.poisoned_configure, or_iff_left hrunning]
    · exact hkeeps.poisoned_iff
  | some config =>
    have hrunning : ¬s.Stops c := by
      rintro ⟨e, rfl, _⟩
      cases hc
    rw [or_iff_left hrunning]
    by_cases hvalid : config.Valid
    · obtain ⟨s', hstep, happlied⟩ := step_of_valid hc hvalid
      simp only [hstep]
      rw [happlied.logger_eq_configure, SharedLogger.poisoned_configure]
    · obtain ⟨e, s', _, hstep, hrefused⟩ :=
        step_of_not_valid h.logger_sound.enabled hc hvalid
      simp only [hstep]
      rw [hrefused.logger_eq]
      split <;> rfl

/-! ### A run -/

theorem Settled.run (h : s.Settled) (cs : List Command) : (s.run cs).1.Settled := by
  induction cs generalizing s with
  | nil => exact h
  | cons c rest ih => exact ih (h.step c)

theorem Settled.config_run (h : s.Settled) (cs : List Command) :
    (s.run cs).1.config = s.lastApplied cs := by
  induction cs generalizing s with
  | nil => rfl
  | cons c rest ih =>
    have hrest := ih (h.step c)
    rw [run_cons, hrest, lastApplied, lastApplied, answered_cons, List.filterMap_cons,
      h.config_step]
    cases applied? (c, (s.step c).2) with
    | none => rfl
    | some config => exact (List.getLastD_cons ..).symm

-- the second configuration is refused, so the first one stays
example : Overlap.fresh.lastApplied
    [.settings (.startWith { cardShift := 12 }), .settings (.startWith { cardShift := 21 })] =
      { cardShift := 12 } := by
  decide +kernel

/-- The first command of a run stops the logger, or the others do. -/
theorem logStopped_cons_iff {rest : List Command} :
    s.LogStopped (c :: rest) ↔ s.Stops c ∨ (s.step c).1.LogStopped rest :=
  exists_split_cons_iff

theorem not_logStopped_nil : ¬s.LogStopped [] :=
  not_exists_split_nil

/-- The induction is on the run: the lock carries over what the commands so far did to it. -/
theorem Settled.poisoned_run (h : s.Settled) (cs : List Command) :
    (s.run cs).1.diagnostics.logger.poisoned = true ↔
      s.diagnostics.logger.poisoned = true ∨ s.LogStopped cs := by
  induction cs generalizing s with
  | nil => exact (or_iff_left not_logStopped_nil).symm
  | cons c rest ih =>
    rw [run_cons, ih (h.step c), h.poisoned_step, logStopped_cons_iff, or_assoc]

theorem settled_initial (build : Build) (clock : Clock) (memory : Memory)
    (environment : Environment) : (initial build clock memory environment).Settled :=
  ⟨BarrierConfig.valid_default, rfl, nofun⟩

/-- No table that takes the card size of a valid active configuration is refused for it. -/
theorem Settled.makeActive_ne_configuration (h : s.Settled) (base len : UInt64)
    (e : ConfigError) :
    (s.step (.cards (.makeActive base len))).2 ≠ .error (.error (.configuration e)) := by
  have hnew := CardTable.new_ne_configuration h.valid base len e
  simp only [Machine.step, CardCommand.perform]
  cases hmade : CardTable.new base len s.config.cardShift with
  | ok t =>
    intro hrefused
    cases hrefused
  | error defect =>
    intro hrefused
    cases hrefused
    exact hnew hmade

namespace Overlap

/-- The event of a table whose last byte is the last one of the address space. -/
def topmost : Command :=
  .settings (.logEvent (.registered 0xFFFFFFFFFFFFFE00 0x200 0x200))

end Overlap

end Machine

end WriteBarrier
