import WriteBarrier.Machine.State
/-!
Settings: environment, configuration, logger and counters.

A configuration is applied as a whole or not at all: a fresh logger, the counting switch and the
active configuration change together, and a refused configuration leaves no more than an event.  The
logger stays out of it once its lock is poisoned.
-/

namespace WriteBarrier

inductive SettingsCommand where
  | setEnvironment (env : Environment)
  /-- The configuration that the environment asks for. -/
  | fromEnvironment
  /-- Apply the configuration that the environment asks for. -/
  | start
  | startWith (config : BarrierConfig)
  | activeConfig
  | configureLogger (config : LoggerConfig)
  | logEvent (e : BarrierEvent)
  /-- Give the counters to the logger. -/
  | logSummary
  | eventCount
  | statistics
  | averageBytes
  | resetStatistics
  | enableStatistics (on : Bool)

namespace Machine

open Text

/-- The record of an applied configuration. -/
def startedRecord (config : BarrierConfig) (cardSize : UInt64) : LogRecord :=
  ⟨.debug, eventTarget, "FWB " ++ version ++ " initialized: " ++ decimal cardSize ++
    " byte cards, stats " ++ (if config.statsEnabled then "on" else "off")⟩

/-- The state in which a valid configuration is active. -/
def withConfig (s : Machine) (config : BarrierConfig) : Machine :=
  { s with
    config
    diagnostics :=
      { s.diagnostics with
        statsEnabled := config.statsEnabled
        logger := s.diagnostics.logger.configure config.loggerConfig } }

/-- Apply a configuration. -/
def applyConfig (s : Machine) (config : BarrierConfig) : Machine × Outcome Answer :=
  match config.validate with
  | .error e =>
    match s.logEvent (.rejected e.message) with
    | (s, .ok ()) => (s, .error (.error (.configuration e)))
    | (s, .error f) => (s, .error (.fault f))
  | .ok () =>
    let s := s.withConfig config
    match config.cardSize with
    | .error f => (s, .error (.fault f))
    | .ok cardSize =>
      ({ s with diagnostics := s.diagnostics.emit (startedRecord config cardSize) },
        .ok (.config config))

/-- The configuration that the environment asks for, with its warnings sent. -/
def readEnvironment (s : Machine) : Machine × BarrierConfig :=
  let (config, warnings) := s.environment.config
  ({ s with
     diagnostics := { s.diagnostics with records := s.diagnostics.records ++ warnings } }, config)

/-- The answer of an operation that does nothing but log. -/
def logged (result : Machine × Except Fault Unit) : Machine × Outcome Answer :=
  match result with
  | (s, .ok ()) => (s, .ok (.count s.diagnostics.logger.eventCount))
  | (s, .error f) => (s, .error (.fault f))

end Machine

namespace SettingsCommand

open Machine

def perform (s : Machine) : SettingsCommand → Machine × Outcome Answer
  | setEnvironment environment => ({ s with environment }, .ok .nothing)
  | fromEnvironment =>
      let (s, config) := s.readEnvironment
      (s, .ok (.config config))
  | start =>
      let (s, config) := s.readEnvironment
      s.applyConfig config
  | startWith config => s.applyConfig config
  | activeConfig => (s, .ok (.config s.config))
  | configureLogger config =>
      ({ s with
         diagnostics :=
           { s.diagnostics with logger := s.diagnostics.logger.configure config } },
        .ok .nothing)
  | logEvent e => logged (s.logEvent e)
  | logSummary => logged (s.logEvent (.statistics s.diagnostics.counters))
  | eventCount => (s, .ok (.count s.diagnostics.logger.eventCount))
  | statistics => (s, .ok (.statistics s.diagnostics.counters s.diagnostics.statsEnabled))
  | averageBytes => (s, .ok (.bits s.diagnostics.counters.averageBytes.toBits))
  | resetStatistics =>
      ({ s with diagnostics := { s.diagnostics with counters := {} } }, .ok .nothing)
  | enableStatistics statsEnabled =>
      ({ s with diagnostics := { s.diagnostics with statsEnabled } }, .ok .nothing)

end SettingsCommand

end WriteBarrier
