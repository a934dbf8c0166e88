import WriteBarrier.Log.Event
/-!
The logger: it accepts an event by its level, forwards it to the application's log where configured
to, and keeps it.

The logger that all parts of the library share stands behind a lock.  An event whose text cannot be
written stops the log under the lock and poisons it, and a poisoned lock is never opened again.
-/

namespace WriteBarrier

/-- How a logger treats the events that it is given. -/
structure LoggerConfig where
  /-- The least important level that is accepted. -/
  level : LogLevel := .info
  /-- Forward accepted events to the application's log. -/
  console : Bool := true
  /-- Forward the JSON text, not the text for readers. -/
  json : Bool := false
  /-- Start a forwarded text with the time of day. -/
  timestamps : Bool := false
  deriving DecidableEq, Repr

/-- A logger and the events that it has kept, oldest first. -/
structure Logger where
  config : LoggerConfig := {}
  enabled : Bool := true
  events : List BarrierEvent := []
  deriving DecidableEq, Repr

inductive LoggerCommand where
  | log (e : BarrierEvent)
  | enable
  | disable
  | clear
  deriving DecidableEq, Repr

/-- The target of forwarded events. -/
def eventTarget : String := "fwb"

namespace Logger

/-- Whether an event is kept: the logger is enabled and the level is important enough. -/
def accepts (l : Logger) (e : BarrierEvent) : Bool :=
  l.enabled && e.level.rank ≤ l.config.level.rank

/-- The text of an event as the configuration asks for it. -/
def body (config : LoggerConfig) (e : BarrierEvent) : Except Fault String :=
  if config.json then .ok e.json else e.human

/-- The record of a text: with the time of day in front if the configuration asks for it. -/
def stamped (config : LoggerConfig) (clock : Clock) (text : String) : String :=
  if config.timestamps then "[" ++ clock.stamp ++ "] " ++ text else text

/-- The records that an accepted event sends to the application's log. -/
def forward (config : LoggerConfig) (clock : Clock) (e : BarrierEvent) :
    Except Fault (List LogRecord) :=
  if config.console then
    match body config e with
    | .ok text => .ok [⟨e.level, eventTarget, stamped config clock text⟩]
    | .error f => .error f
  else .ok []

/-- Forward and keep an event if it is accepted.  The event is forwarded first, and one whose text
cannot be written is not kept. -/
def log (l : Logger) (clock : Clock) (e : BarrierEvent) :
    Except Fault (Logger × List LogRecord) :=
  if l.accepts e then
    match forward l.config clock e with
    | .ok records => .ok ({ l with events := l.events ++ [e] }, records)
    | .error f => .error f
  else .ok (l, [])

def enable (l : Logger) : Logger :=
  { l with enabled := true }

def disable (l : Logger) : Logger :=
  { l with enabled := false }

def clear (l : Logger) : Logger :=
  { l with events := [] }

def eventCount (l : Logger) : Nat :=
  l.events.length

/-- Carry out an operation, with the records that it sends to the application's log. -/
def perform (l : Logger) (clock : Clock) : LoggerCommand → Logger × Except Fault (List LogRecord)
  | .log e =>
      match l.log clock e with
      | .ok (logger, records) => (logger, .ok records)
      | .error f => (l, .error f)
  | .enable => (l.enable, .ok [])
  | .disable => (l.disable, .ok [])
  | .clear => (l.clear, .ok [])

end Logger

/-- The logger that all parts of the library share, and whether its lock is poisoned. -/
structure SharedLogger extends Logger where
  poisoned : Bool := false
  deriving DecidableEq, Repr

namespace SharedLogger

/-- Give an event to the logger, with the records that it sends to the application's log.  Behind a
poisoned lock nobody takes it. -/
def log (g : SharedLogger) (clock : Clock) (e : BarrierEvent) :
    SharedLogger × Except Fault (List LogRecord) :=
  if g.poisoned then (g, .ok [])
  else
    match g.toLogger.log clock e with
    | .ok (logger, records) => ({ g with toLogger := logger }, .ok records)
    | .error f => ({ g with poisoned := true }, .error f)

/-- Put a new logger in the place of the old one, unless the lock is poisoned. -/
def configure (g : SharedLogger) (config : LoggerConfig) : SharedLogger :=
  if g.poisoned then g else { config }

/-- The number of kept events, of which a poisoned lock shows none. -/
def eventCount (g : SharedLogger) : Nat :=
  if g.poisoned then 0 else g.toLogger.eventCount

end SharedLogger

end WriteBarrier
