import WriteBarrier.Config.Environment
import WriteBarrier.Storage.Effect
/-!
The state of a run: memory and card tables, which stores and notifications change; and the
diagnostics, which only watch.
-/

namespace WriteBarrier

/-- What a run keeps for its readers: counters, kept events, and the records sent to the
application's log, oldest first. -/
structure Diagnostics where
  /-- Whether notifications are counted. -/
  statsEnabled : Bool := true
  counters : Counters := {}
  logger : SharedLogger := {}
  records : List LogRecord := []
  deriving DecidableEq, Repr

/-- The target of records about card tables. -/
def cardTableTarget : String := "fwb::barrier::card_table"

namespace Diagnostics

open Text

/-- Send a record to the application's log. -/
def emit (d : Diagnostics) (r : LogRecord) : Diagnostics :=
  { d with records := d.records ++ [r] }

/-- Give an event to the logger. -/
def logEvent (d : Diagnostics) (clock : Clock) (e : BarrierEvent) :
    Diagnostics × Except Fault Unit :=
  match d.logger.log clock e with
  | (logger, .ok records) => ({ d with logger, records := d.records ++ records }, .ok ())
  | (logger, .error f) => ({ d with logger }, .error f)

/-- Count a notification, if notifications are counted. -/
def countNotification (d : Diagnostics) (bytes : UInt64) (recorded : Registry.Recorded) :
    Diagnostics :=
  if d.statsEnabled then
    let counters := d.counters.recordNotify bytes recorded.cards
    { d with
      counters := if recorded.covered < bytes then counters.recordUnrecorded else counters }
  else d

/-- The record of a write that no set of registered tables covers. -/
def unrecorded (address bytes covered : UInt64) : LogRecord :=
  ⟨.trace, cardTableTarget, "Unrecorded write barrier: " ++ hex address ++ "+" ++ decimal bytes ++
    " (" ++ decimal covered ++ " bytes covered)"⟩

/-- Count a notification and tell of one that has a byte outside every registered table. -/
def noteNotification (d : Diagnostics) (address bytes : UInt64) (recorded : Registry.Recorded) :
    Diagnostics :=
  let d := d.countNotification bytes recorded
  if recorded.covered < bytes then d.emit (unrecorded address bytes recorded.covered) else d

def drainedRecord (clock : Clock) (base dirtyCards : UInt64) : LogRecord :=
  ⟨.debug, cardTableTarget, "Drained " ++ decimal dirtyCards ++ " dirty cards from table " ++
    hex base ++ " in " ++ decimal clock.elapsed ++ " us"⟩

def noteDrain (d : Diagnostics) (clock : Clock) (base dirtyCards : UInt64) :
    Diagnostics × Except Fault Unit :=
  (d.emit (drainedRecord clock base dirtyCards)).logEvent clock
    (.scanned base dirtyCards clock.elapsed)

end Diagnostics

/-- The state of a run. -/
structure Machine where
  build : Build
  clock : Clock
  memory : Memory
  registry : Registry := {}
  /-- The notifications that reached declared managers, oldest first. -/
  calls : List Notification := []
  diagnostics : Diagnostics := {}
  /-- The configuration that was applied last. -/
  config : BarrierConfig := {}
  environment : Environment := {}

namespace Machine

/-- Hand a notification to its manager. -/
def deliver (s : Machine) (n : Notification) : Machine × Except Fault Unit :=
  match n.manager with
  | .discard => (s, .ok ())
  | .declared _ => ({ s with calls := s.calls ++ [n] }, .ok ())
  | .cardTable =>
    let (registry, recorded) := s.registry.record n.address n.bytes
    let s := { s with registry }
    match recorded with
    | .error f => (s, .error f)
    | .ok recorded =>
      ({ s with diagnostics := s.diagnostics.noteNotification n.address n.bytes recorded }, .ok ())

/-- Notify a manager, in a build that does. -/
def notify (s : Machine) (n : Notification) : Machine × Except Fault Unit :=
  if s.build.notifies then s.deliver n else (s, .ok ())

/-- Notify one manager after the other up to the first fault. -/
def notifyAll (s : Machine) : List Notification → Machine × Except Fault Unit
  | [] => (s, .ok ())
  | n :: rest =>
    match s.notify n with
    | (s, .ok ()) => s.notifyAll rest
    | (s, .error f) => (s, .error f)

/-- Take over what an operation left behind: its memory first, then its notifications. -/
def absorb (s : Machine) (e : Effect) : Machine × Outcome Answer :=
  match { s with memory := e.memory }.notifyAll e.notifications with
  | (s, .ok ()) => (s, e.outcome)
  | (s, .error f) => (s, .error (.fault f))

/-- Give an event to the logger. -/
def logEvent (s : Machine) (e : BarrierEvent) : Machine × Except Fault Unit :=
  let (diagnostics, result) := s.diagnostics.logEvent s.clock e
  ({ s with diagnostics }, result)

end Machine

end WriteBarrier
