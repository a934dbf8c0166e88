import WriteBarrier.Text.Numeral
/-!
Log records: what leaves the library for the embedding application's log, and what a record takes
from the clock.
-/

namespace WriteBarrier

/-- Levels of importance, the most important first. -/
inductive LogLevel where
  | error
  | warn
  | info
  | debug
  | trace
  deriving DecidableEq, Repr

namespace LogLevel

/-- The position of a level, the most important at zero. -/
def rank : LogLevel → Nat
  | error => 0
  | warn => 1
  | info => 2
  | debug => 3
  | trace => 4

def name : LogLevel → String
  | error => "ERROR"
  | warn => "WARN"
  | info => "INFO"
  | debug => "DEBUG"
  | trace => "TRACE"

end LogLevel

/-- A record sent to the application's log. -/
structure LogRecord where
  level : LogLevel
  target : String
  message : String
  deriving DecidableEq, Repr

/-- What records take from the clock: the time of day, and the microseconds that a scan took. -/
structure Clock where
  stamp : String
  elapsed : UInt64
  deriving DecidableEq, Repr

end WriteBarrier
