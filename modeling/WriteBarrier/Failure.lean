import WriteBarrier.Checked
import WriteBarrier.Text.Fields
import WriteBarrier.Text.Numeral
import WriteBarrier.Text.Quoted
/-!
What can go wrong.  A `BarrierError` is an answer: the operation refused and changed nothing.  A
`Fault` stops an operation half way.  A `Failure` is either of them.
-/

namespace WriteBarrier

/-- The reasons for which a configuration is refused. -/
inductive ConfigError where
  | invalidCardShift (reason : String)
  deriving DecidableEq, Repr

def ConfigError.message : ConfigError → String
  | invalidCardShift reason => "Invalid card shift: " ++ reason

/-- The reasons for which an operation is refused. -/
inductive BarrierError where
  /-- A source longer than its destination. -/
  | lengthMismatch (target source : UInt64)
  /-- An element range outside the slice. -/
  | rangeOutOfBounds (start stop length : UInt64)
  /-- An address range outside the card table. -/
  | addressOutOfRange (address bytes : UInt64)
  /-- A card table whose start is not card aligned. -/
  | misaligned (address alignment : UInt64)
  | invalidArgument (reason : String)
  | configuration (error : ConfigError)
  deriving DecidableEq, Repr

namespace BarrierError

open Text

def message : BarrierError → String
  | lengthMismatch target source =>
      "Length mismatch: cannot copy " ++ decimal source ++ " elements into a destination of " ++
        decimal target
  | rangeOutOfBounds start stop length =>
      "Range " ++ decimal start ++ ".." ++ decimal stop ++ " out of bounds for length " ++
        decimal length
  | addressOutOfRange address bytes =>
      "Address range " ++ hex address ++ "+" ++ decimal bytes ++
        " is not covered by the card table"
  | misaligned address alignment =>
      "Alignment error: address " ++ hex address ++ " is not aligned to " ++ decimal alignment ++
        " bytes"
  | invalidArgument reason => "Invalid argument: " ++ reason
  | configuration error => "Configuration error: " ++ error.message

/-- The error field by field, its numbers in decimal and its text in quotes. -/
def debug : BarrierError → String
  | lengthMismatch target source =>
      fields "LengthMismatch" [("dst", decimal target), ("src", decimal source)]
  | rangeOutOfBounds start stop length =>
      fields "RangeOutOfBounds"
        [("start", decimal start), ("end", decimal stop), ("length", decimal length)]
  | addressOutOfRange address bytes =>
      fields "AddressOutOfRange" [("address", decimal address), ("bytes", decimal bytes)]
  | misaligned address alignment =>
      fields "AlignmentError" [("address", decimal address), ("alignment", decimal alignment)]
  | invalidArgument reason => "InvalidArgument(" ++ quoted reason ++ ")"
  | configuration (.invalidCardShift reason) =>
      "Configuration(InvalidCardShift(" ++ quoted reason ++ "))"

/-- The caller can go on: it asked about memory that no table covers. -/
def isRecoverable : BarrierError → Bool
  | addressOutOfRange .. => true
  | _ => false

/-- The caller passed something that no correct caller passes. -/
def isBug : BarrierError → Bool
  | lengthMismatch .. | rangeOutOfBounds .. | invalidArgument .. => true
  | _ => false

end BarrierError

/-- The ways in which an operation fails. -/
inductive Failure where
  | error (e : BarrierError)
  | fault (f : Fault)
  /-- A card table that was never made. -/
  | unknownTable (id : Nat)
  deriving DecidableEq, Repr

def Failure.message : Failure → String
  | error e => e.message
  | fault f => f.message
  | unknownTable id => "no card table " ++ id.repr

/-- What an operation that can fail comes to. -/
abbrev Outcome := Except Failure

/-- A checked computation inside an operation: its fault is the operation's. -/
def Outcome.ofChecked {α : Type} : Except Fault α → Outcome α
  | .ok a => .ok a
  | .error f => .error (.fault f)

end WriteBarrier
