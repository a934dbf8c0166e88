import WriteBarrier.Config.Basic
import WriteBarrier.Text.Quoted
/-!
The configuration that the environment asks for.

A variable that is unset, or whose bytes are no text, leaves its setting at the default.  A card
shift that is no number does so with a warning; a flag is on for two spellings and off for all
others.
-/

namespace WriteBarrier

/-- The variables that are read, each with its bytes if it is set. -/
structure Environment where
  cardShift : Option ByteArray := none
  stats : Option ByteArray := none
  verbose : Option ByteArray := none

namespace Environment

/-- The text of a variable, if it is set and its bytes are a text. -/
def text? (value : Option ByteArray) : Option String :=
  value.bind String.fromUTF8?

def digitsValue (cs : List Char) : Nat :=
  cs.foldl (fun n c => 10 * n + (c.toNat - 48)) 0

/-- The number in a text: an optional plus sign and at least one decimal digit, of a value below
`2 ^ 32`. -/
def number? (s : String) : Option UInt32 :=
  let digits := match s.toList with
    | '+' :: rest => rest
    | cs => cs
  if digits ≠ [] ∧ digits.all Char.isDigit ∧ digitsValue digits < 0x100000000 then
    some (UInt32.ofNat (digitsValue digits))
  else none

/-- A flag is on if it is `1`, or `true` in any mixture of cases. -/
def flag (s : String) : Bool :=
  s.toList = ['1'] || s.toList.map Char.toLower = ['t', 'r', 'u', 'e']

/-- The target of the warning about a card shift that is no number. -/
def warningTarget : String := "fwb::config"

/-- The warning about a card shift that is no number. -/
def notANumber (s : String) : LogRecord :=
  ⟨.warn, warningTarget, "Ignoring FWB_CARD_SHIFT=" ++ Text.quoted s ++ ": not a number"⟩

/-- The card shift that the environment asks for, and the warnings about it. -/
def cardShiftSetting (env : Environment) : UInt32 × List LogRecord :=
  match text? env.cardShift with
  | none => (({} : BarrierConfig).cardShift, [])
  | some s =>
    match number? s with
    | some n => (n, [])
    | none => (({} : BarrierConfig).cardShift, [notANumber s])

/-- The setting of a flag: its default where the variable has no text. -/
def flagSetting (value : Option ByteArray) (default : Bool) : Bool :=
  match text? value with
  | none => default
  | some s => flag s

/-- The configuration that the environment asks for, and the warnings about it. -/
def config (env : Environment) : BarrierConfig × List LogRecord :=
  let shift := env.cardShiftSetting
  ({ cardShift := shift.1
     statsEnabled := flagSetting env.stats ({} : BarrierConfig).statsEnabled
     verbose := flagSetting env.verbose ({} : BarrierConfig).verbose },
    shift.2)

end Environment

end WriteBarrier
