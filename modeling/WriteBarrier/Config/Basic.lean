import WriteBarrier.Failure
import WriteBarrier.Log.Logger
/-!
The configuration of card recording: the card size, whether notifications are counted, and whether
table activity is logged in detail.
-/

namespace WriteBarrier

def minCardShift : Nat := 4

def maxCardShift : Nat := 20

structure BarrierConfig where
  /-- The base-two logarithm of the card size in bytes. -/
  cardShift : UInt32 := 9
  statsEnabled : Bool := true
  verbose : Bool := false
  deriving DecidableEq, Repr

namespace BarrierConfig

open Text

/-- A configuration is accepted if its cards are neither too small nor too large. -/
def validate (c : BarrierConfig) : Except ConfigError Unit :=
  if c.cardShift.toNat < minCardShift then
    .error (.invalidCardShift
      ("card_shift must be >= " ++ minCardShift.repr ++ " (got " ++ c.cardShift.toNat.repr ++ ")"))
  else if maxCardShift < c.cardShift.toNat then
    .error (.invalidCardShift
      ("card_shift must be <= " ++ maxCardShift.repr ++ " (got " ++ c.cardShift.toNat.repr ++ ")"))
  else .ok ()

/-- The card size in bytes, if a word can hold it. -/
def cardSize (c : BarrierConfig) : Except Fault UInt64 :=
  if c.cardShift.toNat < 64 then .ok (1 <<< c.cardShift.toUInt64) else .error .shiftOverflow

/-- The logger that the configuration asks for. -/
def loggerConfig (c : BarrierConfig) : LoggerConfig :=
  { level := if c.verbose then .debug else .info }

def isDefault (c : BarrierConfig) : Bool :=
  c = {}

def debug (c : BarrierConfig) : String :=
  fields "BarrierConfig"
    [("card_shift", c.cardShift.toNat.repr), ("stats_enabled", truth c.statsEnabled),
      ("verbose", truth c.verbose)]

end BarrierConfig

end WriteBarrier
