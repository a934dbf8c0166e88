import WriteBarrier.Counters
import WriteBarrier.Log.Record
/-!
Barrier events, their levels, and the two texts in which an event is forwarded.

The text for readers states the range of a registered table by its two ends, so it needs the sum of
start and length to be a word; the JSON text states start and length as they are.
-/

namespace WriteBarrier

/-- What happens to card tables, configuration and counters. -/
inductive BarrierEvent where
  /-- A table started to record. -/
  | registered (base len cardSize : UInt64)
  /-- A table stopped recording. -/
  | unregistered (base : UInt64)
  /-- The collector took the dirty cards of a table. -/
  | scanned (base dirtyCards micros : UInt64)
  /-- A configuration was refused. -/
  | rejected (reason : String)
  /-- The counters at one moment. -/
  | statistics (counters : Counters)
  deriving DecidableEq, Repr

namespace BarrierEvent

open Text

/-- The level of an event. -/
def level : BarrierEvent → LogLevel
  | rejected _ => .warn
  | registered .. | unregistered _ => .info
  | scanned .. => .debug
  | statistics _ => .trace

/-- The text for readers. -/
def human : BarrierEvent → Except Fault String
  | registered base len cardSize =>
      match checkedAdd base len with
      | .ok stop =>
          .ok ("[WB] Card table registered: " ++ hex base ++ ".." ++ hex stop ++ " (" ++
            decimal cardSize ++ " byte cards)")
      | .error f => .error f
  | unregistered base => .ok ("[WB] Card table unregistered: " ++ hex base)
  | scanned base dirtyCards micros =>
      .ok ("[WB] Scanned card table " ++ hex base ++ ": " ++ decimal dirtyCards ++
        " dirty cards (" ++ decimal micros ++ " us)")
  | rejected reason => .ok ("[WB] Configuration rejected: " ++ reason)
  | statistics c =>
      .ok ("[WB] " ++ decimal c.notifyCalls ++ " notifies, " ++ decimal c.bytesNotified ++
        " bytes, " ++ decimal c.cardsDirtied ++ " cards dirtied, " ++
        decimal c.unrecordedWrites ++ " unrecorded")

/-- The JSON text, an object whose members stand in the order of their names. -/
def json : BarrierEvent → String
  | registered base len cardSize =>
      Json.object
        [("base", Json.number base), ("card_size", Json.number cardSize), ("len", Json.number len),
          ("type", Json.text "card_table_registered")]
  | unregistered base =>
      Json.object [("base", Json.number base), ("type", Json.text "card_table_unregistered")]
  | scanned base dirtyCards micros =>
      Json.object
        [("base", Json.number base), ("dirty_cards", Json.number dirtyCards),
          ("duration_us", Json.number micros), ("type", Json.text "card_scan")]
  | rejected reason =>
      Json.object [("reason", Json.text reason), ("type", Json.text "config_rejected")]
  | statistics c => Json.object [("stats", c.sortedJson), ("type", Json.text "stats")]

end BarrierEvent

end WriteBarrier
