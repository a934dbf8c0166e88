import WriteBarrier.Checked
import WriteBarrier.Text.Fields
import WriteBarrier.Text.Json
import WriteBarrier.Text.Numeral
/-!
Counters of barrier activity.

Recording wraps around at the largest word.  Merging two sets of counters does not: it adds field by
field and stops at the first sum that is no word, with the fields before it added.
-/

namespace WriteBarrier

/-- What the notifications of a run came to. -/
structure Counters where
  notifyCalls : UInt64 := 0
  bytesNotified : UInt64 := 0
  /-- Cards that went from clean to dirty. -/
  cardsDirtied : UInt64 := 0
  /-- Notifications with a byte outside every card table. -/
  unrecordedWrites : UInt64 := 0
  deriving DecidableEq, Repr, Inhabited

inductive CounterCommand where
  /-- A notification of so many bytes that dirtied so many cards. -/
  | notification (bytes cards : UInt64)
  /-- A notification with a byte outside every card table. -/
  | unrecorded
  | reset
  deriving DecidableEq, Repr

namespace Counters

open Text

/-- One more notification, of so many bytes, that dirtied so many cards. -/
def recordNotify (c : Counters) (bytes cards : UInt64) : Counters :=
  { c with
    notifyCalls := c.notifyCalls + 1
    bytesNotified := c.bytesNotified + bytes
    cardsDirtied := c.cardsDirtied + cards }

/-- One more notification with a byte outside every card table. -/
def recordUnrecorded (c : Counters) : Counters :=
  { c with unrecordedWrites := c.unrecordedWrites + 1 }

def perform (c : Counters) : CounterCommand → Counters
  | .notification bytes cards => c.recordNotify bytes cards
  | .unrecorded => c.recordUnrecorded
  | .reset => {}

/-- The counters after the additions that succeed, and the fault of the first that does not. -/
def merge (c other : Counters) : Counters × Except Fault Unit :=
  match checkedAdd c.notifyCalls other.notifyCalls with
  | .error f => (c, .error f)
  | .ok calls =>
    let c := { c with notifyCalls := calls }
    match checkedAdd c.bytesNotified other.bytesNotified with
    | .error f => (c, .error f)
    | .ok bytes =>
      let c := { c with bytesNotified := bytes }
      match checkedAdd c.cardsDirtied other.cardsDirtied with
      | .error f => (c, .error f)
      | .ok cards =>
        let c := { c with cardsDirtied := cards }
        match checkedAdd c.unrecordedWrites other.unrecordedWrites with
        | .error f => (c, .error f)
        | .ok writes => ({ c with unrecordedWrites := writes }, .ok ())

/-- The mean number of bytes of a notification, zero before the first one. -/
def averageBytes (c : Counters) : Float :=
  if c.notifyCalls = 0 then 0 else c.bytesNotified.toFloat / c.notifyCalls.toFloat

/-- The counters as a JSON object, in the order of their declaration. -/
def json (c : Counters) : String :=
  Json.object
    [("notify_calls", Json.number c.notifyCalls), ("bytes_notified", Json.number c.bytesNotified),
      ("cards_dirtied", Json.number c.cardsDirtied),
      ("unrecorded_writes", Json.number c.unrecordedWrites)]

/-- The counters as a JSON object, in the order of their names. -/
def sortedJson (c : Counters) : String :=
  Json.object
    [("bytes_notified", Json.number c.bytesNotified), ("cards_dirtied", Json.number c.cardsDirtied),
      ("notify_calls", Json.number c.notifyCalls),
      ("unrecorded_writes", Json.number c.unrecordedWrites)]

def debug (c : Counters) : String :=
  fields "BarrierStats"
    [("notify_calls", decimal c.notifyCalls), ("bytes_notified", decimal c.bytesNotified),
      ("cards_dirtied", decimal c.cardsDirtied),
      ("unrecorded_writes", decimal c.unrecordedWrites)]

end Counters

end WriteBarrier
