import WriteBarrier.CardTable.Registry
/-!
What an operation answers when it succeeds.
-/

namespace WriteBarrier

inductive Answer where
  | nothing
  | flag (b : Bool)
  | count (n : Nat)
  | word (w : UInt64)
  /-- The word that a pointer points to, none for the null pointer. -/
  | target (w : Option UInt64)
  | words (ws : List UInt64)
  | bytes (bs : List UInt8)
  | cards (indexes : List Nat)
  /-- The start and length of each range that a drain reported. -/
  | ranges (rs : List (UInt64 × UInt64))
  | config (c : BarrierConfig)
  | statistics (c : Counters) (enabled : Bool)
  /-- The bit pattern of a double-precision number. -/
  | bits (pattern : UInt64)
  /-- Whether an entry was removed, and how many are left. -/
  | removal (found : Bool) (left : Nat)
  | table (id : TableId) (layout : CardLayout)
  /-- A text on one line and with a line for each field. -/
  | texts (line tall : String)
  | trackedPointer (slot value : UInt64)
  | plainPointer (slot value : UInt64)
  /-- A pointer field's value, and whether its stores notify. -/
  | fieldPointer (value : UInt64) (tracked : Bool)
  deriving DecidableEq, Repr

end WriteBarrier
