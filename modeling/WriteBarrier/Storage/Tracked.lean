import WriteBarrier.Storage.Effect
/-!
Tracked pointers: fields and arrays of pointers whose every store notifies their own manager.

A store into a field reports the field; a bulk store reports its whole destination once, also where
the source is shorter.  Reading, clearing and the stores that are called unbarriered report nothing,
and neither does a bulk store that is refused.
-/

namespace WriteBarrier

def pointerSize : UInt64 := 8

/-- The operations on tracked pointers.  A slot is the address of a pointer; a length or count is a
number of slots. -/
inductive TrackedCommand where
  | null (slot : UInt64)
  /-- Build a pointer in place without a report. -/
  | build (slot pointer : UInt64)
  | set (slot pointer : UInt64)
  | setUnbarriered (slot pointer : UInt64)
  /-- Store and answer the value before. -/
  | replace (slot pointer : UInt64)
  /-- Store the value of another tracked pointer, which has a manager of its own. -/
  | assign (slot source : UInt64) (sourceManager : Manager)
  | read (slot : UInt64)
  /-- The word that the pointer points to. -/
  | target (slot : UInt64)
  | equals (slot other : UInt64)
  | equalsRaw (slot pointer : UInt64)
  /-- Move a range of a slice to another place of it. -/
  | moveWithin (slice length start stop dest : UInt64)
  | copyFromRaw (slice length : UInt64) (source : List UInt64)
  | copyFromTracked (slice length source sourceLength : UInt64)
  | clearSlice (slice length : UInt64)
  /-- Move slots whose ranges the caller vouches for. -/
  | moveArray (dest source count : UInt64)
  | copyArrayFromRaw (dest destCount : UInt64) (source : List UInt64)
  | copyArray (dest destCount source sourceCount : UInt64)
  | clearArray (dest count : UInt64)
  deriving DecidableEq, Repr

namespace Tracked

def slotAt (array index : UInt64) : UInt64 :=
  array + pointerSize * index

def slotBytes (count : UInt64) : Nat :=
  8 * count.toNat

/-- Store a pointer and report its slot. -/
def set (manager : Manager) (m : Memory) (slot pointer : UInt64) (answer : Answer) : Effect :=
  ⟨m.setWord slot.toNat pointer, [⟨manager, slot, pointerSize⟩], .ok answer⟩

/-- Report all slots of a destination that was just written. -/
def writtenArray (manager : Manager) (m : Memory) (dest count : UInt64) : Effect :=
  Effect.written m ((Notification.ofArray manager dest pointerSize count).map fun n => [n]) .nothing

/-- Move slots, whose ranges may overlap. -/
def moveArray (manager : Manager) (m : Memory) (dest source count : UInt64) : Effect :=
  writtenArray manager (m.move dest.toNat source.toNat (slotBytes count)) dest count

/-- Copy raw pointers into the front of an array. -/
def copyArrayFromRaw (manager : Manager) (m : Memory) (dest destCount : UInt64)
    (source : List UInt64) : Effect :=
  if source.length ≤ destCount.toNat then
    writtenArray manager (m.setWords dest.toNat source) dest destCount
  else .failed m (.fault (.copyTooLong (UInt64.ofNat source.length) destCount))

/-- Copy slots into the front of an array. -/
def copyArray (manager : Manager) (m : Memory) (dest destCount source sourceCount : UInt64) :
    Effect :=
  if sourceCount ≤ destCount then
    writtenArray manager (m.move dest.toNat source.toNat (slotBytes sourceCount)) dest destCount
  else .failed m (.fault (.copyTooLong sourceCount destCount))

def clearArray (m : Memory) (dest count : UInt64) : Effect :=
  .silent (m.zero dest.toNat (slotBytes count)) .nothing

/-- The number of slots of the range to move, if both it and its destination lie in the slice. -/
def moveCount (length start stop dest : UInt64) : Outcome UInt64 :=
  if start ≤ stop ∧ stop ≤ length then do
    let count ← Outcome.ofChecked (checkedSub stop start)
    let room ← if dest ≤ length then Outcome.ofChecked (checkedSub length dest) else
      .error (.error (.rangeOutOfBounds dest (saturatingAdd dest count) length))
    if count ≤ room then .ok count
    else .error (.error (.rangeOutOfBounds dest (saturatingAdd dest count) length))
  else .error (.error (.rangeOutOfBounds start stop length))

/-- Move a range of a slice to another place of it. -/
def moveWithin (manager : Manager) (m : Memory) (slice length start stop dest : UInt64) : Effect :=
  match moveCount length start stop dest with
  | .ok count => moveArray manager m (slotAt slice dest) (slotAt slice start) count
  | .error failure => .failed m failure

def debug (pointer : UInt64) : String :=
  "TrackedPtr(" ++ Text.hex pointer ++ ")"

end Tracked

namespace TrackedCommand

open Tracked

/-- Carry out an operation on the slots of a manager. -/
def perform (manager : Manager) (m : Memory) : TrackedCommand → Effect
  | null slot => .silent (m.setWord slot.toNat 0) .nothing
  | build slot pointer => .silent (m.setWord slot.toNat pointer) .nothing
  | set slot pointer => Tracked.set manager m slot pointer .nothing
  | setUnbarriered slot pointer => .silent (m.setWord slot.toNat pointer) .nothing
  | replace slot pointer => Tracked.set manager m slot pointer (.word (m.word slot.toNat))
  | assign slot source _ => Tracked.set manager m slot (m.word source.toNat) .nothing
  | read slot => .silent m (.trackedPointer slot (m.word slot.toNat))
  | target slot =>
      let pointer := m.word slot.toNat
      .silent m (.target (if pointer = 0 then none else some (m.word pointer.toNat)))
  | equals slot other => .silent m (.flag (m.word slot.toNat == m.word other.toNat))
  | equalsRaw slot pointer => .silent m (.flag (m.word slot.toNat == pointer))
  | moveWithin slice length start stop dest =>
      Tracked.moveWithin manager m slice length start stop dest
  | copyFromRaw slice length source =>
      if source.length ≤ length.toNat then Tracked.copyArrayFromRaw manager m slice length source
      else .failed m (.error (.lengthMismatch length (UInt64.ofNat source.length)))
  | copyFromTracked slice length source sourceLength =>
      if sourceLength ≤ length then Tracked.copyArray manager m slice length source sourceLength
      else .failed m (.error (.lengthMismatch length sourceLength))
  | clearSlice slice length => Tracked.clearArray m slice length
  | moveArray dest source count => Tracked.moveArray manager m dest source count
  | copyArrayFromRaw dest destCount source =>
      Tracked.copyArrayFromRaw manager m dest destCount source
  | copyArray dest destCount source sourceCount =>
      Tracked.copyArray manager m dest destCount source sourceCount
  | clearArray dest count => Tracked.clearArray m dest count

end TrackedCommand

end WriteBarrier
