import WriteBarrier.Policy.Selection
import WriteBarrier.Storage.Tracked
/-!
Pointer fields through their common interface: the same operations work on a field whichever storage
its allocator selects, and only a tracked field's `set` notifies.
-/

namespace WriteBarrier

/-- The operations on a pointer field.  A slot is the address of the pointer. -/
inductive FieldCommand where
  | null (slot : UInt64)
  /-- Build a pointer in place without a report. -/
  | build (slot pointer : UInt64)
  | set (slot pointer : UInt64)
  | setUnbarriered (slot pointer : UInt64)
  | read (slot : UInt64)
  deriving DecidableEq, Repr

namespace FieldCommand

/-- The answer that shows a field after an operation. -/
def shown (storage : PointerStorage) (pointer : UInt64) : Answer :=
  .fieldPointer pointer storage.isTracked

/-- Carry out an operation on a field of a storage. -/
def perform (storage : PointerStorage) (m : Memory) : FieldCommand → Effect
  | null slot => .silent (m.setWord slot.toNat 0) (shown storage 0)
  | build slot pointer => .silent (m.setWord slot.toNat pointer) (shown storage pointer)
  | set slot pointer =>
      match storage with
      | .tracked manager => Tracked.set manager m slot pointer (shown storage pointer)
      | .plain => .silent (m.setWord slot.toNat pointer) (shown storage pointer)
  | setUnbarriered slot pointer =>
      .silent (m.setWord slot.toNat pointer) (shown storage pointer)
  | read slot => .silent m (shown storage (m.word slot.toNat))

end FieldCommand

end WriteBarrier
