import WriteBarrier.Answer
import WriteBarrier.Memory.Basic
import WriteBarrier.Policy.Manager
/-!
Effects: what an operation on memory leaves behind.  It is the memory afterwards, the notifications
that the operation asks for in their order, and its outcome.  Whether a notification is delivered is
no matter of the operation.
-/

namespace WriteBarrier

/-- A report that some bytes from an address on were written. -/
structure Notification where
  manager : Manager
  address : UInt64
  bytes : UInt64
  deriving DecidableEq, Repr

/-- The range of a number of equal elements, if its length is a word. -/
def Notification.ofArray (manager : Manager) (address size count : UInt64) :
    Except Fault Notification :=
  match checkedMul size count with
  | .ok bytes => .ok ⟨manager, address, bytes⟩
  | .error f => .error f

/-- What an operation on memory leaves behind. -/
structure Effect where
  memory : Memory
  notifications : List Notification
  outcome : Outcome Answer
  deriving Repr

namespace Effect

def silent (m : Memory) (answer : Answer) : Effect :=
  ⟨m, [], .ok answer⟩

/-- An operation that failed and left the memory as it was. -/
def failed (m : Memory) (failure : Failure) : Effect :=
  ⟨m, [], .error failure⟩

/-- An operation that wrote memory and reports it, unless the range has no length. -/
def written (m : Memory) (report : Except Fault (List Notification)) (answer : Answer) : Effect :=
  match report with
  | .ok notifications => ⟨m, notifications, .ok answer⟩
  | .error f => ⟨m, [], .error (.fault f)⟩

end Effect

end WriteBarrier
