import WriteBarrier.Policy.Allocator
/-!
Selection: for an element in an allocator's memory, whether a store needs a barrier, and the storage
that keeps the promise.
-/

namespace WriteBarrier

inductive PointerStorage where
  /-- Every store notifies a manager. -/
  | tracked (manager : Manager)
  /-- Stores are ordinary. -/
  | plain
  deriving DecidableEq, Repr

namespace PointerStorage

def isTracked : PointerStorage → Bool
  | tracked _ => true
  | plain => false

def element (target : Element) : PointerStorage → Element
  | tracked manager => .tracked target manager
  | plain => .plainPointer target

end PointerStorage

namespace Allocator

/-- Whether the allocator hands out memory that the collector watches. -/
def requiresBarrier (a : Allocator) : Bool :=
  a.tag.policy.requiresBarrier

/-- The manager told about stores into the allocator's memory. -/
def manager (a : Allocator) : Manager :=
  a.tag.manager

def kind (a : Allocator) : MemoryKind :=
  a.tag.kind

/-- The combined policy of an element in the allocator's memory. -/
def elementPolicy (a : Allocator) (e : Element) : Policy :=
  a.tag.elementPolicy e

/-- Whether stores of an element into the allocator's memory need a barrier. -/
def requiresBarrierFor (a : Allocator) (e : Element) : Bool :=
  (a.elementPolicy e).requiresBarrier

/-- The storage of an array element: tracked where a barrier is needed, the element itself
otherwise. -/
def arrayItem (a : Allocator) (e : Element) : Element :=
  match a.elementPolicy e with
  | .barriered => e.trackedFor a.manager
  | .unbarriered => e

/-- The storage of a pointer field: tracked where a barrier is needed, plain otherwise. -/
def pointerStorage (a : Allocator) (target : Element) : PointerStorage :=
  match a.elementPolicy (.pointer target) with
  | .barriered => .tracked a.manager
  | .unbarriered => .plain

def fieldPointer (a : Allocator) (target : Element) : Element :=
  PointerStorage.element target (a.pointerStorage target)

end Allocator

end WriteBarrier
