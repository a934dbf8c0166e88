import WriteBarrier.Policy.Element
/-!
Allocators: whether their memory is visible to the collector, who is notified about stores into it,
and the policy of each element in it.
-/

namespace WriteBarrier

inductive MemoryKind where
  | unmanaged
  | managed
  | nonLeaf
  | leaf
  deriving DecidableEq, Repr

/-- An allocator's own declaration of its memory. -/
inductive AllocatorTag where
  /-- Memory that the collector never sees. -/
  | heap
  /-- Collector memory: a barrier for pointer-shaped elements. -/
  | managed (manager : Manager)
  /-- Collector memory of traced objects: a barrier for every element but one. -/
  | nonLeaf (manager : Manager)
  /-- Collector memory without pointers: never a barrier. -/
  | leaf (manager : Manager)
  deriving DecidableEq, Repr

namespace AllocatorTag

def kind : AllocatorTag → MemoryKind
  | heap => .unmanaged
  | managed _ => .managed
  | nonLeaf _ => .nonLeaf
  | leaf _ => .leaf

/-- The policy of the memory itself. -/
def policy : AllocatorTag → Policy
  | heap | leaf _ => .unbarriered
  | managed _ | nonLeaf _ => .barriered

/-- The manager told about stores into the memory. -/
def manager : AllocatorTag → Manager
  | heap => .discard
  | managed m | nonLeaf m | leaf m => m

/-- The policy of an element in the memory.  Non-leaf memory asks the element alone; all other
memory and the element's shape must agree on a barrier. -/
def elementPolicy : AllocatorTag → Element → Policy
  | nonLeaf _, e => e.nonLeafPolicy
  | tag, e => tag.policy.both e.shape.policy

end AllocatorTag

/-- An allocator: a tag used as an allocator, or a user allocator that declares its tag. -/
inductive Allocator where
  | ofTag (tag : AllocatorTag)
  | declared (name : String) (tag : AllocatorTag)
  deriving DecidableEq, Repr

/-- The tag that an allocator stands under. -/
def Allocator.tag : Allocator → AllocatorTag
  | ofTag tag => tag
  | declared _ tag => tag

end WriteBarrier
