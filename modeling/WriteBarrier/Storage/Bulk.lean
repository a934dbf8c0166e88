import WriteBarrier.Policy.Selection
import WriteBarrier.Storage.Effect
/-!
Bulk operations on memory.

The raw ones write bytes and notify nobody.  The policy-driven ones ask the destination's allocator
and the element: an array of tracked pointers always reports to the pointers' own manager, any other
array to the allocator's manager if their combined policy asks for a barrier.  A report covers the
whole destination, also where the source is shorter.
-/

namespace WriteBarrier

/-- What a policy-driven operation writes: elements of one type in an allocator's memory, and the
element type whose policy decides, which need not be the same. -/
structure BulkTarget where
  allocator : Allocator
  element : Element
  decides : Element
  deriving DecidableEq, Repr

namespace BulkTarget

/-- Elements that decide for themselves. -/
def plain (allocator : Allocator) (element : Element) : BulkTarget :=
  ⟨allocator, element, element⟩

/-- The manager told about a bulk store, if one is. -/
def manager? (t : BulkTarget) : Option Manager :=
  match t.element with
  | .tracked _ own => some own
  | _ =>
    if t.allocator.requiresBarrierFor t.decides then some t.allocator.manager else none

/-- The report on a number of elements at an address.  The length of the range is computed only if
there is somebody to tell. -/
def report (t : BulkTarget) (address count : UInt64) : Except Fault (List Notification) :=
  match t.manager? with
  | some manager =>
      (Notification.ofArray manager address t.element.size count).map fun n => [n]
  | none => .ok []

end BulkTarget

/-- The operations on memory as such. -/
inductive MemoryCommand where
  | poke (address : UInt64) (bytes : List UInt8)
  | pokeWords (address : UInt64) (values : List UInt64)
  | peek (address count : UInt64)
  | words (address count : UInt64)
  /-- Report elements that somebody else wrote. -/
  | writeBarrier (target : BulkTarget) (address count : UInt64)
  /-- Copy into the front of an array whose ranges the caller vouches for. -/
  | copyArray (target : BulkTarget) (dest destCount source sourceCount : UInt64)
  /-- Copy into the front of a slice. -/
  | copySlice (allocator : Allocator) (element : Element)
      (dest destCount source sourceCount : UInt64)
  /-- Copy or move elements behind the collector's back. -/
  | move (element : Element) (dest source count : UInt64)
  /-- Fill elements with zero bytes behind the collector's back. -/
  | zero (element : Element) (dest count : UInt64)
  deriving DecidableEq, Repr

namespace Bulk

def elementBytes (element : Element) (count : UInt64) : Nat :=
  element.size.toNat * count.toNat

/-- Copy elements, then report the whole destination. -/
def copyArray (m : Memory) (target : BulkTarget) (dest destCount source sourceCount : UInt64) :
    Effect :=
  if sourceCount ≤ destCount then
    .written (m.move dest.toNat source.toNat (elementBytes target.element sourceCount))
      (target.report dest destCount) .nothing
  else .failed m (.fault (.copyTooLong sourceCount destCount))

end Bulk

namespace MemoryCommand

open Bulk

def perform (m : Memory) : MemoryCommand → Effect
  | poke address bytes => .silent (m.store address.toNat bytes) .nothing
  | pokeWords address values => .silent (m.setWords address.toNat values) .nothing
  | peek address count => .silent m (.bytes (m.load address.toNat count.toNat))
  | words address count => .silent m (.words (m.words address.toNat count.toNat))
  | writeBarrier target address count => .written m (target.report address count) .nothing
  | copyArray target dest destCount source sourceCount =>
      Bulk.copyArray m target dest destCount source sourceCount
  | copySlice allocator element dest destCount source sourceCount =>
      if sourceCount ≤ destCount then
        Bulk.copyArray m (.plain allocator element) dest destCount source sourceCount
      else .failed m (.error (.lengthMismatch destCount sourceCount))
  | move element dest source count =>
      .silent (m.move dest.toNat source.toNat (elementBytes element count)) .nothing
  | zero element dest count =>
      .silent (m.zero dest.toNat (elementBytes element count)) .nothing

end MemoryCommand

end WriteBarrier
