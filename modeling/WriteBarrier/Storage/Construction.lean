import WriteBarrier.Storage.Tracked
/-!
Construction: the fields of an object that is still being built may be stored without a report,
because the end of the construction reports the whole object.
-/

namespace WriteBarrier

/-- A store into an object under construction. -/
inductive GuardedStore where
  /-- A store into a field that is no pointer. -/
  | value (address word : UInt64)
  /-- A store into a tracked field that is not reported. -/
  | unbarriered (slot pointer : UInt64)
  /-- A store into a tracked field that is reported at once. -/
  | barriered (slot pointer : UInt64)
  deriving DecidableEq, Repr

/-- An object under construction, and the manager that is told about it. -/
structure Construction where
  manager : Manager
  address : UInt64
  size : UInt64
  deriving DecidableEq, Repr

namespace Construction

/-- Carry out a store into the object. -/
def store (c : Construction) (m : Memory) : GuardedStore → Effect
  | .value address word => .silent (m.setWord address.toNat word) .nothing
  | .unbarriered slot pointer => .silent (m.setWord slot.toNat pointer) .nothing
  | .barriered slot pointer => Tracked.set c.manager m slot pointer .nothing

/-- End the construction: report the whole object. -/
def finish (c : Construction) (m : Memory) : Effect :=
  ⟨m, [⟨c.manager, c.address, c.size⟩], .ok .nothing⟩

end Construction

end WriteBarrier
