import WriteBarrier.Machine.State
/-!
Card tables in a run: making, registering, marking, asking and draining them.
-/

namespace WriteBarrier

inductive CardCommand where
  | make (base len : UInt64) (shift : UInt32)
  | makeWith (base len : UInt64) (config : BarrierConfig)
  /-- Make a table with the card size of the active configuration. -/
  | makeActive (base len : UInt64)
  | register (id : TableId)
  | unregister (id : TableId)
  | covers (id : TableId) (address bytes : UInt64)
  | dirtyRange (id : TableId) (address bytes : UInt64)
  | isDirty (id : TableId) (address : UInt64)
  | dirtyCount (id : TableId)
  | dirtyCards (id : TableId)
  | drain (id : TableId)
  | clear (id : TableId)
  | debug (id : TableId)
  deriving DecidableEq, Repr

namespace Machine

/-- Do something with a table that was made. -/
def withTable (s : Machine) (id : TableId)
    (act : CardTable → Machine × Outcome Answer) : Machine × Outcome Answer :=
  match s.registry.get? id with
  | some t => act t
  | none => (s, .error (.unknownTable id))

/-- Keep a table that was made, or answer why it was not. -/
def keepTable (s : Machine) : Except BarrierError CardTable → Machine × Outcome Answer
  | .ok t =>
      ({ s with registry := s.registry.insert t }, .ok (.table s.registry.nextId t.layout))
  | .error e => (s, .error (.error e))

/-- Replace a table by another state of it. -/
def updateTable (s : Machine) (id : TableId) (t : CardTable) : Machine :=
  { s with registry := s.registry.update id t }

/-- Let a table record, after the event of its registration was logged. -/
def registerTable (s : Machine) (id : TableId) (t : CardTable) : Machine × Outcome Answer :=
  match s.logEvent (.registered t.layout.base t.layout.len t.layout.cardSizeWord) with
  | (s, .ok ()) =>
    let registry := s.registry.register id
    ({ s with registry }, .ok (.count registry.entries.length))
  | (s, .error f) => (s, .error (.fault f))

/-- Remove an entry of a table, then log the event if there was one. -/
def unregisterTable (s : Machine) (id : TableId) (t : CardTable) : Machine × Outcome Answer :=
  match s.registry.unregister id with
  | none => (s, .ok (.removal false s.registry.entries.length))
  | some registry =>
    match { s with registry }.logEvent (.unregistered t.layout.base) with
    | (s, .ok ()) => (s, .ok (.removal true registry.entries.length))
    | (s, .error f) => (s, .error (.fault f))

/-- Drain a table and tell of the drain; a drain that was stopped is not told of. -/
def drainTable (s : Machine) (id : TableId) (t : CardTable) : Machine × Outcome Answer :=
  let drained := t.drain
  let s := s.updateTable id drained.table
  match drained.stopped with
  | some f => (s, .error (.fault f))
  | none =>
    let (diagnostics, result) :=
      s.diagnostics.noteDrain s.clock t.layout.base (UInt64.ofNat drained.ranges.length)
    let s := { s with diagnostics }
    match result with
    | .ok () => (s, .ok (.ranges drained.ranges))
    | .error f => (s, .error (.fault f))

end Machine

namespace CardCommand

open Machine

def perform (s : Machine) : CardCommand → Machine × Outcome Answer
  | make base len shift => s.keepTable (CardTable.new base len shift)
  | makeWith base len config => s.keepTable (CardTable.withConfig base len config)
  | makeActive base len => s.keepTable (CardTable.new base len s.config.cardShift)
  | register id => s.withTable id fun t => s.registerTable id t
  | unregister id => s.withTable id fun t => s.unregisterTable id t
  | covers id address bytes =>
      s.withTable id fun t => (s, .ok (.flag (t.layout.covers address bytes)))
  | dirtyRange id address bytes => s.withTable id fun t =>
      match t.dirtyRange address bytes with
      | .ok (marked, fresh) => (s.updateTable id marked, .ok (.count fresh))
      | .error failure => (s, .error failure)
  | isDirty id address => s.withTable id fun t => (s, (t.isDirty address).map .flag)
  | dirtyCount id => s.withTable id fun t => (s, .ok (.count t.dirtyCount))
  | dirtyCards id => s.withTable id fun t => (s, .ok (.cards t.dirtyCards))
  | drain id => s.withTable id fun t => s.drainTable id t
  | clear id => s.withTable id fun t => (s.updateTable id t.clear, .ok .nothing)
  | debug id => s.withTable id fun t => (s, .ok (.texts t.debug t.tallDebug))

end CardCommand

end WriteBarrier
