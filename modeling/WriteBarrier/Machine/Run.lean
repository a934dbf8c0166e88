import WriteBarrier.Machine.Cards
import WriteBarrier.Machine.Settings
import WriteBarrier.Storage.Bulk
import WriteBarrier.Storage.Construction
import WriteBarrier.Storage.Field
import WriteBarrier.Storage.Plain
/-!
Runs: the commands of the library and how a state carries them out one after the other.
-/

namespace WriteBarrier

/-- The operations on memory, by the kind of storage that they work on. -/
inductive StorageCommand where
  /-- An operation on the tracked pointers of a manager. -/
  | tracked (manager : Manager) (c : TrackedCommand)
  | plain (c : PlainCommand)
  /-- An operation on a pointer field in an allocator's memory. -/
  | field (allocator : Allocator) (c : FieldCommand)
  | memory (c : MemoryCommand)
  /-- A store into an object under construction. -/
  | construct (object : Construction) (c : GuardedStore)
  /-- The end of a construction. -/
  | finish (object : Construction)
  deriving DecidableEq, Repr

/-- The type of the words that pointer fields point to. -/
def pointedWord : Element := .scalar .uint64

/-- Carry out an operation on memory. -/
def StorageCommand.perform (m : Memory) : StorageCommand → Effect
  | tracked manager c => c.perform manager m
  | plain c => c.perform m
  | field allocator c => c.perform (allocator.pointerStorage pointedWord) m
  | memory c => c.perform m
  | construct object c => object.store m c
  | finish object => object.finish m

/-- The commands of a run. -/
inductive Command where
  | settings (c : SettingsCommand)
  | cards (c : CardCommand)
  | storage (c : StorageCommand)
  /-- Notify a manager, in a build that does. -/
  | notify (n : Notification)
  /-- Hand a notification to its manager in any build. -/
  | deliver (n : Notification)

namespace Machine

/-- The answer of an operation that does nothing but notify. -/
def notified (result : Machine × Except Fault Unit) : Machine × Outcome Answer :=
  match result with
  | (s, .ok ()) => (s, .ok .nothing)
  | (s, .error f) => (s, .error (.fault f))

/-- Carry out a command. -/
def step (s : Machine) : Command → Machine × Outcome Answer
  | .settings c => c.perform s
  | .cards c => c.perform s
  | .storage c => s.absorb (c.perform s.memory)
  | .notify n => notified (s.notify n)
  | .deliver n => notified (s.deliver n)

/-- Carry out commands one after the other; a failure ends its command, not the run. -/
def run (s : Machine) : List Command → Machine × List (Outcome Answer)
  | [] => (s, [])
  | c :: rest =>
    let (s, outcome) := s.step c
    let (s, outcomes) := s.run rest
    (s, outcome :: outcomes)

/-- Forget the calls and records so far. -/
def quiet (s : Machine) : Machine :=
  { s with calls := [], diagnostics := { s.diagnostics with records := [] } }

end Machine

end WriteBarrier
