import WriteBarrier.Build
/-!
Barrier managers: who is told about a store.
-/

namespace WriteBarrier

inductive Manager where
  /-- A manager that the user declares, and that is told of each notification in order. -/
  | declared (name : String)
  /-- Ignores every notification. -/
  | discard
  /-- Marks the cards of the registered tables. -/
  | cardTable
  deriving DecidableEq, Repr

namespace Manager

/-- The manager of an allocator that names none. -/
def standard : Build → Manager
  | .notifying => cardTable
  | .silent => discard

def name : Manager → String
  | declared n => n
  | discard => "none"
  | cardTable => "card"

end Manager

end WriteBarrier
