/-!
What a build of the library fixes: its version, and whether it notifies the collector at all.
-/

namespace WriteBarrier

def version : String := "0.0.3"

/-- Whether stores reach the collector: a `silent` build keeps every type and policy and drops
every notification. -/
inductive Build where
  | notifying
  | silent
  deriving DecidableEq, Repr

def Build.notifies : Build → Bool
  | .notifying => true
  | .silent => false

end WriteBarrier
