/-!
The two barrier policies and their combination: a store needs a barrier only if everything that has
a say in it asks for one.
-/

namespace WriteBarrier

/-- Whether stores under a policy notify the collector. -/
inductive Policy where
  | barriered
  | unbarriered
  deriving DecidableEq, Repr

namespace Policy

def requiresBarrier : Policy → Bool
  | barriered => true
  | unbarriered => false

/-- The policy under which both policies agree to notify. -/
def both : Policy → Policy → Policy
  | barriered, p => p
  | unbarriered, _ => unbarriered

end Policy

end WriteBarrier
