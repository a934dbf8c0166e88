import WriteBarrier.Counters
import Mathlib.Data.UInt
/-!
Counters as sums.

Main statement: counters added field by field, each modulo the word size, are a commutative monoid,
so that what a run has counted is the sum of what each of its notifications adds, in any order.
-/

namespace WriteBarrier

attribute [ext] Counters

namespace Counters

variable {c d : Counters}

instance : Zero Counters :=
  ⟨{}⟩

instance : Add Counters where
  add c d :=
    { notifyCalls := c.notifyCalls + d.notifyCalls
      bytesNotified := c.bytesNotified + d.bytesNotified
      cardsDirtied := c.cardsDirtied + d.cardsDirtied
      unrecordedWrites := c.unrecordedWrites + d.unrecordedWrites }

@[simp] theorem notifyCalls_add : (c + d).notifyCalls = c.notifyCalls + d.notifyCalls :=
  rfl

@[simp] theorem bytesNotified_add : (c + d).bytesNotified = c.bytesNotified + d.bytesNotified :=
  rfl

@[simp] theorem cardsDirtied_add : (c + d).cardsDirtied = c.cardsDirtied + d.cardsDirtied :=
  rfl

@[simp] theorem unrecordedWrites_add :
    (c + d).unrecordedWrites = c.unrecordedWrites + d.unrecordedWrites :=
  rfl

instance : AddCommMonoid Counters where
  add_assoc a b c := by ext1 <;> exact add_assoc ..
  zero_add c := by ext1 <;> exact zero_add _
  add_zero c := by ext1 <;> exact add_zero _
  add_comm a b := by ext1 <;> exact add_comm ..
  nsmul := nsmulRec

end Counters

end WriteBarrier
