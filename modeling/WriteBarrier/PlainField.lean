/-!
Fields with ordinary stores, which compare as the value that they hold.

Values compare through `PartialCompare`, because floating-point values have an incomparable one: two
values are then neither smaller, equal nor greater.
-/

namespace WriteBarrier

/-- Values with a comparison that may have no answer. -/
class PartialCompare (α : Type) where
  /-- The order of two values, if they have one. -/
  compare? : α → α → Option Ordering

export PartialCompare (compare?)

instance : PartialCompare Int where
  compare? a b := some (compare a b)

instance : PartialCompare Bool where
  compare? a b := some (compare a.toNat b.toNat)

instance : PartialCompare Char where
  compare? a b := some (compare a.toNat b.toNat)

/-- Texts compare by their code points, which is the order of their encodings byte by byte. -/
instance : PartialCompare String where
  compare? a b := some (if a < b then .lt else if b < a then .gt else .eq)

/-- A double-precision number kept as its bit pattern, so that every not-a-number survives. -/
structure FloatBits where
  bits : UInt64
  deriving DecidableEq, Repr, Inhabited

namespace FloatBits

/-- The pattern without its sign: the magnitudes of two numbers compare as these do. -/
def magnitude (x : FloatBits) : Nat :=
  x.bits.toNat % 0x8000000000000000

/-- A pattern whose exponent is full and whose fraction is not zero. -/
def isNaN (x : FloatBits) : Bool :=
  0x7FF0000000000000 < x.magnitude

/-- The position of a number among all numbers; both zeros stand at zero. -/
def rank (x : FloatBits) : Int :=
  if x.bits.toNat < 0x8000000000000000 then x.magnitude else -x.magnitude

end FloatBits

/-- Numbers compare by their position; what is not a number compares with nothing. -/
instance : PartialCompare FloatBits where
  compare? a b := if a.isNaN || b.isNaN then none else some (compare a.rank b.rank)

structure PlainField (α : Type) where
  value : α
  deriving DecidableEq, Repr

namespace PlainField

variable {α : Type}

def set (_ : PlainField α) (value : α) : PlainField α :=
  ⟨value⟩

variable [PartialCompare α]

instance : PartialCompare (PlainField α) where
  compare? a b := compare? a.value b.value

/-- The smaller of the field and a value; the field's own value unless the other is smaller. -/
def minWith (f : PlainField α) (other : α) : α :=
  if compare? other f.value = some .lt then other else f.value

/-- The larger of the field and a value; the field's own value unless the other is larger. -/
def maxWith (f : PlainField α) (other : α) : α :=
  if compare? other f.value = some .gt then other else f.value

/-- The smaller of two fields, the first of equal ones. -/
def min (a b : PlainField α) : PlainField α :=
  if compare? a b = some .gt then b else a

/-- The larger of two fields, the second of equal ones. -/
def max (a b : PlainField α) : PlainField α :=
  if compare? a b = some .gt then a else b

end PlainField

/-- What two values answer to the six comparisons. -/
structure Comparison where
  order : Option Ordering
  deriving DecidableEq, Repr

namespace Comparison

/-- The comparison of two values. -/
def of {α : Type} [PartialCompare α] (a b : α) : Comparison :=
  ⟨compare? a b⟩

def eq (c : Comparison) : Bool := c.order == some .eq

def lt (c : Comparison) : Bool := c.order == some .lt

def gt (c : Comparison) : Bool := c.order == some .gt

def le (c : Comparison) : Bool := c.lt || c.eq

def ge (c : Comparison) : Bool := c.gt || c.eq

end Comparison

end WriteBarrier
