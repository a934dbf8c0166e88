import WriteBarrier.Policy.Basic
import WriteBarrier.Policy.Manager
/-!
The element types of fields and arrays: their size, their shape, the policy that their shape
implies, and the policy that they have in a non-leaf allocation.
-/

namespace WriteBarrier

/-- Types without structure that the library knows. -/
inductive Scalar where
  | unit
  | boolean
  | character
  | uint8
  | uint16
  | uint32
  | uint64
  | uint128
  | addressUnsigned
  | int8
  | int16
  | int32
  | int64
  | int128
  | addressSigned
  | float32
  | float64
  deriving DecidableEq, Repr

namespace Scalar

def size : Scalar → UInt64
  | unit => 0
  | boolean | uint8 | int8 => 1
  | uint16 | int16 => 2
  | character | uint32 | int32 | float32 => 4
  | uint64 | int64 | addressUnsigned | addressSigned | float64 => 8
  | uint128 | int128 => 16

def name : Scalar → String
  | unit => "()"
  | boolean => "bool"
  | character => "char"
  | uint8 => "u8"
  | uint16 => "u16"
  | uint32 => "u32"
  | uint64 => "u64"
  | uint128 => "u128"
  | addressUnsigned => "usize"
  | int8 => "i8"
  | int16 => "i16"
  | int32 => "i32"
  | int64 => "i64"
  | int128 => "i128"
  | addressSigned => "isize"
  | float32 => "f32"
  | float64 => "f64"

end Scalar

/-- The types that a field or an array element may have. -/
inductive Element where
  | scalar (s : Scalar)
  /-- A user type declared to hold no pointer that the collector traces. -/
  | declared (name : String) (size : UInt64)
  /-- A pointer through which the target may be written. -/
  | pointer (target : Element)
  /-- A pointer through which the target is only read. -/
  | readPointer (target : Element)
  /-- A pointer whose stores notify its own manager. -/
  | tracked (target : Element) (manager : Manager)
  /-- A pointer with ordinary stores. -/
  | plainPointer (target : Element)
  /-- A value with ordinary stores. -/
  | plainField (value : Element)
  /-- The tag that forces a barrier wherever the allocator allows one. -/
  | barrierTag
  deriving DecidableEq, Repr

/-- Whether the collector has to trace an element. -/
inductive Shape where
  | pointerFree
  | pointerShaped
  deriving DecidableEq, Repr

/-- The policy of a shape before the allocator is taken into account. -/
def Shape.policy : Shape → Policy
  | pointerFree => .unbarriered
  | pointerShaped => .barriered

namespace Element

def size : Element → UInt64
  | scalar s => s.size
  | declared _ bytes => bytes
  | pointer _ | readPointer _ | tracked .. | plainPointer _ => 8
  | plainField value => value.size
  | barrierTag => 0

def name : Element → String
  | scalar s => s.name
  | declared n _ => n
  | pointer target => "*mut " ++ target.name
  | readPointer target => "*const " ++ target.name
  | tracked target manager => "TrackedPtr<" ++ target.name ++ "," ++ manager.name ++ ">"
  | plainPointer target => "PlainPtr<" ++ target.name ++ ">"
  | plainField value => "PlainField<" ++ value.name ++ ">"
  | barrierTag => "WriteBarrierPolicy"

/-- Pointers, tracked pointers and the tag are pointer shaped; a plain wrapper is not, whatever it
holds. -/
def shape : Element → Shape
  | pointer _ | readPointer _ | tracked .. | barrierTag => .pointerShaped
  | scalar _ | declared .. | plainPointer _ | plainField _ => .pointerFree

/-- In a non-leaf allocation every element needs a barrier, the 32-bit signed integer alone
excepted. -/
def nonLeafPolicy : Element → Policy
  | scalar .int32 => .unbarriered
  | _ => .barriered

/-- Storage that only stores with a notification may write. -/
def isBarrieredStorage : Element → Bool
  | tracked .. => true
  | _ => false

/-- The storage of an element that is tracked for a manager: a pointer is wrapped, and everything
else, a pointer that is already tracked included, keeps its type. -/
def trackedFor (manager : Manager) : Element → Element
  | pointer target | readPointer target => tracked target manager
  | other => other

end Element

end WriteBarrier
