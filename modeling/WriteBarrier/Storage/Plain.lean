import WriteBarrier.Storage.Effect
/-!
Plain pointers: pointer fields with ordinary stores, which notify nobody.
-/

namespace WriteBarrier

/-- The operations on plain pointers.  A slot is the address of a pointer. -/
inductive PlainCommand where
  | set (slot pointer : UInt64)
  /-- Store the value of another plain pointer. -/
  | copy (slot source : UInt64)
  | read (slot : UInt64)
  /-- The word that the pointer points to. -/
  | target (slot : UInt64)
  /-- Store into the word that the pointer points to and answer its value before. -/
  | setTarget (slot value : UInt64)
  | equals (slot other : UInt64)
  | equalsRaw (slot pointer : UInt64)
  deriving DecidableEq, Repr

namespace PlainCommand

def perform (m : Memory) : PlainCommand → Effect
  | set slot pointer => .silent (m.setWord slot.toNat pointer) (.plainPointer slot pointer)
  | copy slot source =>
      let pointer := m.word source.toNat
      .silent (m.setWord slot.toNat pointer) (.plainPointer slot pointer)
  | read slot => .silent m (.plainPointer slot (m.word slot.toNat))
  | target slot =>
      let pointer := m.word slot.toNat
      .silent m (.target (if pointer = 0 then none else some (m.word pointer.toNat)))
  | setTarget slot value =>
      let pointer := m.word slot.toNat
      if pointer = 0 then .silent m (.target none)
      else .silent (m.setWord pointer.toNat value) (.target (some (m.word pointer.toNat)))
  | equals slot other => .silent m (.flag (m.word slot.toNat == m.word other.toNat))
  | equalsRaw slot pointer => .silent m (.flag (m.word slot.toNat == pointer))

end PlainCommand

def Plain.debug (pointer : UInt64) : String :=
  "PlainPtr(" ++ Text.hex pointer ++ ")"

end WriteBarrier
