import WriteBarrier.Config.Basic
/-!
The layout of a card table: a range of addresses cut into cards of one power-of-two size.

A layout starts at a card boundary, covers at least one byte and ends inside the address space, so
its cards are the aligned blocks of the address space that meet its range; the last one may end
past the range.
-/

namespace WriteBarrier

/-- A range of addresses and the size of its cards. -/
structure CardLayout where
  base : UInt64
  len : UInt64
  /-- The base-two logarithm of the card size. -/
  shift : UInt32
  shift_ge : minCardShift ≤ shift.toNat
  shift_le : shift.toNat ≤ maxCardShift
  len_pos : 0 < len.toNat
  fits : base.toNat + len.toNat < 0x10000000000000000
  aligned : base.toNat % (1 <<< shift.toNat) = 0
  deriving DecidableEq, Repr

namespace CardLayout

open Text

/-- The layout of a range, or the first of its defects: the card size, an empty range, a range past
the end of the address space, a start inside a card. -/
def make (base len : UInt64) (shift : UInt32) : Except BarrierError CardLayout :=
  if shift_in : minCardShift ≤ shift.toNat ∧ shift.toNat ≤ maxCardShift then
    if len_pos : 0 < len.toNat then
      if fits : base.toNat + len.toNat < 0x10000000000000000 then
        if aligned : base.toNat % (1 <<< shift.toNat) = 0 then
          .ok ⟨base, len, shift, shift_in.1, shift_in.2, len_pos, fits, aligned⟩
        else .error (.misaligned base (1 <<< shift.toUInt64))
      else .error (.invalidArgument
        ("range " ++ hex base ++ "+" ++ decimal len ++ " overflows the address space"))
    else .error (.invalidArgument "card table must cover at least one byte")
  else .error (.configuration (.invalidCardShift
    ("card_shift must be within " ++ minCardShift.repr ++ "..=" ++ maxCardShift.repr ++ " (got " ++
      shift.toNat.repr ++ ")")))

def cardSize (l : CardLayout) : Nat :=
  1 <<< l.shift.toNat

def start (l : CardLayout) : Nat :=
  l.base.toNat

def stop (l : CardLayout) : Nat :=
  l.base.toNat + l.len.toNat

/-- One past the last covered byte; `fits` makes it a word. -/
def endWord (l : CardLayout) : UInt64 :=
  l.base + l.len

/-- The number of cards that meet the range. -/
def cardCount (l : CardLayout) : Nat :=
  (l.len.toNat + l.cardSize - 1) / l.cardSize

def cardSizeWord (l : CardLayout) : UInt64 :=
  1 <<< l.shift.toUInt64

/-- A range of bytes inside the covered one; an empty range may stand at either end. -/
def covers (l : CardLayout) (address bytes : UInt64) : Bool :=
  l.start ≤ address.toNat && address.toNat + bytes.toNat ≤ l.stop

/-- The card of an address at or after the start. -/
def cardIndex (l : CardLayout) (address : UInt64) : Except Fault Nat :=
  match checkedSub address l.base with
  | .ok offset => .ok (offset >>> l.shift.toUInt64).toNat
  | .error f => .error f

/-- The first and the last card of a covered range that is not empty. -/
def cardsOf (l : CardLayout) (address bytes : UInt64) : Except Fault (Nat × Nat) := do
  let first ← l.cardIndex address
  let past ← checkedAdd address bytes
  let lastByte ← checkedSub past 1
  let last ← l.cardIndex lastByte
  return (first, last)

/-- The start and the length of the covered part of a card.  The card's own end is computed before
it is clipped, so a card that ends at the very end of the address space has none. -/
def cardRange (l : CardLayout) (card : Nat) : Except Fault (UInt64 × UInt64) := do
  let first ← checkedAdd l.base (UInt64.ofNat card <<< l.shift.toUInt64)
  let past ← checkedAdd first l.cardSizeWord
  let bytes ← checkedSub (min past l.endWord) first
  return (first, bytes)

end CardLayout

end WriteBarrier
