import WriteBarrier.CardTable.Layout
/-!
Card tables: a layout with one state for each of its cards.

Marking a range makes every card that meets it dirty and counts those that were clean; a range that
is not covered changes nothing.  Draining hands the dirty cards to the collector in address order
and leaves them clean.
-/

namespace WriteBarrier

/-- A card table.  A card is dirty where `cards` holds `true`. -/
structure CardTable where
  layout : CardLayout
  cards : Array Bool
  size_eq : cards.size = layout.cardCount
  deriving DecidableEq, Repr

namespace CardTable

open Text

/-- A table over a layout with all cards clean. -/
def clean (layout : CardLayout) : CardTable :=
  ⟨layout, Array.replicate layout.cardCount false, Array.size_replicate⟩

/-- A table over a range with cards of `2 ^ shift` bytes, all clean. -/
def new (base len : UInt64) (shift : UInt32) : Except BarrierError CardTable :=
  (CardLayout.make base len shift).map clean

/-- A table with the card size of a configuration, which is validated first. -/
def withConfig (base len : UInt64) (config : BarrierConfig) : Except BarrierError CardTable :=
  match config.validate with
  | .ok () => new base len config.cardShift
  | .error e => .error (.configuration e)

def isDirtyCard (t : CardTable) (card : Nat) : Bool :=
  t.cards[card]?.getD false

/-- The dirty cards, ascending. -/
def dirtyCards (t : CardTable) : List Nat :=
  (List.range t.cards.size).filter t.isDirtyCard

def dirtyCount (t : CardTable) : Nat :=
  t.cards.count true

/-- The cards after `count` of them from `first` on were marked, and `fresh` plus the number of
those that were clean. -/
def markRun (cards : Array Bool) (first fresh : Nat) : Nat → Array Bool × Nat
  | 0 => (cards, fresh)
  | count + 1 =>
    match cards[first]? with
    | some false => markRun (cards.setIfInBounds first true) (first + 1) (fresh + 1) count
    | _ => markRun cards (first + 1) fresh count

theorem size_markRun (cards : Array Bool) (first fresh count : Nat) :
    (markRun cards first fresh count).1.size = cards.size := by
  induction count generalizing cards first fresh with
  | zero => rfl
  | succ count ih =>
    rw [markRun]
    split
    · rw [ih, Array.size_setIfInBounds]
    · exact ih ..

/-- The table after the cards from `first` to `last` were marked, and the number of those that were
clean. -/
def markCards (t : CardTable) (first last : Nat) : Except Fault (CardTable × Nat) :=
  if last < t.cards.size then
    let marked := markRun t.cards first 0 (last + 1 - first)
    .ok (⟨t.layout, marked.1, (size_markRun ..).trans t.size_eq⟩, marked.2)
  else .error (.rangePastEnd (last + 1) t.cards.size)

/-- Mark every card that meets a range of bytes, and count those that were clean. -/
def dirtyRange (t : CardTable) (address bytes : UInt64) : Outcome (CardTable × Nat) :=
  if t.layout.covers address bytes then
    if bytes = 0 then .ok (t, 0)
    else Outcome.ofChecked do
      let cards ← t.layout.cardsOf address bytes
      t.markCards cards.1 cards.2
  else .error (.error (.addressOutOfRange address bytes))

/-- Whether the card of an address is dirty. -/
def isDirty (t : CardTable) (address : UInt64) : Outcome Bool :=
  if t.layout.covers address 1 then
    Outcome.ofChecked do
      let card ← t.layout.cardIndex address
      match t.cards[card]? with
      | some dirty => .ok dirty
      | none => .error (.indexPastEnd card t.cards.size)
  else .error (.error (.addressOutOfRange address 1))

def clear (t : CardTable) : CardTable :=
  ⟨t.layout, t.cards.map fun _ => false, (Array.size_map ..).trans t.size_eq⟩

def debugFields (t : CardTable) : List Field :=
  [("base", hex t.layout.base), ("len", decimal t.layout.len),
    ("card_size", t.layout.cardSize.repr), ("dirty_cards", t.dirtyCount.repr)]

def debug (t : CardTable) : String :=
  fields "CardTable" t.debugFields

def tallDebug (t : CardTable) : String :=
  tallFields "CardTable" t.debugFields

end CardTable

end WriteBarrier
