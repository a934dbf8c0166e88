import WriteBarrier.CardTable.Coverage
import WriteBarrier.CardTable.Drain
/-!
The registry: all card tables, and the list of those that record.

A table is known by its number, so two tables over one range are different ones.  A table may be
registered several times; unregistering removes its first entry and moves the last entry of the
list into the gap.
-/

namespace WriteBarrier

/-- The number of a card table. -/
abbrev TableId := Nat

/-- The card tables and the entries that record. -/
structure Registry where
  /-- Every table made so far; a table's number is its place. -/
  tables : Array CardTable := #[]
  /-- The registered tables in the order in which a notification visits them. -/
  entries : List TableId := []
  deriving DecidableEq, Repr

/-- Remove a place of a list and move the last member into it. -/
def swapRemove {α : Type} (xs : List α) (i : Nat) : List α :=
  match xs.getLast? with
  | none => xs
  | some last => (xs.set i last).dropLast

namespace Registry

def nextId (r : Registry) : TableId :=
  r.tables.size

/-- Keep a new table, which takes the next number. -/
def insert (r : Registry) (t : CardTable) : Registry :=
  { r with tables := r.tables.push t }

/-- Replace a table by another state of it. -/
def update (r : Registry) (id : TableId) (t : CardTable) : Registry :=
  { r with tables := r.tables.setIfInBounds id t }

def get? (r : Registry) (id : TableId) : Option CardTable :=
  r.tables[id]?

/-- Let a table record. -/
def register (r : Registry) (id : TableId) : Registry :=
  { r with entries := r.entries ++ [id] }

/-- Remove the first entry of a table, if it has one. -/
def unregister (r : Registry) (id : TableId) : Option Registry :=
  match r.entries.idxOf? id with
  | some i => some { r with entries := swapRemove r.entries i }
  | none => none

def ranges (r : Registry) : List AddressRange :=
  (r.entries.filterMap r.get?).map fun t => (t.layout.base, t.layout.endWord)

/-- Mark the part of a write that a table covers, and count the cards that were clean. -/
def markTable (t : CardTable) (start stop : UInt64) : Except Fault (CardTable × Nat) :=
  let lo := max start t.layout.base
  let hi := min stop t.layout.endWord
  if lo < hi then
    match t.dirtyRange lo (hi - lo) with
    | .ok marked => .ok marked
    | .error (.fault f) => .error f
    | .error _ => .ok (t, 0)
  else .ok (t, 0)

/-- Mark a write in the tables of a list of entries, one after the other, and add the cards that
were clean to a running count. -/
def markEntries (tables : Array CardTable) (start stop : UInt64) (cards : UInt64) :
    List TableId → Array CardTable × Except Fault UInt64
  | [] => (tables, .ok cards)
  | id :: rest =>
    match tables[id]? with
    | none => markEntries tables start stop cards rest
    | some t =>
      match markTable t start stop with
      | .error f => (tables, .error f)
      | .ok (marked, fresh) =>
        match checkedAdd cards (UInt64.ofNat fresh) with
        | .error f => (tables.setIfInBounds id marked, .error f)
        | .ok total => markEntries (tables.setIfInBounds id marked) start stop total rest

/-- What a notification came to in the card tables. -/
structure Recorded where
  /-- The cards that went from clean to dirty. -/
  cards : UInt64
  /-- The bytes of the write that some registered table covers. -/
  covered : UInt64
  deriving DecidableEq, Repr

/-- Mark a write in every registered table.  A write past the end of the address space is cut off
there. -/
def record (r : Registry) (address bytes : UInt64) : Registry × Except Fault Recorded :=
  let stop := saturatingAdd address bytes
  let marked := markEntries r.tables address stop 0 r.entries
  ({ r with tables := marked.1 }, do
    let cards ← marked.2
    let covered ← coveredBytes r.ranges address stop
    return ⟨cards, covered⟩)

end Registry

end WriteBarrier
