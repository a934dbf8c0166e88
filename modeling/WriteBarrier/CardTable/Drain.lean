import WriteBarrier.CardTable.Basic
/-!
Draining a card table: its dirty cards are cleaned one after the other in address order, and the
covered part of each is reported.  A card is cleaned before its range is computed; a card without a
range ends the drain unreported.
-/

namespace WriteBarrier

structure Drained where
  table : CardTable
  /-- The start and length of each reported range, in the order of the reports. -/
  ranges : List (UInt64 × UInt64)
  /-- The fault that ended the drain, if one did. -/
  stopped : Option Fault
  deriving DecidableEq, Repr

namespace CardTable

/-- The range of a card, if it has one. -/
def cardRange? (t : CardTable) (card : Nat) : Option (UInt64 × UInt64) :=
  match t.layout.cardRange card with
  | .ok range => some range
  | .error _ => none

/-- The table with every card up to and including one of them clean. -/
def cleanThrough (t : CardTable) (card : Nat) : CardTable :=
  ⟨t.layout, t.cards.mapIdx fun i dirty => dirty && card < i, Array.size_mapIdx.trans t.size_eq⟩

/-- The fault for which a card has no range, if it has none. -/
def cardFault? (t : CardTable) (card : Nat) : Option Fault :=
  match t.layout.cardRange card with
  | .ok _ => none
  | .error f => some f

/-- Clean the dirty cards in ascending order and report their ranges. -/
def drain (t : CardTable) : Drained :=
  let hasRange := fun card => (t.cardRange? card).isSome
  let ranges := (t.dirtyCards.takeWhile hasRange).filterMap t.cardRange?
  match t.dirtyCards.dropWhile hasRange with
  | [] => ⟨t.clear, ranges, none⟩
  | card :: _ => ⟨t.cleanThrough card, ranges, t.cardFault? card⟩

end CardTable

end WriteBarrier
