import SqlBuilder.Statement.Assignment
import SqlBuilder.Statement.SlotMap

/-!
# Assignments of an insert-or-replace

The text of an insert-or-replace lists key columns before all others, while callers set columns in
any order.  `KeyedAssignments` keeps the two groups apart and, for each column in the order of
arrival, its place in the text.  A key column that arrives late moves every place behind the keys by
one.
-/

namespace SqlBuilder

/-- Values of key columns and of other columns. -/
structure KeyedAssignments where
  keys : Register Value := {}
  others : Register Value := {}
  /-- The columns in the order of arrival. -/
  arrivals : List Column := []
  /-- The place of each arrival among the keys followed by the others, counted from 0. -/
  places : List Nat := []

namespace KeyedAssignments

/-- No column has a value. -/
def empty : KeyedAssignments := {}

/-- The group that a column belongs to. -/
def group (a : KeyedAssignments) (c : Column) : Register Value :=
  if c.isKey then a.keys else a.others

/-- Gives a column of a group a value. -/
def store (a : KeyedAssignments) (c : Column) (v : Value) : KeyedAssignments :=
  if c.isKey then { a with keys := a.keys.put c.name v }
  else { a with others := a.others.put c.name v }

/-- Enters a column that has not been seen.  A key column goes behind the keys before it. -/
def arrive (a : KeyedAssignments) (c : Column) : KeyedAssignments :=
  let place := if c.isKey then a.keys.size else a.places.length
  { a with
    arrivals := a.arrivals ++ [c]
    places := a.places.map (fun p => if place ≤ p then p + 1 else p) ++ [place] }

/-- Gives a column a value.  A column seen before has its value replaced and nothing else. -/
def insert (a : KeyedAssignments) (e : Column × Value) : KeyedAssignments :=
  if ((a.group e.1).get? e.1.name).isSome then a.store e.1 e.2
  else (a.arrive e.1).store e.1 e.2

/-- The number of columns that have a value. -/
def size (a : KeyedAssignments) : Nat := a.places.length

/-- No column has a value, a key column or another. -/
def isEmpty (a : KeyedAssignments) : Bool := a.places.isEmpty

/-- The place of each arrival, counted from 1. -/
def positions (a : KeyedAssignments) : List Nat := a.places.map (· + 1)

/-- The values in the order of arrival. -/
def clientArgs (a : KeyedAssignments) : List Value :=
  a.arrivals.filterMap fun c => (a.group c).get? c.name

/-- The values in the order of the text. -/
def orderedArgs (a : KeyedAssignments) : List Value := a.keys.values ++ a.others.values

/-- The slots of one arrival, counted from 1; with `rebinds` one that is no key has a second slot
behind all first ones. -/
def slotsOf (a : KeyedAssignments) (rebinds : Bool) (place : Nat) : List Nat :=
  (place + 1) ::
    if rebinds && a.keys.size ≤ place then [a.size + (place - a.keys.size) + 1] else []

/-- Where the value of each arrival goes. -/
def slotMap (a : KeyedAssignments) (rebinds : Bool) : Except Error SlotMap :=
  a.places.zipIdx.foldlM (fun m (place, i) =>
    (a.slotsOf rebinds place).foldlM (fun m slot => m.put (i + 1) slot) m) (SlotMap.ofSize a.size)

end KeyedAssignments

end SqlBuilder
