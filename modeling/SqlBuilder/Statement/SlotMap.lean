import SqlBuilder.Error

/-!
# Slot maps

The values of a statement may have other places in its text than in the caller's order, and more
than one.  A `SlotMap` sends each index of the caller to the slots where its value goes.  Indices
and slots are counted from 1.
-/

namespace SqlBuilder

/-- For each index of the caller, the slots of its value in the order in which they are bound. -/
structure SlotMap where
  targets : List (List Nat)
deriving DecidableEq

namespace SlotMap

/-- The map of `size` indices without any slot. -/
def ofSize (size : Nat) : SlotMap := ⟨List.replicate size []⟩

/-- The number of indices that a caller can bind. -/
def size (m : SlotMap) : Nat := m.targets.length

/-- The number of slots of all indices together. -/
def targetCount (m : SlotMap) : Nat := m.targets.flatten.length

/-- The place of an index in the list of targets. -/
def place (m : SlotMap) (index : Nat) : Except Error Nat :=
  if index = 0 ∨ m.size < index then .error (.indexOutOfBounds index m.size) else .ok (index - 1)

/-- Adds a slot to those of an index. -/
def put (m : SlotMap) (index target : Nat) : Except Error SlotMap :=
  (m.place index).map fun i => ⟨m.targets.modify i (· ++ [target])⟩

/-- The slots of an index. -/
def get (m : SlotMap) (index : Nat) : Except Error (List Nat) :=
  (m.place index).map fun i => m.targets.getD i []

end SlotMap

end SqlBuilder
