import SqlBuilder.Engine.Basic
import SqlBuilder.Statement.SlotMap

/-!
# Remapped statements

A prepared statement seen through a slot map: a value bound at an index of the caller is bound at
each slot of that index, and everything else goes straight through.  An index outside the map is
refused before the statement sees anything.
-/

namespace SqlBuilder

namespace Prepared

variable {ω O : Type}

/-- Binds at each of the slots in order, up to the first that fails. -/
def bindEach (bind : Nat → Act ω Unit) : List Nat → Act ω Unit
  | [] => pure ()
  | slot :: slots => do
    bind slot
    bindEach bind slots

/-- Binds at each slot of an index. -/
def bindAtSlots (m : SlotMap) (index : Nat) (bind : Nat → Act ω Unit) : Act ω Unit := do
  bindEach bind (← Act.ofExcept (m.get index))

/-- The statement seen through a map. -/
def remap (m : SlotMap) (s : Prepared ω O) : Prepared ω O where
  bindShort index n := bindAtSlots m index (s.bindShort · n)
  bindInt index n := bindAtSlots m index (s.bindInt · n)
  bindLong index n := bindAtSlots m index (s.bindLong · n)
  bindFloat index bits := bindAtSlots m index (s.bindFloat · bits)
  bindDouble index bits := bindAtSlots m index (s.bindDouble · bits)
  bindString index t := bindAtSlots m index (s.bindString · t)
  bindBlob index bytes := bindAtSlots m index (s.bindBlob · bytes)
  bindNull index type := bindAtSlots m index (s.bindNull · type)
  clear := s.clear
  execute := s.execute
  close := s.close

theorem bind_remap (m : SlotMap) (s : Prepared ω O) (index : Nat) (v : Value) :
    (s.remap m).bind index v = bindAtSlots m index (s.bind · v) := by
  cases v <;> rfl

end Prepared

/-- A compiled statement together with the map through which its values are bound, if it has one. -/
structure Opened (ω O : Type) where
  inner : Prepared ω O
  slots : Option SlotMap

/-- The statement as the caller sees it. -/
def Opened.prepared {ω O : Type} (s : Opened ω O) : Prepared ω O :=
  match s.slots with
  | none => s.inner
  | some m => s.inner.remap m

end SqlBuilder
