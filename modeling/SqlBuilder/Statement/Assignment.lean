import SqlBuilder.Error
import SqlBuilder.Json.Basic
import SqlBuilder.Register
import SqlBuilder.Schema

/-!
# Assignments

Values for columns.  A `Setter` is one call that gives a column a value, `Assignments` keeps the
column and value of each name in the order in which the names first came, and a `SetStep` is a call
on a statement under construction: one setter, or several through assignments of their own.
-/

namespace SqlBuilder

/-- A call that gives a column a value. -/
inductive Setter where
  | value (c : TypedColumn) (v : c.kind.Carrier)
  /-- The null of the column's type. -/
  | null (c : TypedColumn)
  /-- The text of a JSON value, or why there is none. -/
  | json (c : TypedColumn) (holds : c.kind.HoldsText) (source : Except Json.Failure Json)
  /-- Any value under any definition. -/
  | record (c : Column) (v : Value)

/-- The column and the value that a call gives it. -/
def Setter.entry : Setter → Except Error (Column × Value)
  | value c v => .ok (c.column, c.kind.value v)
  | null c => .ok (c.column, .null c.kind.sqlType)
  | json _ _ (.error failure) => .error (.serialization failure)
  | json c holds (.ok j) => .ok (c.column, c.kind.value (c.kind.ofText holds j.text))
  | record c v => .ok (c, v)

/-- Columns and their values by name. -/
abbrev Assignments := Register (Column × Value)

namespace Assignments

/-- No column has a value. -/
def empty : Assignments := {}

/-- Gives a column a value; a column of the same name before it gives way. -/
def insert (a : Assignments) (e : Column × Value) : Assignments := a.put e.1.name e

/-- The columns, each under the definition that it was last set by. -/
def columns (a : Assignments) : List Column := a.values.map (·.1)

/-- The values in the order of the columns. -/
def args (a : Assignments) : List Value := a.values.map (·.2)

/-- The value under a name. -/
def value? (name : String) (a : Assignments) : Option Value := (a.get? name).map (·.2)

/-- The setters in order, up to the first that fails. -/
def set (a : Assignments) (setters : List Setter) : Except Error Assignments :=
  setters.foldlM (fun a s => return a.insert (← s.entry)) a

end Assignments

/-- A call on a statement under construction that sets values. -/
inductive SetStep where
  | one (s : Setter)
  /-- The setters fill assignments of their own, whose entries are then set in their order. -/
  | several (setters : List Setter)

/-- The columns and values that the call sets one after another. -/
def SetStep.entries : SetStep → Except Error (List (Column × Value))
  | one s => s.entry.map ([·])
  | several setters => (Assignments.empty.set setters).map (·.values)

/-- Every set column belongs to the table. -/
def checkTable (table : String) : List Column → Except SyntaxFault Unit
  | [] => .ok ()
  | c :: cs =>
    if c.table = table then checkTable table cs
    else .error (.foreignColumn c.qualifiedName table)

end SqlBuilder
