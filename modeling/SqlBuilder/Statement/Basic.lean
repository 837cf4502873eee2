import SqlBuilder.Statement.SlotMap
import SqlBuilder.Value.Basic

/-!
# Statements

A `Statement` is ready to be compiled: its text, the values to bind in the order of the caller, and
the slots of each value where they are not simply in that order.  A `Context` is what observers see
of it.
-/

namespace SqlBuilder

/-- What a statement does. -/
inductive StatementKind where
  | select
  | insert
  | insertOrReplace
  | update
  | delete
  | createTable
deriving DecidableEq

namespace StatementKind

/-- The name of the kind, as hooks and logs give it. -/
def name : StatementKind → String
  | select => "SELECT"
  | insert => "INSERT"
  | insertOrReplace => "INSERT OR REPLACE"
  | update => "UPDATE"
  | delete => "DELETE"
  | createTable => "CREATE TABLE"

/-- All kinds of statements. -/
def all : List StatementKind := [select, insert, insertOrReplace, update, delete, createTable]

end StatementKind

/-- What observers see of a statement. -/
structure Context where
  kind : StatementKind
  /-- The table that the statement is about. -/
  table : String
  sql : String
  /-- The number of slots in the text. -/
  argCount : Nat
deriving DecidableEq

/-- A statement ready to be compiled. -/
structure Statement where
  kind : StatementKind
  table : String
  /-- Further tables that it reads. -/
  joined : List String := []
  sql : String
  args : List Value
  /-- The slots of each value; without it the values go into the slots in order. -/
  slots : Option SlotMap := none

namespace Statement

/-- All tables of the statement. -/
def tables (s : Statement) : List String := s.table :: s.joined

/-- The number of slots in the text. -/
def argCount (s : Statement) : Nat :=
  match s.slots with
  | none => s.args.length
  | some m => m.targetCount

/-- The statement as observers see it, without its values. -/
def context (s : Statement) : Context := ⟨s.kind, s.table, s.sql, s.argCount⟩

end Statement

end SqlBuilder
