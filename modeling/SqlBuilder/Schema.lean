import SqlBuilder.Value.Kind
import SqlBuilder.Text.Quoted

/-!
# Tables and columns

A `Column` is the definition of a column as a table lists it.  A `TypedColumn` is the handle that
callers use: it knows the kind of the values they give, and its definition has the storage type of
that kind.  Key columns are never null.
-/

namespace SqlBuilder

/-- The definition of a column. -/
structure Column where
  table : String
  name : String
  type : SqlType
  /-- Part of the primary key. -/
  isKey : Bool := false
  maxSize : Option UInt32 := none
  notNull : Bool := false
  autoIncrement : Bool := false
deriving DecidableEq

/-- The name with its table in front. -/
def Column.qualifiedName (c : Column) : String := c.table ++ "." ++ c.name

/-- A column together with the kind of values that callers give for it. -/
structure TypedColumn where
  column : Column
  kind : Kind
  type_eq : column.type = kind.sqlType

namespace TypedColumn

/-- A column without any constraint. -/
def ofKind (table name : String) (kind : Kind) : TypedColumn where
  column := { table, name, type := kind.sqlType }
  kind := kind
  type_eq := rfl

/-- Makes the column part of the primary key, hence not null. -/
def key (c : TypedColumn) : TypedColumn :=
  { c with column := { c.column with isKey := true, notNull := true } }

/-- Demands a value in every row. -/
def notNull (c : TypedColumn) : TypedColumn :=
  { c with column := { c.column with notNull := true } }

/-- Has the database count the column up by itself. -/
def autoIncrement (c : TypedColumn) : TypedColumn :=
  { c with column := { c.column with autoIncrement := true } }

/-- Bounds the size of the column's values. -/
def maxSize (size : UInt32) (c : TypedColumn) : TypedColumn :=
  { c with column := { c.column with maxSize := some size } }

/-- How statements refer to the column, with or without its table. -/
def reference (qualified : Bool) (c : TypedColumn) : String :=
  if qualified then c.column.qualifiedName else c.column.name

/-- The column as logs show it. -/
def describe (c : TypedColumn) : String :=
  "Column \x7b table: " ++ Text.quoted c.column.table ++ ", name: " ++ Text.quoted c.column.name ++
    ", is_id: " ++ toString c.column.isKey ++ " \x7d"

end TypedColumn

/-- A column whose values are those of a column of another table. -/
structure ForeignKey where
  column : String
  refTable : String
  refColumn : String
deriving DecidableEq

/-- A table: its columns in order and its constraints. -/
structure Table where
  name : String
  columns : List Column := []
  /-- Each group of columns has distinct values together. -/
  uniqueGroups : List (List String) := []
  foreignKeys : List ForeignKey := []
deriving DecidableEq

namespace Table

/-- Adds a column behind those before. -/
def addColumn (c : TypedColumn) (t : Table) : Table := { t with columns := t.columns ++ [c.column] }

/-- Demands that the columns of a group have distinct values together. -/
def addUnique (group : List String) (t : Table) : Table :=
  { t with uniqueGroups := t.uniqueGroups ++ [group] }

/-- Demands that the values of `c` are among those of the column `reference`. -/
def addForeignKey (c reference : TypedColumn) (t : Table) : Table :=
  { t with foreignKeys := t.foreignKeys ++
      [⟨c.column.name, reference.column.table, reference.column.name⟩] }

/-- The columns of the primary key, in order. -/
def keyColumns (t : Table) : List Column := t.columns.filter (·.isKey)

/-- The first column with the given name. -/
def find? (name : String) (t : Table) : Option Column := t.columns.find? (·.name = name)

end Table

end SqlBuilder
