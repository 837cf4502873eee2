import SqlBuilder.Schema
import SqlBuilder.Error
import SqlBuilder.Text.Template

/-!
# Dialects

A `Dialect` holds what differs between databases: the mark for bound values, type names, the joins
there are, how rows are limited, how insert-or-replace is written and how tables declare columns
that count up.  Everything else about statement text is the same for all of them.
-/

namespace SqlBuilder

/-- The type names of standard SQL. -/
def SqlType.standardName : SqlType → String
  | short => "SMALLINT"
  | int => "INT"
  | long => "BIGINT"
  | float => "REAL"
  | double => "DOUBLE"
  | string => "VARCHAR"
  | blob => "BLOB"

/-- The limits in the common form, with a space in front of each. -/
def standardLimits (limit offset : Option UInt64) : String :=
  (match limit with
    | some n => " LIMIT " ++ toString n.toNat
    | none => "") ++
  match offset with
    | some n => " OFFSET " ++ toString n.toNat
    | none => ""

/-- The decisions of one database. -/
structure Dialect where
  /-- The name that logs and faults use. -/
  name : String
  /-- The mark for a bound value. -/
  placeholder : String := "?"
  typeName : SqlType → String := SqlType.standardName
  /-- What a column that counts up says about itself. -/
  autoIncrement : String := "AUTO_INCREMENT"
  /-- A column that counts up declares the primary key by itself. -/
  inlineKey : Bool := false
  supportsJoin : JoinType → Bool := fun _ => true
  /-- How many rows a query returns and how many it leaves out before them. -/
  limits : (limit offset : Option UInt64) → String := standardLimits
  /-- Insert-or-replace of a row with values for some key columns and some others. -/
  upsert : (table : String) → (keys others : List String) → Template
  /-- The values of the other columns have a second slot each, after all first ones. -/
  rebinds : Bool := false

/-- Names with commas between them. -/
def commaList (names : List String) : String := ", ".intercalate names

end SqlBuilder
