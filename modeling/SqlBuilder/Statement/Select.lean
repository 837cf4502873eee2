import SqlBuilder.Condition.Filter
import SqlBuilder.Dialect.Query
import SqlBuilder.Statement.Draft

/-!
# Queries under construction

A `Select` collects the clauses of a query from calls in any order.  Columns are referred to with
their tables, so joined tables never clash.  A column is sorted by once, in the direction of its
first call; limits and filters are those of the last call.
-/

namespace SqlBuilder

/-- One call on a query under construction. -/
inductive SelectCall where
  | distinct
  | select (c : TypedColumn)
  | selectAs (c : TypedColumn) (label : String)
  /-- An expression as it stands. -/
  | raw (name : String)
  | rawAs (name label : String)
  | all (cs : List Column)
  /-- Joins the table of `c` where `c` equals `onColumn`. -/
  | join (c onColumn : TypedColumn) (type : JoinType)
  | filter (steps : List FilterStep)
  | withFilter (f : Filter)
  | groupBy (c : TypedColumn)
  | orderBy (c : TypedColumn) (ascending : Bool)
  | limit (n : UInt64)
  | offset (n : UInt64)
  | paginate (page perPage : UInt64)

/-- A query under construction with the values that its conditions bind. -/
structure Select where
  query : Query
  args : List Value := []

namespace Select

/-- All columns of all rows of a table. -/
def ofTable (t : Table) : Select := { query := { table := t.name } }

/-- The product, or the largest 64-bit number if that is smaller. -/
def saturatingMul (m n : UInt64) : UInt64 :=
  UInt64.ofNat (min (m.toNat * n.toNat) (UInt64.size - 1))

/-- Sorts by a column, unless the query sorts by it already. -/
def sortBy (column : String) (ascending : Bool) (q : Query) : Query :=
  if q.orderBy.any (·.column = column) then q
  else { q with orderBy := q.orderBy ++ [⟨column, ascending⟩] }

/-- The rows of a page, counted from 1, where each page has `perPage` rows; neither is taken to be
less than 1. -/
def paginate (page perPage : UInt64) (q : Query) : Query :=
  let size := max perPage 1
  { q with limit := some size, offset := some (saturatingMul (max page 1 - 1) size) }

/-- Adds a column to the result. -/
def project (p : Projection) (q : Query) : Query := { q with columns := q.columns ++ [p] }

/-- Puts the conditions of a filter and the values they bind in place of those before. -/
def withFilter (f : Filter) (s : Select) : Select :=
  { query := { s.query with conditions := f.conditions }, args := f.args }

/-- The query after one call. -/
def call (s : Select) : SelectCall → Select
  | .distinct => { s with query := { s.query with distinct := true } }
  | .select c => { s with query := project { name := c.column.qualifiedName } s.query }
  | .selectAs c label =>
    { s with query := project { name := c.column.qualifiedName, label := some label } s.query }
  | .raw name => { s with query := project { name } s.query }
  | .rawAs name label => { s with query := project { name, label := some label } s.query }
  | .all cs =>
    { s with query := { s.query with
        columns := s.query.columns ++ cs.map fun c => { name := c.qualifiedName } } }
  | .join c onColumn type =>
    { s with query := { s.query with
        joins := s.query.joins ++ [{
          type
          table := c.column.table
          column := c.column.qualifiedName
          onColumn := onColumn.column.qualifiedName }] } }
  | .filter steps => s.withFilter (.ofSteps true steps)
  | .withFilter f => s.withFilter f
  | .groupBy c =>
    { s with query := { s.query with groupBy := s.query.groupBy ++ [c.column.qualifiedName] } }
  | .orderBy c ascending => { s with query := sortBy c.column.qualifiedName ascending s.query }
  | .limit n => { s with query := { s.query with limit := some n } }
  | .offset n => { s with query := { s.query with offset := some n } }
  | .paginate page perPage => { s with query := paginate page perPage s.query }

/-- The joined tables other than the table of the query, each once, in the order of the joins. -/
def joinedTables (table : String) (joins : List Join) : List String :=
  joins.foldl (fun ts j => if j.table = table ∨ j.table ∈ ts then ts else ts ++ [j.table]) []

/-- The statement with the values of its conditions, which also names the joined tables. -/
def build (d : Dialect) (s : Select) : Except Error Statement := Error.ofFault do
  let t ← s.query.template d
  return {
    kind := .select
    table := s.query.table
    joined := joinedTables s.query.table s.query.joins
    sql := t.render d.placeholder
    args := s.args }

end Select

end SqlBuilder
