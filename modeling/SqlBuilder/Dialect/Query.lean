import SqlBuilder.Dialect.Basic
import SqlBuilder.Condition.Clause

/-!
# Queries

A `Query` is everything that a SELECT says, clause by clause; `Query.template` writes the clauses in
their fixed order and leaves out those that say nothing.
-/

namespace SqlBuilder

/-- A column of the result, or an expression used as it stands, with another name or without. -/
structure Projection where
  name : String
  label : Option String := none
deriving DecidableEq

/-- The column with its label behind `AS`, if it has one. -/
def Projection.sql (p : Projection) : String :=
  match p.label with
  | some label => p.name ++ " AS " ++ label
  | none => p.name

/-- The rows of another table, matched where two columns are equal. -/
structure Join where
  type : JoinType
  table : String
  column : String
  onColumn : String
deriving DecidableEq

/-- The join with the two columns that it compares. -/
def Join.sql (j : Join) : String :=
  j.type.sql ++ " " ++ j.table ++ " ON " ++ j.column ++ " = " ++ j.onColumn

/-- A column that rows are sorted by. -/
structure SortTerm where
  column : String
  ascending : Bool
deriving DecidableEq

/-- The column with its direction, which is always written. -/
def SortTerm.sql (s : SortTerm) : String := s.column ++ if s.ascending then " ASC" else " DESC"

/-- The clauses of a SELECT. -/
structure Query where
  table : String
  distinct : Bool := false
  /-- No column means all of them. -/
  columns : List Projection := []
  joins : List Join := []
  conditions : List Condition := []
  groupBy : List String := []
  orderBy : List SortTerm := []
  limit : Option UInt64 := none
  offset : Option UInt64 := none

namespace Query

/-- The columns of the result, or `*` if none are named. -/
def columnsSql (q : Query) : String :=
  if q.columns.isEmpty then "*" else commaList (q.columns.map Projection.sql)

/-- The text up to the joined tables. -/
def headSql (q : Query) : String :=
  "SELECT " ++ (if q.distinct then "DISTINCT " else "") ++ q.columnsSql ++ " FROM " ++ q.table

/-- The joins in order, a space in front of each; the first one that the dialect lacks is a
fault. -/
def joinsSql (d : Dialect) : List Join → Except SyntaxFault String
  | [] => .ok ""
  | j :: js =>
    if d.supportsJoin j.type then (joinsSql d js).map fun rest => " " ++ j.sql ++ rest
    else .error (.unsupportedJoin d.name j.type)

/-- The columns to group by, with a space in front; nothing if there are none. -/
def groupSql (q : Query) : String :=
  if q.groupBy.isEmpty then "" else " GROUP BY " ++ commaList q.groupBy

/-- The columns to sort by, with a space in front; nothing if there are none. -/
def orderSql (q : Query) : String :=
  if q.orderBy.isEmpty then "" else " ORDER BY " ++ commaList (q.orderBy.map SortTerm.sql)

/-- The text of the query.  Joins are looked at before conditions. -/
def template (d : Dialect) (q : Query) : Except SyntaxFault Template := do
  let joins ← joinsSql d q.joins
  let conditions ← Condition.clauseSuffix q.conditions
  return .text (q.headSql ++ joins) :: conditions ++
    [.text (q.groupSql ++ q.orderSql ++ d.limits q.limit q.offset)]

end Query

end SqlBuilder
