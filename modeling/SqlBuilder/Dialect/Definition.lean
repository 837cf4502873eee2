import SqlBuilder.Dialect.Basic

/-!
# Table definitions

The text of CREATE TABLE: the columns, then the primary key, the groups of columns with distinct
values and the foreign keys.  In a dialect where a column that counts up declares the primary key by
itself, the clause for the primary key is left out for it, and such columns must be the whole key.
-/

namespace SqlBuilder

namespace Dialect

/-- A column in a list of definitions. -/
def columnSql (d : Dialect) (c : Column) : String :=
  c.name ++ " " ++ d.typeName c.type ++
    (match c.maxSize with
      | some size => "(" ++ toString size.toNat ++ ")"
      | none => "") ++
    (if c.notNull then " NOT NULL" else "") ++
    if c.autoIncrement then " " ++ d.autoIncrement else ""

/-- The constraints of a table in order, with or without a clause for the primary key. -/
def constraintsSql (keyClause : Bool) (t : Table) : List String :=
  (if keyClause && !t.keyColumns.isEmpty then
    ["PRIMARY KEY (" ++ commaList (t.keyColumns.map (·.name)) ++ ")"] else []) ++
  t.uniqueGroups.map (fun group => "UNIQUE (" ++ commaList group ++ ")") ++
  t.foreignKeys.map fun fk =>
    "FOREIGN KEY (" ++ fk.column ++ ") REFERENCES " ++ fk.refTable ++ "(" ++ fk.refColumn ++ ")"

/-- The definition of a table, with or without a clause for the primary key. -/
def tableSql (d : Dialect) (keyClause : Bool) (t : Table) : Except SyntaxFault String :=
  if t.columns.isEmpty then .error (.noColumns t.name)
  else .ok ("CREATE TABLE " ++ t.name ++ " (" ++
    commaList (t.columns.map d.columnSql ++ constraintsSql keyClause t) ++ ")")

/-- The definition of a table. -/
def createTable (d : Dialect) (t : Table) : Except SyntaxFault String :=
  let counting := (t.columns.filter (·.autoIncrement)).map (·.name)
  if d.inlineKey && !counting.isEmpty then
    if t.keyColumns.map (·.name) = counting then d.tableSql false t
    else .error (.autoIncrementKey d.name counting t.name)
  else d.tableSql true t

end Dialect

end SqlBuilder
