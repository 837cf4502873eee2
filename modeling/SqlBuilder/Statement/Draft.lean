import SqlBuilder.Condition.Filter
import SqlBuilder.Dialect.Change
import SqlBuilder.Dialect.Definition
import SqlBuilder.Statement.Basic
import SqlBuilder.Statement.KeyedAssignment

/-!
# Statements under construction

Statements that change tables, as callers build them: each takes its calls one by one and `build`s
the statement in a dialect.  Values are looked at before text is written, so a column of another
table is found first.
-/

namespace SqlBuilder

/-! ## INSERT -/

/-- A new row for a table. -/
structure Insert where
  table : Table
  values : Assignments := .empty

namespace Insert

/-- Sets what the call sets, or fails where a JSON value has no text. -/
def call (s : Insert) (step : SetStep) : Except Error Insert := do
  return { s with values := (← step.entries).foldl .insert s.values }

/-- The statement with its values in the order of the columns. -/
def build (d : Dialect) (s : Insert) : Except Error Statement := Error.ofFault do
  checkTable s.table.name s.values.columns
  let t ← Template.insert s.table.name s.values.names
  return {
    kind := .insert
    table := s.table.name
    sql := t.render d.placeholder
    args := s.values.args }

end Insert

/-! ## Insert-or-replace -/

/-- A row for a table, in place of one with the same keys. -/
structure Upsert where
  table : Table
  values : KeyedAssignments := .empty

namespace Upsert

/-- Sets what the call sets, or fails where a JSON value has no text. -/
def call (s : Upsert) (step : SetStep) : Except Error Upsert := do
  return { s with values := (← step.entries).foldl .insert s.values }

/-- The statement with its values in the order of arrival and a map to their slots. -/
def build (d : Dialect) (s : Upsert) : Except Error Statement := do
  Error.ofFault (checkTable s.table.name s.values.arrivals)
  let t ← Error.ofFault
    (Template.insertOrReplace d s.table.name s.values.keys.names s.values.others.names)
  let slots ← s.values.slotMap d.rebinds
  return {
    kind := .insertOrReplace
    table := s.table.name
    sql := t.render d.placeholder
    args := s.values.clientArgs
    slots := some slots }

end Upsert

/-! ## UPDATE -/

/-- One call on an update under construction. -/
inductive UpdateCall where
  | set (step : SetStep)
  /-- The rows that pass the steps, in place of any filter before. -/
  | filter (steps : List FilterStep)
  /-- The rows that pass a filter built elsewhere, in place of any filter before. -/
  | withFilter (f : Filter)

/-- New values for rows of a table.  Without a filter every row gets them. -/
structure Update where
  table : Table
  values : Assignments := .empty
  filter : Filter := .empty

namespace Update

/-- Sets what the call sets, or puts its filter in place of the one before. -/
def call (s : Update) : UpdateCall → Except Error Update
  | .set step => do return { s with values := (← step.entries).foldl .insert s.values }
  | .filter steps => .ok { s with filter := .ofSteps false steps }
  | .withFilter f => .ok { s with filter := f }

/-- The statement with the values it sets in front of those of its filter. -/
def build (d : Dialect) (s : Update) : Except Error Statement := Error.ofFault do
  checkTable s.table.name s.values.columns
  let t ← Template.update s.table.name s.values.names s.filter.conditions
  return {
    kind := .update
    table := s.table.name
    sql := t.render d.placeholder
    args := s.values.args ++ s.filter.args }

end Update

/-! ## DELETE -/

/-- One call on a deletion under construction. -/
inductive DeleteCall where
  | filter (steps : List FilterStep)
  | withFilter (f : Filter)

/-- Without a filter every row goes. -/
structure Delete where
  table : Table
  filter : Filter := .empty

namespace Delete

/-- Puts the filter of the call in place of the one before. -/
def call (s : Delete) : DeleteCall → Delete
  | .filter steps => { s with filter := .ofSteps false steps }
  | .withFilter f => { s with filter := f }

/-- The statement with the values of its filter. -/
def build (d : Dialect) (s : Delete) : Except Error Statement := Error.ofFault do
  let t ← Template.delete s.table.name s.filter.conditions
  return {
    kind := .delete
    table := s.table.name
    sql := t.render d.placeholder
    args := s.filter.args }

end Delete

/-! ## CREATE TABLE -/

/-- The definition of a table as a statement. -/
def Table.build (d : Dialect) (t : Table) : Except Error Statement := Error.ofFault do
  let sql ← d.createTable t
  return { kind := .createTable, table := t.name, sql, args := [] }

/-! ## Any of them -/

/-- A statement under construction that changes a table. -/
inductive Draft where
  | insert (s : Insert)
  | insertOrReplace (s : Upsert)
  | update (s : Update)
  | delete (s : Delete)
  | createTable (t : Table)

/-- The statement in a dialect, or why there is none. -/
def Draft.build (d : Dialect) : Draft → Except Error Statement
  | insert s => s.build d
  | insertOrReplace s => s.build d
  | update s => s.build d
  | delete s => s.build d
  | createTable t => t.build d

end SqlBuilder
