import SqlBuilder.Dialect.Basic
import SqlBuilder.Condition.Clause

/-!
# Statements that change rows

The text of INSERT, UPDATE, DELETE and insert-or-replace from table and column names.  A statement
that would set nothing, or replace a row without saying which, has no text.
-/

namespace SqlBuilder

namespace Template

/-- Each column with a slot for its new value. -/
def assignments (columns : List String) : Template :=
  join ", " (columns.map fun c => [.text (c ++ " = "), .slot])

/-- A list of columns in parentheses, the text between, and as many slots in parentheses. -/
def columnsAndSlots (columns : List String) (between : String) : Template :=
  .text ("(" ++ commaList columns ++ ") " ++ between ++ "(") ::
    slotList columns.length ++ [.text ")"]

/-- Inserts a row with a slot for each column; a row without columns is a fault. -/
def insert (table : String) (columns : List String) : Except SyntaxFault Template :=
  if columns.isEmpty then .error (.insertsNothing table)
  else .ok (.text ("INSERT INTO " ++ table ++ " ") :: columnsAndSlots columns "VALUES ")

/-- Sets columns of the rows that the conditions select; nothing to set is a fault. -/
def update (table : String) (columns : List String) (conditions : List Condition) :
    Except SyntaxFault Template :=
  if columns.isEmpty then .error (.updatesNothing table)
  else (Condition.clauseSuffix conditions).map fun suffix =>
    .text ("UPDATE " ++ table ++ " SET ") :: assignments columns ++ suffix

/-- Deletes the rows that the conditions select, all rows without conditions. -/
def delete (table : String) (conditions : List Condition) : Except SyntaxFault Template :=
  (Condition.clauseSuffix conditions).map fun suffix =>
    .text ("DELETE FROM " ++ table) :: suffix

end Template

/-- The columns of an insert-or-replace in the order of its text, keys first. -/
def upsertColumns (table : String) (keys others : List String) :
    Except SyntaxFault (List String) :=
  if keys.isEmpty then .error (.noKeyValue table) else .ok (keys ++ others)

/-- The statement in the form of the dialect, which may repeat the slots of other columns. -/
def Template.insertOrReplace (d : Dialect) (table : String) (keys others : List String) :
    Except SyntaxFault Template :=
  (upsertColumns table keys others).map fun _ => d.upsert table keys others

end SqlBuilder
