import SqlBuilder.Json.Failure
import SqlBuilder.Operator

/-!
# Errors

What can go wrong between the first call on a statement under construction and the end of its run.
A `SyntaxFault` is a reason why a statement has no text; it is found before the engine sees
anything.  An `Error` is that or a failure on the way through binding, hooks and engine.
-/

namespace SqlBuilder

/-- Why a statement cannot be written. -/
inductive SyntaxFault where
  /-- A list of values to choose from is empty. -/
  | emptyList (op : Membership) (column : String)
  /-- A sub query to choose from is blank. -/
  | blankSubQuery (op : Membership) (column : String)
  /-- A group has no member. -/
  | emptyGroup (connector : Connector)
  /-- A bare connector stands inside a group, whose members are joined by the group's own. -/
  | connectorInGroup (inner outer : Connector)
  /-- A connector stands first or after another connector. -/
  | connectorFirst (connector : Connector)
  /-- Two predicates stand side by side. -/
  | adjacentPredicates
  /-- A connector stands last. -/
  | connectorLast
  /-- A value was set for a column, given by its qualified name, of another table. -/
  | foreignColumn (column table : String)
  | insertsNothing (table : String)
  | updatesNothing (table : String)
  /-- An insert-or-replace has no value for any key column. -/
  | noKeyValue (table : String)
  | unsupportedJoin (dialect : String) (join : JoinType)
  | noColumns (table : String)
  /-- Columns that count up by themselves, in a dialect where only a whole primary key does. -/
  | autoIncrementKey (dialect : String) (columns : List String) (table : String)
  /-- Any other reason, in the words of whoever found it. -/
  | other (message : String)
deriving DecidableEq

/-- The fault in words, without saying that it is one of syntax. -/
def SyntaxFault.message : SyntaxFault → String
  | emptyList op column =>
    op.sql ++ " predicate on '" ++ column ++ "' requires at least one argument"
  | blankSubQuery op column => op.sql ++ " predicate on '" ++ column ++ "' has an empty sub query"
  | emptyGroup connector => connector.sql ++ " group must contain at least one predicate"
  | connectorInGroup inner outer =>
    "bare " ++ inner.sql ++ " is not allowed inside a " ++ outer.sql ++ " group"
  | connectorFirst connector => connector.sql ++ " must follow a predicate"
  | adjacentPredicates => "adjacent predicates need an AND or OR between them"
  | connectorLast => "WHERE clause must not end with a connector"
  | foreignColumn column table =>
    "column '" ++ column ++ "' does not belong to table '" ++ table ++ "'"
  | insertsNothing table => "INSERT INTO " ++ table ++ " requires at least one column value"
  | updatesNothing table => "UPDATE " ++ table ++ " requires at least one SET value"
  | noKeyValue table =>
    "insert-or-replace into " ++ table ++ " requires at least one id column value"
  | unsupportedJoin dialect join => dialect ++ " does not support " ++ join.sql
  | noColumns table => "CREATE TABLE " ++ table ++ " requires at least one column"
  | autoIncrementKey dialect columns table =>
    dialect ++ " AUTOINCREMENT on " ++ ", ".intercalate columns ++
      " requires it to be the only primary key column of " ++ table
  | other message => message

/-- A failure of building or running a statement. -/
inductive Error where
  | malformed (fault : SyntaxFault)
  /-- A value was bound at an index outside `1, …, size`. -/
  | indexOutOfBounds (index size : Nat)
  /-- The engine failed; `cause` is its own text. -/
  | execution (cause : String)
  /-- A hook refused the statement. -/
  | aborted (reason : String)
  /-- A value has no JSON text. -/
  | serialization (failure : Json.Failure)
  | other (message : String)
deriving DecidableEq

namespace Error

/-- A fault as an error. -/
def ofFault {α : Type} (x : Except SyntaxFault α) : Except Error α := x.mapError malformed

/-- The text that a caller sees. -/
def message : Error → String
  | malformed fault => "SQL syntax error: " ++ fault.message
  | indexOutOfBounds index size =>
    "Bind index " ++ toString index ++ " out of bounds (valid range is 1..=" ++ toString size ++ ")"
  | execution cause => "Execution error: " ++ cause
  | aborted reason => "Statement aborted by hook: " ++ reason
  | serialization failure => "Serialization error: " ++ failure.text
  | other message => message

/-- The statement could not be written. -/
def isMalformed : Error → Bool
  | malformed _ => true
  | _ => false

/-- The engine failed. -/
def isExecution : Error → Bool
  | execution _ => true
  | _ => false

/-- A value was bound where the statement has no slot. -/
def isOutOfBounds : Error → Bool
  | indexOutOfBounds _ _ => true
  | _ => false

/-- The text of the engine's error that this one wraps. -/
def source? : Error → Option String
  | execution cause => some cause
  | _ => none

end Error

end SqlBuilder
