import SqlBuilder.Error
import SqlBuilder.Statement.Basic
import SqlBuilder.Text.Shorten
import SqlBuilder.Value.Printer

/-!
# Outcomes and log events

How an execution ends, as observers are told, and the events that go to the log.  Durations are
counted in nanoseconds; what the log says about them fits into 64 bits.
-/

namespace SqlBuilder

/-- How the execution of a statement ended. -/
inductive Outcome where
  | affected (rows : UInt64)
  /-- A query has results to read. -/
  | cursor
  | error (message : String)
deriving DecidableEq

namespace Outcome

/-- Longer messages are shortened to this many bytes. -/
def maxMessageBytes : Nat := 512

/-- The end of a failed execution. -/
def failed (message : String) : Outcome := error (Text.shorten maxMessageBytes message)

/-- The execution failed. -/
def isError : Outcome → Bool
  | error _ => true
  | _ => false

/-- The outcome as logs show it. -/
def display : Outcome → String
  | affected rows => toString rows.toNat ++ " affected"
  | cursor => "cursor"
  | error message => "error: " ++ message

end Outcome

/-- The largest number that counters and logs hold. -/
def maxCount : Nat := UInt64.size - 1

/-- How much an event matters. -/
inductive Level where
  | error
  | warn
  | info
  | debug
  | trace
deriving DecidableEq

namespace Level

/-- The name of the level in capitals. -/
def name : Level → String
  | error => "ERROR"
  | warn => "WARN"
  | info => "INFO"
  | debug => "DEBUG"
  | trace => "TRACE"

/-- All levels, the gravest first. -/
def all : List Level := [error, warn, info, debug, trace]

end Level

/-- What stands under one name in a log event. -/
inductive FieldValue where
  | text (s : String)
  | number (n : Nat)
deriving DecidableEq

/-- An event in the log. -/
inductive LogEvent where
  /-- A statement goes to the engine; the values are there only if they are to be seen. -/
  | compiling (dialect : String) (ctx : Context) (args : Option (List Value))
  /-- A value could not be bound, so the statement is closed. -/
  | bindingFailed (index : Nat) (error : Error)
  /-- A statement with its text as far as it is shown. -/
  | announced (level : Level) (ctx : Context) (shownSql : String)
  | finished (level : Level) (ctx : Context) (nanos : Nat) (outcome : Outcome)
  | slow (ctx : Context) (nanos : Nat) (shownSql : String)

namespace LogEvent

/-- How much an event matters; a log of statements chooses it for two of its events. -/
def level : LogEvent → Level
  | compiling _ _ _ => .debug
  | bindingFailed _ _ => .warn
  | announced level _ _ => level
  | finished level _ _ _ => level
  | slow _ _ _ => .warn

/-- What events say about the statement they are about. -/
def contextFields (ctx : Context) : List (String × FieldValue) :=
  [("query_type", .text ctx.kind.name), ("table", .text ctx.table)]

/-- What the event says, under the names of its fields. -/
def fields : LogEvent → List (String × FieldValue)
  | compiling dialect ctx args =>
    contextFields ctx ++
      [("message", .text "compiling statement"), ("dialect", .text dialect),
        ("arg_count", .number ctx.argCount), ("sql", .text ctx.sql)] ++
      args.toList.map fun vs => ("args", .text (Value.describeList vs))
  | bindingFailed index error =>
    [("message", .text "binding failed, closing statement"), ("index", .number index),
      ("error", .text error.message)]
  | announced _ ctx shownSql =>
    contextFields ctx ++ [("arg_count", .number ctx.argCount), ("sql", .text shownSql)]
  | finished _ ctx nanos outcome =>
    contextFields ctx ++
      [("duration_us", .number (min (nanos / 1000) maxCount)), ("outcome", .text outcome.display)]
  | slow ctx nanos shownSql =>
    contextFields ctx ++
      [("message", .text "slow statement"),
        ("duration_ms", .number (min (nanos / 1000000) maxCount)), ("sql", .text shownSql)]

end LogEvent

end SqlBuilder
