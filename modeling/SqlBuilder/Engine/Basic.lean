import SqlBuilder.Engine.Act
import SqlBuilder.Monitor.Event

/-!
# Engines

An `Engine` turns statement text into prepared statements; a `Prepared` statement takes one value at
a time, by a separate operation for each storage type, and is executed and closed.  Indices of
values are counted from 1.

* `Prepared.bindAll` binds a list of values in order.  If one is refused the statement is closed,
  and the error is that of the refused value.
* `Prepared.executeAndClose` closes the statement in any case.  If both fail, the error is that of
  the execution.
* `Prepared.remap` is a statement whose values are bound at the slots of a map.
-/

namespace SqlBuilder

/-- A statement of an engine that acts on worlds `ω`; its execution gives an `O`. -/
structure Prepared (ω O : Type) where
  bindShort : Nat → Int16 → Act ω Unit
  bindInt : Nat → Int32 → Act ω Unit
  bindLong : Nat → Int64 → Act ω Unit
  bindFloat : Nat → UInt32 → Act ω Unit
  bindDouble : Nat → UInt64 → Act ω Unit
  bindString : Nat → String → Act ω Unit
  bindBlob : Nat → List UInt8 → Act ω Unit
  bindNull : Nat → SqlType → Act ω Unit
  /-- Forgets the values bound so far. -/
  clear : Act ω Unit
  execute : Act ω O
  close : Act ω Unit

/-- What compiles statements.  Changes give a number of rows, queries a cursor of type `C`. -/
structure Engine (ω C : Type) where
  compile : (kind : StatementKind) → (table sql : String) → Act ω (Prepared ω UInt64)
  /-- A query comes with all tables that it reads. -/
  compileQuery : (tables : List String) → (sql : String) → Act ω (Prepared ω C)

namespace Prepared

variable {ω O : Type}

/-- Binds a value by the operation of its storage type. -/
def bind (s : Prepared ω O) (index : Nat) : Value → Act ω Unit
  | .short n => s.bindShort index n
  | .int n => s.bindInt index n
  | .long n => s.bindLong index n
  | .float bits => s.bindFloat index bits
  | .double bits => s.bindDouble index bits
  | .string t => s.bindString index t
  | .blob bytes => s.bindBlob index bytes
  | .null type => s.bindNull index type

/-- Binds values at `first`, `first + 1`, …. -/
def bindAll (s : Prepared ω O) (log : LogEvent → ω → ω) (first : Nat) : List Value → Act ω Unit
  | [] => pure ()
  | v :: vs => do
    match ← (s.bind first v).attempt with
    | .ok () => s.bindAll log (first + 1) vs
    | .error e => do
      Act.change (log (.bindingFailed first e))
      let _ ← s.close.attempt
      Act.fail e

/-- Executes the statement and closes it, also if the execution fails. -/
def executeAndClose (s : Prepared ω O) : Act ω O := do
  let executed ← s.execute.attempt
  let closed ← s.close.attempt
  match executed, closed with
  | .error e, _ => Act.fail e
  | .ok _, .error e => Act.fail e
  | .ok o, .ok () => pure o

end Prepared

end SqlBuilder
