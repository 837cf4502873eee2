import SqlBuilder.Engine.Basic
import SqlBuilder.Monitor.Part

/-!
# A recording engine

An engine without a database: it writes down every call it gets, and fails where its settings say.
A call is written down before it fails.  The settings are read at each call, so a change of them
also concerns statements that are open.
-/

namespace SqlBuilder

/-- A call that an engine gets. -/
inductive EngineCall where
  | compile (kind : StatementKind) (tables : List String) (sql : String)
  | bind (index : Nat) (value : Value)
  | clear
  | execute
  | close
deriving DecidableEq

/-- What the engine answers. -/
structure EngineSettings where
  /-- The number of rows that every change claims to concern. -/
  rows : UInt64 := 1
  failCompile : Option Error := none
  failBind : Option Error := none
  /-- The index at which `failBind` counts. -/
  failBindAt : Option Nat := none
  failClear : Option Error := none
  failExecute : Option Error := none
  failClose : Option Error := none

/-- The results of a query: its text and the values bound to it. -/
structure RecordedCursor where
  sql : String
  binds : List (Nat × Value)

/-- What the engine keeps. -/
structure Recorder where
  settings : EngineSettings := {}
  calls : List EngineCall := []
  /-- For each statement compiled so far, the values bound since it was last cleared. -/
  bindings : List (List (Nat × Value)) := []

namespace Recorder

/-- Writes a call down. -/
def note (call : EngineCall) (r : Recorder) : Recorder := { r with calls := r.calls ++ [call] }

/-- The values bound to a statement. -/
def bound (r : Recorder) (id : Nat) : List (Nat × Value) := r.bindings.getD id []

variable {ω O : Type}

/-- Writes a call down, then fails or goes on. -/
def answer (part : Part ω Recorder) (call : EngineCall) (failure : EngineSettings → Option Error)
    (next : Act ω O) : Act ω O := fun w =>
  let w := part.modify (note call) w
  match failure (part.get w).settings with
  | some e => (.error e, w)
  | none => next w

/-- Binds a value to a statement. -/
def bind (part : Part ω Recorder) (id index : Nat) (v : Value) : Act ω Unit :=
  answer part (.bind index v) (fun s => if s.failBindAt = some index then s.failBind else none)
    (Act.change (part.modify fun r =>
      { r with bindings := r.bindings.modify id (· ++ [(index, v)]) }))

/-- The statement with a number, whose execution gives `result`. -/
def statement (part : Part ω Recorder) (id : Nat) (result : Recorder → O) : Prepared ω O where
  bindShort index n := bind part id index (.short n)
  bindInt index n := bind part id index (.int n)
  bindLong index n := bind part id index (.long n)
  bindFloat index bits := bind part id index (.float bits)
  bindDouble index bits := bind part id index (.double bits)
  bindString index t := bind part id index (.string t)
  bindBlob index bytes := bind part id index (.blob bytes)
  bindNull index type := bind part id index (.null type)
  clear := answer part .clear (·.failClear)
    (Act.change (part.modify fun r => { r with bindings := r.bindings.set id [] }))
  execute := answer part .execute (·.failExecute) fun w => (.ok (result (part.get w)), w)
  close := answer part .close (·.failClose) (pure ())

/-- Opens a new statement, whose execution gives `result` of its number. -/
def openStatement (part : Part ω Recorder) (result : Nat → Recorder → O) : Act ω (Prepared ω O) :=
  fun w =>
    let id := (part.get w).bindings.length
    (.ok (statement part id (result id)),
      part.modify (fun r => { r with bindings := r.bindings ++ [[]] }) w)

/-- The rows that a change concerns. -/
def changedRows (_id : Nat) (r : Recorder) : UInt64 := r.settings.rows

/-- The recording engine in one part of the world. -/
def engine (part : Part ω Recorder) : Engine ω RecordedCursor where
  compile kind table sql :=
    answer part (.compile kind [table] sql) (·.failCompile) (openStatement part changedRows)
  compileQuery tables sql :=
    answer part (.compile .select tables sql) (·.failCompile)
      (openStatement part fun id r => ⟨sql, r.bound id⟩)

end Recorder

end SqlBuilder
