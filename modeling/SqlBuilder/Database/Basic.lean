import SqlBuilder.Database.Config
import SqlBuilder.Engine.Remap
import SqlBuilder.Monitor.Hook
import SqlBuilder.Statement.Draft
import SqlBuilder.Statement.Select

/-!
# Databases

A `Database` brings an engine, a dialect, options and hooks together and runs statements.

* `Database.prepare` asks the hooks, compiles and binds.  If a hook refuses, the engine sees
  nothing.
* `Database.run` executes and closes a prepared statement and then tells the hooks.
* `Database.execute` and `Database.query` do both for a statement under construction;
  `Database.compile` and `Database.compileQuery` hand over the prepared statement, which the caller
  has to close.
-/

namespace SqlBuilder

/-- What statements run on, in worlds `ω`; queries give cursors of type `C`. -/
structure Database (ω C : Type) where
  engine : Engine ω C
  dialect : Dialect
  config : Config := {}
  hooks : List (Hook ω) := []
  log : LogEvent → ω → ω := fun _ w => w
  /-- The time in nanoseconds; reading it is a step of the world. -/
  clock : ω → Nat × ω := fun w => (0, w)

namespace Database

variable {ω C O : Type}

/-- All hooks as one. -/
def hook (db : Database ω C) : Hook ω := Hook.all db.hooks

/-- Asks the hooks, if they are enabled, and fails if one refuses. -/
def ask (db : Database ω C) (ctx : Context) : Act ω Unit := do
  if db.config.hooksEnabled then
    match ← Act.step (db.hook.beforeCompile ctx) with
    | .abort reason => Act.fail (.aborted reason)
    | .proceed => pure ()

/-- The event that tells of a statement on its way to the engine. -/
def compilingEvent (db : Database ω C) (s : Statement) : LogEvent :=
  .compiling db.dialect.name s.context (if db.config.logValues then some s.args else none)

/-- Compiles a statement and binds its values. -/
def prepare (db : Database ω C) (s : Statement) (compile : Act ω (Prepared ω O)) :
    Act ω (Opened ω O) := do
  db.ask s.context
  Act.change (db.log (db.compilingEvent s))
  let opened : Opened ω O := ⟨← compile, s.slots⟩
  opened.prepared.bindAll db.log 1 s.args
  return opened

/-- Tells the hooks, if they are enabled, of an execution that took `nanos`. -/
def report (db : Database ω C) (ctx : Context) (nanos : Nat) (outcome : Outcome) : Act ω Unit := do
  if db.config.hooksEnabled then
    Act.change (db.hook.afterExecute ctx nanos outcome)
    if db.config.slowThreshold.any (· ≤ nanos) then
      Act.change (db.hook.onSlow ctx nanos)

/-- Executes and closes a statement; `describe` tells how a result looks to the hooks. -/
def run (db : Database ω C) (ctx : Context) (describe : O → Outcome) (s : Prepared ω O) :
    Act ω O := do
  let start ← Act.step db.clock
  let result ← s.executeAndClose.attempt
  let stop ← Act.step db.clock
  let outcome := match result with
    | .ok o => describe o
    | .error e => Outcome.failed e.message
  db.report ctx (stop - start) outcome
  Act.ofExcept result

/-- Compiles a change and binds its values. -/
def compile (db : Database ω C) (draft : Draft) : Act ω (Opened ω UInt64) := do
  let s ← Act.ofExcept (draft.build db.dialect)
  db.prepare s (db.engine.compile s.kind s.table s.sql)

/-- Runs a change and gives the number of rows that it concerned. -/
def execute (db : Database ω C) (draft : Draft) : Act ω UInt64 := do
  let s ← Act.ofExcept (draft.build db.dialect)
  let opened ← db.prepare s (db.engine.compile s.kind s.table s.sql)
  db.run s.context .affected opened.prepared

/-- Compiles a query and binds its values. -/
def compileQuery (db : Database ω C) (q : Select) : Act ω (Opened ω C) := do
  let s ← Act.ofExcept (q.build db.dialect)
  db.prepare s (db.engine.compileQuery s.tables s.sql)

/-- Runs a query and gives its cursor, which the caller has to close. -/
def query (db : Database ω C) (q : Select) : Act ω C := do
  let s ← Act.ofExcept (q.build db.dialect)
  let opened ← db.prepare s (db.engine.compileQuery s.tables s.sql)
  db.run s.context (fun _ => .cursor) opened.prepared

/-- A number of hooks as logs show it. -/
def describeHooks (count : Nat) : String :=
  "CompositeHook \x7b hooks: " ++ toString count ++ " \x7d"

/-- The database as logs show it, with the engine's own description. -/
def describe (engine : String) (db : Database ω C) : String :=
  "Database \x7b engine: " ++ engine ++ ", dialect: " ++ Text.quoted db.dialect.name ++
    ", config: " ++ db.config.describe ++ ", hooks: " ++ describeHooks db.hooks.length ++ " \x7d"

end Database

end SqlBuilder
