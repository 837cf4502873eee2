import SqlBuilder.Database.Basic
import SqlBuilder.Dialect.Change
import SqlBuilder.Engine.Recorder
import SqlBuilder.Monitor.Journal
import SqlBuilder.Monitor.SqlLog
import SqlBuilder.Monitor.Stats

/-!
# A database on the workbench

A world in which a database can be watched: a recording engine, the counters and journals of its
hooks, and the log.  `Workbench.database` puts a database together in such a world, from a
description of its hooks.  It takes every dialect, also one whose mark, joins and second slots are
free to choose (`Dialect.custom`).
-/

namespace SqlBuilder

/-! ## A dialect to choose -/

namespace Dialect

open Template

/-- A statement word of its own, followed by second slots if there are any. -/
def upsertPlain (rebinds : Bool) (table : String) (keys others : List String) : Template :=
  .text ("UPSERT " ++ table ++ " ") :: columnsAndSlots (keys ++ others) "VALUES " ++
    if rebinds && !others.isEmpty then .text " SET " :: assignments others else []

/-- A plain dialect whose mark, joins and second slots are free to choose. -/
def custom (placeholder : String) (joins : List JoinType) (rebinds : Bool) : Dialect where
  name := "custom"
  placeholder := placeholder
  supportsJoin := joins.contains
  upsert := upsertPlain rebinds
  rebinds := rebinds

end Dialect

/-! ## The world -/

/-- Everything that can be looked at. -/
structure Workbench where
  recorder : Recorder := {}
  /-- The counters of each counting hook. -/
  stats : List Stats := []
  journal : List JournalEntry := []
  log : List LogEvent := []

/-- A hook that can be put on the workbench. -/
inductive Observer where
  /-- Counts in the counters with a number. -/
  | stats (number : Nat)
  | silent
  | sqlLog (l : SqlLog)
  | journal (name : String) (rule : Option RefusalRule)

namespace Workbench

/-- Where the recording engine keeps its calls. -/
def recorderPart : Part Workbench Recorder where
  get := recorder
  set r w := { w with recorder := r }

/-- Where all journals are written. -/
def journalPart : Part Workbench (List JournalEntry) where
  get := journal
  set j w := { w with journal := j }

/-- The counters with a number. -/
def statsPart (number : Nat) : Part Workbench Stats where
  get w := w.stats.getD number {}
  set s w := { w with stats := w.stats.set number s }

/-- Adds an event to the log. -/
def logEvent (e : LogEvent) (w : Workbench) : Workbench := { w with log := w.log ++ [e] }

/-- The hook of an observer, which acts on its own part of the workbench. -/
def observerHook : Observer → Hook Workbench
  | .stats number => Stats.hook (statsPart number)
  | .silent => Hook.silent
  | .sqlLog l => l.hook logEvent
  | .journal name rule => journalHook journalPart name rule

/-- The workbench with the counters of every hook reset. -/
def resetStats (w : Workbench) : Workbench := { w with stats := w.stats.map Stats.reset }

/-- The workbench with nothing written down, ready to show what the next step adds. -/
def cleared (w : Workbench) : Workbench :=
  { w with recorder := { w.recorder with calls := [] }, journal := [], log := [] }

/-- A database over the recording engine.  Its clock stands still. -/
def database (dialect : Dialect) (config : Config) (hooks : List (HookTree Observer)) :
    Database Workbench RecordedCursor where
  engine := Recorder.engine recorderPart
  dialect := dialect
  config := config
  hooks := HookTree.hooks observerHook hooks
  log := logEvent

end Workbench

end SqlBuilder
