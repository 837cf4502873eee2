import SqlBuilder.Monitor.Hook
import SqlBuilder.Monitor.Part

/-!
# Statement counts

`Stats` counts statements by kind, and executions with their failures and their total time.
Counters have 64 bits: those of events start again at zero after the largest number, and the total
time stays at the largest number once it is reached.
-/

namespace SqlBuilder

/-- The counters, each since the last reset. -/
structure Stats where
  /-- Statements that were about to be compiled. -/
  compiled : UInt64 := 0
  /-- Executions, failed ones included. -/
  executed : UInt64 := 0
  failed : UInt64 := 0
  slow : UInt64 := 0
  /-- The total time of the executions in nanoseconds. -/
  nanos : UInt64 := 0
  selects : UInt64 := 0
  inserts : UInt64 := 0
  insertOrReplaces : UInt64 := 0
  updates : UInt64 := 0
  deletes : UInt64 := 0
  createTables : UInt64 := 0
deriving DecidableEq

namespace Stats

/-- The counter of one kind of statements. -/
def count (s : Stats) : StatementKind → UInt64
  | .select => s.selects
  | .insert => s.inserts
  | .insertOrReplace => s.insertOrReplaces
  | .update => s.updates
  | .delete => s.deletes
  | .createTable => s.createTables

/-- Counts one statement of a kind. -/
def countUp (s : Stats) : StatementKind → Stats
  | .select => { s with selects := s.selects + 1 }
  | .insert => { s with inserts := s.inserts + 1 }
  | .insertOrReplace => { s with insertOrReplaces := s.insertOrReplaces + 1 }
  | .update => { s with updates := s.updates + 1 }
  | .delete => { s with deletes := s.deletes + 1 }
  | .createTable => { s with createTables := s.createTables + 1 }

/-- A time as a number of 64 bits; longer times count as the largest of them. -/
def timeWord (nanos : Nat) : UInt64 :=
  if nanos < UInt64.size then .ofNat nanos else .ofNat maxCount

/-- The sum, unless it has more than 64 bits. -/
def checkedAdd (m n : UInt64) : Option UInt64 :=
  if m.toNat + n.toNat < UInt64.size then some (m + n) else none

/-- A time added to the total, which starts again at zero like the other counters; it is put right
when it did. -/
def addTime (total time : UInt64) : UInt64 :=
  let sum := total + time
  match checkedAdd total time with
  | some _ => sum
  | none => .ofNat maxCount

/-- Counts a statement before the engine sees it, among all and among those of its kind. -/
def beforeCompile (kind : StatementKind) (s : Stats) : Stats :=
  { s with compiled := s.compiled + 1 }.countUp kind

/-- Counts an execution and its time, and a failure if it is one. -/
def afterExecute (nanos : Nat) (outcome : Outcome) (s : Stats) : Stats :=
  { s with
    executed := s.executed + 1
    nanos := addTime s.nanos (timeWord nanos)
    failed := if outcome.isError then s.failed + 1 else s.failed }

/-- Counts a slow execution, whose time counts when it ends. -/
def onSlow (s : Stats) : Stats := { s with slow := s.slow + 1 }

/-- All counters at zero, whatever they were. -/
def reset (_ : Stats) : Stats := {}

/-- The hook that counts in one part of the world. -/
def hook {ω : Type} (part : Part ω Stats) : Hook ω where
  beforeCompile ctx w := (.proceed, part.modify (beforeCompile ctx.kind) w)
  afterExecute _ nanos outcome w := part.modify (afterExecute nanos outcome) w
  onSlow _ _ w := part.modify onSlow w

end Stats

end SqlBuilder
