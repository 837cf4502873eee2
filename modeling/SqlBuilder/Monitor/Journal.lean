import SqlBuilder.Monitor.Hook
import SqlBuilder.Monitor.Part
import SqlBuilder.Text.Within

/-!
# Journals

A hook that writes down whatever it is told, under a name of its own, and refuses the statements
that meet all conditions of a rule.
-/

namespace SqlBuilder

/-- What a hook was told. -/
inductive JournalEntry where
  | before (hook : String) (ctx : Context)
  | after (hook : String) (ctx : Context) (outcome : Outcome) (nanos : Nat)
  | slow (hook : String) (ctx : Context) (nanos : Nat)

/-- Statements to refuse: those that meet every condition given. -/
structure RefusalRule where
  reason : String
  /-- The name of the kind. -/
  kind : Option String := none
  table : Option String := none
  /-- A text that the statement contains. -/
  contains : Option String := none
  /-- A text that the statement does not contain. -/
  lacks : Option String := none
  minArgs : Option Nat := none

/-- The statement meets every condition that the rule has. -/
def RefusalRule.matches (r : RefusalRule) (ctx : Context) : Bool :=
  r.kind.all (· = ctx.kind.name) && r.table.all (· = ctx.table) &&
    r.contains.all (Text.contains ctx.sql) && r.lacks.all (fun t => !Text.contains ctx.sql t) &&
    r.minArgs.all (· ≤ ctx.argCount)

/-- The hook that writes to a part of the world and refuses by the rule, if there is one. -/
def journalHook {ω : Type} (part : Part ω (List JournalEntry)) (name : String)
    (rule : Option RefusalRule) : Hook ω where
  beforeCompile ctx w :=
    let decision := match rule with
      | some r => if r.matches ctx then .abort r.reason else .proceed
      | none => .proceed
    (decision, part.modify (· ++ [.before name ctx]) w)
  afterExecute ctx nanos outcome w := part.modify (· ++ [.after name ctx outcome nanos]) w
  onSlow ctx nanos w := part.modify (· ++ [.slow name ctx nanos]) w

end SqlBuilder
