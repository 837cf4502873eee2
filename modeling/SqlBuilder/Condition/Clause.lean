import SqlBuilder.Condition.Basic
import SqlBuilder.Error
import SqlBuilder.Text.Blank
import SqlBuilder.Text.Template

/-!
# The WHERE clause

The text of conditions, with a slot for every bound value, or the fault that keeps them from being
a clause.  At the top level predicates and connectors take turns, beginning and ending with a
predicate (`checkTurns`); inside a group there are predicates only, and at least one.  The turns are
checked before any condition is written, and the first fault from the left is the one reported.
-/

namespace SqlBuilder

namespace Condition

open Template

mutual

/-- The text of one condition. -/
def template : Condition → Except SyntaxFault Template
  | null test column => .ok [.text (column ++ " " ++ test.sql)]
  | compare op column => .ok [.text (column ++ " " ++ op.sql ++ " "), .slot]
  | among op column count =>
    if count = 0 then .error (.emptyList op column)
    else .ok (.text (column ++ " " ++ op.sql ++ " (") :: slotList count ++ [.text ")"])
  | amongQuery op column query =>
    if Text.isBlank query then .error (.blankSubQuery op column)
    else .ok [.text (column ++ " " ++ op.sql ++ " (" ++ query ++ ")")]
  | between column => .ok [.text (column ++ " BETWEEN "), .slot, .text " AND ", .slot]
  | connector c => .ok [.text c.sql]
  | group c members =>
    if members.isEmpty then .error (.emptyGroup c)
    else (memberTemplates c members).map fun ts =>
      .text "(" :: join (" " ++ c.sql ++ " ") ts ++ [.text ")"]

/-- The texts of the members of a group with connector `c`. -/
def memberTemplates (c : Connector) : List Condition → Except SyntaxFault (List Template)
  | [] => .ok []
  | m :: ms =>
    match m.connector? with
    | some inner => .error (.connectorInGroup inner c)
    | none => do return (← m.template) :: (← memberTemplates c ms)

end

/-- The text of one condition with `mark` for every bound value. -/
def sql (mark : String) (c : Condition) : Except SyntaxFault String :=
  c.template.map (·.render mark)

/-- The conditions take turns, predicate after connector; `afterPredicate` tells whether a predicate
stands before them. -/
def checkTurns : (afterPredicate : Bool) → List Condition → Except SyntaxFault Unit
  | true, [] => .ok ()
  | false, [] => .error .connectorLast
  | afterPredicate, c :: cs =>
    match c.connector?, afterPredicate with
    | some k, false => .error (.connectorFirst k)
    | some _, true => checkTurns false cs
    | none, true => .error .adjacentPredicates
    | none, false => checkTurns true cs

/-- The clause of a list of conditions; there is none for no conditions. -/
def clause : List Condition → Except SyntaxFault (Option Template)
  | [] => .ok none
  | cs => do
    checkTurns false cs
    let ts ← cs.mapM template
    return some (.text "WHERE" :: ts.flatMap fun t => .text " " :: t)

/-- The clause with `mark` for every bound value. -/
def clauseSql (mark : String) (cs : List Condition) : Except SyntaxFault (Option String) :=
  (clause cs).map (·.map (·.render mark))

/-- The clause as it follows the text before it: with a space in front if there is a clause. -/
def clauseSuffix (cs : List Condition) : Except SyntaxFault Template :=
  (clause cs).map fun
    | none => []
    | some t => .text " " :: t

end Condition

end SqlBuilder
