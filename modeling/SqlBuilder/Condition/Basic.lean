import SqlBuilder.Operator

/-!
# Conditions

A WHERE clause is a list of conditions: predicates about one column each, bare connectors between
two neighbours, and groups in parentheses.  Conditions say how many values they bind, not which:
`Condition.argCount` counts the values of one condition, and the values of a list of conditions are
those of its members in order, groups from the inside out.
-/

namespace SqlBuilder

/-- One element of a WHERE clause.  Columns are given by the text that refers to them. -/
inductive Condition where
  | null (test : NullTest) (column : String)
  | compare (op : Comparison) (column : String)
  /-- The column is among `count` values. -/
  | among (op : Membership) (column : String) (count : Nat)
  /-- The column is among the results of a query, which is used as it stands. -/
  | amongQuery (op : Membership) (column query : String)
  | between (column : String)
  /-- A bare connector between two neighbours. -/
  | connector (c : Connector)
  /-- Members in parentheses with the connector between them. -/
  | group (c : Connector) (members : List Condition)

namespace Condition

/-- The connector, if that is all the condition is. -/
def connector? : Condition → Option Connector
  | connector c => some c
  | _ => none

mutual

/-- The number of values that the condition binds. -/
def argCount : Condition → Nat
  | null _ _ => 0
  | compare _ _ => 1
  | among _ _ count => count
  | amongQuery _ _ _ => 0
  | between _ => 2
  | connector _ => 0
  | group _ members => totalArgs members

/-- The number of values that the conditions bind together. -/
def totalArgs : List Condition → Nat
  | [] => 0
  | c :: cs => c.argCount + totalArgs cs

end

@[simp] theorem totalArgs_append (cs ds : List Condition) :
    totalArgs (cs ++ ds) = totalArgs cs + totalArgs ds := by
  induction cs with
  | nil => simp [totalArgs]
  | cons c cs ih => simp [totalArgs, ih, Nat.add_assoc]

end Condition

end SqlBuilder
