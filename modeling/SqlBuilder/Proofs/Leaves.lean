import SqlBuilder.Condition.Basic

/-!
# Leaves of conditions

The predicates and connectors that conditions are made of, groups opened, from left to right.  A
condition binds what its leaves bind (`Condition.totalArgs_leaves`).
-/

namespace SqlBuilder.Condition

mutual

/-- The condition itself, or the leaves of the members of a group. -/
def leaves : Condition → List Condition
  | group _ members => allLeaves members
  | c => [c]

/-- The leaves of conditions, groups opened, from left to right. -/
def allLeaves : List Condition → List Condition
  | [] => []
  | c :: cs => c.leaves ++ allLeaves cs

end

theorem allLeaves_eq_flatMap (cs : List Condition) : allLeaves cs = cs.flatMap leaves := by
  induction cs with
  | nil => rfl
  | cons c cs ih => rw [allLeaves, ih, List.flatMap_cons]

/-- The text of the column that a leaf is about. -/
def column? : Condition → Option String
  | null _ column => some column
  | compare _ column => some column
  | among _ column _ => some column
  | amongQuery _ column _ => some column
  | between column => some column
  | connector _ => none
  | group _ _ => none

/-- The sub query of a leaf that has one. -/
def query? : Condition → Option String
  | amongQuery _ _ query => some query
  | _ => none

/-- The members of a group. -/
def members : Condition → List Condition
  | group _ members => members
  | _ => []

mutual

theorem totalArgs_leaves (c : Condition) : totalArgs c.leaves = c.argCount := by
  cases c with
  | group k members => exact totalArgs_allLeaves members
  | _ => exact Nat.add_zero _

theorem totalArgs_allLeaves (cs : List Condition) : totalArgs (allLeaves cs) = totalArgs cs := by
  cases cs with
  | nil => rfl
  | cons c cs =>
    rw [allLeaves, totalArgs_append, totalArgs_leaves c, totalArgs_allLeaves cs, totalArgs]

end

end SqlBuilder.Condition
