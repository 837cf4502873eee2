import SqlBuilder.Proofs.FilterText
import SqlBuilder.Proofs.Forest
import SqlBuilder.Proofs.Leaves

/-!
# Filters and the calls that make them

A filter under construction keeps conditions and values in two lists.  `FilterBuilder.Aligned` says
how they belong to the calls that were made, groups at any depth included: each call added one
condition, with its own column, at its own place, and the values that the caller gave with it are
found in the list of values by counting what the leaves in front of that place bind.  This holds
after every sequence of calls (`FilterBuilder.aligned_foldl_step`), also of such that can never be
written.
-/

namespace SqlBuilder

/-! ## Calls -/

namespace Predicate

mutual

/-- The calls that are no groups, from left to right. -/
def leaves : Predicate → List Predicate
  | group _ members => allLeaves members
  | p => [p]

/-- The calls under several predicates that are no groups, from left to right. -/
def allLeaves : List Predicate → List Predicate
  | [] => []
  | p :: ps => p.leaves ++ allLeaves ps

end

/-- The values that the caller gives with the call itself. -/
def given : Predicate → List Value
  | null _ _ => []
  | compare _ c v => [c.kind.value v]
  | among _ c vs => vs.map c.kind.value
  | amongQuery _ _ _ => []
  | between c low high => [c.kind.value low, c.kind.value high]
  | group _ _ => []

end Predicate

namespace FilterStep

/-- The calls made on the builder of a group. -/
def members : FilterStep → List FilterStep
  | predicate (.group _ members) => members.map predicate
  | _ => []

/-- The values that the caller gives with the call, or with the calls in its group. -/
def given : FilterStep → List Value
  | predicate p => p.leaves.flatMap Predicate.given
  | connector _ => []

/-- The condition that one call adds when `ref` says how columns are referred to. -/
inductive Adds (ref : TypedColumn → String) : FilterStep → Condition → Prop
  | null (test : NullTest) (c : TypedColumn) :
    Adds ref (predicate (.null test c)) (.null test (ref c))
  | compare (op : Comparison) (c : TypedColumn) (v : c.kind.Carrier) :
    Adds ref (predicate (.compare op c v)) (.compare op (ref c))
  | among (op : Membership) (c : TypedColumn) (vs : List c.kind.Carrier) :
    Adds ref (predicate (.among op c vs)) (.among op (ref c) vs.length)
  | amongQuery (op : Membership) (c : TypedColumn) (query : String) :
    Adds ref (predicate (.amongQuery op c query)) (.amongQuery op (ref c) query)
  | between (c : TypedColumn) (low high : c.kind.Carrier) :
    Adds ref (predicate (.between c low high)) (.between (ref c))
  | group (k : Connector) (members : List Predicate) {conditions : List Condition} :
    conditions.length = members.length →
      Adds ref (predicate (.group k members)) (.group k conditions)
  | connector (k : Connector) : Adds ref (connector k) (.connector k)

end FilterStep

/-! ## Alignment -/

/-- How the conditions and the values of a filter belong to the calls that made it. -/
structure FilterBuilder.Aligned (qualified : Bool) (calls : List FilterStep)
    (conditions : List Condition) (args : List Value) : Prop where
  length_args : args.length = Condition.totalArgs conditions
  length_conditions : conditions.length = calls.length
  /-- The same paths lead to calls and to conditions, and a call to the condition it added. -/
  adds : ∀ path, Option.Rel
    (FilterStep.Adds fun c => if qualified then c.column.table ++ "." ++ c.column.name
      else c.column.name)
    (Forest.nodeAt? FilterStep.members calls path)
    (Forest.nodeAt? Condition.members conditions path)
  /-- The values given with a call are behind those of the leaves in front of its condition. -/
  slice : ∀ path call condition,
    Forest.nodeAt? FilterStep.members calls path = some call →
    Forest.nodeAt? Condition.members conditions path = some condition →
      call.given.length = condition.argCount ∧
      (args.drop (Condition.totalArgs
        (Forest.before Condition.members Condition.leaves conditions path))).take
          condition.argCount = call.given

namespace Predicate

theorem conditions_eq_map (qualified : Bool) (ps : List Predicate) :
    conditions qualified ps = ps.map (condition qualified) := by
  induction ps with
  | nil => rfl
  | cons p ps ih => rw [conditions, ih, List.map_cons]

theorem allArgs_eq_flatMap (ps : List Predicate) : allArgs ps = ps.flatMap args := by
  induction ps with
  | nil => rfl
  | cons p ps ih => rw [allArgs, ih, List.flatMap_cons]

mutual

theorem flatMap_given_leaves (p : Predicate) : p.leaves.flatMap given = p.args := by
  cases p with
  | group k members => exact flatMap_given_allLeaves members
  | _ => exact List.append_nil _

theorem flatMap_given_allLeaves (ps : List Predicate) :
    (allLeaves ps).flatMap given = allArgs ps := by
  cases ps with
  | nil => rfl
  | cons p ps =>
    rw [allLeaves, List.flatMap_append, flatMap_given_leaves p, flatMap_given_allLeaves ps, allArgs]

end

section

variable (qualified : Bool)

mutual

theorem length_args (p : Predicate) : p.args.length = (p.condition qualified).argCount := by
  cases p with
  | among op c vs => exact List.length_map _
  | group k members => exact length_allArgs members
  | _ => rfl

theorem length_allArgs (ps : List Predicate) :
    (allArgs ps).length = Condition.totalArgs (conditions qualified ps) := by
  cases ps with
  | nil => rfl
  | cons p ps =>
    rw [allArgs, List.length_append, length_args p, length_allArgs ps, conditions,
      Condition.totalArgs]

end

end

end Predicate

namespace FilterStep

variable (qualified : Bool)

theorem given_eq_args (s : FilterStep) : s.given = s.args := by
  cases s with
  | predicate p => exact p.flatMap_given_leaves
  | connector k => rfl

theorem length_args (s : FilterStep) : s.args.length = (s.condition qualified).argCount := by
  cases s with
  | predicate p => exact p.length_args qualified
  | connector k => rfl

theorem members_condition (s : FilterStep) :
    (s.condition qualified).members = s.members.map (condition qualified) := by
  cases s with
  | predicate p =>
    cases p with
    | group k members =>
      rw [FilterStep.members, List.map_map]
      exact Predicate.conditions_eq_map qualified members
    | _ => rfl
  | connector k => rfl

/-- What a group binds is what the calls on its builder bind. -/
theorem args_of_members {s : FilterStep} (h : s.members ≠ []) :
    s.args = s.members.flatMap args := by
  cases s with
  | predicate p =>
    cases p with
    | group k members =>
      rw [FilterStep.members, List.flatMap_map]
      exact Predicate.allArgs_eq_flatMap members
    | _ => exact absurd rfl h
  | connector k => exact absurd rfl h

theorem adds_condition (s : FilterStep) :
    Adds (TypedColumn.reference qualified) s (s.condition qualified) := by
  cases s with
  | predicate p =>
    cases p with
    | group k members =>
      refine .group k members ?_
      rw [Predicate.conditions_eq_map, List.length_map]
    | _ => constructor
  | connector k => constructor

end FilterStep

namespace FilterBuilder

theorem aligned_map_condition (qualified : Bool) (calls : List FilterStep) :
    Aligned qualified calls (calls.map (FilterStep.condition qualified))
      (calls.flatMap FilterStep.args) := by
  have hmembers := FilterStep.members_condition qualified
  constructor
  case length_args =>
    induction calls with
    | nil => rfl
    | cons s calls ih =>
      rw [List.flatMap_cons, List.length_append, s.length_args qualified, ih, List.map_cons,
        Condition.totalArgs]
  case length_conditions => exact List.length_map _
  case adds =>
    intro path
    rw [Forest.nodeAt?_map hmembers]
    cases Forest.nodeAt? FilterStep.members calls path with
    | none => exact .none
    | some s => exact .some (s.adds_condition qualified)
  case slice =>
    intro path call condition hcall hcondition
    rw [Forest.nodeAt?_map hmembers, hcall] at hcondition
    obtain rfl := Option.some.inj hcondition
    obtain ⟨behind, hargs⟩ :=
      Forest.exists_behind (fun s hs => FilterStep.args_of_members hs) hcall
    have hbefore : (Forest.before FilterStep.members FilterStep.args calls path).length =
        Condition.totalArgs (Forest.before FilterStep.members
          (fun s => (s.condition qualified).leaves) calls path) := by
      refine Forest.length_before rfl Condition.totalArgs_append (fun s => ?_) calls path
      rw [s.length_args qualified, Condition.totalArgs_leaves]
    rw [Forest.before_map hmembers, ← hbefore, hargs, List.drop_left, call.given_eq_args,
      ← call.length_args qualified, List.take_left]
    exact ⟨rfl, rfl⟩

/-- A group is added by way of a builder of its own, which refers to columns in the same way. -/
theorem add_group (k : Connector) (members : List Predicate) (b : FilterBuilder) :
    let inner : FilterBuilder :=
      (members.map FilterStep.predicate).foldl step { qualified := b.qualified }
    b.add (.group k members) =
      { b with
        conditions := b.conditions ++ [.group k inner.conditions]
        args := b.args ++ inner.args } := by
  simp only [foldl_step]
  rw [add, Predicate.condition, Predicate.args, Predicate.conditions_eq_map,
    Predicate.allArgs_eq_flatMap]
  simp [List.flatMap_map, FilterStep.condition, FilterStep.args, Function.comp_def]

/-- After any calls, whether or not they can be written, and in every snapshot. -/
theorem aligned_foldl_step (qualified : Bool) (calls : List FilterStep) :
    let b := calls.foldl step { qualified }
    Aligned qualified calls b.conditions b.args ∧
      Aligned qualified calls b.build.conditions b.build.args := by
  simp only [foldl_step, build, List.nil_append, and_self]
  exact aligned_map_condition qualified calls

/-- The last call of a group, behind two values of its neighbour. -/
example (c : TypedColumn) (low high v : c.kind.Carrier) :
    let b := [FilterStep.predicate (.between c low high), .connector .and,
      .predicate (.group .or [.null .isNull c, .compare .eq c v])].foldl step { qualified := false }
    Forest.nodeAt? Condition.members b.conditions [2, 1] = some (.compare .eq c.column.name) ∧
      (Forest.before Condition.members Condition.leaves b.conditions [2, 1]).map
        Condition.argCount = [2, 0, 0] ∧
      b.args.drop 2 = [c.kind.value v] :=
  ⟨rfl, rfl, rfl⟩

end FilterBuilder

end SqlBuilder
