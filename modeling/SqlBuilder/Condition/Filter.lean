import SqlBuilder.Condition.Basic
import SqlBuilder.Schema

/-!
# Filters

How callers state conditions: a `Predicate` names a typed column and the values it is compared
with, a `FilterStep` is a predicate or a bare connector.  A `FilterBuilder` takes the steps one by
one and keeps the conditions and the values they bind side by side; a `Filter` is what it holds at
some moment.
-/

namespace SqlBuilder

/-- A predicate as a caller states it. -/
inductive Predicate where
  | null (test : NullTest) (c : TypedColumn)
  | compare (op : Comparison) (c : TypedColumn) (v : c.kind.Carrier)
  | among (op : Membership) (c : TypedColumn) (vs : List c.kind.Carrier)
  | amongQuery (op : Membership) (c : TypedColumn) (query : String)
  | between (c : TypedColumn) (low high : c.kind.Carrier)
  | group (c : Connector) (members : List Predicate)

namespace Predicate

mutual

/-- The condition that the predicate puts on a row, columns with their tables if `qualified`. -/
def condition (qualified : Bool) : Predicate → Condition
  | null test c => .null test (c.reference qualified)
  | compare op c _ => .compare op (c.reference qualified)
  | among op c vs => .among op (c.reference qualified) vs.length
  | amongQuery op c query => .amongQuery op (c.reference qualified) query
  | between c _ _ => .between (c.reference qualified)
  | group c members => .group c (conditions qualified members)

/-- The conditions of predicates in order, as the members of a group. -/
def conditions (qualified : Bool) : List Predicate → List Condition
  | [] => []
  | p :: ps => p.condition qualified :: conditions qualified ps

end

mutual

/-- The values that the predicate binds, in the order of its text. -/
def args : Predicate → List Value
  | null _ _ => []
  | compare _ c v => [c.kind.value v]
  | among _ c vs => vs.map c.kind.value
  | amongQuery _ _ _ => []
  | between c low high => [c.kind.value low, c.kind.value high]
  | group _ members => allArgs members

/-- The values that predicates bind, in the order of their text. -/
def allArgs : List Predicate → List Value
  | [] => []
  | p :: ps => p.args ++ allArgs ps

end

end Predicate

/-- Conditions together with the values they bind. -/
structure Filter where
  conditions : List Condition := []
  args : List Value := []

/-- The filter that every row passes. -/
def Filter.empty : Filter := {}

/-- One call on a filter under construction. -/
inductive FilterStep where
  | predicate (p : Predicate)
  | connector (c : Connector)

/-- A filter under construction. -/
structure FilterBuilder where
  qualified : Bool
  conditions : List Condition := []
  args : List Value := []

namespace FilterBuilder

/-- No step has been taken. -/
def isEmpty (b : FilterBuilder) : Bool := b.conditions.isEmpty

/-- Adds a predicate; the values it binds go behind those of the predicates before. -/
def add (p : Predicate) (b : FilterBuilder) : FilterBuilder :=
  { b with
    conditions := b.conditions ++ [p.condition b.qualified]
    args := b.args ++ p.args }

/-- Adds a bare connector.  Whether one may stand here is decided when the clause is written. -/
def connect (c : Connector) (b : FilterBuilder) : FilterBuilder :=
  { b with conditions := b.conditions ++ [.connector c] }

/-- The builder after one call. -/
def step (b : FilterBuilder) : FilterStep → FilterBuilder
  | .predicate p => b.add p
  | .connector c => b.connect c

/-- What the builder holds now; later steps leave it alone. -/
def build (b : FilterBuilder) : Filter := ⟨b.conditions, b.args⟩

end FilterBuilder

/-- The filter made by the steps in order. -/
def Filter.ofSteps (qualified : Bool) (steps : List FilterStep) : Filter :=
  (steps.foldl FilterBuilder.step { qualified }).build

end SqlBuilder
