import SqlBuilder.Condition.Clause
import SqlBuilder.Condition.Filter
import SqlBuilder.Proofs.Fallible
import SqlBuilder.Proofs.Filling

/-!
# Text of filters

What a WHERE clause says once its values are written into it.  `Predicate.text` writes the values of
a predicate where the predicate names them, groups from the inside out, without any list of values
on the side.  Filling the slots of the text that a condition has with the values that its predicate
binds gives the same (`Predicate.fills`), by induction over the predicate; and so it does for all
steps of a filter (`FilterSource.fills`).
-/

namespace SqlBuilder

open Text

/-! ## Texts without marks -/

/-- Neither the column nor its table looks like a slot. -/
structure TypedColumn.MarkFree (c : TypedColumn) : Prop where
  table : Text.MarkFree c.column.table
  name : Text.MarkFree c.column.name

theorem Column.markFree_qualifiedName {c : Column} (htable : MarkFree c.table)
    (hname : MarkFree c.name) : MarkFree c.qualifiedName :=
  markFree_append.2 ⟨markFree_append.2 ⟨htable, by decide⟩, hname⟩

theorem TypedColumn.MarkFree.markFree_qualifiedName {c : TypedColumn} (h : c.MarkFree) :
    Text.MarkFree c.column.qualifiedName :=
  Column.markFree_qualifiedName h.table h.name

theorem TypedColumn.markFree_reference {c : TypedColumn} (h : c.MarkFree) (qualified : Bool) :
    Text.MarkFree (c.reference qualified) := by
  unfold reference
  split_ifs
  · exact h.markFree_qualifiedName
  · exact h.name

@[simp] theorem NullTest.markFree_sql (test : NullTest) : MarkFree test.sql := by
  cases test <;> decide

@[simp] theorem Comparison.markFree_sql (op : Comparison) : MarkFree op.sql := by
  cases op <;> decide

@[simp] theorem Membership.markFree_sql (op : Membership) : MarkFree op.sql := by
  cases op <;> decide

@[simp] theorem Connector.markFree_sql (c : Connector) : MarkFree c.sql := by
  cases c <;> decide

@[simp] theorem JoinType.markFree_sql (j : JoinType) : MarkFree j.sql := by
  cases j <;> decide

/-! ## Predicates -/

namespace Predicate

mutual

/-- No column and no sub query of the predicate looks like a slot. -/
def MarkFree : Predicate → Prop
  | null _ c => c.MarkFree
  | compare _ c _ => c.MarkFree
  | among _ c _ => c.MarkFree
  | amongQuery _ c query => c.MarkFree ∧ Text.MarkFree query
  | between c _ _ => c.MarkFree
  | group _ members => AllMarkFree members

/-- No predicate of the list has anything that looks like a slot. -/
def AllMarkFree : List Predicate → Prop
  | [] => True
  | p :: ps => p.MarkFree ∧ AllMarkFree ps

end

section Text

variable (qualified : Bool) (lit : Value → String)

mutual

/-- The predicate with its values in their places. -/
def text : Predicate → String
  | null test c => c.reference qualified ++ " " ++ test.sql
  | compare op c v => c.reference qualified ++ " " ++ op.sql ++ " " ++ lit (c.kind.value v)
  | among op c vs =>
    c.reference qualified ++ " " ++ op.sql ++ " (" ++
      commaList (vs.map fun v => lit (c.kind.value v)) ++ ")"
  | amongQuery op c query => c.reference qualified ++ " " ++ op.sql ++ " (" ++ query ++ ")"
  | between c low high =>
    c.reference qualified ++ " BETWEEN " ++ lit (c.kind.value low) ++ " AND " ++
      lit (c.kind.value high)
  | group c members => "(" ++ (" " ++ c.sql ++ " ").intercalate (texts members) ++ ")"

/-- The texts of predicates, still apart. -/
def texts : List Predicate → List String
  | [] => []
  | p :: ps => p.text :: texts ps

end

theorem connector?_condition (p : Predicate) : (p.condition qualified).connector? = none := by
  cases p <;> rfl

mutual

/-- The slots of a predicate take its values, in the order in which it names them. -/
theorem fills (p : Predicate) (h : p.MarkFree) {t : Template}
    (ht : (p.condition qualified).template = .ok t) :
    Template.Fills t (p.args.map lit) (p.text qualified lit) := by
  cases p with
  | null test c =>
    rw [condition, Condition.template] at ht
    cases ht
    have hc := c.markFree_reference h qualified
    exact .of_text (by simp +decide [hc])
  | compare op c v =>
    rw [condition, Condition.template] at ht
    cases ht
    have hc := c.markFree_reference h qualified
    exact .text (by simp +decide [hc]) (.of_slot _)
  | among op c vs =>
    rw [condition, Condition.template] at ht
    split_ifs at ht
    cases ht
    have hc := c.markFree_reference h qualified
    have hslots := (Template.Fills.slotList (vs.map fun v => lit (c.kind.value v))).append
      (.of_text (show Text.MarkFree ")" by decide))
    rw [List.length_map, List.append_nil] at hslots
    have hhead : Text.MarkFree (c.reference qualified ++ " " ++ op.sql ++ " (") := by
      simp +decide [hc]
    have hall := Template.Fills.text hhead hslots
    rw [← String.append_assoc] at hall
    rw [args, List.map_map]
    exact hall
  | amongQuery op c query =>
    rw [condition, Condition.template] at ht
    split_ifs at ht
    cases ht
    have hc := c.markFree_reference h.1 qualified
    exact .of_text (by simp +decide [hc, h.2])
  | between c low high =>
    rw [condition, Condition.template] at ht
    cases ht
    have hc := c.markFree_reference h qualified
    have hhead : Text.MarkFree (c.reference qualified ++ " BETWEEN ") := by simp +decide [hc]
    have hlow := Template.Fills.text hhead (.of_slot (lit (c.kind.value low)))
    have hhigh := Template.Fills.text (show Text.MarkFree " AND " by decide)
      (.of_slot (lit (c.kind.value high)))
    have hall := hlow.append hhigh
    rw [← String.append_assoc] at hall
    exact hall
  | group c members =>
    rw [condition, Condition.template] at ht
    split_ifs at ht
    obtain ⟨ts, hts, rfl⟩ := map_eq_ok_iff.1 ht
    obtain ⟨parts, rfl, hargs, htexts, hparts⟩ := fills_members members h hts
    have hsep : Text.MarkFree (" " ++ c.sql ++ " ") := by simp +decide
    have hmembers := Template.Fills.text (show Text.MarkFree "(" by decide)
      (Template.Fills.join hsep hparts)
    have hall := hmembers.append (.of_text (show Text.MarkFree ")" by decide))
    rw [hargs, htexts, List.append_nil] at hall
    exact hall

/-- The members of a group, each with its template, its texts and what comes out. -/
theorem fills_members (ps : List Predicate) (h : AllMarkFree ps) {c : Connector}
    {ts : List Template}
    (hts : Condition.memberTemplates c (conditions qualified ps) = .ok ts) :
    ∃ parts : List (Template × List String × String),
      parts.map (·.1) = ts ∧ parts.flatMap (·.2.1) = (allArgs ps).map lit ∧
      parts.map (·.2.2) = texts qualified lit ps ∧
      ∀ part ∈ parts, Template.Fills part.1 part.2.1 part.2.2 := by
  cases ps with
  | nil =>
    rw [conditions, Condition.memberTemplates] at hts
    cases hts
    exact ⟨[], rfl, rfl, rfl, fun part hpart => absurd hpart List.not_mem_nil⟩
  | cons p ps =>
    rw [conditions, Condition.memberTemplates, connector?_condition] at hts
    obtain ⟨t, ht, us, hus, rfl⟩ := return₂_eq_ok_iff.1 hts
    obtain ⟨parts, rfl, hargs, htexts, hparts⟩ := fills_members ps h.2 hus
    refine ⟨(t, p.args.map lit, p.text qualified lit) :: parts, rfl, ?_, ?_, ?_⟩
    · rw [List.flatMap_cons, hargs, allArgs, List.map_append]
    · rw [List.map_cons, htexts, texts]
    · rintro part hpart
      rcases List.mem_cons.1 hpart with rfl | hmem
      · exact fills p h.1 ht
      · exact hparts part hmem

end

end Text

end Predicate

/-! ## Steps -/

namespace FilterStep

/-- The condition that the step adds. -/
def condition (qualified : Bool) : FilterStep → Condition
  | predicate p => p.condition qualified
  | connector c => .connector c

/-- The values that the step adds. -/
def args : FilterStep → List Value
  | predicate p => p.args
  | connector _ => []

/-- The step has nothing that looks like a slot. -/
def MarkFree : FilterStep → Prop
  | predicate p => p.MarkFree
  | connector _ => True

/-- The step with its values in their places. -/
def text (qualified : Bool) (lit : Value → String) : FilterStep → String
  | predicate p => p.text qualified lit
  | connector c => c.sql

theorem fills (qualified : Bool) (lit : Value → String) {s : FilterStep} (h : s.MarkFree)
    {t : Template} (ht : (s.condition qualified).template = .ok t) :
    Template.Fills t (s.args.map lit) (s.text qualified lit) := by
  cases s with
  | predicate p => exact p.fills qualified lit h ht
  | connector c =>
    rw [condition, Condition.template] at ht
    cases ht
    exact .of_text c.markFree_sql

/-- All steps, a space in front of each. -/
theorem fills_all (qualified : Bool) (lit : Value → String) {steps : List FilterStep}
    (h : ∀ s ∈ steps, s.MarkFree) {ts : List Template}
    (hts : (steps.map (condition qualified)).mapM Condition.template = .ok ts) :
    Template.Fills (ts.flatMap fun t => .text " " :: t) ((steps.flatMap args).map lit)
      (String.join (steps.map fun s => " " ++ s.text qualified lit)) := by
  induction steps generalizing ts with
  | nil =>
    cases hts
    exact .nil
  | cons s steps ih =>
    obtain ⟨t, ht, us, hus, rfl⟩ := mapM_cons_eq_ok_iff.1 hts
    have hs := fills qualified lit (h s List.mem_cons_self) ht
    have hsteps := ih (fun s' hs' => h s' (List.mem_cons_of_mem s hs')) hus
    have hall := (Template.Fills.text (show Text.MarkFree " " by decide) hs).append hsteps
    rw [List.flatMap_cons, List.flatMap_cons, List.map_append, List.map_cons, String.join_cons]
    exact hall

end FilterStep

theorem FilterBuilder.foldl_step (b : FilterBuilder) (steps : List FilterStep) :
    steps.foldl step b =
      { b with
        conditions := b.conditions ++ steps.map (·.condition b.qualified)
        args := b.args ++ steps.flatMap FilterStep.args } := by
  induction steps generalizing b with
  | nil => simp
  | cons s steps ih =>
    rw [List.foldl_cons, ih]
    cases s <;> simp [step, add, connect, FilterStep.condition, FilterStep.args]

/-- The clause of conditions that there are. -/
theorem Condition.exists_of_clauseSuffix_cons {c : Condition} {cs : List Condition} {t : Template}
    (h : clauseSuffix (c :: cs) = .ok t) : ∃ ts, (c :: cs).mapM template = .ok ts ∧
      t = .text " " :: .text "WHERE" :: ts.flatMap fun t => .text " " :: t := by
  obtain ⟨clause, hclause, rfl⟩ := map_eq_ok_iff.1 h
  obtain ⟨-, -, ts, hts, rfl⟩ := return₂_eq_ok_iff.1 hclause
  exact ⟨ts, hts, rfl⟩

/-! ## Filters -/

/-- A filter by the calls that make it. -/
structure FilterSource where
  qualified : Bool
  steps : List FilterStep

namespace FilterSource

/-- The filter that the calls make. -/
def filter (w : FilterSource) : Filter := .ofSteps w.qualified w.steps

/-- No call has anything that looks like a slot. -/
def MarkFree (w : FilterSource) : Prop := ∀ s ∈ w.steps, s.MarkFree

/-- The clause with its values in their places, as it follows the text before it. -/
def text (lit : Value → String) (w : FilterSource) : String :=
  if w.steps.isEmpty then ""
  else " WHERE" ++ String.join (w.steps.map fun s => " " ++ s.text w.qualified lit)

variable {w : FilterSource}

theorem conditions_filter : w.filter.conditions = w.steps.map (·.condition w.qualified) := by
  rw [filter, Filter.ofSteps, FilterBuilder.foldl_step]
  rfl

theorem args_filter : w.filter.args = w.steps.flatMap FilterStep.args := by
  rw [filter, Filter.ofSteps, FilterBuilder.foldl_step]
  rfl

theorem fills (h : w.MarkFree) {t : Template}
    (ht : Condition.clauseSuffix w.filter.conditions = .ok t) (lit : Value → String) :
    Template.Fills t (w.filter.args.map lit) (w.text lit) := by
  rw [conditions_filter] at ht
  rw [args_filter, text]
  cases hsteps : w.steps with
  | nil =>
    rw [hsteps] at ht
    cases ht
    exact .nil
  | cons s steps =>
    rw [hsteps, List.map_cons] at ht
    obtain ⟨ts, hts, rfl⟩ := Condition.exists_of_clauseSuffix_cons ht
    rw [← List.map_cons] at hts
    have hfree : ∀ s' ∈ s :: steps, s'.MarkFree := hsteps ▸ h
    have hsteps' := FilterStep.fills_all w.qualified lit hfree hts
    have hall := Template.Fills.text (show Text.MarkFree " " by decide)
      (.text (show Text.MarkFree "WHERE" by decide) hsteps')
    rw [← String.append_assoc] at hall
    exact hall

end FilterSource

end SqlBuilder
