import SqlBuilder.Proofs.Bundled
import SqlBuilder.Proofs.FilterText
import SqlBuilder.Statement.Select

/-!
# Text of queries

A query takes its clauses from calls in any order, and only the conditions of its last filter have
slots.  What the other calls add has no mark of its own (`Query.MarkFree`, kept by every call:
`Select.markFree_call`), and the values that a query binds are those of its last filter
(`Select.filterOf_foldl`), so filling its slots writes the values of that filter into its WHERE
clause (`Query.fills`).
-/

namespace SqlBuilder

open Text

/-! ## Clauses without marks -/

/-- No clause of the query but its conditions has a mark. -/
structure Query.MarkFree (q : Query) : Prop where
  table : Text.MarkFree q.table
  columns : ∀ p ∈ q.columns, Text.MarkFree p.sql
  joins : ∀ j ∈ q.joins, Text.MarkFree j.sql
  groupBy : ∀ column ∈ q.groupBy, Text.MarkFree column
  orderBy : ∀ s ∈ q.orderBy, Text.MarkFree s.column

/-- No name, expression or label of the call looks like a slot. -/
def SelectCall.MarkFree : SelectCall → Prop
  | distinct => True
  | select c => c.MarkFree
  | selectAs c label => c.MarkFree ∧ Text.MarkFree label
  | raw name => Text.MarkFree name
  | rawAs name label => Text.MarkFree name ∧ Text.MarkFree label
  | all cs => ∀ c ∈ cs, Text.MarkFree c.table ∧ Text.MarkFree c.name
  | join c onColumn _ => c.MarkFree ∧ onColumn.MarkFree
  | filter _ => True
  | withFilter _ => True
  | groupBy c => c.MarkFree
  | orderBy c _ => c.MarkFree
  | limit _ => True
  | offset _ => True
  | paginate _ _ => True

theorem Projection.markFree_sql {name : String} {label : Option String}
    (hname : MarkFree name) (hlabel : ∀ l ∈ label, MarkFree l) :
    MarkFree (Projection.sql ⟨name, label⟩) := by
  cases label with
  | none => exact hname
  | some l =>
    have hl := hlabel l rfl
    show MarkFree (name ++ " AS " ++ l)
    simp +decide [hname, hl]

/-- What holds of all members and of one more. -/
theorem forall_mem_concat {α : Type} {p : α → Prop} {l : List α} {a : α} (hl : ∀ x ∈ l, p x)
    (ha : p a) : ∀ x ∈ l ++ [a], p x := by
  intro x hx
  rcases List.mem_append.1 hx with hx | hx
  · exact hl x hx
  · exact List.mem_singleton.1 hx ▸ ha

namespace Select

/-! ## Calls -/

theorem markFree_ofTable {t : Table} (h : MarkFree t.name) : (ofTable t).query.MarkFree where
  table := h
  columns := List.forall_mem_nil _
  joins := List.forall_mem_nil _
  groupBy := List.forall_mem_nil _
  orderBy := List.forall_mem_nil _

/-- A call keeps the clauses free of marks. -/
theorem markFree_call {s : Select} (h : s.query.MarkFree) {c : SelectCall} (hc : c.MarkFree) :
    (s.call c).query.MarkFree := by
  cases c with
  | distinct => exact { h with }
  | select c =>
    exact { h with
      columns := forall_mem_concat h.columns
        (Projection.markFree_sql hc.markFree_qualifiedName fun l hl => nomatch hl) }
  | selectAs c label =>
    exact { h with
      columns := forall_mem_concat h.columns
        (Projection.markFree_sql hc.1.markFree_qualifiedName fun l hl => by
          obtain rfl := Option.mem_some_iff.1 hl
          exact hc.2) }
  | raw name =>
    exact { h with
      columns := forall_mem_concat h.columns (Projection.markFree_sql hc fun l hl => nomatch hl) }
  | rawAs name label =>
    exact { h with
      columns := forall_mem_concat h.columns
        (Projection.markFree_sql hc.1 fun l hl => by
          obtain rfl := Option.mem_some_iff.1 hl
          exact hc.2) }
  | all cs =>
    refine { h with columns := fun p hp => ?_ }
    rcases List.mem_append.1 hp with hp | hp
    · exact h.columns p hp
    · obtain ⟨c, hcs, rfl⟩ := List.mem_map.1 hp
      exact Column.markFree_qualifiedName (hc c hcs).1 (hc c hcs).2
  | join c onColumn type =>
    refine { h with joins := forall_mem_concat h.joins ?_ }
    have htable := hc.1.table
    have hcolumn := hc.1.markFree_qualifiedName
    have hon := hc.2.markFree_qualifiedName
    simp +decide [Join.sql, htable, hcolumn, hon]
  | filter steps => exact { h with }
  | withFilter f => exact { h with }
  | groupBy c => exact { h with groupBy := forall_mem_concat h.groupBy hc.markFree_qualifiedName }
  | orderBy c ascending =>
    show (sortBy c.column.qualifiedName ascending s.query).MarkFree
    unfold sortBy
    split_ifs
    · exact h
    · exact { h with orderBy := forall_mem_concat h.orderBy hc.markFree_qualifiedName }
  | limit n => exact { h with }
  | offset n => exact { h with }
  | paginate page perPage => exact { h with }

theorem markFree_foldl {s : Select} (h : s.query.MarkFree) {calls : List SelectCall}
    (hcalls : ∀ c ∈ calls, c.MarkFree) : (calls.foldl call s).query.MarkFree := by
  induction calls generalizing s with
  | nil => exact h
  | cons c calls ih =>
    exact ih (markFree_call h (hcalls c List.mem_cons_self))
      fun c' hc' => hcalls c' (List.mem_cons_of_mem c hc')

/-- The filter after a call. -/
def filterAfter (f : Filter) : SelectCall → Filter
  | .filter steps => .ofSteps true steps
  | .withFilter g => g
  | _ => f

/-- The filter that a query holds. -/
def filterOf (s : Select) : Filter := ⟨s.query.conditions, s.args⟩

theorem filterOf_call (s : Select) (c : SelectCall) :
    (s.call c).filterOf = filterAfter s.filterOf c := by
  cases c with
  | orderBy c ascending =>
    show Filter.mk (sortBy _ _ s.query).conditions s.args = _
    unfold sortBy
    split_ifs <;> rfl
  | _ => rfl

theorem filterOf_foldl (s : Select) (calls : List SelectCall) :
    (calls.foldl call s).filterOf = calls.foldl filterAfter s.filterOf := by
  induction calls generalizing s with
  | nil => rfl
  | cons c calls ih => rw [List.foldl_cons, List.foldl_cons, ih, filterOf_call]

end Select

namespace Query

/-! ## The whole text -/

theorem markFree_headSql {q : Query} (h : q.MarkFree) : Text.MarkFree q.headSql := by
  have hcolumns : Text.MarkFree q.columnsSql := by
    unfold columnsSql
    split_ifs
    · decide
    · apply markFree_intercalate (by decide)
      intro sql hsql
      obtain ⟨p, hp, rfl⟩ := List.mem_map.1 hsql
      exact h.columns p hp
  have htable := h.table
  unfold headSql
  split_ifs <;> simp +decide [hcolumns, htable]

/-- The joins with a space in front of each. -/
def joinsText (joins : List Join) : String := String.join (joins.map fun j => " " ++ j.sql)

theorem joinsSql_eq {d : Dialect} {joins : List Join} {sql : String}
    (h : joinsSql d joins = .ok sql) : sql = joinsText joins := by
  induction joins generalizing sql with
  | nil =>
    cases h
    rfl
  | cons j joins ih =>
    rw [joinsSql] at h
    split_ifs at h
    obtain ⟨rest, hrest, rfl⟩ := map_eq_ok_iff.1 h
    rw [ih hrest, joinsText, joinsText, List.map_cons, String.join_cons]

theorem markFree_joinsText {joins : List Join} (h : ∀ j ∈ joins, Text.MarkFree j.sql) :
    Text.MarkFree (joinsText joins) := by
  induction joins with
  | nil => decide
  | cons j joins ih =>
    have hj := h j List.mem_cons_self
    have hjoins := ih fun j' hj' => h j' (List.mem_cons_of_mem j hj')
    rw [joinsText] at hjoins
    rw [joinsText, List.map_cons, String.join_cons]
    simp +decide [hj, hjoins]

theorem markFree_groupSql {q : Query} (h : q.MarkFree) : Text.MarkFree q.groupSql := by
  unfold groupSql
  split_ifs
  · decide
  · exact markFree_append.2 ⟨by decide, markFree_intercalate (by decide) h.groupBy⟩

theorem markFree_orderSql {q : Query} (h : q.MarkFree) : Text.MarkFree q.orderSql := by
  unfold orderSql
  split_ifs
  · decide
  · refine markFree_append.2 ⟨by decide, markFree_intercalate (by decide) fun sql hsql => ?_⟩
    obtain ⟨s, hs, rfl⟩ := List.mem_map.1 hsql
    have hcolumn := h.orderBy s hs
    unfold SortTerm.sql
    split_ifs <;> simp +decide [hcolumn]

/-- The query with the values of its filter in their places. -/
def text (d : Dialect) (lit : Value → String) (w : FilterSource) (q : Query) : String :=
  q.headSql ++ joinsText q.joins ++ w.text lit ++
    (q.groupSql ++ q.orderSql ++ d.limits q.limit q.offset)

theorem fills (b : Bundled) {q : Query} {w : FilterSource} (hq : q.MarkFree) (hw : w.MarkFree)
    (hconditions : q.conditions = w.filter.conditions) {t : Template}
    (ht : q.template b.dialect = .ok t) (lit : Value → String) :
    Template.Fills t (w.filter.args.map lit) (q.text b.dialect lit w) := by
  rw [template, hconditions] at ht
  obtain ⟨joins, hjoins, clause, hclause, rfl⟩ := return₂_eq_ok_iff.1 ht
  obtain rfl := joinsSql_eq hjoins
  have hhead : Text.MarkFree (q.headSql ++ joinsText q.joins) :=
    markFree_append.2 ⟨markFree_headSql hq, markFree_joinsText hq.joins⟩
  have htail : Text.MarkFree (q.groupSql ++ q.orderSql ++ b.dialect.limits q.limit q.offset) :=
    markFree_append.2 ⟨markFree_append.2 ⟨markFree_groupSql hq, markFree_orderSql hq⟩,
      b.markFree_limits q.limit q.offset⟩
  have hall := (Template.Fills.text hhead (FilterSource.fills hw hclause lit)).append
    (.of_text htail)
  rw [List.append_nil] at hall
  exact hall

end Query

end SqlBuilder
