import SqlBuilder.Dialect.Bundled
import SqlBuilder.Proofs.Runs
import SqlBuilder.Statement.Select

/-!
# Clauses of a query

Each clause of a query under construction comes from the calls that speak of it, whatever calls
stand between them.  `Query.ofCalls` reads the clauses off a list of calls one by one: projections,
joins and groups in the order of the calls, a sort term for each column with the direction of its
first call, and filter and limits from the last call that sets them.  A run of calls builds exactly
that (`Select.foldl_call`), so calls on different clauses can trade places
(`Select.ofCalls_congr`).
-/

namespace SqlBuilder

/-! ## What a call asks for -/

namespace SelectCall

/-- The call leaves out repeated rows. -/
@[simp] def isDistinct : SelectCall → Bool
  | distinct => true
  | _ => false

/-- The columns that the call adds to the result. -/
@[simp] def projections : SelectCall → List Projection
  | select c => [{ name := c.column.qualifiedName }]
  | selectAs c label => [{ name := c.column.qualifiedName, label := some label }]
  | raw name => [{ name }]
  | rawAs name label => [{ name, label := some label }]
  | all cs => cs.map fun c => { name := c.qualifiedName }
  | _ => []

/-- The join that the call adds. -/
@[simp] def join? : SelectCall → Option Join
  | join c onColumn type => some {
      type
      table := c.column.table
      column := c.column.qualifiedName
      onColumn := onColumn.column.qualifiedName }
  | _ => none

/-- The filter that the call puts in place of any other. -/
@[simp] def filter? : SelectCall → Option Filter
  | filter steps => some (.ofSteps true steps)
  | withFilter f => some f
  | _ => none

/-- The column that the call groups by. -/
@[simp] def group? : SelectCall → Option String
  | groupBy c => some c.column.qualifiedName
  | _ => none

/-- The term that the call sorts by. -/
@[simp] def sort? : SelectCall → Option SortTerm
  | orderBy c ascending => some ⟨c.column.qualifiedName, ascending⟩
  | _ => none

/-- The number of rows that the call asks for; a page has at least one row. -/
@[simp] def limit? : SelectCall → Option UInt64
  | limit n => some n
  | paginate _ perPage => some (max perPage 1)
  | _ => none

/-- The number of rows that the call leaves out; those of a page are the rows of all pages before
it. -/
@[simp] def offset? : SelectCall → Option UInt64
  | offset n => some n
  | paginate page perPage => some (Select.saturatingMul (max page 1 - 1) (max perPage 1))
  | _ => none

end SelectCall

/-- The clauses that calls speak of. -/
inductive SelectClause where
  | distinct
  | columns
  | joins
  | conditions
  | groupBy
  | orderBy
  /-- Limit and offset together, since a page sets both. -/
  | limits
deriving DecidableEq

/-- The clause that a call speaks of. -/
def SelectCall.clause : SelectCall → SelectClause
  | distinct => .distinct
  | select _ => .columns
  | selectAs _ _ => .columns
  | raw _ => .columns
  | rawAs _ _ => .columns
  | all _ => .columns
  | join _ _ _ => .joins
  | filter _ => .conditions
  | withFilter _ => .conditions
  | groupBy _ => .groupBy
  | orderBy _ _ => .orderBy
  | limit _ => .limits
  | offset _ => .limits
  | paginate _ _ => .limits

/-! ## Clause by clause -/

/-- Each column once, at the place and with the direction of its first term. -/
def firstTerms (terms : List SortTerm) : List SortTerm :=
  (terms.map (·.column)).eraseDups.filterMap fun column => firstOf (·.column) column terms

/-- The filter of the last call that has one; without such a call every row passes. -/
def lastFilter (calls : List SelectCall) : Filter :=
  (calls.filterMap SelectCall.filter?).getLast?.getD .empty

/-- The query that calls ask for, each clause by itself. -/
def Query.ofCalls (table : String) (calls : List SelectCall) : Query where
  table
  distinct := calls.any SelectCall.isDistinct
  columns := calls.flatMap SelectCall.projections
  joins := calls.filterMap SelectCall.join?
  conditions := (lastFilter calls).conditions
  groupBy := calls.filterMap SelectCall.group?
  orderBy := firstTerms (calls.filterMap SelectCall.sort?)
  limit := (calls.filterMap SelectCall.limit?).getLast?
  offset := (calls.filterMap SelectCall.offset?).getLast?

/-- The statement that calls on a query of a table ask for: it reads the table and then, once each,
the other tables in the order in which they were first joined. -/
def Statement.ofCalls (d : Dialect) (t : Table) (calls : List SelectCall) :
    Except Error Statement := Error.ofFault do
  let text ← (Query.ofCalls t.name calls).template d
  return {
    kind := .select
    table := t.name
    joined := ((calls.filterMap SelectCall.join?).map (·.table)).eraseDups.filter (· ≠ t.name)
    sql := text.render d.placeholder
    args := (lastFilter calls).args }

namespace Select

/-- The query under construction that calls on a query of a table ask for. -/
def ofCalls (table : String) (calls : List SelectCall) : Select where
  query := Query.ofCalls table calls
  args := (lastFilter calls).args

/-! ## One call more -/

section Last

variable {α : Type} (f : SelectCall → Option α) (calls : List SelectCall) (c : SelectCall)

theorem getLast?_filterMap_append : ((calls ++ [c]).filterMap f).getLast? =
    (f c).or (calls.filterMap f).getLast? := by
  rw [List.filterMap_append, List.getLast?_append]
  cases h : f c <;> simp [h]

theorem lastFilter_append :
    lastFilter (calls ++ [c]) = (SelectCall.filter? c).getD (lastFilter calls) := by
  unfold lastFilter
  rw [getLast?_filterMap_append]
  cases SelectCall.filter? c <;> rfl

end Last

theorem map_column_firstTerms (terms : List SortTerm) :
    (firstTerms terms).map (·.column) = (terms.map (·.column)).eraseDups := by
  rw [firstTerms, List.map_filterMap]
  refine (List.filterMap_congr fun column hcolumn => ?_).trans List.filterMap_some
  obtain ⟨s, hs⟩ := Option.ne_none_iff_exists'.1
    (mt firstOf_eq_none_iff.1 (not_not_intro (List.mem_eraseDups.1 hcolumn)))
  rw [hs, Option.map_some, (firstOf_eq_some hs).2]

theorem firstTerms_append (terms : List SortTerm) (s : SortTerm) : firstTerms (terms ++ [s]) =
    if s.column ∈ terms.map (·.column) then firstTerms terms else firstTerms terms ++ [s] := by
  -- The terms before the last one keep their directions.
  have hkeep : (terms.map (·.column)).eraseDups.filterMap
      (fun column => firstOf (·.column) column (terms ++ [s])) = firstTerms terms := by
    refine List.filterMap_congr fun column hcolumn => ?_
    obtain ⟨r, hr⟩ := Option.ne_none_iff_exists'.1
      (mt firstOf_eq_none_iff.1 (not_not_intro (List.mem_eraseDups.1 hcolumn)))
    rw [firstOf_append_singleton, hr, Option.some_or]
  unfold firstTerms at hkeep ⊢
  rw [List.map_append, List.map_singleton, eraseDups_append_singleton]
  by_cases hs : s.column ∈ terms.map (·.column)
  · rw [if_pos hs, if_pos hs, hkeep]
  · rw [if_neg hs, if_neg hs, List.filterMap_append, hkeep]
    simp [firstOf_append_singleton, firstOf_eq_none_iff.2 hs]

theorem firstTerms_append_eq_sortBy (q : Query) (terms : List SortTerm) (s : SortTerm)
    (hq : q.orderBy = firstTerms terms) :
    { q with orderBy := firstTerms (terms ++ [s]) } = sortBy s.column s.ascending q := by
  have hany : q.orderBy.any (·.column = s.column) = true ↔ s.column ∈ terms.map (·.column) := by
    rw [← List.mem_eraseDups, ← map_column_firstTerms, ← hq]
    simp
  unfold sortBy
  rw [firstTerms_append]
  by_cases hs : s.column ∈ terms.map (·.column)
  · rw [if_pos hs, if_pos (hany.2 hs), ← hq]
  · rw [if_neg hs, if_neg (mt hany.1 hs), ← hq]

/-- What one more call adds to the clauses. -/
theorem query_ofCalls_append (table : String) (calls : List SelectCall) (c : SelectCall) :
    Query.ofCalls table (calls ++ [c]) = {
      table
      distinct := (Query.ofCalls table calls).distinct || c.isDistinct
      columns := (Query.ofCalls table calls).columns ++ c.projections
      joins := (Query.ofCalls table calls).joins ++ c.join?.toList
      conditions := (c.filter?.getD (lastFilter calls)).conditions
      groupBy := (Query.ofCalls table calls).groupBy ++ c.group?.toList
      orderBy := firstTerms (calls.filterMap SelectCall.sort? ++ c.sort?.toList)
      limit := c.limit?.or (Query.ofCalls table calls).limit
      offset := c.offset?.or (Query.ofCalls table calls).offset } := by
  have hone {α : Type} (f : SelectCall → Option α) : [c].filterMap f = (f c).toList := by
    cases h : f c <;> simp [h]
  unfold Query.ofCalls
  rw [List.any_append, List.flatMap_append, List.filterMap_append, List.filterMap_append,
    List.filterMap_append, lastFilter_append, getLast?_filterMap_append,
    getLast?_filterMap_append, hone, hone, hone, List.any_cons, List.any_nil, Bool.or_false,
    List.flatMap_singleton]

theorem call_ofCalls (table : String) (calls : List SelectCall) (c : SelectCall) :
    (ofCalls table calls).call c = ofCalls table (calls ++ [c]) := by
  rw [ofCalls, ofCalls, query_ofCalls_append, lastFilter_append]
  cases c with
  | orderBy c ascending =>
    have hsort := firstTerms_append_eq_sortBy (Query.ofCalls table calls) _
      ⟨c.column.qualifiedName, ascending⟩ rfl
    rw [call, ← hsort]
    simp [Query.ofCalls]
  | _ => simp [call, Query.ofCalls, project, withFilter, paginate]

/-! ## Runs -/

theorem foldl_call (t : Table) (calls : List SelectCall) :
    calls.foldl call (ofTable t) = ofCalls t.name calls := by
  induction calls using List.reverseRecOn with
  | nil => rfl
  | append_singleton calls c ih => rw [List.foldl_concat, ih, call_ofCalls]

theorem joinedTables_eq (table : String) (joins : List Join) :
    joinedTables table joins = (joins.map (·.table)).eraseDups.filter (· ≠ table) := by
  induction joins using List.reverseRecOn with
  | nil => rfl
  | append_singleton joins j ih =>
    rw [joinedTables] at ih ⊢
    rw [List.foldl_concat, ih, List.map_append, List.map_singleton, eraseDups_append_singleton]
    have hmem : j.table ∈ (joins.map (·.table)).eraseDups.filter (· ≠ table) ↔
        j.table ∈ joins.map (·.table) ∧ j.table ≠ table := by
      simp only [List.mem_filter, List.mem_eraseDups, decide_eq_true_eq]
    simp only [hmem]
    by_cases htable : j.table = table
    · rw [if_pos (.inl htable)]
      split_ifs
      · rfl
      · rw [List.filter_append, List.filter_singleton, htable]
        simp
    · by_cases hj : j.table ∈ joins.map (·.table)
      · rw [if_pos (.inr ⟨hj, htable⟩), if_pos hj]
      · rw [if_neg (by simp [htable, hj]), if_neg hj, List.filter_append, List.filter_singleton]
        simp [htable]

theorem build_ofCalls (d : Dialect) (t : Table) (calls : List SelectCall) :
    (ofCalls t.name calls).build d = Statement.ofCalls d t calls := by
  unfold build Statement.ofCalls
  simp only [joinedTables_eq]
  rfl

/-! ## Calls that trade places -/

/-- The calls on each clause are the same, in the same order. -/
def SameClauses (calls calls' : List SelectCall) : Prop :=
  ∀ k : SelectClause, calls.filter (·.clause = k) = calls'.filter (·.clause = k)

section Filter

variable {β : Type} {k : SelectClause} (calls : List SelectCall)

theorem flatMap_filter_clause {g : SelectCall → List β} (hg : ∀ c, c.clause ≠ k → g c = []) :
    (calls.filter (·.clause = k)).flatMap g = calls.flatMap g := by
  induction calls with
  | nil => rfl
  | cons c calls ih => by_cases hk : c.clause = k <;> simp [hk, ih, hg]

theorem filterMap_filter_clause {f : SelectCall → Option β} (hf : ∀ c, c.clause ≠ k → f c = none) :
    (calls.filter (·.clause = k)).filterMap f = calls.filterMap f := by
  have hflat := flatMap_filter_clause calls fun c hc => by
    show (f c).toList = []
    rw [hf c hc, Option.toList_none]
  rwa [← List.filterMap_eq_flatMap_toList, ← List.filterMap_eq_flatMap_toList] at hflat

end Filter

/-- Each clause is that of the calls that speak of it. -/
theorem ofCalls_congr {calls calls' : List SelectCall} (h : SameClauses calls calls')
    (table : String) : ofCalls table calls = ofCalls table calls' := by
  have hmap {β : Type} (k : SelectClause) {f : SelectCall → Option β}
      (hf : ∀ c, c.clause ≠ k → f c = none) : calls.filterMap f = calls'.filterMap f := by
    rw [← filterMap_filter_clause calls hf, h k, filterMap_filter_clause calls' hf]
  have hany (cs : List SelectCall) :
      (cs.filter (·.clause = .distinct)).any SelectCall.isDistinct =
        cs.any SelectCall.isDistinct := by
    rw [List.any_filter]
    refine congrArg cs.any (funext fun c => ?_)
    cases c <;> rfl
  have hdistinct : calls.any SelectCall.isDistinct = calls'.any SelectCall.isDistinct := by
    rw [← hany calls, h .distinct, hany calls']
  have hcolumns :
      calls.flatMap SelectCall.projections = calls'.flatMap SelectCall.projections := by
    have hg (c : SelectCall) : c.clause ≠ .columns → c.projections = [] := by
      cases c <;> simp [SelectCall.clause]
    rw [← flatMap_filter_clause calls hg, h .columns, flatMap_filter_clause calls' hg]
  have hjoins : calls.filterMap SelectCall.join? = calls'.filterMap SelectCall.join? :=
    hmap .joins fun c => by cases c <;> simp [SelectCall.clause]
  have hfilter : calls.filterMap SelectCall.filter? = calls'.filterMap SelectCall.filter? :=
    hmap .conditions fun c => by cases c <;> simp [SelectCall.clause]
  have hgroup : calls.filterMap SelectCall.group? = calls'.filterMap SelectCall.group? :=
    hmap .groupBy fun c => by cases c <;> simp [SelectCall.clause]
  have hsort : calls.filterMap SelectCall.sort? = calls'.filterMap SelectCall.sort? :=
    hmap .orderBy fun c => by cases c <;> simp [SelectCall.clause]
  have hlimit : calls.filterMap SelectCall.limit? = calls'.filterMap SelectCall.limit? :=
    hmap .limits fun c => by cases c <;> simp [SelectCall.clause]
  have hoffset : calls.filterMap SelectCall.offset? = calls'.filterMap SelectCall.offset? :=
    hmap .limits fun c => by cases c <;> simp [SelectCall.clause]
  unfold ofCalls Query.ofCalls lastFilter
  rw [hdistinct, hcolumns, hjoins, hfilter, hgroup, hsort, hlimit, hoffset]

/-- **Clauses of a query.**  Any run of calls builds the statement, or finds the fault, of the
clauses that the calls ask for one by one; calls that agree on every clause build the same. -/
theorem build_foldl_call (d : Dialect) (t : Table) (calls : List SelectCall) :
    (calls.foldl call (ofTable t)).build d = Statement.ofCalls d t calls ∧
      ∀ calls', SameClauses calls calls' →
        (calls'.foldl call (ofTable t)).build d = (calls.foldl call (ofTable t)).build d := by
  refine ⟨by rw [foldl_call, build_ofCalls], fun calls' h => ?_⟩
  rw [foldl_call, foldl_call, ofCalls_congr h]

/-- The third page of the names, sorted in one direction and then in the other. -/
def thirdPage : List SelectCall :=
  [.limit 7, .orderBy userName true, .select userName, .paginate 3 20, .distinct,
    .orderBy userName false]

/-- The same calls, those on each clause together. -/
def thirdPageByClause : List SelectCall :=
  [.distinct, .select userName, .orderBy userName true, .orderBy userName false, .limit 7,
    .paginate 3 20]

theorem build_foldl_call_thirdPage : SameClauses thirdPage thirdPageByClause ∧
    ((thirdPage.foldl call (ofTable users)).build .sqlite).map (·.sql) =
      .ok "SELECT DISTINCT users.name FROM users ORDER BY users.name ASC LIMIT 20 OFFSET 40" ∧
    (thirdPageByClause.foldl call (ofTable users)).build .sqlite =
      (thirdPage.foldl call (ofTable users)).build .sqlite := by
  have h : SameClauses thirdPage thirdPageByClause := fun k => by cases k <;> rfl
  exact ⟨h, by decide +kernel, (build_foldl_call .sqlite users thirdPage).2 _ h⟩

end Select

end SqlBuilder
