import SqlBuilder.Database.Workbench
import SqlBuilder.Proofs.ForeignColumn
import SqlBuilder.Proofs.PlainStatements

/-!
# Values do not reach the text

Two runs of calls are alike if they differ in nothing but the values given to setters and predicates
(`BuilderRun.Alike`, with one relation for each kind of call).  Alike predicates put the same
condition on a row (`Predicate.Alike.condition_eq`), and alike setters leave the same columns in the
same places (`Assignments.columns_congr`, `KeyedAssignments.arrivals_congr`), so alike runs fail
with the same error or build statements that differ in the values they bind and in nothing else
(`BuilderRun.agree_build`).
-/

namespace SqlBuilder

/-! ## Setters -/

/-- Two setters that differ in their values.  A JSON value without a text is none of them. -/
inductive Setter.Alike : Setter → Setter → Prop
  | value (c : TypedColumn) (v w : c.kind.Carrier) : Alike (.value c v) (.value c w)
  | null (c : TypedColumn) : Alike (.null c) (.null c)
  | json (c : TypedColumn) (holds : c.kind.HoldsText) (i j : Json) :
    Alike (.json c holds (.ok i)) (.json c holds (.ok j))
  | record (c : Column) (v w : Value) : Alike (.record c v) (.record c w)

/-- Two calls whose setters differ in their values, with as many setters in each. -/
inductive SetStep.Alike : SetStep → SetStep → Prop
  | one {s t : Setter} : s.Alike t → Alike (.one s) (.one t)
  | several {ss ts : List Setter} : List.Forall₂ Setter.Alike ss ts →
    Alike (.several ss) (.several ts)

theorem Setter.Alike.exists_entries {s t : Setter} (h : s.Alike t) :
    ∃ e f, s.entry = .ok e ∧ t.entry = .ok f ∧ e.1 = f.1 := by
  cases h <;> exact ⟨_, _, rfl, rfl, rfl⟩

theorem exists_mapM_entry {ss ts : List Setter} (h : List.Forall₂ Setter.Alike ss ts) :
    ∃ es fs, ss.mapM Setter.entry = .ok es ∧ ts.mapM Setter.entry = .ok fs ∧
      es.map (·.1) = fs.map (·.1) := by
  induction h with
  | nil => exact ⟨[], [], rfl, rfl, rfl⟩
  | cons hst _ ih =>
    obtain ⟨e, f, he, hf, hcolumn⟩ := hst.exists_entries
    obtain ⟨es, fs, hes, hfs, hcolumns⟩ := ih
    refine ⟨e :: es, f :: fs, mapM_cons_eq_ok_iff.2 ⟨e, he, es, hes, rfl⟩,
      mapM_cons_eq_ok_iff.2 ⟨f, hf, fs, hfs, rfl⟩, ?_⟩
    rw [List.map_cons, List.map_cons, hcolumn, hcolumns]

/-! ## Assignments -/

section Columns

variable {es fs : List (Column × Value)} (h : es.map (·.1) = fs.map (·.1))

theorem Assignments.map_some_columns_ofEntries (es : List (Column × Value)) :
    (ofEntries es).columns.map some = ((es.map (·.1)).map (·.name)).eraseDups.map fun name =>
      lastOf (·.name) name (es.map (·.1)) := by
  have hmap := congrArg (List.map (Option.map (·.1))) (map_some_values_ofEntries es)
  rw [List.map_map, List.map_map] at hmap
  rw [columns, List.map_map, List.map_map]
  refine hmap.trans (List.map_congr_left fun name _ => ?_)
  rw [lastOf_map]
  rfl

include h

/-- Which columns there are, and in which order, does not depend on the values. -/
theorem Assignments.columns_congr : (ofEntries es).columns = (ofEntries fs).columns := by
  refine List.map_injective_iff.2 (fun _ _ => Option.some.inj) ?_
  rw [map_some_columns_ofEntries, map_some_columns_ofEntries, h]

theorem Assignments.names_congr : (ofEntries es).names = (ofEntries fs).names := by
  have hnames (es : List (Column × Value)) :
      (ofEntries es).names = ((es.map (·.1)).map (·.name)).eraseDups := by
    rw [names_ofEntries, List.map_map]
    rfl
  rw [hnames, hnames, h]

theorem Assignments.length_args_congr :
    (ofEntries es).args.length = (ofEntries fs).args.length := by
  have hlength := congrArg List.length (columns_congr h)
  rw [columns, columns, List.length_map, List.length_map] at hlength
  rw [args, args, List.length_map, List.length_map, hlength]

/-- A column arrives with its first value, whatever that is. -/
theorem KeyedAssignments.arrivals_congr : (ofEntries es).arrivals = (ofEntries fs).arrivals := by
  have harrivals (es : List (Column × Value)) : (ofEntries es).arrivals.map some =
      ((es.map (·.1)).map Column.ident).eraseDups.map fun k =>
        firstOf Column.ident k (es.map (·.1)) := by
    rw [map_some_arrivals_ofEntries, List.map_map]
    refine List.map_congr_left fun k _ => ?_
    rw [firstOf_map]
  refine List.map_injective_iff.2 (fun _ _ => Option.some.inj) ?_
  rw [harrivals, harrivals, h]

end Columns

/-- What arrived, and in which order, decides everything but the values. -/
theorem KeyedAssignments.Coherent.congr {a b : KeyedAssignments} (ha : a.Coherent)
    (hb : b.Coherent) (h : a.arrivals = b.arrivals) :
    a.keys.names = b.keys.names ∧ a.others.names = b.others.names ∧ a.places = b.places ∧
      (∀ rebinds, a.slotsOf rebinds = b.slotsOf rebinds) ∧
      a.clientArgs.length = b.clientArgs.length := by
  have hplaces : a.places = b.places := by rw [ha.places_eq, hb.places_eq, h]
  have hsize : a.size = b.size := by rw [size, size, hplaces]
  have hkeys : a.keys.size = b.keys.size := by rw [ha.keys_size, hb.keys_size, h]
  refine ⟨?_, ?_, hplaces, fun rebinds => funext fun place => ?_, ?_⟩
  · rw [ha.keys_names, hb.keys_names, h]
  · rw [ha.others_names, hb.others_names, h]
  · rw [slotsOf, slotsOf, hkeys, hsize]
  · rw [ha.clientArgs_length, hb.clientArgs_length, hsize]

/-! ## Calls that set values -/

theorem SetStep.Alike.exists_entries {s t : SetStep} (h : s.Alike t) :
    ∃ es fs, s.entries = .ok es ∧ t.entries = .ok fs ∧ es.map (·.1) = fs.map (·.1) := by
  cases h with
  | one h =>
    obtain ⟨e, f, he, hf, hcolumn⟩ := h.exists_entries
    refine ⟨[e], [f], map_eq_ok_iff.2 ⟨e, he, rfl⟩, map_eq_ok_iff.2 ⟨f, hf, rfl⟩, ?_⟩
    rw [List.map_singleton, List.map_singleton, hcolumn]
  | several h =>
    -- The setters fill assignments of their own, and these have the same columns.
    obtain ⟨es, fs, hes, hfs, hcolumns⟩ := exists_mapM_entry h
    refine ⟨(Assignments.ofEntries es).values, (Assignments.ofEntries fs).values, ?_, ?_,
      Assignments.columns_congr hcolumns⟩
    · rw [entries, Assignments.set_eq, hes]
      rfl
    · rw [entries, Assignments.set_eq, hfs]
      rfl

theorem exists_entriesOf {steps steps' : List SetStep}
    (h : List.Forall₂ SetStep.Alike steps steps') :
    ∃ es fs, entriesOf steps = .ok es ∧ entriesOf steps' = .ok fs ∧
      es.map (·.1) = fs.map (·.1) := by
  induction h with
  | nil => exact ⟨[], [], rfl, rfl, rfl⟩
  | cons hst _ ih =>
    obtain ⟨es, fs, hes, hfs, hcolumns⟩ := hst.exists_entries
    obtain ⟨es', fs', hes', hfs', hcolumns'⟩ := ih
    refine ⟨es ++ es', fs ++ fs', ?_, ?_, ?_⟩
    · rw [entriesOf_cons]
      exact return₂_eq_ok_iff.2 ⟨es, hes, es', hes', rfl⟩
    · rw [entriesOf_cons]
      exact return₂_eq_ok_iff.2 ⟨fs, hfs, fs', hfs', rfl⟩
    · rw [List.map_append, List.map_append, hcolumns, hcolumns']

/-! ## Predicates -/

mutual

/-- Two predicates that differ in the values they compare with.  Lists of values have one length. -/
inductive Predicate.Alike : Predicate → Predicate → Prop
  | null (test : NullTest) (c : TypedColumn) : Alike (.null test c) (.null test c)
  | compare (op : Comparison) (c : TypedColumn) (v w : c.kind.Carrier) :
    Alike (.compare op c v) (.compare op c w)
  | among (op : Membership) (c : TypedColumn) {vs ws : List c.kind.Carrier} :
    vs.length = ws.length → Alike (.among op c vs) (.among op c ws)
  | amongQuery (op : Membership) (c : TypedColumn) (query : String) :
    Alike (.amongQuery op c query) (.amongQuery op c query)
  | between (c : TypedColumn) (low high low' high' : c.kind.Carrier) :
    Alike (.between c low high) (.between c low' high')
  | group (c : Connector) {ps qs : List Predicate} : AllAlike ps qs →
    Alike (.group c ps) (.group c qs)

/-- Two lists of predicates that differ in the values they compare with, one by one. -/
inductive Predicate.AllAlike : List Predicate → List Predicate → Prop
  | nil : AllAlike [] []
  | cons {p q : Predicate} {ps qs : List Predicate} : Alike p q → AllAlike ps qs →
    AllAlike (p :: ps) (q :: qs)

end

namespace Predicate

mutual

theorem condition_congr (qualified : Bool) (p : Predicate) {q : Predicate} (h : p.Alike q) :
    p.condition qualified = q.condition qualified ∧ p.args.length = q.args.length := by
  cases h with
  | null => exact ⟨rfl, rfl⟩
  | compare => exact ⟨rfl, rfl⟩
  | among op c hlength =>
    rw [condition, condition, args, args, List.length_map, List.length_map, hlength]
    exact ⟨rfl, rfl⟩
  | amongQuery => exact ⟨rfl, rfl⟩
  | between => exact ⟨rfl, rfl⟩
  | @group c ps qs hmembers =>
    obtain ⟨hconditions, hargs⟩ := conditions_congr qualified ps hmembers
    rw [condition, condition, args, args, hconditions, hargs]
    exact ⟨rfl, rfl⟩

theorem conditions_congr (qualified : Bool) (ps : List Predicate) {qs : List Predicate}
    (h : AllAlike ps qs) : conditions qualified ps = conditions qualified qs ∧
      (allArgs ps).length = (allArgs qs).length := by
  cases h with
  | nil => exact ⟨rfl, rfl⟩
  | @cons p q ps qs hp hps =>
    obtain ⟨hcondition, hargs⟩ := condition_congr qualified p hp
    obtain ⟨hconditions, hallArgs⟩ := conditions_congr qualified ps hps
    rw [conditions, conditions, allArgs, allArgs, List.length_append, List.length_append,
      hcondition, hargs, hconditions, hallArgs]
    exact ⟨rfl, rfl⟩

end

end Predicate

/-! ## Filters -/

/-- Two steps that differ in the values they compare with. -/
inductive FilterStep.Alike : FilterStep → FilterStep → Prop
  | predicate {p q : Predicate} : p.Alike q → Alike (.predicate p) (.predicate q)
  | connector (c : Connector) : Alike (.connector c) (.connector c)

/-- Two filters made by steps that differ in their values. -/
inductive Filter.Alike : Filter → Filter → Prop
  | ofSteps (qualified : Bool) {steps steps' : List FilterStep} :
    List.Forall₂ FilterStep.Alike steps steps' →
      Alike (.ofSteps qualified steps) (.ofSteps qualified steps')

/-- The same conditions with as many values. -/
structure Filter.Agree (f g : Filter) : Prop where
  conditions : f.conditions = g.conditions
  args : f.args.length = g.args.length

theorem FilterStep.Alike.condition_eq {s t : FilterStep} (h : s.Alike t) (qualified : Bool) :
    s.condition qualified = t.condition qualified ∧ s.args.length = t.args.length := by
  cases h with
  | @predicate p q h => exact p.condition_congr qualified h
  | connector c => exact ⟨rfl, rfl⟩

theorem Filter.agree_ofSteps (qualified : Bool) {steps steps' : List FilterStep}
    (h : List.Forall₂ FilterStep.Alike steps steps') :
    (ofSteps qualified steps).Agree (ofSteps qualified steps') := by
  have hsteps : steps.map (·.condition qualified) = steps'.map (·.condition qualified) ∧
      (steps.flatMap FilterStep.args).length = (steps'.flatMap FilterStep.args).length := by
    induction h with
    | nil => exact ⟨rfl, rfl⟩
    | cons hst _ ih =>
      obtain ⟨hcondition, hargs⟩ := hst.condition_eq qualified
      simp only [List.map_cons, List.flatMap_cons, List.length_append, hcondition, hargs, ih.1,
        ih.2]
      exact ⟨trivial, trivial⟩
  have hfilter (steps : List FilterStep) := @FilterSource.conditions_filter ⟨qualified, steps⟩
  have hfilter' (steps : List FilterStep) := @FilterSource.args_filter ⟨qualified, steps⟩
  constructor
  case conditions => exact (hfilter steps).trans (hsteps.1.trans (hfilter steps').symm)
  case args =>
    exact (congrArg List.length (hfilter' steps)).trans
      (hsteps.2.trans (congrArg List.length (hfilter' steps')).symm)

theorem Filter.Alike.agree {f g : Filter} (h : f.Alike g) : f.Agree g := by
  cases h with
  | ofSteps qualified h => exact agree_ofSteps qualified h

/-! ## Calls on builders -/

/-- Two calls on an update that differ in values, those it sets or those it compares with. -/
inductive UpdateCall.Alike : UpdateCall → UpdateCall → Prop
  | set {s t : SetStep} : s.Alike t → Alike (.set s) (.set t)
  | filter {steps steps' : List FilterStep} : List.Forall₂ FilterStep.Alike steps steps' →
    Alike (.filter steps) (.filter steps')
  | withFilter {f g : Filter} : f.Alike g → Alike (.withFilter f) (.withFilter g)

/-- Two calls on a deletion that differ in the values they compare with. -/
inductive DeleteCall.Alike : DeleteCall → DeleteCall → Prop
  | filter {steps steps' : List FilterStep} : List.Forall₂ FilterStep.Alike steps steps' →
    Alike (.filter steps) (.filter steps')
  | withFilter {f g : Filter} : f.Alike g → Alike (.withFilter f) (.withFilter g)

/-- Only filters have values. -/
inductive SelectCall.Alike : SelectCall → SelectCall → Prop
  | refl (c : SelectCall) : Alike c c
  | filter {steps steps' : List FilterStep} : List.Forall₂ FilterStep.Alike steps steps' →
    Alike (.filter steps) (.filter steps')
  | withFilter {f g : Filter} : f.Alike g → Alike (.withFilter f) (.withFilter g)

theorem UpdateCall.Alike.steps_alike {c c' : UpdateCall} (h : c.Alike c') :
    List.Forall₂ SetStep.Alike c.steps c'.steps := by
  cases h with
  | set h => exact .cons h .nil
  | filter => exact .nil
  | withFilter => exact .nil

theorem UpdateCall.Alike.filterAfter_agree {c c' : UpdateCall} (h : c.Alike c') {f g : Filter}
    (hf : f.Agree g) : (filterAfter f c).Agree (filterAfter g c') := by
  cases h with
  | set => exact hf
  | filter h => exact Filter.agree_ofSteps false h
  | withFilter h => exact h.agree

theorem DeleteCall.Alike.filterAfter_agree {c c' : DeleteCall} (h : c.Alike c') (f g : Filter) :
    (Delete.filterAfter f c).Agree (Delete.filterAfter g c') := by
  cases h with
  | filter h => exact Filter.agree_ofSteps false h
  | withFilter h => exact h.agree

/-- The same query with as many values. -/
structure Select.Agree (s t : Select) : Prop where
  query : s.query = t.query
  args : s.args.length = t.args.length

theorem Select.agree_withFilter {s t : Select} (h : s.Agree t) {f g : Filter} (hf : f.Agree g) :
    (s.withFilter f).Agree (t.withFilter g) where
  query := by rw [withFilter, withFilter, h.query, hf.conditions]
  args := hf.args

theorem Select.agree_call {s t : Select} (h : s.Agree t) {c c' : SelectCall} (hc : c.Alike c') :
    (s.call c).Agree (t.call c') := by
  cases hc with
  | filter hsteps => exact agree_withFilter h (Filter.agree_ofSteps true hsteps)
  | withFilter hf => exact agree_withFilter h hf.agree
  | refl =>
    obtain ⟨q, vs⟩ := s
    obtain ⟨q', ws⟩ := t
    obtain rfl : q = q' := h.query
    cases c with
    | filter steps => exact ⟨rfl, rfl⟩
    | withFilter f => exact ⟨rfl, rfl⟩
    | _ => exact ⟨rfl, h.args⟩

theorem Select.agree_foldl {s t : Select} (h : s.Agree t) {calls calls' : List SelectCall}
    (hcalls : List.Forall₂ SelectCall.Alike calls calls') :
    (calls.foldl call s).Agree (calls'.foldl call t) := by
  induction hcalls generalizing s t with
  | nil => exact h
  | cons hc _ ih => exact ih (agree_call h hc)

/-! ## Runs -/

/-- A new builder of any kind and the calls on it. -/
inductive BuilderRun where
  | plain (run : PlainRun)
  | insertOrReplace (t : Table) (steps : List SetStep)

/-- The statement that the run builds. -/
def BuilderRun.build (d : Dialect) : BuilderRun → Except Error Statement
  | plain run => run.build d
  | insertOrReplace t steps => Upsert.built d t steps

/-- Two runs of the same calls on the same table with other values. -/
inductive BuilderRun.Alike : BuilderRun → BuilderRun → Prop
  | insert (t : Table) {steps steps' : List SetStep} : List.Forall₂ SetStep.Alike steps steps' →
    Alike (.plain (.insert t steps)) (.plain (.insert t steps'))
  | insertOrReplace (t : Table) {steps steps' : List SetStep} :
    List.Forall₂ SetStep.Alike steps steps' →
      Alike (.insertOrReplace t steps) (.insertOrReplace t steps')
  | update (t : Table) {calls calls' : List UpdateCall} :
    List.Forall₂ UpdateCall.Alike calls calls' →
      Alike (.plain (.update t calls)) (.plain (.update t calls'))
  | delete (t : Table) {calls calls' : List DeleteCall} :
    List.Forall₂ DeleteCall.Alike calls calls' →
      Alike (.plain (.delete t calls)) (.plain (.delete t calls'))
  | select (t : Table) {calls calls' : List SelectCall} :
    List.Forall₂ SelectCall.Alike calls calls' →
      Alike (.plain (.select t calls)) (.plain (.select t calls'))

/-- Both fail with the same error, or both succeed with results in a relation. -/
inductive SameEnd {α : Type} (R : α → α → Prop) : Except Error α → Except Error α → Prop
  | failed (e : Error) : SameEnd R (.error e) (.error e)
  | succeeded {a b : α} : R a b → SameEnd R (.ok a) (.ok b)

/-- Two statements with as many values that a database does not tell apart by anything else: neither
by what the engine compiles, nor by where the values go, nor by what hooks see, nor, unless the log
shows values, by what is logged. -/
structure Database.Agree {ω C : Type} (db : Database ω C) (s t : Statement) : Prop where
  sql : s.sql = t.sql
  tables : s.tables = t.tables
  slots : s.slots = t.slots
  args : s.args.length = t.args.length
  context : s.context = t.context
  event : db.config.logValues = false → db.compilingEvent s = db.compilingEvent t

section Build

variable {ω C : Type} (db : Database ω C)

theorem Database.agree_of_args {s : Statement} {vs : List Value}
    (h : s.args.length = vs.length) : db.Agree s { s with args := vs } := by
  have hcontext : s.context = Statement.context { s with args := vs } := by
    obtain ⟨kind, table, joined, sql, args, slots⟩ := s
    cases slots with
    | some m => rfl
    | none => exact congrArg (Context.mk kind table sql) h
  refine ⟨rfl, rfl, rfl, h, hcontext, fun hlog => ?_⟩
  rw [compilingEvent, compilingEvent, hlog, hcontext]
  rfl

variable {check : Except SyntaxFault Unit} {x : Except SyntaxFault Template}
  {f g : Template → Statement} (h : ∀ t, db.Agree (f t) (g t))
include h

theorem Database.sameEnd_written :
    SameEnd db.Agree (Error.ofFault do return f (← x)) (Error.ofFault do return g (← x)) := by
  cases x with
  | error fault => exact .failed _
  | ok t => exact .succeeded (h t)

theorem Database.sameEnd_checked :
    SameEnd db.Agree (Error.ofFault do check; return f (← x))
      (Error.ofFault do check; return g (← x)) := by
  cases check with
  | error fault => exact .failed _
  | ok => exact db.sameEnd_written h

end Build

section Runs

variable {ω C : Type} (db : Database ω C)

theorem Insert.sameEnd_built (t : Table) {steps steps' : List SetStep}
    (h : List.Forall₂ SetStep.Alike steps steps') :
    SameEnd db.Agree (Insert.built db.dialect t steps) (Insert.built db.dialect t steps') := by
  obtain ⟨es, fs, hes, hfs, hcolumns⟩ := exists_entriesOf h
  rw [built_eq hes, built_eq hfs, build, build, Assignments.columns_congr hcolumns,
    Assignments.names_congr hcolumns]
  exact db.sameEnd_checked fun _ => db.agree_of_args (Assignments.length_args_congr hcolumns)

theorem Upsert.sameEnd_built (t : Table) {steps steps' : List SetStep}
    (h : List.Forall₂ SetStep.Alike steps steps') :
    SameEnd db.Agree (Upsert.built db.dialect t steps) (Upsert.built db.dialect t steps') := by
  obtain ⟨es, fs, hes, hfs, hcolumns⟩ := exists_entriesOf h
  have harrivals := KeyedAssignments.arrivals_congr hcolumns
  have hcoherent := KeyedAssignments.coherent_ofEntries
  obtain ⟨hkeys, hothers, hplaces, hslots, hargs⟩ :=
    (hcoherent es).congr (hcoherent fs) harrivals
  rw [built_eq hes, built_eq hfs, build_eq, build_eq]
  dsimp only
  rw [harrivals, hkeys, hothers, hplaces, hslots]
  exact db.sameEnd_checked fun _ => db.agree_of_args hargs

theorem Update.sameEnd_built (t : Table) {calls calls' : List UpdateCall}
    (h : List.Forall₂ UpdateCall.Alike calls calls') :
    SameEnd db.Agree (Update.built db.dialect t calls) (Update.built db.dialect t calls') := by
  have hsteps : List.Forall₂ SetStep.Alike (calls.flatMap UpdateCall.steps)
      (calls'.flatMap UpdateCall.steps) :=
    List.rel_flatMap h fun _ _ hc => hc.steps_alike
  have hfilter : (calls.foldl UpdateCall.filterAfter .empty).Agree
      (calls'.foldl UpdateCall.filterAfter .empty) :=
    List.rel_foldl (fun _ _ hf _ _ hc => hc.filterAfter_agree hf) ⟨rfl, rfl⟩ h
  obtain ⟨es, fs, hes, hfs, hcolumns⟩ := exists_entriesOf hsteps
  rw [built_eq hes, built_eq hfs, build, build, Assignments.columns_congr hcolumns,
    Assignments.names_congr hcolumns, hfilter.conditions]
  refine db.sameEnd_checked fun _ => db.agree_of_args ?_
  rw [List.length_append, List.length_append, Assignments.length_args_congr hcolumns, hfilter.args]

theorem Delete.sameEnd_built (t : Table) {calls calls' : List DeleteCall}
    (h : List.Forall₂ DeleteCall.Alike calls calls') :
    SameEnd db.Agree ((PlainRun.delete t calls).build db.dialect)
      ((PlainRun.delete t calls').build db.dialect) := by
  have hfilter : (calls.foldl filterAfter .empty).Agree (calls'.foldl filterAfter .empty) :=
    List.rel_foldl (fun _ _ _ _ _ hc => hc.filterAfter_agree _ _) ⟨rfl, rfl⟩ h
  rw [PlainRun.build, PlainRun.build, foldl_call, foldl_call, build, build, hfilter.conditions]
  exact db.sameEnd_written fun _ => db.agree_of_args hfilter.args

theorem Select.sameEnd_built (t : Table) {calls calls' : List SelectCall}
    (h : List.Forall₂ SelectCall.Alike calls calls') :
    SameEnd db.Agree ((PlainRun.select t calls).build db.dialect)
      ((PlainRun.select t calls').build db.dialect) := by
  have hs : (calls.foldl call (ofTable t)).Agree (calls'.foldl call (ofTable t)) :=
    agree_foldl ⟨rfl, rfl⟩ h
  rw [PlainRun.build, PlainRun.build, build, build, hs.query]
  exact db.sameEnd_written fun _ => db.agree_of_args hs.args

/-- Runs that differ in their values end alike, whatever the values are. -/
theorem BuilderRun.agree_build {p q : BuilderRun} (h : p.Alike q) :
    SameEnd db.Agree (p.build db.dialect) (q.build db.dialect) := by
  cases h with
  | insert t h => exact Insert.sameEnd_built db t h
  | insertOrReplace t h => exact Upsert.sameEnd_built db t h
  | update t h => exact Update.sameEnd_built db t h
  | delete t h => exact Delete.sameEnd_built db t h
  | select t h => exact Select.sameEnd_built db t h

end Runs

namespace BuilderRun

/-- Renames the rows with a name or with a key in an interval. -/
def rename (name other : String) (low high : Int64) : BuilderRun :=
  .plain (.update users [
    .filter [.predicate (.group .or [.compare .eq userName other, .between userId low high])],
    .set (.several [.value userName name])])

/-- A text that would end the statement if it got there. -/
theorem agree_build_rename : (rename "ann" "bob" 1 9).Alike (rename "'; --" "" 7 (-1)) ∧
    SameEnd (Workbench.database Bundled.sqlite.dialect {} []).Agree
      ((rename "ann" "bob" 1 9).build Bundled.sqlite.dialect)
      ((rename "'; --" "" 7 (-1)).build Bundled.sqlite.dialect) := by
  have hgroup : (Predicate.group .or [.compare .eq userName "bob",
        .between userId (1 : Int64) (9 : Int64)]).Alike
      (.group .or [.compare .eq userName "", .between userId (7 : Int64) (-1 : Int64)]) :=
    .group .or (.cons (.compare .eq userName _ _) (.cons (.between userId _ _ _ _) .nil))
  have halike : (rename "ann" "bob" 1 9).Alike (rename "'; --" "" 7 (-1)) :=
    .update users (.cons (.filter (.cons (.predicate hgroup) .nil))
      (.cons (.set (.several (.cons (.value userName _ _) .nil))) .nil))
  exact ⟨halike, agree_build (Workbench.database Bundled.sqlite.dialect {} []) halike⟩

example : ((rename "'; --" "" 7 (-1)).build Bundled.sqlite.dialect).map (·.sql) =
    .ok "UPDATE users SET name = ? WHERE (name = ? OR id BETWEEN ? AND ?)" := by
  decide +kernel

end BuilderRun

end SqlBuilder
