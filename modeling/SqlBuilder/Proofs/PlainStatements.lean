import SqlBuilder.Proofs.Binding
import SqlBuilder.Proofs.LastValues
import SqlBuilder.Proofs.QueryText

/-!
# Plain statements

Inserts, updates, deletes and queries bind their values in the order of the text.  A `PlainRun` is a
new builder with the calls on it; `PlainRun.text` writes each value where it belongs, that is the
last value of each column behind the column and the values of the last filter into its predicates.
Every statement that a run builds has as many marks as values, gives this text when they are filled,
and is compiled by binding the values at their numbers (`PlainRun.aligned_of_build`).
-/

namespace SqlBuilder

open Text

/-! ## Runs -/

/-- The column that a setter is about. -/
def Setter.column : Setter → Column
  | value c _ => c.column
  | null c => c.column
  | json c _ _ => c.column
  | record c _ => c

theorem Setter.column_eq_of_entry {s : Setter} {e : Column × Value} (h : s.entry = .ok e) :
    e.1 = s.column := by
  cases s with
  | json c holds source =>
    cases source with
    | error failure => cases h
    | ok j => cases h; rfl
  | _ => cases h; rfl

namespace Delete

/-- The filter after a call. -/
def filterAfter (_ : Filter) : DeleteCall → Filter
  | .filter steps => .ofSteps false steps
  | .withFilter g => g

theorem foldl_call (s : Delete) (calls : List DeleteCall) :
    calls.foldl call s = { s with filter := calls.foldl filterAfter s.filter } := by
  induction calls generalizing s with
  | nil => rfl
  | cons c calls ih => cases c <;> exact ih _

end Delete

/-- A new builder of a table and the calls on it. -/
inductive PlainRun where
  | insert (t : Table) (steps : List SetStep)
  | update (t : Table) (calls : List UpdateCall)
  | delete (t : Table) (calls : List DeleteCall)
  | select (t : Table) (calls : List SelectCall)

namespace PlainRun

/-- The table of the builder. -/
def table : PlainRun → Table
  | insert t _ => t
  | update t _ => t
  | delete t _ => t
  | select t _ => t

/-- All setters, in the order of the calls. -/
def setters : PlainRun → List Setter
  | insert _ steps => steps.flatMap SetStep.setters
  | update _ calls => (calls.flatMap UpdateCall.steps).flatMap SetStep.setters
  | delete _ _ => []
  | select _ _ => []

/-- The last filter. -/
def filter : PlainRun → Filter
  | insert _ _ => .empty
  | update _ calls => calls.foldl UpdateCall.filterAfter .empty
  | delete _ calls => calls.foldl Delete.filterAfter .empty
  | select _ calls => calls.foldl Select.filterAfter .empty

/-- Nothing that goes into the text, values and filters apart, looks like a slot. -/
structure MarkFree (run : PlainRun) : Prop where
  table : Text.MarkFree run.table.name
  columns : ∀ s ∈ run.setters, Text.MarkFree s.column.name
  clauses : ∀ t calls, run = select t calls → ∀ c ∈ calls, c.MarkFree

/-- The statement that the run builds. -/
def build (d : Dialect) : PlainRun → Except Error Statement
  | insert t steps => Insert.built d t steps
  | update t calls => Update.built d t calls
  | delete t calls => (calls.foldl Delete.call { table := t }).build d
  | select t calls => (calls.foldl Select.call (.ofTable t)).build d

/-- What the statement gives when it is executed. -/
def Output (C : Type) : PlainRun → Type
  | insert _ _ => UInt64
  | update _ _ => UInt64
  | delete _ _ => UInt64
  | select _ _ => C

section Database

variable {ω C : Type}

/-- Compiles what the run builds. -/
def compile (db : Database ω C) : (run : PlainRun) → Act ω (Opened ω (run.Output C))
  | insert t steps => do
    db.compile (.insert (← Act.ofExcept (steps.foldlM Insert.call { table := t })))
  | update t calls => do
    db.compile (.update (← Act.ofExcept (calls.foldlM Update.call { table := t })))
  | delete t calls => db.compile (.delete (calls.foldl Delete.call { table := t }))
  | select t calls => db.compileQuery (calls.foldl Select.call (.ofTable t))

/-- What the engine does to compile the statement of the run. -/
def compileWith (e : Engine ω C) (st : Statement) :
    (run : PlainRun) → Act ω (Prepared ω (run.Output C))
  | insert _ _ => e.compile st.kind st.table st.sql
  | update _ _ => e.compile st.kind st.table st.sql
  | delete _ _ => e.compile st.kind st.table st.sql
  | select _ _ => e.compileQuery st.tables st.sql

theorem compile_eq_prepare (db : Database ω C) (run : PlainRun) {st : Statement}
    (h : run.build db.dialect = .ok st) :
    run.compile db = db.prepare st (run.compileWith db.engine st) := by
  cases run with
  | insert t steps =>
    obtain ⟨s, hs, hbuild⟩ := bind_eq_ok_iff.1 h
    have hdraft : Draft.build db.dialect (.insert s) = .ok st := hbuild
    exact (Act.ofExcept_bind hs _).trans (Act.ofExcept_bind hdraft _)
  | update t calls =>
    obtain ⟨s, hs, hbuild⟩ := bind_eq_ok_iff.1 h
    have hdraft : Draft.build db.dialect (.update s) = .ok st := hbuild
    exact (Act.ofExcept_bind hs _).trans (Act.ofExcept_bind hdraft _)
  | delete t calls =>
    have hdraft : Draft.build db.dialect (.delete (calls.foldl Delete.call { table := t })) =
      .ok st := h
    exact Act.ofExcept_bind hdraft _
  | select t calls => exact Act.ofExcept_bind h _

end Database

/-! ## Texts -/

/-- The statement of the run with every value in its place: the columns that `es` sets with their
last values, and the filter that the steps of `w` make. -/
def text (d : Dialect) (lit : Value → String) (es : List (Column × Value)) (w : FilterSource) :
    PlainRun → String
  | insert t _ => "INSERT INTO " ++ t.name ++ " " ++
      rowText (literals lit (lastValues (namesOf es) es)) "VALUES "
  | update t _ => "UPDATE " ++ t.name ++ " SET " ++
      assignmentText (literals lit (lastValues (namesOf es) es)) ++ w.text lit
  | delete t _ => "DELETE FROM " ++ t.name ++ w.text lit
  | select t calls => (calls.foldl Select.call (.ofTable t)).query.text d lit w

/-- Text and values of a statement fit together. -/
structure Aligned (b : Bundled) (run : PlainRun) (es : List (Column × Value)) (w : FilterSource)
    (st : Statement) : Prop where
  marks : Text.marks st.sql = st.args.length
  argCount : st.context.argCount = st.args.length
  filled : ∀ lit : Value → String,
    Text.fill st.sql (st.args.map lit) = run.text b.dialect lit es w
  /-- Compiling binds the values at their numbers, in order. -/
  compiled : ∀ {ω C : Type} (db : Database ω C), db.dialect = b.dialect →
    ∀ w, db.BindsSucceed st (run.compileWith db.engine st) (st.args.zipIdx 1) w →
      run.compile db w = db.boundAt st (run.compileWith db.engine st) (st.args.zipIdx 1) w

/-! ## Filling the texts -/

section Fills

variable {b : Bundled} {t : Table} {es : List (Column × Value)} {w : FilterSource} {st : Statement}

theorem fills_insert (ht : Text.MarkFree t.name) (hes : ∀ e ∈ es, Text.MarkFree e.1.name)
    (h : Insert.build b.dialect { table := t, values := .ofEntries es } = .ok st) :
    st.slots = none ∧ ∃ template : Template, st.sql = template.render "?" ∧
      ∀ (lit : Value → String) (steps : List SetStep), template.Fills (st.args.map lit)
        ((insert t steps).text b.dialect lit es w) := by
  obtain ⟨-, template, htemplate, rfl⟩ := Insert.build_eq_ok_iff.1 h
  rw [Template.insert] at htemplate
  split_ifs at htemplate
  cases htemplate
  refine ⟨rfl, _, by rw [b.placeholder_dialect], fun lit steps => ?_⟩
  have hhead : Text.MarkFree ("INSERT INTO " ++ t.name ++ " ") := by simp +decide [ht]
  have hnames : ∀ r ∈ literals lit (lastValues (namesOf es) es), Text.MarkFree r.1 :=
    forall_literals hes lit
  have hrow := Template.Fills.columnsAndSlots hnames (show Text.MarkFree "VALUES " by decide)
  rw [map_fst_literals, map_snd_literals, ← Assignments.names_eq_lastValues,
    ← Assignments.args_eq_lastValues] at hrow
  exact .text hhead hrow

theorem fills_update (ht : Text.MarkFree t.name) (hes : ∀ e ∈ es, Text.MarkFree e.1.name)
    (hw : w.MarkFree)
    (h : Update.build b.dialect { table := t, values := .ofEntries es, filter := w.filter } =
      .ok st) :
    st.slots = none ∧ ∃ template : Template, st.sql = template.render "?" ∧
      ∀ (lit : Value → String) (calls : List UpdateCall), template.Fills (st.args.map lit)
        ((update t calls).text b.dialect lit es w) := by
  obtain ⟨-, template, htemplate, rfl⟩ := Update.build_eq_ok_iff.1 h
  rw [Template.update] at htemplate
  split_ifs at htemplate
  obtain ⟨clause, hclause, rfl⟩ := map_eq_ok_iff.1 htemplate
  refine ⟨rfl, _, by rw [b.placeholder_dialect], fun lit calls => ?_⟩
  have hhead : Text.MarkFree ("UPDATE " ++ t.name ++ " SET ") := by simp +decide [ht]
  have hnames : ∀ r ∈ literals lit (lastValues (namesOf es) es), Text.MarkFree r.1 :=
    forall_literals hes lit
  have hset := Template.Fills.assignments hnames
  rw [map_fst_literals, map_snd_literals, ← Assignments.names_eq_lastValues,
    ← Assignments.args_eq_lastValues] at hset
  have hall := (Template.Fills.text hhead hset).append (FilterSource.fills hw hclause lit)
  rw [← List.map_append] at hall
  exact hall

theorem fills_delete (ht : Text.MarkFree t.name) (hw : w.MarkFree)
    (h : Delete.build b.dialect { table := t, filter := w.filter } = .ok st) :
    st.slots = none ∧ ∃ template : Template, st.sql = template.render "?" ∧
      ∀ (lit : Value → String) (calls : List DeleteCall), template.Fills (st.args.map lit)
        ((delete t calls).text b.dialect lit es w) := by
  obtain ⟨template, htemplate, rfl⟩ := return_eq_ok_iff.1 (ofFault_eq_ok_iff.1 h)
  obtain ⟨clause, hclause, rfl⟩ := map_eq_ok_iff.1 htemplate
  refine ⟨rfl, _, by rw [b.placeholder_dialect], fun lit calls => ?_⟩
  have hhead : Text.MarkFree ("DELETE FROM " ++ t.name) := by simp +decide [ht]
  exact .text hhead (FilterSource.fills hw hclause lit)

theorem fills_select {s : Select} (hs : s.query.MarkFree) (hw : w.MarkFree)
    (hfilter : s.filterOf = w.filter) (h : s.build b.dialect = .ok st) :
    st.slots = none ∧ ∃ template : Template, st.sql = template.render "?" ∧
      ∀ lit : Value → String,
        template.Fills (st.args.map lit) (s.query.text b.dialect lit w) := by
  have hconditions : s.query.conditions = w.filter.conditions := congrArg Filter.conditions hfilter
  have hargs : s.args = w.filter.args := congrArg Filter.args hfilter
  obtain ⟨template, htemplate, rfl⟩ := return_eq_ok_iff.1 (ofFault_eq_ok_iff.1 h)
  refine ⟨rfl, template, by rw [b.placeholder_dialect], fun lit => ?_⟩
  rw [hargs]
  exact Query.fills b hs hw hconditions htemplate lit

end Fills

/-! ## Every run -/

/-- What setters give has a column that one of them is about. -/
theorem markFree_entries {setters : List Setter} (h : ∀ s ∈ setters, Text.MarkFree s.column.name)
    {es : List (Column × Value)} (hes : setters.mapM Setter.entry = .ok es) :
    ∀ e ∈ es, Text.MarkFree e.1.name := by
  induction setters generalizing es with
  | nil =>
    cases hes
    exact fun e he => absurd he List.not_mem_nil
  | cons s setters ih =>
    obtain ⟨e, hs, fs, hrest, rfl⟩ := mapM_cons_eq_ok_iff.1 hes
    intro f hf
    rcases List.mem_cons.1 hf with rfl | hf
    · exact Setter.column_eq_of_entry hs ▸ h s List.mem_cons_self
    · exact ih (fun s' hs' => h s' (List.mem_cons_of_mem s hs')) hrest f hf

theorem exists_fills (b : Bundled) {run : PlainRun} {w : FilterSource} {st : Statement}
    (hbuild : run.build b.dialect = .ok st) (hfilter : run.filter = w.filter)
    (hrun : run.MarkFree) (hw : w.MarkFree) :
    ∃ es, run.setters.mapM Setter.entry = .ok es ∧ st.slots = none ∧
      ∃ template : Template, st.sql = template.render "?" ∧
        ∀ lit : Value → String, template.Fills (st.args.map lit) (run.text b.dialect lit es w) := by
  cases run with
  | insert t steps =>
    obtain ⟨es, hes, hinsert⟩ := Insert.exists_of_built hbuild
    obtain ⟨hslots, template, hsql, hfills⟩ :=
      fills_insert hrun.table (markFree_entries hrun.columns hes) hinsert
    exact ⟨es, hes, hslots, template, hsql, fun lit => hfills lit steps⟩
  | update t calls =>
    obtain ⟨es, hes, hupdate⟩ := Update.exists_of_built hbuild
    have hfilter' : calls.foldl UpdateCall.filterAfter .empty = w.filter := hfilter
    rw [hfilter'] at hupdate
    obtain ⟨hslots, template, hsql, hfills⟩ :=
      fills_update hrun.table (markFree_entries hrun.columns hes) hw hupdate
    exact ⟨es, hes, hslots, template, hsql, fun lit => hfills lit calls⟩
  | delete t calls =>
    have hfilter' : calls.foldl Delete.filterAfter .empty = w.filter := hfilter
    rw [build, Delete.foldl_call, hfilter'] at hbuild
    obtain ⟨hslots, template, hsql, hfills⟩ := fills_delete hrun.table hw hbuild
    exact ⟨[], rfl, hslots, template, hsql, fun lit => hfills lit calls⟩
  | select t calls =>
    have hfree := Select.markFree_foldl (Select.markFree_ofTable hrun.table)
      (hrun.clauses t calls rfl)
    have hfilter' : (calls.foldl Select.call (.ofTable t)).filterOf = w.filter :=
      (Select.filterOf_foldl _ calls).trans hfilter
    obtain ⟨hslots, template, hsql, hfills⟩ := fills_select hfree hw hfilter' hbuild
    exact ⟨[], rfl, hslots, template, hsql, hfills⟩

/-- Whatever statement a run builds, its text and its values fit together.  Every filter is made by
steps, so there are some for the last one. -/
theorem aligned_of_build (b : Bundled) {run : PlainRun} {w : FilterSource} {st : Statement}
    (hbuild : run.build b.dialect = .ok st) (hfilter : run.filter = w.filter)
    (hrun : run.MarkFree) (hw : w.MarkFree) :
    ∃ es, run.setters.mapM Setter.entry = .ok es ∧ Aligned b run es w st := by
  obtain ⟨es, hes, hslots, template, hsql, hfills⟩ := exists_fills b hbuild hfilter hrun hw
  refine ⟨es, hes, ?_⟩
  constructor
  case marks =>
    have hmarks := (hfills Value.describe).marks_render
    rwa [List.length_map, ← hsql] at hmarks
  case argCount =>
    show st.argCount = _
    rw [Statement.argCount, hslots]
  case filled =>
    intro lit
    rw [hsql]
    exact (hfills lit).fill_render
  case compiled =>
    intro ω C db hdb w' hbinds
    have hprepared (p : Prepared ω (run.Output C)) :
        (Opened.mk p st.slots).prepared.bindPairs (st.args.zipIdx 1) =
          p.bindPairs (st.args.zipIdx 1) := by
      rw [hslots]
      rfl
    rw [run.compile_eq_prepare db (hdb ▸ hbuild)]
    exact db.prepare_eq st _ hprepared hbinds

/-- A name or an interval of keys. -/
def annOrEarly : FilterSource where
  qualified := false
  steps := [.predicate (.group .or
    [.compare .eq userName "ann", .between userId (1 : Int64) (9 : Int64)])]

/-- An update whose filter comes before its values. -/
def filterFirst : PlainRun :=
  update users [.filter annOrEarly.steps, .set (.one (.value userName "bob"))]

theorem aligned_filterFirst : ∃ st, filterFirst.build Bundled.sqlite.dialect = .ok st ∧
    ∃ es, filterFirst.setters.mapM Setter.entry = .ok es ∧
      Aligned .sqlite filterFirst es annOrEarly st :=
  ⟨_, rfl, @aligned_of_build .sqlite filterFirst annOrEarly _ rfl rfl
    ⟨by decide, by decide, fun _ _ h => nomatch (h : update _ _ = select _ _)⟩
    (List.forall_mem_singleton.2 ⟨⟨by decide, by decide⟩, ⟨by decide, by decide⟩, trivial⟩)⟩

/-- The values of the columns come before those of the filter. -/
example : (filterFirst.build Bundled.sqlite.dialect).map (·.args) =
    .ok [.string "bob", .string "ann", .long 1, .long 9] :=
  rfl

end PlainRun

end SqlBuilder
