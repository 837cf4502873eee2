import SqlBuilder.Proofs.GivenValues
import SqlBuilder.Proofs.Noninterference
import SqlBuilder.Proofs.RequestTraces

/-!
# Types of arguments

Every argument of a statement is what is bound for a value that some call gave for a typed column,
and has the storage type of that column.  `BuilderRun.sources` lists these values in the order of
the arguments: for columns that were set the last value of each name, in an insert-or-replace that
of each name and flag, and behind them the values of the last filter.  `BuilderRun.TypedArguments`
says so of a statement, and at which slots the engine binds each value by which operation; every
statement that a run of calls builds is such a one (`BuilderRun.typedArguments_of_build`).

An insert-or-replace keeps the values of a name apart by the flag that they came with.  Where a name
comes with both flags, one of the two values that are bound is not the last of the name
(`forall_lastOf_name_iff`), and may have another type than that (`BuilderRun.reflaggedId_types`).
-/

namespace SqlBuilder

/-! ## Calls that set values -/

namespace SetStep

/-- What is left of a call: with several setters, for each name the last of them. -/
def kept : SetStep → List Given
  | one s => s.given?.toList
  | several setters => lastOfEach Given.name (setters.filterMap Setter.given?)

theorem given_of_entries {step : SetStep} (hs : ∀ s ∈ step.setters, s.IsTyped)
    {es : List (Column × Value)} (h : step.entries = .ok es) :
    (step.setters.filterMap Setter.given?).map some = step.setters.map Setter.given? ∧
      es = step.kept.map Given.entry := by
  cases step with
  | one s =>
    obtain ⟨e, he, rfl⟩ := map_eq_ok_iff.1 h
    obtain ⟨g, hg, rfl⟩ := Setter.exists_given_of_entry (hs s List.mem_cons_self) he
    rw [setters, kept, List.filterMap_cons_some hg, List.map_singleton, hg]
    exact ⟨rfl, rfl⟩
  | several setters =>
    rw [Setter.entries_several] at h
    obtain ⟨fs, hfs, rfl⟩ := map_eq_ok_iff.1 h
    obtain ⟨hgiven, rfl⟩ := Setter.given_of_mapM_entry hs hfs
    exact ⟨hgiven, Assignments.values_ofGiven _⟩

/-- What a call leaves out is not the last of its name. -/
theorem lastOf_kept (name : String) (step : SetStep) :
    lastOf Given.name name step.kept =
      lastOf Given.name name (step.setters.filterMap Setter.given?) := by
  cases step with
  | one s =>
    rw [kept, setters]
    cases h : s.given? with
    | none => rw [List.filterMap_cons_none h]; rfl
    | some g => rw [List.filterMap_cons_some h]; rfl
  | several setters => exact lastOf_lastOfEach Given.name name _

end SetStep

/-- What calls on a builder give, one after another. -/
def givenBy (steps : List SetStep) : List Given :=
  (steps.flatMap SetStep.setters).filterMap Setter.given?

/-- What is left of it for the statement. -/
def keptOf (steps : List SetStep) : List Given := steps.flatMap SetStep.kept

theorem givenBy_cons (step : SetStep) (steps : List SetStep) :
    givenBy (step :: steps) = step.setters.filterMap Setter.given? ++ givenBy steps := by
  rw [givenBy, List.flatMap_cons, List.filterMap_append]
  rfl

theorem keptOf_cons (step : SetStep) (steps : List SetStep) :
    keptOf (step :: steps) = step.kept ++ keptOf steps :=
  List.flatMap_cons

theorem given_of_entriesOf {steps : List SetStep}
    (hs : ∀ s ∈ steps.flatMap SetStep.setters, s.IsTyped) {es : List (Column × Value)}
    (h : entriesOf steps = .ok es) :
    (givenBy steps).map some = (steps.flatMap SetStep.setters).map Setter.given? ∧
      es = (keptOf steps).map Given.entry := by
  induction steps generalizing es with
  | nil => cases h; exact ⟨rfl, rfl⟩
  | cons step steps ih =>
    rw [List.flatMap_cons] at hs
    obtain ⟨hfirst, hrest⟩ := List.forall_mem_append.1 hs
    rw [entriesOf_cons] at h
    obtain ⟨fs, hfs, gs, hgs, rfl⟩ := return₂_eq_ok_iff.1 h
    obtain ⟨hgiven, rfl⟩ := step.given_of_entries hfirst hfs
    obtain ⟨hmore, rfl⟩ := ih hrest hgs
    rw [givenBy_cons, keptOf_cons, List.flatMap_cons, List.map_append, List.map_append,
      List.map_append, hgiven, hmore]
    exact ⟨rfl, rfl⟩

theorem lastOf_keptOf (name : String) (steps : List SetStep) :
    lastOf Given.name name (keptOf steps) = lastOf Given.name name (givenBy steps) := by
  induction steps with
  | nil => rfl
  | cons step steps ih =>
    rw [keptOf_cons, givenBy_cons, lastOf_append, lastOf_append, step.lastOf_kept, ih]

theorem SetStep.mem_of_mem_kept {step : SetStep} {g : Given} (h : g ∈ step.kept) :
    g ∈ step.setters.filterMap Setter.given? := by
  cases step with
  | one s => exact List.mem_filterMap.2 ⟨s, List.mem_cons_self, Option.mem_toList.1 h⟩
  | several setters => exact (lastOf_eq_some ((mem_lastOfEach_iff Given.name).1 h)).1

theorem mem_givenBy_of_mem_keptOf {steps : List SetStep} {g : Given} (h : g ∈ keptOf steps) :
    g ∈ givenBy steps := by
  obtain ⟨step, hstep, hg⟩ := List.mem_flatMap.1 h
  obtain ⟨s, hs, hgiven⟩ := List.mem_filterMap.1 (SetStep.mem_of_mem_kept hg)
  exact List.mem_filterMap.2 ⟨s, List.mem_flatMap.2 ⟨step, hstep, hs⟩, hgiven⟩

/-! ## Names under two flags -/

/-- The last values under each name and flag are the last ones under their names exactly if no name
comes with both flags. -/
theorem forall_lastOf_name_iff (gs : List Given) :
    (∀ g ∈ lastOfEach Given.ident gs, lastOf Given.name g.name gs = some g) ↔
      OneFlag (gs.map Given.entry) := by
  have hlast {g : Given} (hg : g ∈ gs) :
      ∃ a ∈ lastOfEach Given.ident gs, a.ident = g.ident := by
    obtain ⟨a, ha⟩ : ∃ a, lastOf Given.ident g.ident gs = some a :=
      exists_lastOf_of_mem (List.mem_map_of_mem hg)
    have hident := (lastOf_eq_some ha).2
    exact ⟨a, (mem_lastOfEach_iff Given.ident).2 (hident ▸ ha), hident⟩
  constructor
  · intro h e he f hf hname
    obtain ⟨g, hg, rfl⟩ := List.mem_map.1 he
    obtain ⟨g', hg', rfl⟩ := List.mem_map.1 hf
    obtain ⟨a, ha, haident⟩ := hlast hg
    obtain ⟨b, hb, hbident⟩ := hlast hg'
    -- Both are the last value under the name that they share.
    have haname : a.name = g.name := congrArg Prod.snd haident
    have hbname : b.name = g.name := (congrArg Prod.snd hbident).trans hname.symm
    have hab := h a ha
    rw [haname, ← hbname, h b hb] at hab
    rw [← Option.some.inj hab] at haident
    exact (congrArg Prod.fst haident).symm.trans (congrArg Prod.fst hbident)
  · intro h g hg
    have hlastIdent := (mem_lastOfEach_iff Given.ident).1 hg
    rw [← hlastIdent]
    refine lastOf_congr fun g' hg' => ⟨fun hname => ?_, congrArg Prod.snd⟩
    have hmem := (lastOf_eq_some hlastIdent).1
    exact Prod.ext (h _ (List.mem_map_of_mem hg') _ (List.mem_map_of_mem hmem) hname) hname

namespace BuilderRun

/-- The calls that set values. -/
def setSteps : BuilderRun → List SetStep
  | plain (.insert _ steps) => steps
  | plain (.update _ calls) => calls.flatMap UpdateCall.steps
  | plain (.delete _ _) => []
  | plain (.select _ _) => []
  | insertOrReplace _ steps => steps

/-- All setters, in the order of the calls. -/
def setters (run : BuilderRun) : List Setter := run.setSteps.flatMap SetStep.setters

/-- The last filter. -/
def filter : BuilderRun → Filter
  | plain run => run.filter
  | insertOrReplace _ _ => .empty

/-- The values that are bound for columns that were set, in the order in which callers count them:
for each name the last one, in an insert-or-replace for each name and flag. -/
def setSources : BuilderRun → List Given
  | insertOrReplace _ steps => lastOfEach Given.ident (keptOf steps)
  | run => lastOfEach Given.name (keptOf run.setSteps)

/-- All values that are bound, if the filter is made like this. -/
def sources (run : BuilderRun) (w : FilterSource) : List Given := run.setSources ++ w.givens

/-- In an insert-or-replace no name comes both as a key and as no key. -/
def NoReflagged : BuilderRun → Prop
  | insertOrReplace _ steps => OneFlag ((keptOf steps).map Given.entry)
  | _ => True

/-- What is bound for columns that were set to these values. -/
def setArgs (es : List (Column × Value)) : BuilderRun → List Value
  | insertOrReplace _ _ => (KeyedAssignments.ofEntries es).clientArgs
  | _ => (Assignments.ofEntries es).args

variable {run : BuilderRun} {d : Dialect} {st : Statement}

/-- A statement binds what was set and behind it the values of the last filter. -/
theorem exists_of_build (h : run.build d = .ok st) :
    st.Covered ∧ ∃ es, entriesOf run.setSteps = .ok es ∧
      st.args = run.setArgs es ++ run.filter.args := by
  rcases run with (⟨t, steps⟩ | ⟨t, calls⟩ | ⟨t, calls⟩ | ⟨t, calls⟩) | ⟨t, steps⟩
  · obtain ⟨s, hs, hbuild⟩ := bind_eq_ok_iff.1 h
    rw [Insert.foldlM_call] at hs
    obtain ⟨es, hes, rfl⟩ := map_eq_ok_iff.1 hs
    obtain ⟨-, template, -, rfl⟩ := Insert.build_eq_ok_iff.1 hbuild
    exact ⟨Statement.covered_of_slots_eq_none rfl, es, hes, (List.append_nil _).symm⟩
  · obtain ⟨s, hs, hbuild⟩ := bind_eq_ok_iff.1 h
    rw [Update.foldlM_call] at hs
    obtain ⟨es, hes, rfl⟩ := map_eq_ok_iff.1 hs
    obtain ⟨-, template, -, rfl⟩ := Update.build_eq_ok_iff.1 hbuild
    exact ⟨Statement.covered_of_slots_eq_none rfl, es, hes, rfl⟩
  · rw [build, PlainRun.build, Delete.foldl_call] at h
    obtain ⟨template, -, rfl⟩ := return_eq_ok_iff.1 (ofFault_eq_ok_iff.1 h)
    exact ⟨Statement.covered_of_slots_eq_none rfl, [], rfl, rfl⟩
  · obtain ⟨template, -, rfl⟩ := return_eq_ok_iff.1 (ofFault_eq_ok_iff.1 h)
    have hfilter := congrArg Filter.args (Select.filterOf_foldl (.ofTable t) calls)
    exact ⟨Statement.covered_of_slots_eq_none rfl, [], rfl, hfilter⟩
  · obtain ⟨s, hs, hbuild⟩ := bind_eq_ok_iff.1 h
    rw [Upsert.foldlM_call] at hs
    obtain ⟨es, hes, rfl⟩ := map_eq_ok_iff.1 hs
    have hcovered := Request.covered_of_upsert ⟨es, rfl⟩ hbuild
    obtain ⟨-, template, -, rfl⟩ := Upsert.build_eq_ok_iff.1 hbuild
    exact ⟨hcovered, es, hes, (List.append_nil _).symm⟩

theorem setArgs_ofGiven (run : BuilderRun) :
    run.setArgs ((keptOf run.setSteps).map Given.entry) = run.setSources.map Given.bound := by
  cases run with
  | plain run => exact Assignments.args_ofGiven _
  | insertOrReplace t steps => exact KeyedAssignments.clientArgs_ofGiven _

theorem forall_lastOf_iff (run : BuilderRun) :
    (∀ g ∈ run.setSources, lastOf Given.name g.name (givenBy run.setSteps) = some g) ↔
      run.NoReflagged := by
  cases run with
  | plain run =>
    refine iff_of_true (fun g hg => ?_) trivial
    rw [← lastOf_keptOf]
    exact (mem_lastOfEach_iff Given.name).1 hg
  | insertOrReplace t steps =>
    simp only [← lastOf_keptOf]
    exact forall_lastOf_name_iff (keptOf steps)

theorem mem_givenBy_of_mem_setSources {g : Given} (h : g ∈ run.setSources) :
    g ∈ givenBy run.setSteps := by
  have hkept : g ∈ keptOf run.setSteps := by
    cases run with
    | plain run => exact (lastOf_eq_some ((mem_lastOfEach_iff Given.name).1 h)).1
    | insertOrReplace t steps => exact (lastOf_eq_some ((mem_lastOfEach_iff Given.ident).1 h)).1
  exact mem_givenBy_of_mem_keptOf hkept

/-! ## Every run -/

/-- The arguments of a statement and the columns that they were given for. -/
structure TypedArguments (run : BuilderRun) (w : FilterSource) (st : Statement) : Prop where
  /-- Every setter has given a value. -/
  given : (givenBy run.setSteps).map some = run.setters.map Setter.given?
  /-- Every argument is what is bound for a value that was given. -/
  args : st.args = (run.sources w).map Given.bound
  types : st.args.map Value.sqlType = (run.sources w).map Given.type
  mem : ∀ g ∈ run.setSources, g ∈ givenBy run.setSteps
  /-- For a column that was set this is the last value under its name, unless an insert-or-replace
  has the name under both flags. -/
  last_iff : (∀ g ∈ run.setSources, lastOf Given.name g.name (givenBy run.setSteps) = some g) ↔
    run.NoReflagged
  /-- Each slot of the text is that of one argument. -/
  slots : (st.placed.map (·.2)).Perm (List.range' 1 st.argCount)
  /-- The engine binds an argument at each of its slots, up to the first bind that fails. -/
  binds : ∀ {ω C O : Type} (db : Database ω C) (p : Prepared ω O),
    Act.Shows ((Opened.mk p.watched st.slots).prepared.bindAll db.watched.log 1 st.args)
      ((Opened.mk p st.slots).prepared.bindAll db.log 1 st.args) id
      (BindsAll (((run.sources w).zipIdx 1).flatMap fun a =>
        (st.slotsOf a.2).map (a.1.bound, ·)))
  /-- It does so by the operation that the kind of the column asks for. -/
  operation : ∀ {ω O : Type} (p : Prepared ω O) (slot : Nat), ∀ g ∈ run.sources w,
    p.bind slot g.bound = p.bindKind slot g.column.kind.optional g.value

/-- **Every argument has the type of the column that it was given for.**  A run of calls on a new
builder gives values for typed columns, in setters and in the filter that counts in the end.  If it
builds a statement, the arguments are the last values given, nulls under the type of their column,
and the engine gets each of them at its slots by the operation of its kind. -/
theorem typedArguments_of_build {w : FilterSource} (hbuild : run.build d = .ok st)
    (htyped : ∀ s ∈ run.setters, s.IsTyped) (hfilter : run.filter = w.filter) :
    run.TypedArguments w st := by
  obtain ⟨hcovered, es, hes, hargs⟩ := exists_of_build hbuild
  obtain ⟨hgiven, rfl⟩ := given_of_entriesOf htyped hes
  rw [setArgs_ofGiven, hfilter, ← w.map_bound_givens, ← List.map_append] at hargs
  constructor
  case given => exact hgiven
  case args => exact hargs
  case types =>
    rw [hargs, List.map_map]
    exact List.map_congr_left fun g _ => g.sqlType_bound
  case mem => exact fun g hg => mem_givenBy_of_mem_setSources hg
  case last_iff => exact run.forall_lastOf_iff
  case slots => exact hcovered.slots
  case binds =>
    intro ω C O db p
    have hshows := p.shows_bindAll db hcovered fun a ha => ha
    rw [hargs, List.zipIdx_map, List.flatMap_map] at hshows
    rw [hargs]
    exact hshows
  case operation => exact fun p slot g _ => p.bind_bound slot g

/-- Whether a user takes part, if that is known. -/
def userActive : TypedColumn := .ofKind "users" "active" (.optional .bool)

/-- In one call a name and then its null, for users that take part. -/
def forgottenNames : BuilderRun :=
  .plain (.update users [.set (.several [.value userName "ann", .null userName]),
    .filter [.predicate (.compare .eq userActive (some true))]])

theorem typedArguments_forgottenNames : ∃ st, forgottenNames.build Dialect.sqlite = .ok st ∧
    (∀ s ∈ forgottenNames.setters, s.IsTyped) ∧ st.args = [.null .string, .int 1] ∧
    forgottenNames.TypedArguments
      ⟨false, [.predicate (.compare .eq userActive (some true))]⟩ st := by
  have htyped : ∀ s ∈ forgottenNames.setters, s.IsTyped :=
    List.forall_mem_cons.2 ⟨trivial, List.forall_mem_singleton.2 trivial⟩
  exact ⟨_, rfl, htyped, rfl, typedArguments_of_build rfl htyped rfl⟩

/-- The name of the key of `users`, as a column of texts that is no key. -/
def textId : TypedColumn := .ofKind "users" "id" .string

/-- The column `id`, set as a key and then as a text that is no key. -/
def reflaggedId : BuilderRun :=
  .insertOrReplace users [.one (.value userId (1 : Int64)), .one (.value textId "a")]

/-- Both values are bound, and one of them has not the type of the last column set under the
name. -/
theorem reflaggedId_types : ∃ st, reflaggedId.build Dialect.sqlite = .ok st ∧
    (∀ s ∈ reflaggedId.setters, s.IsTyped) ∧ st.args = [.long 1, .string "a"] ∧
    (lastOf Given.name "id" (givenBy reflaggedId.setSteps)).map Given.type = some .string ∧
    ¬ ∀ v ∈ st.args, some v.sqlType =
      (lastOf Given.name "id" (givenBy reflaggedId.setSteps)).map Given.type := by
  have htyped : ∀ s ∈ reflaggedId.setters, s.IsTyped :=
    List.forall_mem_cons.2 ⟨trivial, List.forall_mem_singleton.2 trivial⟩
  have hlast : (lastOf Given.name "id" (givenBy reflaggedId.setSteps)).map Given.type =
      some .string := by decide
  refine ⟨_, rfl, htyped, rfl, hlast, fun h => ?_⟩
  have hlong : some SqlType.long = some .string := (h (.long 1) List.mem_cons_self).trans hlast
  cases hlong

end BuilderRun

end SqlBuilder
