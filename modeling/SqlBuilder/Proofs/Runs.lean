import SqlBuilder.Proofs.ClosedForm
import SqlBuilder.Proofs.Fallible
import SqlBuilder.Statement.Draft

/-!
# Runs of calls

A statement under construction after any number of calls.  What the calls set is one list of columns
and values (`entriesOf`), and a builder holds that list put into its assignments
(`Insert.foldlM_call`, `Upsert.foldlM_call`, `Update.foldlM_call`).  Plain assignments list the
distinct names in the order in which they first came, each with its last column and value
(`Assignments.names_ofEntries`, `Assignments.map_some_values_ofEntries`).
-/

namespace SqlBuilder

/-! ## Plain assignments -/

namespace Assignments

/-- The assignments after a run of inserts. -/
def ofEntries (es : List (Column × Value)) : Assignments := es.foldl .insert .empty

theorem foldl_insert (a : Assignments) (es : List (Column × Value)) :
    es.foldl .insert a = a.puts (es.map fun e => (e.1.name, e)) := by
  rw [Register.puts, List.foldl_map]
  rfl

theorem ofEntries_eq_puts (es : List (Column × Value)) :
    ofEntries es = Register.puts {} (es.map fun e => (e.1.name, e)) :=
  foldl_insert empty es

theorem names_ofEntries (es : List (Column × Value)) :
    (ofEntries es).names = (es.map (·.1.name)).eraseDups := by
  rw [ofEntries_eq_puts, Register.names_puts, List.map_map]
  rfl

theorem nodup_names_ofEntries (es : List (Column × Value)) : (ofEntries es).names.Nodup := by
  rw [ofEntries_eq_puts]
  exact Register.nodup_names_puts (show Register.names {} |>.Nodup from List.nodup_nil) _

theorem get?_ofEntries (name : String) (es : List (Column × Value)) :
    (ofEntries es).get? name = lastOf (·.1.name) name es := by
  rw [ofEntries_eq_puts, Register.get?_puts, lastOf, lastOf, ← List.map_reverse, List.find?_map,
    Option.map_map]
  exact Option.map_id'

theorem ofEntries_append (es fs : List (Column × Value)) :
    ofEntries (es ++ fs) = fs.foldl .insert (ofEntries es) :=
  List.foldl_append

/-- Under each name stands its last column and value. -/
theorem map_some_values_ofEntries (es : List (Column × Value)) :
    (ofEntries es).values.map some =
      (es.map (·.1.name)).eraseDups.map fun name => lastOf (·.1.name) name es := by
  rw [Register.map_some_values (nodup_names_ofEntries es), names_ofEntries]
  exact List.map_congr_left fun name _ => get?_ofEntries name es

theorem mem_values_ofEntries_iff (es : List (Column × Value)) (e : Column × Value) :
    e ∈ (ofEntries es).values ↔ lastOf (·.1.name) e.1.name es = some e := by
  have hmap : e ∈ (ofEntries es).values ↔ some e ∈ (ofEntries es).values.map some := by simp
  rw [hmap, map_some_values_ofEntries, List.mem_map]
  constructor
  · rintro ⟨name, -, hlast⟩
    rwa [(lastOf_eq_some hlast).2]
  · intro hlast
    have hmem : e.1.name ∈ es.map (·.1.name) := List.mem_map_of_mem (lastOf_eq_some hlast).1
    exact ⟨e.1.name, List.mem_eraseDups.2 hmem, hlast⟩

theorem map_name_values_ofEntries (es : List (Column × Value)) :
    (ofEntries es).values.map (·.1.name) = (es.map (·.1.name)).eraseDups := by
  have hmap := congrArg (List.map (Option.map (·.1.name))) (map_some_values_ofEntries es)
  rw [List.map_map, List.map_map] at hmap
  refine List.map_injective_iff.2 (fun _ _ => Option.some.inj) ?_
  rw [List.map_map]
  refine hmap.trans (List.map_congr_left fun name hname => ?_)
  obtain ⟨e, he⟩ := exists_lastOf_of_mem (List.mem_eraseDups.1 hname)
  rw [Function.comp_apply, he, Option.map_some, (lastOf_eq_some he).2]

theorem lastOf_values_ofEntries (name : String) (es : List (Column × Value)) :
    lastOf (·.1.name) name (ofEntries es).values = lastOf (·.1.name) name es := by
  have hnodup : ((ofEntries es).values.map (·.1.name)).Nodup := by
    rw [map_name_values_ofEntries, ← names_ofEntries]
    exact nodup_names_ofEntries es
  apply Option.ext
  intro e
  rw [lastOf_eq_some_iff_of_nodup hnodup, mem_values_ofEntries_iff]
  constructor
  · rintro ⟨hlast, rfl⟩
    exact hlast
  · intro hlast
    obtain rfl := (lastOf_eq_some hlast).2
    exact ⟨hlast, rfl⟩

/-- Entries that have been through assignments of their own set the same. -/
theorem ofEntries_append_values (es fs : List (Column × Value)) :
    ofEntries (es ++ (ofEntries fs).values) = ofEntries (es ++ fs) := by
  refine Register.ext_of_get? (nodup_names_ofEntries _) ?_ fun name => ?_
  · rw [names_ofEntries, names_ofEntries, List.map_append, List.map_append,
      map_name_values_ofEntries, eraseDups_append_eraseDups]
  · rw [get?_ofEntries, get?_ofEntries, lastOf_append, lastOf_append, lastOf_values_ofEntries]

end Assignments

/-! ## What calls set -/

/-- The columns and values that calls set one after another, unless one of them fails. -/
def entriesOf (steps : List SetStep) : Except Error (List (Column × Value)) :=
  (steps.mapM SetStep.entries).map List.flatten

theorem entriesOf_cons (step : SetStep) (steps : List SetStep) :
    entriesOf (step :: steps) = do return (← step.entries) ++ (← entriesOf steps) := by
  unfold entriesOf
  rw [List.mapM_cons]
  cases step.entries with
  | error fault => rfl
  | ok es => cases steps.mapM SetStep.entries <;> rfl

/-- The setters of a call. -/
def SetStep.setters : SetStep → List Setter
  | one s => [s]
  | several setters => setters

theorem Assignments.set_eq (a : Assignments) (setters : List Setter) :
    a.set setters = (setters.mapM Setter.entry).map fun es => es.foldl .insert a := by
  unfold set
  induction setters generalizing a with
  | nil => rfl
  | cons s setters ih =>
    rw [List.foldlM_cons, List.mapM_cons]
    cases s.entry with
    | error fault => rfl
    | ok e =>
      refine (ih _).trans ?_
      cases setters.mapM Setter.entry <;> rfl

/-- What a call sets is what its setters set, up to names that occur more than once. -/
theorem SetStep.entries_eq (step : SetStep) :
    ∃ merge : List (Column × Value) → List (Column × Value),
      (∀ es fs, Assignments.ofEntries (es ++ merge fs) = Assignments.ofEntries (es ++ fs)) ∧
      step.entries = (step.setters.mapM Setter.entry).map merge := by
  cases step with
  | one s =>
    refine ⟨id, fun es fs => rfl, ?_⟩
    rw [setters, List.mapM_cons, entries]
    cases s.entry <;> rfl
  | several setters =>
    refine ⟨fun fs => (Assignments.ofEntries fs).values, Assignments.ofEntries_append_values, ?_⟩
    rw [entries, Assignments.set_eq, SetStep.setters]
    cases setters.mapM Setter.entry <;> rfl

/-- Plain assignments do not tell calls with several setters from the setters one by one. -/
theorem ofEntries_entriesOf (es : List (Column × Value)) (steps : List SetStep) :
    (entriesOf steps).map (fun fs => Assignments.ofEntries (es ++ fs)) =
      ((steps.flatMap SetStep.setters).mapM Setter.entry).map fun fs =>
        Assignments.ofEntries (es ++ fs) := by
  induction steps generalizing es with
  | nil => rfl
  | cons step steps ih =>
    obtain ⟨merge, hmerge, hstep⟩ := step.entries_eq
    rw [entriesOf_cons, List.flatMap_cons, List.mapM_append, hstep]
    cases step.setters.mapM Setter.entry with
    | error fault => rfl
    | ok fs =>
      have hmerged (gs : List (Column × Value)) :
          Assignments.ofEntries (es ++ (merge fs ++ gs)) =
            Assignments.ofEntries (es ++ fs ++ gs) := by
        rw [← List.append_assoc, Assignments.ofEntries_append, hmerge,
          ← Assignments.ofEntries_append]
      have hleft :
          (entriesOf steps).map (fun gs => Assignments.ofEntries (es ++ (merge fs ++ gs))) =
            (entriesOf steps).map fun gs => Assignments.ofEntries (es ++ fs ++ gs) :=
        congrArg (fun f => (entriesOf steps).map f) (funext hmerged)
      rw [ih (es ++ fs)] at hleft
      simp only [List.append_assoc] at hleft
      cases hsteps : entriesOf steps <;>
        cases hset : (steps.flatMap SetStep.setters).mapM Setter.entry <;>
        rw [hsteps, hset] at hleft <;>
        exact hleft

theorem exists_setters_of_entriesOf {steps : List SetStep} {fs : List (Column × Value)}
    (h : entriesOf steps = .ok fs) :
    ∃ es, (steps.flatMap SetStep.setters).mapM Setter.entry = .ok es ∧
      Assignments.ofEntries fs = Assignments.ofEntries es := by
  have heq := ofEntries_entriesOf [] steps
  rw [h] at heq
  rcases hset : (steps.flatMap SetStep.setters).mapM Setter.entry with e | es <;> rw [hset] at heq
  · cases heq
  · exact ⟨es, rfl, Except.ok.inj heq⟩

/-! ## Builders -/

section Builder

variable {σ : Type} {call : σ → SetStep → Except Error σ}
  {apply : σ → List (Column × Value) → σ}

/-- A builder whose calls put what they set into it takes all of it in one go. -/
theorem foldlM_entries (hnil : ∀ s, apply s [] = s)
    (happend : ∀ s es fs, apply (apply s es) fs = apply s (es ++ fs))
    (hcall : ∀ s step, call s step = step.entries.map (apply s)) (s : σ) (steps : List SetStep) :
    steps.foldlM call s = (entriesOf steps).map (apply s) := by
  induction steps generalizing s with
  | nil => exact congrArg Except.ok (hnil s).symm
  | cons step steps ih =>
    rw [List.foldlM_cons, entriesOf_cons, hcall]
    cases step.entries with
    | error fault => rfl
    | ok es =>
      refine (ih _).trans ?_
      cases entriesOf steps with
      | error fault => rfl
      | ok fs => exact congrArg Except.ok (happend s es fs)

end Builder

theorem Insert.foldlM_call (s : Insert) (steps : List SetStep) :
    steps.foldlM call s =
      (entriesOf steps).map fun es => { s with values := es.foldl .insert s.values } := by
  refine @foldlM_entries _ _ (fun s es => { s with values := es.foldl .insert s.values })
    (fun s => rfl) (fun s es fs => ?_) (fun s step => ?_) s steps
  · rw [List.foldl_append]
  · unfold call
    cases step.entries <;> rfl

theorem Upsert.foldlM_call (s : Upsert) (steps : List SetStep) :
    steps.foldlM call s =
      (entriesOf steps).map fun es => { s with values := es.foldl .insert s.values } := by
  refine @foldlM_entries _ _ (fun s es => { s with values := es.foldl .insert s.values })
    (fun s => rfl) (fun s es fs => ?_) (fun s step => ?_) s steps
  · rw [List.foldl_append]
  · unfold call
    cases step.entries <;> rfl

namespace UpdateCall

/-- What the call sets. -/
def steps : UpdateCall → List SetStep
  | set step => [step]
  | filter _ => []
  | withFilter _ => []

/-- The filter after the call. -/
def filterAfter (f : Filter) : UpdateCall → Filter
  | set _ => f
  | filter steps => .ofSteps false steps
  | withFilter g => g

end UpdateCall

theorem Update.foldlM_call (s : Update) (calls : List UpdateCall) :
    calls.foldlM call s = (entriesOf (calls.flatMap UpdateCall.steps)).map fun es =>
      { s with
        values := es.foldl .insert s.values
        filter := calls.foldl UpdateCall.filterAfter s.filter } := by
  induction calls generalizing s with
  | nil => rfl
  | cons c calls ih =>
    rw [List.foldlM_cons, List.flatMap_cons]
    cases c with
    | filter steps => exact ih _
    | withFilter f => exact ih _
    | set step =>
      rw [UpdateCall.steps, List.singleton_append, entriesOf_cons, call]
      cases step.entries with
      | error fault => rfl
      | ok es =>
        refine (ih _).trans ?_
        cases entriesOf (calls.flatMap UpdateCall.steps) with
        | error fault => rfl
        | ok fs =>
          exact congrArg (fun values => Except.ok
            (Update.mk s.table values (calls.foldl UpdateCall.filterAfter s.filter)))
            List.foldl_append.symm

/-! ## Statements -/

/-- There is always a slot map, so only the text of an insert-or-replace can be missing. -/
theorem Upsert.build_eq (d : Dialect) (s : Upsert) : s.build d = Error.ofFault do
    checkTable s.table.name s.values.arrivals
    let t ← Template.insertOrReplace d s.table.name s.values.keys.names s.values.others.names
    return {
      kind := .insertOrReplace
      table := s.table.name
      sql := t.render d.placeholder
      args := s.values.clientArgs
      slots := some ⟨s.values.places.map (s.values.slotsOf d.rebinds)⟩ } := by
  rw [build, KeyedAssignments.slotMap_eq]
  cases checkTable s.table.name s.values.arrivals with
  | error fault => rfl
  | ok =>
    cases Template.insertOrReplace d s.table.name s.values.keys.names s.values.others.names <;> rfl

theorem ofFault_eq_ok_iff {α : Type} {x : Except SyntaxFault α} {a : α} :
    Error.ofFault x = .ok a ↔ x = .ok a := by
  cases x <;> simp [Error.ofFault, Except.mapError]

section Checked

variable {check : Except SyntaxFault Unit} {x : Except SyntaxFault Template}
  {f : Template → Statement} {st : Statement}

/-- There is a statement when the columns pass and there is a text. -/
theorem checked_eq_ok_iff : Error.ofFault (do check; return f (← x)) = .ok st ↔
    check = .ok () ∧ ∃ t, x = .ok t ∧ f t = st := by
  rw [ofFault_eq_ok_iff, return₂_eq_ok_iff]
  constructor
  · rintro ⟨⟨⟩, hcheck, htext⟩
    exact ⟨hcheck, htext⟩
  · rintro ⟨hcheck, htext⟩
    exact ⟨(), hcheck, htext⟩

end Checked

section Build

variable {d : Dialect} {st : Statement}

theorem Insert.build_eq_ok_iff {s : Insert} : s.build d = .ok st ↔
    checkTable s.table.name s.values.columns = .ok () ∧
      ∃ t, Template.insert s.table.name s.values.names = .ok t ∧ {
        kind := .insert
        table := s.table.name
        sql := t.render d.placeholder
        args := s.values.args } = st :=
  checked_eq_ok_iff

theorem Update.build_eq_ok_iff {s : Update} : s.build d = .ok st ↔
    checkTable s.table.name s.values.columns = .ok () ∧
      ∃ t, Template.update s.table.name s.values.names s.filter.conditions = .ok t ∧ {
        kind := .update
        table := s.table.name
        sql := t.render d.placeholder
        args := s.values.args ++ s.filter.args } = st :=
  checked_eq_ok_iff

theorem Upsert.build_eq_ok_iff {s : Upsert} : s.build d = .ok st ↔
    checkTable s.table.name s.values.arrivals = .ok () ∧
      ∃ t, Template.insertOrReplace d s.table.name s.values.keys.names s.values.others.names =
        .ok t ∧ {
          kind := .insertOrReplace
          table := s.table.name
          sql := t.render d.placeholder
          args := s.values.clientArgs
          slots := some ⟨s.values.places.map (s.values.slotsOf d.rebinds)⟩ } = st := by
  rw [build_eq]
  exact checked_eq_ok_iff

end Build

/-- The statement that a run of calls on a new builder makes. -/
def Insert.built (d : Dialect) (t : Table) (steps : List SetStep) : Except Error Statement :=
  steps.foldlM call { table := t } >>= build d

/-- The insert-or-replace that a run of calls on a new builder makes. -/
def Upsert.built (d : Dialect) (t : Table) (steps : List SetStep) : Except Error Statement :=
  steps.foldlM call { table := t } >>= build d

/-- The update that a run of calls on a new builder makes. -/
def Update.built (d : Dialect) (t : Table) (calls : List UpdateCall) : Except Error Statement :=
  calls.foldlM call { table := t } >>= build d

section Built

variable {d : Dialect} {t : Table} {es : List (Column × Value)}

theorem Insert.built_eq {steps : List SetStep} (h : entriesOf steps = .ok es) :
    Insert.built d t steps = build d { table := t, values := .ofEntries es } := by
  rw [Insert.built, Insert.foldlM_call, h]
  rfl

theorem Upsert.built_eq {steps : List SetStep} (h : entriesOf steps = .ok es) :
    Upsert.built d t steps = build d { table := t, values := .ofEntries es } := by
  rw [Upsert.built, Upsert.foldlM_call, h]
  rfl

theorem Update.built_eq {calls : List UpdateCall}
    (h : entriesOf (calls.flatMap UpdateCall.steps) = .ok es) :
    Update.built d t calls =
      build d { table := t, values := .ofEntries es,
                filter := calls.foldl UpdateCall.filterAfter .empty } := by
  rw [Update.built, Update.foldlM_call, h]
  rfl

variable {st : Statement}

/-- A statement comes from entries, whatever calls have set them. -/
theorem Insert.exists_of_built {steps : List SetStep} (h : Insert.built d t steps = .ok st) :
    ∃ es, (steps.flatMap SetStep.setters).mapM Setter.entry = .ok es ∧
      build d { table := t, values := .ofEntries es } = .ok st := by
  rw [Insert.built, foldlM_call] at h
  obtain ⟨s, hs, hbuild⟩ := bind_eq_ok_iff.1 h
  obtain ⟨fs, hfs, rfl⟩ := map_eq_ok_iff.1 hs
  obtain ⟨es, hes, heq⟩ := exists_setters_of_entriesOf hfs
  exact ⟨es, hes, heq ▸ hbuild⟩

theorem Update.exists_of_built {calls : List UpdateCall} (h : Update.built d t calls = .ok st) :
    ∃ es, ((calls.flatMap UpdateCall.steps).flatMap SetStep.setters).mapM Setter.entry = .ok es ∧
      build d { table := t, values := .ofEntries es,
                filter := calls.foldl UpdateCall.filterAfter .empty } = .ok st := by
  rw [Update.built, foldlM_call] at h
  obtain ⟨s, hs, hbuild⟩ := bind_eq_ok_iff.1 h
  obtain ⟨fs, hfs, rfl⟩ := map_eq_ok_iff.1 hs
  obtain ⟨es, hes, heq⟩ := exists_setters_of_entriesOf hfs
  exact ⟨es, hes, heq ▸ hbuild⟩

end Built

/-! ## A table to look at -/

/-- A table with a key and one more column. -/
def users : Table where
  name := "users"
  columns := [{ table := "users", name := "id", type := .long, isKey := true, notNull := true },
    { table := "users", name := "name", type := .string }]

/-- The key column of the table. -/
def userId : TypedColumn := (TypedColumn.ofKind "users" "id" .long).key

/-- The other column of the table. -/
def userName : TypedColumn := .ofKind "users" "name" .string

end SqlBuilder
