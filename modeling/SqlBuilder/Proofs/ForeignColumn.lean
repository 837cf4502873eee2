import SqlBuilder.Dialect.Bundled
import SqlBuilder.Proofs.Runs

/-!
# Columns of another table

A set column has to belong to the table of its statement.  Builders look at the columns that they
hold when the text is written, and what they hold differs: plain assignments keep the column that
came last under a name (`LastForeign`), those of an insert-or-replace the column that came first
(`FirstForeign`), each with the value that came last.  `foreignCheck_of_entriesOf` says exactly
which runs of calls are refused, and whose values the others bind.
-/

namespace SqlBuilder

/-! ## Failures -/

/-- The statement has no text. -/
def Refused (x : Except Error Statement) : Prop := ∃ fault, x = .error (.malformed fault)

theorem refused_ofFault_iff {x : Except SyntaxFault Statement} :
    Refused (Error.ofFault x) ↔ ∃ fault, x = .error fault := by
  cases x <;> simp [Refused, Error.ofFault, Except.mapError]

/-- A build is refused for a column or for want of a text. -/
theorem refused_checked_iff {check : Except SyntaxFault Unit} {x : Except SyntaxFault Template}
    {f : Template → Statement} : Refused (Error.ofFault do check; return f (← x)) ↔
      (∃ fault, check = .error fault) ∨ ∃ fault, x = .error fault := by
  rw [refused_ofFault_iff]
  exact exists_return₂_eq_error_iff

theorem checkTable_eq_error_iff {table : String} {cs : List Column} :
    (∃ fault, checkTable table cs = .error fault) ↔ ∃ c ∈ cs, c.table ≠ table := by
  induction cs with
  | nil => simp [checkTable]
  | cons c cs ih =>
    rw [checkTable]
    split_ifs with hc
    · simp [ih, hc]
    · simp [hc]

theorem checkTable_eq_ok_iff {table : String} {cs : List Column} {u : Unit} :
    checkTable table cs = .ok u ↔ ∀ c ∈ cs, c.table = table := by
  induction cs with
  | nil => simp [checkTable]
  | cons c cs ih =>
    rw [checkTable]
    split_ifs with hc
    · simp [ih, hc]
    · simp [hc]

/-! ## Texts without a statement -/

namespace Template

theorem exists_insert_eq_error_iff {table : String} {columns : List String} :
    (∃ fault, insert table columns = .error fault) ↔ columns.isEmpty := by
  rw [insert]
  split_ifs with h <;> simp [h]

theorem exists_update_eq_error_iff {table : String} {columns : List String}
    {conditions : List Condition} : (∃ fault, update table columns conditions = .error fault) ↔
      columns.isEmpty ∨ ∃ fault, Condition.clauseSuffix conditions = .error fault := by
  rw [update]
  split_ifs with h
  · simp [h]
  · rw [exists_map_eq_error_iff, or_iff_right h]

theorem exists_insertOrReplace_eq_error_iff {d : Dialect} {table : String}
    {keys others : List String} :
    (∃ fault, insertOrReplace d table keys others = .error fault) ↔ keys.isEmpty := by
  rw [insertOrReplace, exists_map_eq_error_iff, upsertColumns]
  split_ifs with h <;> simp [h]

end Template

/-! ## The columns that are looked at -/

/-- Some name was last set for a column of another table. -/
def LastForeign (table : String) (es : List (Column × Value)) : Prop :=
  ∃ name e, lastOf (·.1.name) name es = some e ∧ e.1.table ≠ table

/-- Some name was first set, as a key or as no key, for a column of another table. -/
def FirstForeign (table : String) (es : List (Column × Value)) : Prop :=
  ∃ k e, firstOf (·.1.ident) k es = some e ∧ e.1.table ≠ table

theorem Assignments.exists_foreign_iff (table : String) (es : List (Column × Value)) :
    (∃ c ∈ (ofEntries es).columns, c.table ≠ table) ↔ LastForeign table es := by
  unfold columns LastForeign
  constructor
  · rintro ⟨c, hc, htable⟩
    obtain ⟨e, he, rfl⟩ := List.mem_map.1 hc
    exact ⟨e.1.name, e, (mem_values_ofEntries_iff es e).1 he, htable⟩
  · rintro ⟨name, e, hlast, htable⟩
    obtain rfl := (lastOf_eq_some hlast).2
    exact ⟨e.1, List.mem_map_of_mem ((mem_values_ofEntries_iff es e).2 hlast), htable⟩

theorem Assignments.names_isEmpty_iff (es : List (Column × Value)) :
    (ofEntries es).names.isEmpty ↔ es = [] := by
  cases es with
  | nil => decide
  | cons e es => simp [names_ofEntries, List.eraseDups_cons]

namespace KeyedAssignments

/-- The arrivals are the columns that came first, in the order in which they came. -/
theorem map_some_arrivals_ofEntries (es : List (Column × Value)) :
    (ofEntries es).arrivals.map some =
      (es.map (·.1.ident)).eraseDups.map fun k => (firstOf (·.1.ident) k es).map (·.1) := by
  induction es using List.reverseRecOn with
  | nil => rfl
  | append_singleton es e ih =>
    have h := coherent_ofEntries es
    have hmem : e.1.ident ∈ (ofEntries es).arrivals.map Column.ident ↔
        e.1.ident ∈ es.map (·.1.ident) := by
      rw [arrivals_ofEntries, List.mem_eraseDups]
    -- What came first before the last entry still does.
    have hkeep : (es.map (·.1.ident)).eraseDups.map
          (fun k => (firstOf (·.1.ident) k (es ++ [e])).map (·.1)) =
        (es.map (·.1.ident)).eraseDups.map fun k => (firstOf (·.1.ident) k es).map (·.1) := by
      apply List.map_congr_left
      intro k hk
      obtain ⟨f, hf⟩ := Option.ne_none_iff_exists'.1
        (mt firstOf_eq_none_iff.1 (not_not_intro (List.mem_eraseDups.1 hk)))
      rw [firstOf_append_singleton, hf, Option.some_or]
    rw [ofEntries_append_singleton, List.map_append, List.map_singleton, eraseDups_append_singleton]
    split_ifs with he
    · rw [h.insert_of_mem (hmem.2 he), arrivals_store, hkeep, ih]
    · rw [h.insert_of_not_mem (mt hmem.1 he), arrivals_store, arrivals_arrive, List.map_append,
        List.map_append, hkeep, ih, List.map_singleton, List.map_singleton,
        firstOf_append_singleton, firstOf_eq_none_iff.2 he, Option.none_or, if_pos rfl,
        Option.map_some]

theorem exists_foreign_iff (table : String) (es : List (Column × Value)) :
    (∃ c ∈ (ofEntries es).arrivals, c.table ≠ table) ↔ FirstForeign table es := by
  have hmem (c : Column) : c ∈ (ofEntries es).arrivals ↔
      ∃ k e, firstOf (·.1.ident) k es = some e ∧ e.1 = c := by
    have hmap : c ∈ (ofEntries es).arrivals ↔ some c ∈ (ofEntries es).arrivals.map some := by simp
    rw [hmap, map_some_arrivals_ofEntries, List.mem_map]
    constructor
    · rintro ⟨k, -, hfirst⟩
      obtain ⟨e, he, rfl⟩ := Option.map_eq_some_iff.1 hfirst
      exact ⟨k, e, he, rfl⟩
    · rintro ⟨k, e, he, rfl⟩
      obtain ⟨hes, rfl⟩ := firstOf_eq_some he
      exact ⟨e.1.ident, List.mem_eraseDups.2 (List.mem_map_of_mem hes), by rw [he]; rfl⟩
  constructor
  · rintro ⟨c, hc, htable⟩
    obtain ⟨k, e, he, rfl⟩ := (hmem c).1 hc
    exact ⟨k, e, he, htable⟩
  · rintro ⟨k, e, he, htable⟩
    exact ⟨e.1, (hmem e.1).2 ⟨k, e, he, rfl⟩, htable⟩

theorem keys_isEmpty_iff (es : List (Column × Value)) :
    (ofEntries es).keys.names.isEmpty ↔ ∀ e ∈ es, e.1.isKey = false := by
  have hident (k : Bool × String) :
      k ∈ (ofEntries es).arrivals.map Column.ident ↔ k ∈ es.map (·.1.ident) := by
    rw [arrivals_ofEntries, List.mem_eraseDups]
  rw [(coherent_ofEntries es).keys_names, List.isEmpty_iff, List.map_eq_nil_iff,
    List.filter_eq_nil_iff]
  constructor
  · intro hkeys e he
    obtain ⟨c, hc, hk⟩ := List.mem_map.1 ((hident e.1.ident).2 (List.mem_map_of_mem he))
    have hkey : c.isKey = e.1.isKey := congrArg Prod.fst hk
    rw [← hkey]
    exact Bool.eq_false_iff.2 (hkeys c hc)
  · intro hes c hc
    obtain ⟨e, he, hk⟩ := List.mem_map.1 ((hident c.ident).1 (List.mem_map_of_mem hc))
    have hkey : e.1.isKey = c.isKey := congrArg Prod.fst hk
    rw [← hkey]
    exact Bool.eq_false_iff.1 (hes e he)

theorem map_some_clientArgs_ofEntries (es : List (Column × Value)) :
    (ofEntries es).clientArgs.map some =
      (es.map (·.1.ident)).eraseDups.map fun k => (lastOf (·.1.ident) k es).map (·.2) := by
  rw [(coherent_ofEntries es).map_some_clientArgs, ← arrivals_ofEntries, List.map_map]
  exact List.map_congr_left fun c _ => value?_ofEntries es c

end KeyedAssignments

theorem Assignments.map_some_args_ofEntries (es : List (Column × Value)) :
    (ofEntries es).args.map some =
      (es.map (·.1.name)).eraseDups.map fun name => (lastOf (·.1.name) name es).map (·.2) := by
  have hmap := congrArg (List.map (Option.map (·.2))) (map_some_values_ofEntries es)
  rw [List.map_map, List.map_map] at hmap
  rw [args, List.map_map]
  exact hmap

/-! ## Builders -/

section Built

variable {d : Dialect} {t : Table} {es : List (Column × Value)}

theorem Insert.refused_iff : Refused (build d { table := t, values := .ofEntries es }) ↔
    LastForeign t.name es ∨ es = [] := by
  rw [build, refused_checked_iff, checkTable_eq_error_iff, Template.exists_insert_eq_error_iff,
    Assignments.exists_foreign_iff, Assignments.names_isEmpty_iff]

theorem Update.refused_iff {f : Filter} :
    Refused (build d { table := t, values := .ofEntries es, filter := f }) ↔
      LastForeign t.name es ∨ es = [] ∨
        ∃ fault, Condition.clauseSuffix f.conditions = .error fault := by
  rw [build, refused_checked_iff, checkTable_eq_error_iff, Template.exists_update_eq_error_iff,
    Assignments.exists_foreign_iff, Assignments.names_isEmpty_iff]

theorem Upsert.refused_iff : Refused (build d { table := t, values := .ofEntries es }) ↔
    FirstForeign t.name es ∨ ∀ e ∈ es, e.1.isKey = false := by
  rw [build_eq, refused_checked_iff, checkTable_eq_error_iff,
    Template.exists_insertOrReplace_eq_error_iff, KeyedAssignments.exists_foreign_iff,
    KeyedAssignments.keys_isEmpty_iff]

end Built

/-! ## Which runs are refused -/

/-- Whether runs that set `es` are refused, and what the statements of the others bind. -/
structure ForeignCheck (d : Dialect) (t : Table) (steps : List SetStep) (calls : List UpdateCall)
    (es : List (Column × Value)) : Prop where
  insert_refused_iff : Refused (Insert.built d t steps) ↔ LastForeign t.name es ∨ es = []
  update_refused_iff : Refused (Update.built d t calls) ↔ LastForeign t.name es ∨ es = [] ∨
    ∃ fault, Condition.clauseSuffix
      (calls.foldl UpdateCall.filterAfter .empty).conditions = .error fault
  upsert_refused_iff : Refused (Upsert.built d t steps) ↔
    FirstForeign t.name es ∨ ∀ e ∈ es, e.1.isKey = false
  /-- Under each name the last value, of the column that was looked at. -/
  insert_args : ∀ st, Insert.built d t steps = .ok st → st.args.map some =
    (es.map (·.1.name)).eraseDups.map fun name => (lastOf (·.1.name) name es).map (·.2)
  update_args : ∀ st, Update.built d t calls = .ok st → ∃ vs,
    st.args = vs ++ (calls.foldl UpdateCall.filterAfter .empty).args ∧ vs.map some =
      (es.map (·.1.name)).eraseDups.map fun name => (lastOf (·.1.name) name es).map (·.2)
  /-- For each column the last value, though only the first one was looked at. -/
  upsert_args : ∀ st, Upsert.built d t steps = .ok st → st.args.map some =
    (es.map (·.1.ident)).eraseDups.map fun k => (lastOf (·.1.ident) k es).map (·.2)

theorem foreignCheck_of_entriesOf (d : Dialect) (t : Table) {steps : List SetStep}
    {calls : List UpdateCall} {es : List (Column × Value)}
    (hcalls : calls.flatMap UpdateCall.steps = steps) (hsteps : entriesOf steps = .ok es) :
    ForeignCheck d t steps calls es := by
  have hupdate : entriesOf (calls.flatMap UpdateCall.steps) = .ok es := hcalls ▸ hsteps
  constructor
  case insert_refused_iff => rw [Insert.built_eq hsteps, Insert.refused_iff]
  case update_refused_iff => rw [Update.built_eq hupdate, Update.refused_iff]
  case upsert_refused_iff => rw [Upsert.built_eq hsteps, Upsert.refused_iff]
  case insert_args =>
    intro st hst
    rw [Insert.built_eq hsteps] at hst
    obtain ⟨-, text, -, rfl⟩ := Insert.build_eq_ok_iff.1 hst
    exact Assignments.map_some_args_ofEntries es
  case update_args =>
    intro st hst
    rw [Update.built_eq hupdate] at hst
    obtain ⟨-, text, -, rfl⟩ := Update.build_eq_ok_iff.1 hst
    exact ⟨_, rfl, Assignments.map_some_args_ofEntries es⟩
  case upsert_args =>
    intro st hst
    rw [Upsert.built_eq hsteps] at hst
    obtain ⟨-, text, -, rfl⟩ := Upsert.build_eq_ok_iff.1 hst
    exact KeyedAssignments.map_some_clientArgs_ofEntries es

/-- A column of another table that shares its name with `userName`. -/
def postName : TypedColumn := .ofKind "posts" "name" .string

theorem foreignCheck_user_then_post :
    ForeignCheck .sqlite users
      [.one (.value userId (1 : Int64)), .one (.value userName "ann"),
        .one (.value postName "draft")]
      [.set (.one (.value userId (1 : Int64))), .set (.one (.value userName "ann")),
        .set (.one (.value postName "draft"))]
      [(userId.column, .long 1), (userName.column, .string "ann"),
        (postName.column, .string "draft")] :=
  foreignCheck_of_entriesOf .sqlite users rfl rfl

/-- Not every run with a column of another table is refused: an insert-or-replace binds its value
when a column of the table came first under the name, and the other two forget it when one comes
last. -/
theorem foreign_column_accepted :
    (Upsert.built .sqlite users [.one (.value userId (1 : Int64)), .one (.value userName "ann"),
        .one (.value postName "draft")]).map (·.args) = .ok [.long 1, .string "draft"] ∧
      (Insert.built .sqlite users [.one (.value postName "draft"),
        .one (.value userName "ann")]).map (·.args) = .ok [.string "ann"] ∧
      (Update.built .sqlite users [.set (.one (.value postName "draft")),
        .set (.one (.value userName "ann"))]).map (·.args) = .ok [.string "ann"] :=
  ⟨rfl, rfl, rfl⟩

end SqlBuilder
