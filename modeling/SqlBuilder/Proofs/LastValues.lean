import SqlBuilder.Proofs.Runs

/-!
# Names with their last values

The columns that a statement lists, each with the value that it should have there: `lastValues`
takes the last value given under each of some names.  Plain assignments hold the names of a run with
their last values (`Assignments.names_eq_lastValues`, `Assignments.args_eq_lastValues`).  So do the
two groups of keyed assignments, if no name stands for a key at one time and for another column at
another (`KeyedAssignments.names_side_eq_lastValues`, `KeyedAssignments.values_side_eq_lastValues`).
-/

namespace SqlBuilder

/-- The distinct names of a run in the order in which they first came. -/
def namesOf (es : List (Column × Value)) : List String := (es.map (·.1.name)).eraseDups

/-- Each of the names with the last value given under it. -/
def lastValues (names : List String) (es : List (Column × Value)) : List (String × Value) :=
  names.filterMap fun name => (lastOf (·.1.name) name es).map fun e => (name, e.2)

/-- Names with the texts of their values. -/
def literals (lit : Value → String) (rows : List (String × Value)) : List (String × String) :=
  rows.map fun r => (r.1, lit r.2)

section LastValues

variable {names : List String} {es : List (Column × Value)}

theorem map_some_lastValues (h : ∀ name ∈ names, name ∈ es.map (·.1.name)) :
    (lastValues names es).map some =
      names.map fun name => (lastOf (·.1.name) name es).map fun e => (name, e.2) := by
  apply KeyedAssignments.map_some_filterMap
  intro name hname
  obtain ⟨e, he⟩ : ∃ e, lastOf (·.1.name) name es = some e := exists_lastOf_of_mem (h name hname)
  rw [he]
  rfl

theorem map_fst_lastValues (h : ∀ name ∈ names, name ∈ es.map (·.1.name)) :
    (lastValues names es).map (·.1) = names := by
  refine List.map_injective_iff.2 (fun _ _ => Option.some.inj) ?_
  have hmap := congrArg (List.map (Option.map Prod.fst)) (map_some_lastValues h)
  rw [List.map_map, List.map_map] at hmap
  rw [List.map_map]
  refine hmap.trans (List.map_congr_left fun name hname => ?_)
  obtain ⟨e, he⟩ : ∃ e, lastOf (·.1.name) name es = some e := exists_lastOf_of_mem (h name hname)
  rw [Function.comp_apply, he]
  rfl

theorem map_some_snd_lastValues (h : ∀ name ∈ names, name ∈ es.map (·.1.name)) :
    ((lastValues names es).map (·.2)).map some =
      names.map fun name => (lastOf (·.1.name) name es).map (·.2) := by
  have hmap := congrArg (List.map (Option.map Prod.snd)) (map_some_lastValues h)
  rw [List.map_map, List.map_map] at hmap
  rw [List.map_map]
  refine hmap.trans (List.map_congr_left fun name _ => ?_)
  rw [Function.comp_apply, Option.map_map]
  rfl

@[simp] theorem map_fst_literals (lit : Value → String) (rows : List (String × Value)) :
    (literals lit rows).map (·.1) = rows.map (·.1) := by
  rw [literals, List.map_map]
  rfl

@[simp] theorem map_snd_literals (lit : Value → String) (rows : List (String × Value)) :
    (literals lit rows).map (·.2) = (rows.map (·.2)).map lit := by
  rw [literals, List.map_map, List.map_map]
  rfl

/-- What holds of all names of a run holds of those that are listed. -/
theorem forall_literals {p : String → Prop} (h : ∀ e ∈ es, p e.1.name) (lit : Value → String) :
    ∀ r ∈ literals lit (lastValues names es), p r.1 := by
  intro r hr
  obtain ⟨⟨name, v⟩, hrow, rfl⟩ := List.mem_map.1 hr
  obtain ⟨name, -, hlast⟩ := List.mem_filterMap.1 hrow
  obtain ⟨e, he, heq⟩ := Option.map_eq_some_iff.1 hlast
  obtain ⟨hes, rfl⟩ := lastOf_eq_some he
  rw [← congrArg Prod.fst heq]
  exact h e hes

theorem mem_names_of_mem_namesOf {name : String} (h : name ∈ namesOf es) :
    name ∈ es.map (·.1.name) :=
  List.mem_eraseDups.1 h

end LastValues

namespace Assignments

variable (es : List (Column × Value))

theorem names_eq_lastValues : (ofEntries es).names = (lastValues (namesOf es) es).map (·.1) := by
  rw [names_ofEntries, map_fst_lastValues fun _ => mem_names_of_mem_namesOf]
  rfl

theorem args_eq_lastValues : (ofEntries es).args = (lastValues (namesOf es) es).map (·.2) := by
  refine List.map_injective_iff.2 (fun _ _ => Option.some.inj) ?_
  rw [map_some_snd_lastValues fun _ => mem_names_of_mem_namesOf, args, List.map_map]
  have hmap := congrArg (List.map (Option.map Prod.snd)) (map_some_values_ofEntries es)
  rw [List.map_map, List.map_map] at hmap
  exact hmap

end Assignments

/-! ## Keys and others -/

/-- The distinct names of the keys of a run, or those of its other columns, in the order in which
they first came. -/
def flaggedNames (key : Bool) (es : List (Column × Value)) : List String :=
  namesOf (es.filter (·.1.isKey == key))

/-- No name stands for a key and for another column. -/
def OneFlag (es : List (Column × Value)) : Prop :=
  ∀ e ∈ es, ∀ f ∈ es, e.1.name = f.1.name → e.1.isKey = f.1.isKey

namespace KeyedAssignments

/-- The values of the keys, or those of the other columns. -/
def side (key : Bool) (a : KeyedAssignments) : Register Value := if key then a.keys else a.others

theorem side_insert (key : Bool) (a : KeyedAssignments) (e : Column × Value) :
    (a.insert e).side key =
      if e.1.isKey = key then (a.side key).put e.1.name e.2 else a.side key := by
  unfold insert side
  cases key <;> cases hk : e.1.isKey <;> split_ifs <;> simp_all [keys_store, others_store]

theorem side_ofEntries (key : Bool) (es : List (Column × Value)) : (ofEntries es).side key =
    Register.puts {} ((es.filter (·.1.isKey == key)).map fun e => (e.1.name, e.2)) := by
  induction es using List.reverseRecOn with
  | nil => cases key <;> rfl
  | append_singleton es e ih =>
    rw [ofEntries_append_singleton, side_insert, ih, List.filter_append, List.map_append,
      Register.puts_append]
    by_cases hk : e.1.isKey = key
    · rw [if_pos hk, List.filter_singleton, beq_iff_eq.2 hk]
      rfl
    · rw [if_neg hk, List.filter_singleton, beq_eq_false_iff_ne.2 hk]
      rfl

section Side

variable (key : Bool) (es : List (Column × Value))

theorem flaggedNames_subset {name : String} (h : name ∈ flaggedNames key es) :
    name ∈ es.map (·.1.name) :=
  (List.filter_sublist.map _).subset (mem_names_of_mem_namesOf h)

theorem names_side_eq_lastValues :
    ((ofEntries es).side key).names = (lastValues (flaggedNames key es) es).map (·.1) := by
  rw [map_fst_lastValues fun _ => flaggedNames_subset key es, side_ofEntries, Register.names_puts,
    List.map_map]
  rfl

theorem nodup_names_side : ((ofEntries es).side key).names.Nodup := by
  rw [side_ofEntries]
  exact Register.nodup_names_puts (show (Register.names {}).Nodup from List.nodup_nil) _

theorem values_side_eq_lastValues (h : OneFlag es) :
    ((ofEntries es).side key).values = (lastValues (flaggedNames key es) es).map (·.2) := by
  refine List.map_injective_iff.2 (fun _ _ => Option.some.inj) ?_
  rw [Register.map_some_values (nodup_names_side key es), names_side_eq_lastValues,
    map_fst_lastValues fun _ => flaggedNames_subset key es,
    map_some_snd_lastValues fun _ => flaggedNames_subset key es]
  apply List.map_congr_left
  intro name hname
  -- All entries under the name have the flag, so the last one is among those that are kept.
  have hflag : ∀ e ∈ es, e.1.name = name → e.1.isKey == key := by
    obtain ⟨f, hf, rfl⟩ := List.mem_map.1 (mem_names_of_mem_namesOf hname)
    obtain ⟨hfes, hkey⟩ := List.mem_filter.1 hf
    intro e he hname
    rw [h e he f hfes hname]
    exact hkey
  rw [side_ofEntries, Register.get?_puts, ← lastOf_filter hflag, lastOf, lastOf, ← List.map_reverse,
    List.find?_map, Option.map_map]
  rfl

end Side

end KeyedAssignments

end SqlBuilder
