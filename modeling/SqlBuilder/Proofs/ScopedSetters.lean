import SqlBuilder.Proofs.PlainStatements

/-!
# Setters in a scope

Several setters in one call go through assignments of their own, which keep each name once, and then
to the builder.  `Overwriting` names what makes that the same as setting one value after another: an
entry replaces one before it for the same column, also if entries under other names lie between.
Plain assignments are so for entries of one name, keyed assignments for entries of one column, in
every state that a builder can have; so scoped setters and direct ones agree
(`Setter.scoped_eq_direct`).
-/

namespace SqlBuilder

/-! ## Overwriting -/

/-- A later entry may come in place of an earlier one that it is the `same` as.  `Present s e` says
that the state holds something that `e` overwrites. -/
structure Overwriting {σ : Type} (insert : σ → Column × Value → σ)
    (Same : Column × Value → Column × Value → Prop) (Present : σ → Column × Value → Prop) :
    Prop where
  present_self : ∀ {s e f}, Same e f → Present (insert s e) f
  present_insert : ∀ {s e}, Present s e → ∀ f, Present (insert s f) e
  /-- Nothing stays of an entry that is overwritten. -/
  overwrite : ∀ {e f}, Same e f → ∀ s, insert (insert s e) f = insert s f
  /-- What overwrites may come before an entry under another name. -/
  comm : ∀ {s e f}, Present s e → f.1.name ≠ e.1.name →
    insert (insert s f) e = insert (insert s e) f

namespace Overwriting

variable {σ : Type} {insert : σ → Column × Value → σ}
  {Same : Column × Value → Column × Value → Prop} {Present : σ → Column × Value → Prop}
  (h : Overwriting insert Same Present)
include h

theorem present_foldl {s : σ} {e : Column × Value} (hs : Present s e) (es : List (Column × Value)) :
    Present (es.foldl insert s) e := by
  induction es generalizing s with
  | nil => exact hs
  | cons f es ih => exact ih (h.present_insert hs f)

/-- An entry overwrites one that lies behind entries under other names. -/
theorem foldl_overwrite {e f : Column × Value} (hsame : Same e f) {es : List (Column × Value)}
    (hes : ∀ x ∈ es, x.1.name ≠ f.1.name) (s : σ) :
    insert (es.foldl insert (insert s e)) f = es.foldl insert (insert s f) := by
  induction es using List.reverseRecOn with
  | nil => exact h.overwrite hsame s
  | append_singleton es x ih =>
    have hpresent := h.present_foldl (h.present_self hsame : Present (insert s e) f) es
    rw [List.foldl_concat, List.foldl_concat, h.comm hpresent (hes x List.mem_concat_self),
      ih fun y hy => hes y (List.mem_append_left [x] hy)]

/-- Putting an entry into a register that is then replayed. -/
theorem foldl_putEntry {e : Column × Value} {ps : List (String × (Column × Value))}
    (hkeyed : ∀ p ∈ ps, p.1 = p.2.1.name) (hnodup : (ps.map (·.1)).Nodup)
    (hsame : ∀ p ∈ ps, p.2.1.name = e.1.name → Same p.2 e) (s : σ) :
    ((Register.putEntry e.1.name e ps).map (·.2)).foldl insert s =
      insert ((ps.map (·.2)).foldl insert s) e := by
  induction ps generalizing s with
  | nil => rfl
  | cons p ps ih =>
    rw [List.forall_mem_cons] at hkeyed hsame
    rw [List.map_cons, List.nodup_cons] at hnodup
    rw [Register.putEntry]
    split_ifs with hname
    · refine (h.foldl_overwrite (hsame.1 (hkeyed.1 ▸ hname)) ?_ s).symm
      refine List.forall_mem_map.2 fun q hq hqname => hnodup.1 ?_
      rw [hname, ← hqname, ← hkeyed.2 q hq]
      exact List.mem_map_of_mem hq
    · exact ih hkeyed.2 hnodup.2 hsame.2 (insert s p.2)

/-- Entries that have been through assignments of their own set the same, if those of one name
overwrite each other. -/
theorem foldl_values_ofEntries {es : List (Column × Value)}
    (hsame : ∀ e ∈ es, ∀ f ∈ es, e.1.name = f.1.name → Same e f) (s : σ) :
    (Assignments.ofEntries es).values.foldl insert s = es.foldl insert s := by
  induction es using List.reverseRecOn with
  | nil => rfl
  | append_singleton es e ih =>
    have hes : ∀ x ∈ es, x ∈ es ++ [e] := fun x hx => List.mem_append_left [e] hx
    have hkeyed : ∀ p ∈ (Assignments.ofEntries es).entries, p.1 = p.2.1.name := by
      refine List.map_inj_left.1 ((Assignments.names_ofEntries es).trans ?_)
      rw [← Assignments.map_name_values_ofEntries, Register.values, List.map_map]
      rfl
    have hmem : ∀ p ∈ (Assignments.ofEntries es).entries, p.2 ∈ es := fun p hp =>
      (lastOf_eq_some ((Assignments.mem_values_ofEntries_iff es p.2).1
        (List.mem_map_of_mem hp))).1
    have hput := h.foldl_putEntry hkeyed (Assignments.nodup_names_ofEntries es)
      (fun p hp => hsame p.2 (hes p.2 (hmem p hp)) e List.mem_concat_self) s
    rw [Assignments.ofEntries_append, List.foldl_concat,
      ← ih fun x hx y hy => hsame x (hes x hx) y (hes y hy)]
    exact hput

end Overwriting

/-! ## Plain and keyed assignments -/

namespace Register

variable {α : Type}

theorem put_put_self (name : String) (a b : α) (r : Register α) :
    (r.put name a).put name b = r.put name b := by
  obtain ⟨es⟩ := r
  refine congrArg Register.mk ?_
  show putEntry name b (putEntry name a es) = putEntry name b es
  induction es with
  | nil => simp [putEntry]
  | cons e es ih => by_cases he : e.1 = name <;> simp [putEntry, he, ih]

/-- A name that is there has its entry replaced before or after any other name. -/
theorem put_comm {name other : String} {r : Register α} (hmem : name ∈ r.names)
    (hne : other ≠ name) (a b : α) :
    (r.put other b).put name a = (r.put name a).put other b := by
  obtain ⟨es⟩ := r
  refine congrArg Register.mk ?_
  show putEntry name a (putEntry other b es) = putEntry other b (putEntry name a es)
  replace hmem : name ∈ es.map (·.1) := hmem
  induction es with
  | nil => exact absurd hmem List.not_mem_nil
  | cons e es ih =>
    by_cases he : e.1 = name
    · have hother : e.1 ≠ other := fun h => hne (h.symm.trans he)
      simp [putEntry, he, Ne.symm hne]
    · have hes := ih ((List.mem_cons.1 hmem).resolve_left (Ne.symm he))
      by_cases ho : e.1 = other <;> simp [putEntry, he, ho, hes, hne]

end Register

/-- Plain assignments overwrite by name. -/
theorem Assignments.overwriting : Overwriting Assignments.insert
    (fun e f => e.1.name = f.1.name) (fun a e => e.1.name ∈ a.names) where
  present_self {a e f} hsame := by
    rw [insert, Register.names_put, hsame]
    split_ifs with hmem
    · exact hmem
    · exact List.mem_concat_self
  present_insert {a e} hmem f := by
    rw [insert, Register.names_put]
    split_ifs
    · exact hmem
    · exact List.mem_append_left _ hmem
  overwrite {e f} hsame a := by
    rw [insert, insert, insert, hsame, Register.put_put_self]
  comm hmem hne := Register.put_comm hmem hne _ _

namespace KeyedAssignments

variable {a : KeyedAssignments} {c d : Column}

theorem insert_of_isSome {e : Column × Value} (h : (a.value? e.1).isSome) :
    a.insert e = a.store e.1 e.2 :=
  if_pos h

theorem insert_of_isNone {e : Column × Value} (h : ¬ (a.value? e.1).isSome) :
    a.insert e = (a.arrive e.1).store e.1 e.2 :=
  if_neg h

theorem isSome_value?_insert (h : (a.value? c).isSome) (e : Column × Value) :
    ((a.insert e).value? c).isSome := by
  rw [value?_insert]
  split_ifs
  · rfl
  · exact h

theorem mem_group_names (h : (a.value? c).isSome) : c.name ∈ (a.group c).names :=
  Register.isSome_get?_iff.1 h

theorem store_store_self (a : KeyedAssignments) (c : Column) (v w : Value) :
    (a.store c v).store c w = a.store c w := by
  unfold store
  split_ifs <;> simp [Register.put_put_self]

theorem store_comm (h : (a.value? c).isSome) (hne : d.name ≠ c.name) (v w : Value) :
    (a.store d w).store c v = (a.store c v).store d w := by
  have hput := Register.put_comm (mem_group_names h) hne v w
  unfold group at hput
  unfold store
  -- Columns of different groups do not meet, those of one group have different names.
  cases hc : c.isKey <;> cases hd : d.isKey
  case false.true | true.false => rfl
  all_goals simpa [hc] using hput

/-- A value in place of another moves no column that arrives later. -/
theorem arrive_store (h : (a.value? c).isSome) (v : Value) :
    (a.store c v).arrive d = (a.arrive d).store c v := by
  have hmem := mem_group_names h
  have hsize : (a.store c v).keys.size = a.keys.size := by
    rw [← Register.length_names, ← Register.length_names, keys_store]
    split_ifs with hkey
    · rw [group, if_pos hkey] at hmem
      rw [Register.names_put, if_pos hmem]
    · rfl
  unfold arrive
  rw [hsize, places_store, arrivals_store]
  unfold store
  split_ifs <;> rfl

/-- Keyed assignments overwrite by column. -/
theorem overwriting : Overwriting KeyedAssignments.insert
    (fun e f => e.1 = f.1) (fun a e => (a.value? e.1).isSome) where
  present_self {a e f} hsame := by rw [value?_insert, hsame, if_pos rfl]; rfl
  present_insert h f := isSome_value?_insert h f
  overwrite {e f} hsame a := by
    obtain ⟨c, v⟩ := e
    obtain ⟨d, w⟩ := f
    obtain rfl : c = d := hsame
    have hstored : ((a.insert (c, v)).value? c).isSome := by rw [value?_insert, if_pos rfl]; rfl
    rw [insert_of_isSome hstored]
    by_cases h : (a.value? c).isSome
    · rw [insert_of_isSome h, insert_of_isSome h, store_store_self]
    · rw [insert_of_isNone h, insert_of_isNone h, store_store_self]
  comm {a e f} h hne := by
    have hkept := isSome_value?_insert h f
    have hident : e.1.ident ≠ f.1.ident := fun hident => hne (congrArg Prod.snd hident).symm
    have hf : ((a.store e.1 e.2).value? f.1) = a.value? f.1 := by
      rw [value?_store, if_neg hident]
    rw [insert_of_isSome hkept, insert_of_isSome h]
    by_cases hfs : (a.value? f.1).isSome
    · rw [insert_of_isSome hfs, insert_of_isSome (hf ▸ hfs), store_comm h hne]
    · rw [insert_of_isNone hfs, insert_of_isNone (hf ▸ hfs), arrive_store h,
        store_comm (value?_arrive a e.1 f.1 ▸ h) hne]

end KeyedAssignments

/-! ## Setters -/

namespace Setter

/-- Setters that share a name are about the same column. -/
def OneDefinition (setters : List Setter) : Prop :=
  ∀ s ∈ setters, ∀ t ∈ setters, s.column.name = t.column.name → s.column = t.column

instance (setters : List Setter) : Decidable (OneDefinition setters) :=
  inferInstanceAs (Decidable (∀ s ∈ setters, ∀ t ∈ setters, _))

theorem map_fst_of_mapM_entry {setters : List Setter} {es : List (Column × Value)}
    (h : setters.mapM entry = .ok es) : es.map (·.1) = setters.map column := by
  induction setters generalizing es with
  | nil => cases h; rfl
  | cons s setters ih =>
    obtain ⟨e, hs, fs, hrest, rfl⟩ := mapM_cons_eq_ok_iff.1 h
    rw [List.map_cons, List.map_cons, column_eq_of_entry hs, ih hrest]

theorem OneDefinition.entries {setters : List Setter} (h : OneDefinition setters)
    {es : List (Column × Value)} (hes : setters.mapM entry = .ok es) :
    ∀ e ∈ es, ∀ f ∈ es, e.1.name = f.1.name → e.1 = f.1 := by
  have hmem : ∀ e ∈ es, ∃ s ∈ setters, s.column = e.1 := by
    intro e he
    have hcolumn : e.1 ∈ setters.map column :=
      map_fst_of_mapM_entry hes ▸ List.mem_map_of_mem he
    exact List.mem_map.1 hcolumn
  intro e he f hf hname
  obtain ⟨s, hs, hse⟩ := hmem e he
  obtain ⟨t, ht, htf⟩ := hmem f hf
  rw [← hse, ← htf] at hname ⊢
  exact h s hs t ht hname

theorem entries_several (setters : List Setter) : (SetStep.several setters).entries =
    (setters.mapM entry).map fun es => (Assignments.ofEntries es).values := by
  rw [SetStep.entries, Assignments.set_eq]
  cases setters.mapM entry <;> rfl

theorem entriesOf_map_one (setters : List Setter) :
    entriesOf (setters.map .one) = setters.mapM entry := by
  induction setters with
  | nil => rfl
  | cons s setters ih =>
    rw [List.map_cons, entriesOf_cons, ih, List.mapM_cons, SetStep.entries]
    cases s.entry with
    | error e => rfl
    | ok e => cases setters.mapM entry <;> rfl

section Builder

variable {σ α : Type} {call : σ → SetStep → Except Error σ} {get : σ → α} {put : σ → α → σ}
  {insert : α → Column × Value → α} {Same : Column × Value → Column × Value → Prop}
  {Present : α → Column × Value → Prop}

/-- A builder that puts what its calls set into one of its parts, which overwrites, takes scoped
setters as it takes direct ones.  Where a setter fails, both fail as it does. -/
theorem call_several (h : Overwriting insert Same Present) (hself : ∀ s, put s (get s) = s)
    (hget : ∀ s a, get (put s a) = a) (hput : ∀ s a b, put (put s a) b = put s b)
    (hcall : ∀ s step, call s step =
      step.entries.map fun es => put s (es.foldl insert (get s)))
    {setters : List Setter}
    (hsame : ∀ es, setters.mapM entry = .ok es →
      ∀ e ∈ es, ∀ f ∈ es, e.1.name = f.1.name → Same e f) (s : σ) :
    call s (.several setters) = setters.foldlM (fun s x => call s (.one x)) s := by
  have happend (s : σ) (es fs : List (Column × Value)) :
      put (put s (es.foldl insert (get s)))
          (fs.foldl insert (get (put s (es.foldl insert (get s))))) =
        put s ((es ++ fs).foldl insert (get s)) := by
    rw [hput, hget, List.foldl_append]
  have hdirect := foldlM_entries hself happend hcall s (setters.map .one)
  rw [List.foldlM_map, entriesOf_map_one] at hdirect
  rw [hdirect, hcall, entries_several]
  cases hes : setters.mapM entry with
  | error e => rfl
  | ok es =>
    exact congrArg (fun a => Except.ok (put s a)) (h.foldl_values_ofEntries (hsame es hes) _)

end Builder

/-- **Scoped and direct setters agree.**  Several setters in one call leave a statement under
construction as the setters one by one leave it, in any state; for an insert-or-replace the setters
of one name have to be about the same column. -/
theorem scoped_eq_direct (setters : List Setter) :
    (∀ s : Insert, s.call (.several setters) = setters.foldlM (fun s x => s.call (.one x)) s) ∧
    (∀ s : Update, s.call (.set (.several setters)) =
      setters.foldlM (fun s x => s.call (.set (.one x))) s) ∧
    (OneDefinition setters → ∀ s : Upsert,
      s.call (.several setters) = setters.foldlM (fun s x => s.call (.one x)) s) := by
  refine ⟨fun s => ?_, fun s => ?_, fun hone s => ?_⟩
  · refine @call_several _ _ Insert.call (·.values) (fun s a => { s with values := a }) _ _ _
      Assignments.overwriting (fun _ => rfl) (fun _ _ => rfl) (fun _ _ _ => rfl)
      (fun s step => ?_) _ (fun _ _ _ _ _ _ hname => hname) s
    rw [Insert.call]
    cases step.entries <;> rfl
  · refine @call_several _ _ (fun s step => Update.call s (.set step)) (·.values)
      (fun s a => { s with values := a }) _ _ _
      Assignments.overwriting (fun _ => rfl) (fun _ _ => rfl) (fun _ _ _ => rfl)
      (fun s step => ?_) _ (fun _ _ _ _ _ _ hname => hname) s
    rw [Update.call]
    cases step.entries <;> rfl
  · refine @call_several _ _ Upsert.call (·.values) (fun s a => { s with values := a }) _ _ _
      KeyedAssignments.overwriting (fun _ => rfl) (fun _ _ => rfl) (fun _ _ _ => rfl)
      (fun s step => ?_) _ (fun _ hes => hone.entries hes) s
    rw [Upsert.call]
    cases step.entries <;> rfl

/-- A scope that sets the name, the key and the name again, where the name is set already. -/
theorem scoped_eq_direct_named :
    OneDefinition [.value userName "bob", .value userId (1 : Int64), .null userName] ∧
      Upsert.call ⟨users, .ofEntries [(userName.column, .string "ann")]⟩
          (.several [.value userName "bob", .value userId (1 : Int64), .null userName]) =
        [.value userName "bob", .value userId (1 : Int64), .null userName].foldlM
          (fun s x => Upsert.call s (.one x))
          ⟨users, .ofEntries [(userName.column, .string "ann")]⟩ := by
  have hone : OneDefinition
      [.value userName "bob", .value userId (1 : Int64), .null userName] := by decide
  exact ⟨hone, (scoped_eq_direct _).2.2 hone _⟩

/-- With two definitions of one name a scope keeps one column, and direct setters set two. -/
example :
    ((Upsert.call { table := users }
        (.several [.null userId, .null (.ofKind "users" "id" .long)])).map (·.values.positions),
      ([.null userId, .null (.ofKind "users" "id" .long)].foldlM (fun s x => Upsert.call s (.one x))
        { table := users }).map (·.values.positions)) = (.ok [1], .ok [1, 2]) :=
  rfl

end Setter

end SqlBuilder
