import SqlBuilder.Proofs.Bundled
import SqlBuilder.Proofs.LastValues

/-!
# The columns that an insert-or-replace lists

The text lists the names of the keys and behind them those of the other columns.  Each group has a
name only once, but nothing is compared between the groups: a name stands once for each flag that it
came with (`KeyedAssignments.count_listed`), so no name stands twice exactly if none came both as a
key and as no key (`KeyedAssignments.nodup_listed_iff`).  `KeyedAssignments.listedNames_ofEntries`
says so of every run of inserts, of the text in the bundled dialects, and of what one more insert
changes.
-/

namespace SqlBuilder

namespace KeyedAssignments

/-- The names in the order of the text. -/
def listed (a : KeyedAssignments) : List String := a.keys.names ++ a.others.names

section Listed

variable {es : List (Column × Value)}

theorem names_side_ofEntries (key : Bool) (es : List (Column × Value)) :
    ((ofEntries es).side key).names = flaggedNames key es := by
  rw [names_side_eq_lastValues, map_fst_lastValues fun _ => flaggedNames_subset key es]

theorem listed_ofEntries (es : List (Column × Value)) :
    (ofEntries es).listed = flaggedNames true es ++ flaggedNames false es := by
  rw [← names_side_ofEntries, ← names_side_ofEntries]
  rfl

theorem nodup_flaggedNames (key : Bool) (es : List (Column × Value)) :
    (flaggedNames key es).Nodup := by
  rw [← names_side_ofEntries]
  exact nodup_names_side key es

theorem mem_flaggedNames_iff {key : Bool} {name : String} :
    name ∈ flaggedNames key es ↔ ∃ e ∈ es, e.1.isKey = key ∧ e.1.name = name := by
  simp [flaggedNames, namesOf, and_assoc]

/-- A name and a flag came together in some entry. -/
theorem mem_idents_iff {c : Column} :
    c.ident ∈ es.map (·.1.ident) ↔ c.name ∈ flaggedNames c.isKey es := by
  simp [mem_flaggedNames_iff, Column.ident]

/-- A name stands once for each flag that it came with. -/
theorem count_listed (name : String) : (ofEntries es).listed.count name =
    (if name ∈ flaggedNames true es then 1 else 0) +
      if name ∈ flaggedNames false es then 1 else 0 := by
  rw [listed_ofEntries, List.count_append, (nodup_flaggedNames true es).count,
    (nodup_flaggedNames false es).count]

theorem nodup_listed_iff : (ofEntries es).listed.Nodup ↔ OneFlag es := by
  rw [listed_ofEntries, List.nodup_append]
  constructor
  · rintro ⟨-, -, hdisjoint⟩ e he f hf hname
    -- With different flags one of the entries is a key, and its name is in both groups.
    by_contra hflag
    cases hk : e.1.isKey with
    | true =>
      have hf' : f.1.isKey = false := by simpa [hk] using hflag
      exact hdisjoint _ (mem_flaggedNames_iff.2 ⟨e, he, hk, rfl⟩) _
        (mem_flaggedNames_iff.2 ⟨f, hf, hf', rfl⟩) hname
    | false =>
      have hf' : f.1.isKey = true := by simpa [hk] using hflag
      exact hdisjoint _ (mem_flaggedNames_iff.2 ⟨f, hf, hf', rfl⟩) _
        (mem_flaggedNames_iff.2 ⟨e, he, hk, rfl⟩) hname.symm
  · intro h
    refine ⟨nodup_flaggedNames true es, nodup_flaggedNames false es, ?_⟩
    rintro name hkey other hother rfl
    obtain ⟨e, he, hk, hename⟩ := mem_flaggedNames_iff.1 hkey
    obtain ⟨f, hf, ho, hfname⟩ := mem_flaggedNames_iff.1 hother
    have hflag := h e he f hf (hename.trans hfname.symm)
    simp [hk, ho] at hflag

end Listed

end KeyedAssignments

/-! ## Text -/

/-- What an insert-or-replace begins with. -/
def Bundled.upsertWord : Bundled → String
  | generic => "INSERT INTO "
  | h2 => "MERGE INTO "
  | sqlite => "INSERT OR REPLACE INTO "

theorem Template.render_columnsAndSlots (mark word table between : String) (columns : List String)
    (behind : Template) :
    ∃ rest,
      render mark (.text (word ++ table ++ " ") :: columnsAndSlots columns between ++ behind) =
        word ++ table ++ " (" ++ commaList columns ++ ") " ++ rest := by
  refine ⟨between ++ "(" ++ render mark (slotList columns.length ++ .text ")" :: behind), ?_⟩
  have hopen : " (" = " " ++ "(" := rfl
  simp only [columnsAndSlots, List.cons_append, List.append_assoc, List.nil_append, render_cons,
    render_append, Fragment.render, String.append_assoc]
  rw [hopen, String.append_assoc]

/-- Behind the table stand the names of the keys and of the other columns. -/
theorem Bundled.render_upsert (b : Bundled) {table : String} {keys others : List String}
    {t : Template} (ht : Template.insertOrReplace b.dialect table keys others = .ok t) :
    ∃ behind, t.render b.dialect.placeholder =
      b.upsertWord ++ table ++ " (" ++ commaList (keys ++ others) ++ ") " ++ behind := by
  obtain ⟨columns, -, rfl⟩ := map_eq_ok_iff.1 ht
  rw [placeholder_dialect]
  cases b with
  | generic => exact Template.render_columnsAndSlots ..
  | h2 =>
    have hrow := Template.render_columnsAndSlots "?" "MERGE INTO " table
      ("KEY (" ++ commaList keys ++ ") VALUES ") (keys ++ others) []
    rwa [List.append_nil] at hrow
  | sqlite =>
    have hrow := Template.render_columnsAndSlots "?" "INSERT OR REPLACE INTO " table "VALUES "
      (keys ++ others) []
    rwa [List.append_nil] at hrow

/-! ## Runs -/

namespace KeyedAssignments

/-- What an insert-or-replace lists after a run of inserts, and what one more insert changes. -/
structure ListedNames (es : List (Column × Value)) (a : KeyedAssignments) : Prop where
  /-- The distinct names of the keys and those of the other columns, in the order in which they
  first came. -/
  listed_eq : a.listed = flaggedNames true es ++ flaggedNames false es
  /-- A name stands once for each flag that it came with. -/
  count : ∀ name, a.listed.count name = (if name ∈ flaggedNames true es then 1 else 0) +
    if name ∈ flaggedNames false es then 1 else 0
  nodup_iff : a.listed.Nodup ↔ OneFlag es
  /-- The bundled dialects write the names that are listed. -/
  text : ∀ (b : Bundled) (table : String) (t : Template),
    Template.insertOrReplace b.dialect table a.keys.names a.others.names = .ok t →
      ∃ behind, t.render b.dialect.placeholder =
        b.upsertWord ++ table ++ " (" ++ commaList a.listed ++ ") " ++ behind
  /-- A name that comes again with its flag has its value replaced and nothing else. -/
  again : ∀ e : Column × Value, e.1.name ∈ flaggedNames e.1.isKey es →
    (a.insert e).listed = a.listed ∧ (a.insert e).positions = a.positions ∧
      ∀ c, (a.insert e).value? c = if e.1.ident = c.ident then some e.2 else a.value? c
  /-- A name that comes with the other flag is listed a second time, and the value that it had
  stays. -/
  reflagged : ∀ e : Column × Value, e.1.name ∉ flaggedNames e.1.isKey es →
    e.1.name ∈ flaggedNames (!e.1.isKey) es →
      (a.insert e).listed.count e.1.name = 2 ∧ (a.insert e).size = a.size + 1 ∧
        ∀ c, (a.insert e).value? c = if e.1.ident = c.ident then some e.2 else a.value? c

/-- **The names that an insert-or-replace lists.**  After any run of inserts each name stands once
for each flag that it came with, in the text of every bundled dialect; a name that comes again
replaces its value, unless it comes with the other flag for the first time. -/
theorem listedNames_ofEntries (es : List (Column × Value)) : ListedNames es (ofEntries es) := by
  have h := coherent_ofEntries es
  have hidents (c : Column) : c.ident ∈ (ofEntries es).arrivals.map Column.ident ↔
      c.name ∈ flaggedNames c.isKey es := by
    rw [arrivals_ofEntries, List.mem_eraseDups, mem_idents_iff]
  constructor
  case listed_eq => exact listed_ofEntries es
  case count => exact count_listed
  case nodup_iff => exact nodup_listed_iff
  case text => exact fun b table t ht => b.render_upsert ht
  case again =>
    intro e he
    have hmem := (hidents e.1).2 he
    refine ⟨?_, ?_, fun c => value?_insert _ c e⟩
    · rw [h.insert_of_mem hmem, listed, h.keys_names_store_of_mem hmem,
        h.others_names_store_of_mem hmem]
      rfl
    · rw [h.insert_of_mem hmem, positions, places_store]
      rfl
  case reflagged =>
    intro e he hother
    refine ⟨?_, ?_, fun c => value?_insert _ c e⟩
    · rw [← ofEntries_append_singleton, count_listed]
      have hmem (key : Bool) : e.1.name ∈ flaggedNames key (es ++ [e]) := by
        by_cases hk : key = e.1.isKey
        · exact mem_flaggedNames_iff.2 ⟨e, List.mem_concat_self, hk.symm, rfl⟩
        · obtain ⟨f, hf, hflag, hname⟩ := mem_flaggedNames_iff.1 hother
          have hflip : (!e.1.isKey) = key := by
            cases hkey : e.1.isKey <;> simp_all
          exact mem_flaggedNames_iff.2
            ⟨f, List.mem_append_left [e] hf, hflag.trans hflip, hname⟩
      rw [if_pos (hmem true), if_pos (hmem false)]
    · rw [h.insert_of_not_mem (mt (hidents e.1).1 he), size, places_store]
      simp [arrive, size]

/-- The name of the key of `users`, as a column that is no key. -/
def unkeyedId : TypedColumn := .ofKind "users" "id" .long

/-- The column `id`, set as a key and then as no key, is listed twice, and both values are bound. -/
theorem listed_twice :
    ¬ (ofEntries [(userId.column, .long 1), (unkeyedId.column, .long 2)]).listed.Nodup ∧
      (Upsert.built .sqlite users [.one (.value userId (1 : Int64)),
        .one (.value unkeyedId (2 : Int64))]).map (fun st => (st.sql, st.args)) =
        .ok ("INSERT OR REPLACE INTO users (id, id) VALUES (?, ?)", [.long 1, .long 2]) := by
  decide +kernel

end KeyedAssignments

end SqlBuilder
