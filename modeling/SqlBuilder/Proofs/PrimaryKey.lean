import SqlBuilder.Dialect.Bundled
import SqlBuilder.Dialect.Definition
import SqlBuilder.Proofs.Filling
import SqlBuilder.Proofs.Occurrences

/-!
# Primary keys in SQLite

A definition of a table in SQLite declares a primary key with a clause of its own or with a column
that counts up.  `Table.KeyDeclared` says that a text declares the key of a table once and as SQLite
takes it: a column that counts up is the whole key, holds whole numbers and is the only one.  The
dialect compares the names of the columns that count up with those of the key columns and nothing
else.  `Dialect.keyDeclared_createTable` says for every table what comes of that: when there is a
fault, how many keys the text declares, and for which tables it declares the key as SQLite takes it.
-/

namespace SqlBuilder

open Text

/-- What declares a primary key, as a clause or with a column. -/
def keyPhrase : String := "PRIMARY KEY"

/-- How many primary keys a text declares. -/
def keyDeclarations (sql : String) : Nat := occurrences sql keyPhrase

namespace Table

/-- The columns that count up by themselves, in order. -/
def counting (t : Table) : List Column := t.columns.filter (·.autoIncrement)

/-- No name in the definition of the table contains `part`. -/
structure NamesLack (part : String) (t : Table) : Prop where
  table : contains t.name part = false
  columns : ∀ c ∈ t.columns, contains c.name part = false
  groups : ∀ group ∈ t.uniqueGroups, ∀ name ∈ group, contains name part = false
  foreignKeys : ∀ fk ∈ t.foreignKeys, contains fk.column part = false ∧
    contains fk.refTable part = false ∧ contains fk.refColumn part = false

/-- The only column that counts up is the only key column, and it holds whole numbers. -/
def LoneCounter (t : Table) : Prop :=
  ∃ c, t.counting = [c] ∧ t.keyColumns = [c] ∧ c.type ∈ [.short, .int, .long]

/-- The text declares the primary key of the table once, if there is one, and as SQLite takes it. -/
inductive KeyDeclared (t : Table) (sql : String) : Prop
  | noKey (hcounting : t.counting = []) (hkeys : t.keyColumns = [])
      (hcount : keyDeclarations sql = 0)
  /-- A clause lists the key columns in order. -/
  | clause (hcounting : t.counting = []) (hkeys : t.keyColumns ≠ [])
      (hclause : contains sql
        ("PRIMARY KEY (" ++ commaList (t.keyColumns.map (·.name)) ++ ")") = true)
      (hcount : keyDeclarations sql = 1)
  /-- The definition of the only key column declares it. -/
  | inline (c : Column) (between : String) (hcounting : t.counting = [c])
      (hkeys : t.keyColumns = [c]) (htype : c.type ∈ [.short, .int, .long])
      (hbetween : ',' ∉ between.toList)
      (hinline : contains sql
        (c.name ++ " INTEGER" ++ between ++ " PRIMARY KEY AUTOINCREMENT") = true)
      (hcount : keyDeclarations sql = 1)

end Table

/-! ## Seams of the key phrase -/

theorem keyDeclarations_eq_zero {s : String} (h : contains s keyPhrase = false) :
    keyDeclarations s = 0 :=
  (occurrencesIn_eq_zero_iff (by decide) _).2 h

/-- A text that finishes no phrase is counted apart from what stands before it. -/
theorem keyDeclarations_append_of_finishesNone {t : String}
    (h : FinishesNone keyPhrase.toList t.toList) (s : String) :
    keyDeclarations (s ++ t) = keyDeclarations s + keyDeclarations t := by
  unfold keyDeclarations occurrences
  rw [String.toList_append]
  exact occurrencesIn_append (h.apart _)

/-- A text that begins no phrase is counted apart from what stands behind it. -/
theorem keyDeclarations_append_of_beginsNone {s : String}
    (h : BeginsNone keyPhrase.toList s.toList) (t : String) :
    keyDeclarations (s ++ t) = keyDeclarations s + keyDeclarations t := by
  unfold keyDeclarations occurrences
  rw [String.toList_append]
  exact occurrencesIn_append (h.apart _)

theorem beginsNone_append {w : String} (h : BeginsNone keyPhrase.toList w.toList) (s : String) :
    BeginsNone keyPhrase.toList (s ++ w).toList := by
  rw [String.toList_append]
  exact h.append s.toList

/-- A text between two others is counted apart from both. -/
theorem keyDeclarations_enclosed {s u : String} (hs : BeginsNone keyPhrase.toList s.toList)
    (hu : FinishesNone keyPhrase.toList u.toList) (t : String) :
    keyDeclarations (s ++ t ++ u) = keyDeclarations s + keyDeclarations t + keyDeclarations u := by
  rw [keyDeclarations_append_of_finishesNone hu, keyDeclarations_append_of_beginsNone hs]

theorem toList_keyPhrase : keyPhrase.toList = 'P' :: "RIMARY KEY".toList := by decide

/-- What lacks the first letter of the phrase in front of a text does not change its count. -/
theorem keyDeclarations_append_of_notMem {s : String} (h : 'P' ∉ s.toList) (t : String) :
    keyDeclarations (s ++ t) = keyDeclarations t := by
  unfold keyDeclarations occurrences
  rw [String.toList_append, toList_keyPhrase, occurrencesIn_append (apart_of_notMem h _),
    occurrencesIn_eq_zero_of_notMem h, Nat.zero_add]

theorem keyDeclarations_commaList (ss : List String) :
    keyDeclarations (commaList ss) = (ss.map keyDeclarations).sum :=
  occurrences_commaList (by decide) (by decide) (by decide) ss

theorem keyDeclarations_commaList_eq_zero {ss : List String}
    (h : ∀ s ∈ ss, contains s keyPhrase = false) : keyDeclarations (commaList ss) = 0 := by
  rw [keyDeclarations_commaList, List.sum_eq_zero_iff_forall_eq_nat]
  intro n hn
  obtain ⟨s, hs, rfl⟩ := List.mem_map.1 hn
  exact keyDeclarations_eq_zero (h s hs)

/-! ## Columns -/

/-- What the definition of a column says between its type and whether it counts up. -/
def Column.limitsSql (c : Column) : String :=
  (match c.maxSize with
    | some size => "(" ++ toString size.toNat ++ ")"
    | none => "") ++
  if c.notNull then " NOT NULL" else ""

theorem Column.notMem_limitsSql {d : Char} (hdigit : d.isDigit = false)
    (hd : d ∉ "() NOT NULL".toList) (c : Column) : d ∉ c.limitsSql.toList := by
  have hsize (n : Nat) : d ∉ ("(" ++ toString n ++ ")").toList := by
    have hn := notMem_toString hdigit n
    simp_all
  unfold limitsSql
  rw [String.toList_append, List.mem_append, not_or]
  constructor
  · cases c.maxSize with
    | none => exact List.not_mem_nil
    | some size => exact hsize size.toNat
  · split_ifs
    · simp_all
    · exact List.not_mem_nil

namespace Dialect

theorem columnSql_sqlite (c : Column) :
    sqlite.columnSql c = c.name ++ (" " ++ storageClass c.type ++ (c.limitsSql ++
      if c.autoIncrement then " PRIMARY KEY AUTOINCREMENT" else "")) := by
  unfold columnSql Column.limitsSql
  simp only [String.append_assoc]
  cases c.autoIncrement <;> rfl

theorem finishesNone_storageClass (type : SqlType) (rest : String) :
    FinishesNone keyPhrase.toList (" " ++ storageClass type ++ rest).toList := by
  rw [String.toList_append]
  refine FinishesNone.append ?_ _
  cases type <;> decide

theorem notMem_storageClass (type : SqlType) : 'P' ∉ (" " ++ storageClass type).toList := by
  cases type <;> decide

/-- The definition of a column declares a key if the column counts up. -/
theorem keyDeclarations_columnSql {c : Column} (hname : contains c.name keyPhrase = false) :
    keyDeclarations (sqlite.columnSql c) = if c.autoIncrement then 1 else 0 := by
  have hplain : 'P' ∉ (" " ++ storageClass c.type ++ c.limitsSql).toList := by
    rw [String.toList_append, List.mem_append, not_or]
    exact ⟨notMem_storageClass c.type, c.notMem_limitsSql (by decide) (by decide)⟩
  rw [columnSql_sqlite, keyDeclarations_append_of_finishesNone (finishesNone_storageClass c.type _),
    keyDeclarations_eq_zero hname, Nat.zero_add, ← String.append_assoc,
    keyDeclarations_append_of_notMem hplain]
  split_ifs
  · decide
  · rfl

theorem sum_keyDeclarations_columnSql {columns : List Column}
    (hnames : ∀ c ∈ columns, contains c.name keyPhrase = false) :
    ((columns.map sqlite.columnSql).map keyDeclarations).sum =
      (columns.filter (·.autoIncrement)).length := by
  induction columns with
  | nil => rfl
  | cons c columns ih =>
    rw [List.map_cons, List.map_cons, List.sum_cons,
      keyDeclarations_columnSql (hnames c List.mem_cons_self),
      ih fun b hb => hnames b (List.mem_cons_of_mem c hb)]
    cases hc : c.autoIncrement with
    | true => rw [List.filter_cons_of_pos hc, List.length_cons, if_pos rfl, Nat.add_comm]
    | false => simp [hc]

/-! ## Constraints -/

section Constraints

variable {t : Table} (h : t.NamesLack keyPhrase)
include h

theorem keyDeclarations_uniqueGroup {group : List String} (hgroup : group ∈ t.uniqueGroups) :
    keyDeclarations ("UNIQUE (" ++ commaList group ++ ")") = 0 := by
  rw [keyDeclarations_enclosed (by decide) (by decide),
    keyDeclarations_commaList_eq_zero (h.groups group hgroup)]
  decide

theorem keyDeclarations_foreignKey {fk : ForeignKey} (hfk : fk ∈ t.foreignKeys) :
    keyDeclarations ("FOREIGN KEY (" ++ fk.column ++ ") REFERENCES " ++ fk.refTable ++ "(" ++
      fk.refColumn ++ ")") = 0 := by
  obtain ⟨hcolumn, htable, href⟩ := h.foreignKeys fk hfk
  rw [keyDeclarations_enclosed (beginsNone_append (by decide) _) (by decide),
    keyDeclarations_enclosed (beginsNone_append (by decide) _) (by decide),
    keyDeclarations_enclosed (by decide) (by decide), keyDeclarations_eq_zero hcolumn,
    keyDeclarations_eq_zero htable, keyDeclarations_eq_zero href]
  decide

theorem keyDeclarations_keyClause :
    keyDeclarations ("PRIMARY KEY (" ++ commaList (t.keyColumns.map (·.name)) ++ ")") = 1 := by
  have hnames : ∀ name ∈ t.keyColumns.map (·.name), contains name keyPhrase = false := by
    intro name hname
    obtain ⟨c, hc, rfl⟩ := List.mem_map.1 hname
    exact h.columns c (List.mem_filter.1 hc).1
  rw [keyDeclarations_enclosed (by decide) (by decide), keyDeclarations_commaList_eq_zero hnames]
  decide

theorem sum_keyDeclarations_constraintsSql (keyClause : Bool) :
    ((constraintsSql keyClause t).map keyDeclarations).sum =
      if keyClause && !t.keyColumns.isEmpty then 1 else 0 := by
  have hgroups : ((t.uniqueGroups.map fun group => "UNIQUE (" ++ commaList group ++ ")").map
      keyDeclarations).sum = 0 := by
    simp only [List.sum_eq_zero_iff_forall_eq_nat, List.forall_mem_map]
    exact fun group hgroup => keyDeclarations_uniqueGroup h hgroup
  have hforeign : ((t.foreignKeys.map fun fk => "FOREIGN KEY (" ++ fk.column ++ ") REFERENCES " ++
      fk.refTable ++ "(" ++ fk.refColumn ++ ")").map keyDeclarations).sum = 0 := by
    simp only [List.sum_eq_zero_iff_forall_eq_nat, List.forall_mem_map]
    exact fun fk hfk => keyDeclarations_foreignKey h hfk
  unfold constraintsSql
  rw [List.map_append, List.map_append, List.sum_append, List.sum_append, hgroups, hforeign]
  split_ifs
  · rw [List.map_singleton, List.sum_singleton, keyDeclarations_keyClause h]
  · rfl

end Constraints

/-! ## Definitions of tables -/

theorem tableSql_eq_ok_iff {d : Dialect} {keyClause : Bool} {t : Table} {sql : String} :
    d.tableSql keyClause t = .ok sql ↔ t.columns ≠ [] ∧
      sql = "CREATE TABLE " ++ t.name ++ " (" ++
        commaList (t.columns.map d.columnSql ++ constraintsSql keyClause t) ++ ")" := by
  unfold tableSql
  cases t.columns <;> simp [eq_comm]

/-- A table has as many key declarations as it has columns that count up, and one more for the
clause. -/
theorem keyDeclarations_tableSql {keyClause : Bool} {t : Table} {sql : String}
    (h : t.NamesLack keyPhrase) (hsql : sqlite.tableSql keyClause t = .ok sql) :
    keyDeclarations sql =
      t.counting.length + if keyClause && !t.keyColumns.isEmpty then 1 else 0 := by
  obtain ⟨-, rfl⟩ := tableSql_eq_ok_iff.1 hsql
  rw [keyDeclarations_enclosed (beginsNone_append (by decide) _) (by decide),
    keyDeclarations_enclosed (by decide) (by decide), keyDeclarations_eq_zero h.table,
    keyDeclarations_commaList, List.map_append, List.sum_append,
    sum_keyDeclarations_columnSql h.columns, sum_keyDeclarations_constraintsSql h,
    show keyDeclarations "CREATE TABLE " = 0 by decide, show keyDeclarations " (" = 0 by decide,
    show keyDeclarations ")" = 0 by decide, Nat.zero_add, Nat.add_zero]
  rfl

/-- Every part of a definition stands in it. -/
theorem contains_tableSql {d : Dialect} {keyClause : Bool} {t : Table} {sql part : String}
    (hsql : d.tableSql keyClause t = .ok sql)
    (hpart : part ∈ t.columns.map d.columnSql ++ constraintsSql keyClause t) :
    contains sql part = true := by
  obtain ⟨-, rfl⟩ := tableSql_eq_ok_iff.1 hsql
  exact contains_append_left (contains_append_right (contains_commaList hpart))

theorem createTable_sqlite (t : Table) :
    sqlite.createTable t =
      if t.counting = [] then sqlite.tableSql true t
      else if t.keyColumns.map (·.name) = t.counting.map (·.name) then sqlite.tableSql false t
      else .error (.autoIncrementKey "SQLite" (t.counting.map (·.name)) t.name) := by
  have hnames : sqlite.createTable t =
      if !(t.counting.map (·.name)).isEmpty then
        if t.keyColumns.map (·.name) = t.counting.map (·.name) then sqlite.tableSql false t
        else .error (.autoIncrementKey "SQLite" (t.counting.map (·.name)) t.name)
      else sqlite.tableSql true t := rfl
  rw [hnames]
  cases t.counting <;> rfl

theorem tableSql_eq_error_iff {d : Dialect} {keyClause : Bool} {t : Table} {fault : SyntaxFault} :
    d.tableSql keyClause t = .error fault ↔ t.columns = [] ∧ fault = .noColumns t.name := by
  unfold tableSql
  cases t.columns <;> simp [eq_comm]

/-- The definition of a key column of whole numbers that counts up. -/
theorem columnSql_counter {c : Column} (hauto : c.autoIncrement = true)
    (htype : c.type ∈ [SqlType.short, .int, .long]) :
    sqlite.columnSql c =
      c.name ++ " INTEGER" ++ c.limitsSql ++ " PRIMARY KEY AUTOINCREMENT" := by
  have hinteger : " " ++ storageClass c.type = " INTEGER" := by
    rcases c with ⟨_, _, type, _⟩
    cases type <;> first | rfl | simp at htype
  rw [columnSql_sqlite, hinteger, hauto, if_pos rfl, String.append_assoc, String.append_assoc]

theorem layout_of_keyDeclared {t : Table} {sql : String} (h : t.KeyDeclared sql) :
    t.counting = [] ∨ t.LoneCounter := by
  cases h with
  | noKey hcounting => exact .inl hcounting
  | clause hcounting => exact .inl hcounting
  | inline c _ hcounting hkeys htype => exact .inr ⟨c, hcounting, hkeys, htype⟩

section KeyDeclared

variable {t : Table} {sql : String} (h : t.NamesLack keyPhrase)
include h

/-- Without a column that counts up, the clause declares the key. -/
theorem keyDeclared_of_counting_eq_nil (hcounting : t.counting = [])
    (hsql : sqlite.tableSql true t = .ok sql) : t.KeyDeclared sql := by
  have hcount := keyDeclarations_tableSql h hsql
  by_cases hkeys : t.keyColumns = []
  · refine .noKey hcounting hkeys ?_
    rw [hcount, hcounting, hkeys]
    rfl
  · refine .clause hcounting hkeys (contains_tableSql hsql ?_) ?_
    · unfold constraintsSql
      simp [hkeys]
    · rw [hcount, hcounting]
      simp [hkeys]

/-- The only key column declares the key if it counts up and no other column does. -/
theorem keyDeclared_of_loneCounter (hlone : t.LoneCounter)
    (hsql : sqlite.tableSql false t = .ok sql) : t.KeyDeclared sql := by
  obtain ⟨c, hcounting, hkeys, htype⟩ := hlone
  have hcounter : c ∈ t.counting := hcounting ▸ List.mem_singleton_self c
  obtain ⟨hmem, hauto⟩ := List.mem_filter.1 hcounter
  refine .inline c c.limitsSql hcounting hkeys htype
    (c.notMem_limitsSql (by decide) (by decide)) ?_ ?_
  · rw [← columnSql_counter hauto htype]
    exact contains_tableSql hsql (List.mem_append_left _ (List.mem_map_of_mem hmem))
  · rw [keyDeclarations_tableSql h hsql, hcounting]
    rfl

end KeyDeclared

/-- **The primary key of a table in SQLite.**  A table has no definition if it has no columns, or if
a column counts up and the names of such columns are not those of the key columns.  Any other text
declares one key for each column that counts up, or one with a clause if none does and there are key
columns; that is the key of the table as SQLite takes it exactly if no column counts up or the only
one that does is the only key column and holds whole numbers. -/
theorem keyDeclared_createTable {t : Table} (h : t.NamesLack keyPhrase) :
    (∀ fault, sqlite.createTable t = .error fault ↔
      t.columns = [] ∧ fault = .noColumns t.name ∨
      t.counting ≠ [] ∧ t.keyColumns.map (·.name) ≠ t.counting.map (·.name) ∧
        fault = .autoIncrementKey "SQLite" (t.counting.map (·.name)) t.name) ∧
    ∀ sql, sqlite.createTable t = .ok sql →
      keyDeclarations sql =
        (if t.counting = [] ∧ t.keyColumns ≠ [] then 1 else t.counting.length) ∧
      (t.KeyDeclared sql ↔ t.counting = [] ∨ t.LoneCounter) := by
  rw [createTable_sqlite]
  by_cases hcounting : t.counting = []
  · rw [if_pos hcounting]
    refine ⟨fun fault => ?_, fun sql hsql => ⟨?_, layout_of_keyDeclared, fun _ => ?_⟩⟩
    · rw [tableSql_eq_error_iff]
      simp [hcounting]
    · rw [keyDeclarations_tableSql h hsql, hcounting]
      cases t.keyColumns <;> rfl
    · exact keyDeclared_of_counting_eq_nil h hcounting hsql
  · rw [if_neg hcounting]
    by_cases hnames : t.keyColumns.map (·.name) = t.counting.map (·.name)
    · rw [if_pos hnames]
      refine ⟨fun fault => ?_, fun sql hsql => ⟨?_, layout_of_keyDeclared, fun hlayout => ?_⟩⟩
      · rw [tableSql_eq_error_iff]
        simp [hcounting, hnames]
      · rw [keyDeclarations_tableSql h hsql]
        simp [hcounting]
      · exact keyDeclared_of_loneCounter h (hlayout.resolve_left hcounting) hsql
    · rw [if_neg hnames]
      refine ⟨fun fault => ?_, fun sql hsql => by simp at hsql⟩
      have hcolumns : t.columns ≠ [] := fun hnone => hcounting (by simp [Table.counting, hnone])
      simp [hcounting, hnames, hcolumns, eq_comm]

/-- Notes with a number that counts up, each note of a user and with a title of its own. -/
def notes : Table :=
  ({ name := "notes" } : Table)
    |>.addColumn (TypedColumn.ofKind "notes" "id" .long).key.autoIncrement
    |>.addColumn ((TypedColumn.ofKind "notes" "title" .string).maxSize 80).notNull
    |>.addColumn (TypedColumn.ofKind "notes" "user_id" .long)
    |>.addUnique ["user_id", "title"]
    |>.addForeignKey (.ofKind "notes" "user_id" .long) (.ofKind "users" "id" .long)

/-- The number of a note declares the key. -/
theorem keyDeclared_notes :
    ∃ sql, notes.NamesLack keyPhrase ∧ sqlite.createTable notes = .ok sql ∧
      keyDeclarations sql = 1 ∧ notes.KeyDeclared sql := by
  have hnames : notes.NamesLack keyPhrase := ⟨by decide, by decide, by decide, by decide⟩
  have hsql : sqlite.createTable notes = .ok ("CREATE TABLE notes (" ++
      "id INTEGER NOT NULL PRIMARY KEY AUTOINCREMENT, title TEXT(80) NOT NULL, user_id INTEGER, " ++
      "UNIQUE (user_id, title), FOREIGN KEY (user_id) REFERENCES users(id))") := by
    decide +kernel
  obtain ⟨hcount, hdeclared⟩ := (keyDeclared_createTable hnames).2 _ hsql
  exact ⟨_, hnames, hsql, hcount, hdeclared.2 (.inr ⟨_, rfl, rfl, by decide⟩)⟩

/-- Pairs whose two key columns both count up. -/
def counterPairs : Table :=
  ({ name := "pairs" } : Table)
    |>.addColumn (TypedColumn.ofKind "pairs" "a" .long).key.autoIncrement
    |>.addColumn (TypedColumn.ofKind "pairs" "b" .long).key.autoIncrement

/-- Tags whose key is a text that counts up. -/
def countingTags : Table :=
  ({ name := "tags" } : Table)
    |>.addColumn (TypedColumn.ofKind "tags" "code" .string).key.autoIncrement

/-- Two key columns that both count up are accepted and declare two keys, and a key of text that
counts up is accepted as well. -/
theorem misplaced_counters_accepted :
    (counterPairs.NamesLack keyPhrase ∧
      sqlite.createTable counterPairs = .ok ("CREATE TABLE pairs (" ++
        "a INTEGER NOT NULL PRIMARY KEY AUTOINCREMENT, " ++
        "b INTEGER NOT NULL PRIMARY KEY AUTOINCREMENT)") ∧
      ∀ sql, ¬ counterPairs.KeyDeclared sql) ∧
    countingTags.NamesLack keyPhrase ∧
      sqlite.createTable countingTags =
        .ok "CREATE TABLE tags (code TEXT NOT NULL PRIMARY KEY AUTOINCREMENT)" ∧
      ∀ sql, ¬ countingTags.KeyDeclared sql := by
  refine ⟨⟨⟨by decide, by decide, by decide, by decide⟩, by decide +kernel, fun sql h => ?_⟩,
    ⟨by decide, by decide, by decide, by decide⟩, by decide +kernel, fun sql h => ?_⟩
  · rcases layout_of_keyDeclared h with hnone | ⟨c, hlone, -⟩
    · cases hnone
    · cases hlone
  · rcases layout_of_keyDeclared h with hnone | ⟨c, hlone, -, htype⟩
    · cases hnone
    · cases hlone
      exact absurd htype (by decide)

end Dialect

end SqlBuilder
