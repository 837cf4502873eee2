import SqlBuilder.Proofs.Delimited
import SqlBuilder.Proofs.PrimaryKey
import Mathlib.Data.List.Nodup

/-!
# Reading table definitions back

The text of CREATE TABLE says which table it defines.  A definition is a list of parts with commas
between them: columns, the primary key, groups of columns with distinct values and foreign keys
(`Table.parts`).  Commas stand inside the parts too, but every part is told from what stands behind
it (`TablePart.readsBack_chars`): its first word ends at a blank, behind the name of a column stands
a type and behind the first word of a constraint a parenthesis or `KEY (`, none of which begins
another, and each list of names ends at a parenthesis.  Where names are distinct, the clause for the
key says which columns belong to it, so the parts make the table (`Table.ofParts_parts`).  Two
tables have one text exactly when they agree in all but the table that the handle of a column names
(`Dialect.createTable_eq_iff`).
-/

namespace SqlBuilder

open Text

/-! ## Words -/

/-- What stands between the first word of a part and the rest of it. -/
inductive PartWord where
  | type (t : SqlType)
  | key
  | group
deriving DecidableEq

namespace PartWord

/-- The characters of the word, up to the first name or size behind it. -/
def chars : PartWord → List Char
  | type t => t.standardName.toList
  | key => "KEY (".toList
  | group => ['(']

/-- All words, for facts that are checked pair by pair. -/
def all : List PartWord := key :: group :: SqlType.all.map type

theorem mem_all (w : PartWord) : w ∈ all := by
  cases w with
  | type t => simp [all, SqlType.mem_all]
  | _ => decide

theorem eq_of_prefix {a b : PartWord} (h : a.chars <+: b.chars) : a = b := by
  have hall : ∀ a ∈ all, ∀ b ∈ all, a.chars <+: b.chars → a = b := by decide +kernel
  exact hall a a.mem_all b b.mem_all h

end PartWord

/-! ## Parts -/

/-- What the definition of a column says of it: neither the table that its handle names nor whether
it belongs to the key. -/
def Column.bare (c : Column) : Column := { c with table := "", isKey := false }

/-- A part of a definition. -/
inductive TablePart where
  | column (c : Column)
  | key (names : List String)
  | unique (group : List String)
  | foreignKey (fk : ForeignKey)

/-- What may stand behind a part. -/
def EndsPart (r : List Char) : Prop := r.head? = some ',' ∨ r.head? = some ')'

/-- The maximal size of a column. -/
def sizeChars : Option UInt32 → List Char
  | none => []
  | some size => '(' :: ((toString size.toNat).toList ++ [')'])

/-- What a column says behind its type and size. -/
def flagChars (notNull autoIncrement : Bool) : List Char :=
  (if notNull then " NOT NULL".toList else []) ++
    if autoIncrement then " AUTO_INCREMENT".toList else []

namespace TablePart

/-- The text of the part, as generic SQL has it. -/
def sql : TablePart → String
  | column c => Dialect.generic.columnSql c
  | key names => "PRIMARY KEY (" ++ commaList names ++ ")"
  | unique group => "UNIQUE (" ++ commaList group ++ ")"
  | foreignKey fk =>
    "FOREIGN KEY (" ++ fk.column ++ ") REFERENCES " ++ fk.refTable ++ "(" ++ fk.refColumn ++ ")"

/-- The first word: the name of a column, or what else the part declares. -/
def first : TablePart → String
  | column c => c.name
  | key _ => "PRIMARY"
  | unique _ => "UNIQUE"
  | foreignKey _ => "FOREIGN"

/-- The word behind the first one. -/
def word : TablePart → PartWord
  | column c => .type c.type
  | key _ => .key
  | unique _ => .group
  | foreignKey _ => .key

/-- The rest of the part, behind its second word. -/
def body : TablePart → List Char
  | column c => sizeChars c.maxSize ++ flagChars c.notNull c.autoIncrement
  | key names => commaChars String.toList names ++ [')']
  | unique group => commaChars String.toList group ++ [')']
  | foreignKey fk => fk.column.toList ++ ')' :: (" REFERENCES ".toList ++
      (fk.refTable.toList ++ '(' :: (fk.refColumn.toList ++ [')'])))

/-- The characters of the part, divided where it is read. -/
def chars (p : TablePart) : List Char := p.first.toList ++ ' ' :: (p.word.chars ++ p.body)

/-- The names in the part can be read, and a column has nothing that its definition does not say. -/
def Readable : TablePart → Prop
  | column c => IsName c.name ∧ c.bare = c
  | key names => ∀ name ∈ names, IsName name
  | unique group => ∀ name ∈ group, IsName name
  | foreignKey fk => IsName fk.column ∧ IsName fk.refTable ∧ IsName fk.refColumn

theorem toList_sql (p : TablePart) : p.sql.toList = p.chars := by
  have hkey : "PRIMARY KEY (".toList = "PRIMARY".toList ++ ' ' :: "KEY (".toList := by decide
  have hunique : "UNIQUE (".toList = "UNIQUE".toList ++ [' ', '('] := by decide
  have hforeign : "FOREIGN KEY (".toList = "FOREIGN".toList ++ ' ' :: "KEY (".toList := by decide
  have hreferences : ") REFERENCES ".toList = ')' :: " REFERENCES ".toList := by decide
  have hblank : " ".toList = [' '] := rfl
  have hopen : "(".toList = ['('] := rfl
  have hclose : ")".toList = [')'] := rfl
  unfold sql chars first word body PartWord.chars
  cases p with
  | column c =>
    obtain ⟨table, name, type, isKey, maxSize, notNull, autoIncrement⟩ := c
    unfold Dialect.columnSql sizeChars flagChars
    cases maxSize <;> cases notNull <;> cases autoIncrement <;>
      simp only [String.toList_append, hblank, hopen, hclose, List.append_assoc,
        List.cons_append, List.nil_append] <;>
      rfl
  | key names =>
    simp only [String.toList_append, toList_commaList, hkey, hclose, List.append_assoc,
      List.cons_append]
  | unique group =>
    simp only [String.toList_append, toList_commaList, hunique, hclose, List.append_assoc,
      List.cons_append, List.nil_append]
  | foreignKey fk =>
    simp only [String.toList_append, hforeign, hreferences, hopen, hclose, List.append_assoc,
      List.cons_append, List.nil_append]

/-! ## Reading a part -/

theorem sizeChars_append_inj {m n : Option UInt32} {r s : List Char} (hr : r.head? ≠ some '(')
    (hs : s.head? ≠ some '(') (h : sizeChars m ++ r = sizeChars n ++ s) : m = n ∧ r = s := by
  cases m with
  | none =>
    cases n with
    | none => exact ⟨rfl, h⟩
    | some n =>
      subst h
      exact absurd rfl hr
  | some m =>
    cases n with
    | none =>
      subst h
      exact absurd rfl hs
    | some n =>
      simp only [sizeChars, List.cons_append, List.append_assoc, List.nil_append] at h
      obtain ⟨hdigits, hrest⟩ := append_cons_inj (notMem_toString (by decide) m.toNat)
        (notMem_toString (by decide) n.toNat) (List.cons.inj h).2
      obtain rfl := UInt32.toNat_inj.1 (toList_toString_inj hdigits)
      exact ⟨rfl, hrest⟩

theorem flagChars_append_inj {a b a' b' : Bool} {r s : List Char} (hr : EndsPart r)
    (hs : EndsPart s) (h : flagChars a b ++ r = flagChars a' b' ++ s) :
    a = a' ∧ b = b' ∧ r = s := by
  have hflags (a b : Bool) : ∀ ch ∈ flagChars a b, (ch != ',' && ch != ')') = true :=
    List.all_eq_true.1 (by cases a <;> cases b <;> decide)
  have hends {r : List Char} (hr : EndsPart r) :
      ∀ ch ∈ r.head?, (ch != ',' && ch != ')') = false := by
    intro ch hch
    rcases hr with hr | hr <;> rw [hr] at hch <;> obtain rfl := Option.some.inj hch <;> rfl
  have hinj : ∀ a b a' b', flagChars a b = flagChars a' b' → a = a' ∧ b = b' := by decide
  obtain ⟨heq, hrest⟩ := append_inj_of_span (hflags a b) (hflags a' b') (hends hr) (hends hs) h
  obtain ⟨ha, hb⟩ := hinj a b a' b' heq
  exact ⟨ha, hb, hrest⟩

theorem head?_flagChars_append {r : List Char} (hr : EndsPart r) (a b : Bool) :
    (flagChars a b ++ r).head? ≠ some '(' := by
  have hblank : ∀ a b, (flagChars a b).head? = none ∨ (flagChars a b).head? = some ' ' := by
    decide
  rw [List.head?_append]
  rcases hblank a b with h | h <;> rcases hr with hr | hr <;> simp [h, hr]

/-- What stands behind the name and the type of a column. -/
theorem columnBody_append_inj {c d : Column} (hname : c.name = d.name) (htype : c.type = d.type)
    (hc : c.bare = c) (hd : d.bare = d) {r s : List Char} (hr : EndsPart r) (hs : EndsPart s)
    (h : (column c).body ++ r = (column d).body ++ s) : c = d ∧ r = s := by
  unfold body at h
  rw [List.append_assoc, List.append_assoc] at h
  obtain ⟨hsize, hflags⟩ :=
    sizeChars_append_inj (head?_flagChars_append hr _ _) (head?_flagChars_append hs _ _) h
  obtain ⟨hnull, hauto, hrest⟩ := flagChars_append_inj hr hs hflags
  refine ⟨?_, hrest⟩
  rw [← hc, ← hd]
  simp [Column.bare, hname, htype, hsize, hnull, hauto]

/-- A list of names in parentheses. -/
theorem names_append_inj {names names' : List String} {r s : List Char}
    (hnames : ∀ name ∈ names, IsName name) (hnames' : ∀ name ∈ names', IsName name)
    (h : commaChars String.toList names ++ [')'] ++ r =
      commaChars String.toList names' ++ [')'] ++ s) : names = names' ∧ r = s := by
  have hends (r : List Char) : EndsList Stops (')' :: r) :=
    ⟨stops_cons.2 rfl, stops_cons.2 rfl, by simp⟩
  rw [List.append_assoc, List.append_assoc] at h
  obtain ⟨hnames, hrest⟩ := readsBack_names hnames hnames' (hends r) (hends s) h
  exact ⟨hnames, (List.cons.inj hrest).2⟩

theorem foreignKeyBody_append_inj {fk gk : ForeignKey} (hfk : (foreignKey fk).Readable)
    (hgk : (foreignKey gk).Readable) {r s : List Char}
    (h : (foreignKey fk).body ++ r = (foreignKey gk).body ++ s) : fk = gk ∧ r = s := by
  obtain ⟨column, table, refColumn⟩ := fk
  obtain ⟨column', table', refColumn'⟩ := gk
  obtain ⟨hcolumn, htable, href⟩ : IsName column ∧ IsName table ∧ IsName refColumn := hfk
  obtain ⟨hcolumn', htable', href'⟩ : IsName column' ∧ IsName table' ∧ IsName refColumn' := hgk
  simp only [body, List.append_assoc, List.cons_append, List.nil_append] at h
  obtain ⟨rfl, hreferences⟩ := hcolumn.append_cons_inj hcolumn' h rfl
  obtain ⟨rfl, hparenthesis⟩ :=
    htable.append_cons_inj htable' (List.append_cancel_left hreferences) rfl
  obtain ⟨rfl, hrest⟩ := href.append_cons_inj href' hparenthesis rfl
  exact ⟨rfl, hrest⟩

theorem Readable.isName_first {p : TablePart} (h : p.Readable) : IsName p.first := by
  cases p with
  | column c => exact h.1
  | key _ => exact show IsName "PRIMARY" by decide
  | unique _ => exact show IsName "UNIQUE" by decide
  | foreignKey _ => exact show IsName "FOREIGN" by decide

/-- A part is told from whatever stands behind it. -/
theorem readsBack_chars : ReadsBack Readable EndsPart chars := by
  intro p q r s hp hq hr hs h
  unfold chars at h
  simp only [List.append_assoc, List.cons_append] at h
  obtain ⟨hfirst, hbehind⟩ := hp.isName_first.append_cons_inj hq.isName_first h rfl
  obtain ⟨hword, hbody⟩ := append_inj_of_prefixFree (fun a b => PartWord.eq_of_prefix) hbehind
  -- The first word tells the key from foreign keys, the next one all other kinds.
  cases p with
  | column c =>
    cases q with
    | column d =>
      obtain ⟨rfl, hrest⟩ :=
        columnBody_append_inj hfirst (PartWord.type.inj hword) hp.2 hq.2 hr hs hbody
      exact ⟨rfl, hrest⟩
    | _ => cases hword
  | key names =>
    cases q with
    | key names' =>
      obtain ⟨rfl, hrest⟩ := names_append_inj hp hq hbody
      exact ⟨rfl, hrest⟩
    | foreignKey fk => exact absurd hfirst (show "PRIMARY" ≠ "FOREIGN" by decide)
    | _ => cases hword
  | unique group =>
    cases q with
    | unique group' =>
      obtain ⟨rfl, hrest⟩ := names_append_inj hp hq hbody
      exact ⟨rfl, hrest⟩
    | _ => cases hword
  | foreignKey fk =>
    cases q with
    | foreignKey gk =>
      obtain ⟨rfl, hrest⟩ := foreignKeyBody_append_inj hp hq hbody
      exact ⟨rfl, hrest⟩
    | key names => exact absurd hfirst (show "FOREIGN" ≠ "PRIMARY" by decide)
    | _ => cases hword

theorem readsBack_parts : ReadsBack (fun parts : List TablePart => ∀ p ∈ parts, p.Readable)
    (EndsList EndsPart) (commaChars chars) :=
  readsBack_chars.commaChars (fun _ => .inl rfl) fun _ hp => hp.isName_first.startsName _

/-! ## What a part says -/

/-- The column, if the part defines one. -/
@[simp] def column? : TablePart → Option Column
  | column c => some c
  | key _ | unique _ | foreignKey _ => none

/-- The columns of the primary key, if the part declares it. -/
@[simp] def key? : TablePart → Option (List String)
  | key names => some names
  | column _ | unique _ | foreignKey _ => none

/-- The group of distinct columns, if the part declares one. -/
@[simp] def unique? : TablePart → Option (List String)
  | unique group => some group
  | column _ | key _ | foreignKey _ => none

/-- The foreign key, if the part declares one. -/
@[simp] def foreignKey? : TablePart → Option ForeignKey
  | foreignKey fk => some fk
  | column _ | key _ | unique _ => none

end TablePart

/-! ## Tables -/

/-- The column without the table that its handle names. -/
def Column.unowned (c : Column) : Column := { c with table := "" }

namespace Table

/-- The table with columns that name no table. -/
def unowned (t : Table) : Table := { t with columns := t.columns.map Column.unowned }

/-- What the definition of the table says, in order. -/
def parts (t : Table) : List TablePart :=
  t.columns.map (fun c => .column c.bare) ++
    ((if t.keyColumns.isEmpty then [] else [.key (t.keyColumns.map (·.name))]) ++
      (t.uniqueGroups.map .unique ++ t.foreignKeys.map .foreignKey))

/-- The table that has these parts.  The clause for the primary key says which columns belong to
it. -/
def ofParts (name : String) (parts : List TablePart) : Table where
  name := name
  columns := (parts.filterMap TablePart.column?).map fun c =>
    { c with isKey := c.name ∈ (parts.filterMap TablePart.key?).flatten }
  uniqueGroups := parts.filterMap TablePart.unique?
  foreignKeys := parts.filterMap TablePart.foreignKey?

/-- Every name in the table can be read, and no two columns share one. -/
structure Readable (t : Table) : Prop where
  name : IsName t.name
  columns : ∀ c ∈ t.columns, IsName c.name
  nodup : (t.columns.map (·.name)).Nodup
  groups : ∀ group ∈ t.uniqueGroups, ∀ name ∈ group, IsName name
  foreignKeys : ∀ fk ∈ t.foreignKeys,
    IsName fk.column ∧ IsName fk.refTable ∧ IsName fk.refColumn

variable {t : Table}

theorem mem_keyNames_iff (h : (t.columns.map (·.name)).Nodup) {c : Column} (hc : c ∈ t.columns) :
    c.name ∈ t.keyColumns.map (·.name) ↔ c.isKey = true := by
  unfold keyColumns
  constructor
  · intro hname
    obtain ⟨b, hb, hbc⟩ := List.mem_map.1 hname
    obtain ⟨hmem, hkey⟩ := List.mem_filter.1 hb
    obtain rfl := List.inj_on_of_nodup_map h hmem hc hbc
    exact hkey
  · intro hkey
    exact List.mem_map_of_mem (List.mem_filter.2 ⟨hc, hkey⟩)

/-- The parts of a table say all of it where names are distinct. -/
theorem ofParts_parts (h : (t.columns.map (·.name)).Nodup) :
    ofParts t.name t.parts = t.unowned := by
  have hcolumns : t.parts.filterMap TablePart.column? = t.columns.map Column.bare := by
    unfold parts
    split_ifs <;> simp [List.filterMap_cons, List.filterMap_map, Function.comp_def,
      -List.filterMap_eq_nil_iff]
  have hgroups : t.parts.filterMap TablePart.unique? = t.uniqueGroups := by
    unfold parts
    split_ifs <;> simp [List.filterMap_cons, List.filterMap_map, Function.comp_def]
  have hforeign : t.parts.filterMap TablePart.foreignKey? = t.foreignKeys := by
    unfold parts
    split_ifs <;> simp [List.filterMap_cons, List.filterMap_map, Function.comp_def]
  have hkey : (t.parts.filterMap TablePart.key?).flatten = t.keyColumns.map (·.name) := by
    unfold parts
    cases t.keyColumns <;> simp [List.filterMap_map, Function.comp_def]
  unfold ofParts unowned
  rw [hcolumns, hgroups, hforeign, hkey, List.map_map]
  congr 1
  refine List.map_congr_left fun c hc => ?_
  simp only [Function.comp_apply, Column.bare, Column.unowned, mem_keyNames_iff h hc,
    Bool.decide_eq_true]

theorem Readable.parts (h : t.Readable) : ∀ p ∈ t.parts, p.Readable := by
  intro p hp
  simp only [Table.parts, List.mem_append, List.mem_map] at hp
  rcases hp with ⟨c, hc, rfl⟩ | hp | ⟨group, hgroup, rfl⟩ | ⟨fk, hfk, rfl⟩
  · exact ⟨h.columns c hc, rfl⟩
  · split_ifs at hp
    · cases hp
    · obtain rfl := List.mem_singleton.1 hp
      intro name hname
      obtain ⟨c, hc, rfl⟩ := List.mem_map.1 hname
      exact h.columns c (List.mem_filter.1 hc).1
  · exact h.groups group hgroup
  · exact h.foreignKeys fk hfk

theorem parts_unowned (t : Table) : t.unowned.parts = t.parts := by
  have hkey : t.unowned.keyColumns = t.keyColumns.map Column.unowned := by
    unfold keyColumns unowned
    rw [List.filter_map]
    rfl
  unfold parts
  rw [hkey, List.isEmpty_map, List.map_map]
  simp only [unowned, List.map_map]
  rfl

end Table

namespace Dialect

theorem map_sql_parts (t : Table) :
    t.parts.map TablePart.sql = t.columns.map generic.columnSql ++ constraintsSql true t := by
  unfold Table.parts constraintsSql
  simp only [List.map_append, List.map_map, List.append_assoc]
  cases t.keyColumns <;> rfl

theorem toList_createTable {d : Dialect} (hd : d = .generic ∨ d = .h2) {t : Table} {sql : String}
    (h : d.createTable t = .ok sql) :
    sql.toList = "CREATE TABLE ".toList ++
      (t.name.toList ++ ' ' :: '(' :: (commaChars TablePart.chars t.parts ++ [')'])) := by
  have hsql : generic.tableSql true t = .ok sql := by rcases hd with rfl | rfl <;> exact h
  have hparts : (commaList (t.parts.map TablePart.sql)).toList =
      commaChars TablePart.chars t.parts := by
    rw [toList_commaList_map]
    simp only [TablePart.toList_sql]
  obtain ⟨-, rfl⟩ := tableSql_eq_ok_iff.1 hsql
  rw [← map_sql_parts]
  simp only [String.toList_append, hparts, List.append_assoc]
  rfl

/-- **Tables and their definitions.**  In a dialect with standard type names and a clause for the
primary key, two tables whose names can be read have one text exactly when they agree in their
names, their columns in order, with types, key, sizes and the rest, their groups of columns with
distinct values and their foreign keys. -/
theorem createTable_eq_iff {d : Dialect} (hd : d = .generic ∨ d = .h2) {t u : Table}
    (ht : t.Readable) (hu : u.Readable) {s s' : String} (hs : d.createTable t = .ok s)
    (hs' : d.createTable u = .ok s') : s = s' ↔ t.unowned = u.unowned := by
  rw [← String.toList_inj, toList_createTable hd hs, toList_createTable hd hs',
    List.append_cancel_left_eq]
  have hend : EndsList EndsPart [')'] := ⟨.inr rfl, stops_cons.2 rfl, by simp⟩
  constructor
  · intro h
    obtain ⟨hname, hopen⟩ := ht.name.append_cons_inj hu.name h rfl
    obtain ⟨hparts, -⟩ :=
      TablePart.readsBack_parts ht.parts hu.parts hend hend (List.cons.inj hopen).2
    rw [← Table.ofParts_parts ht.nodup, ← Table.ofParts_parts hu.nodup, hname, hparts]
  · intro h
    have hname : t.name = u.name := show t.unowned.name = u.unowned.name by rw [h]
    have hparts : t.parts = u.parts := by
      rw [← t.parts_unowned, ← u.parts_unowned, h]
    rw [hname, hparts]

/-- A group without columns is written and read. -/
theorem createTable_eq_iff_notes :
    ∃ s s', notes.Readable ∧ (notes.addUnique []).Readable ∧ h2.createTable notes = .ok s ∧
      h2.createTable (notes.addUnique []) = .ok s' ∧
      (s = s' ↔ notes.unowned = (notes.addUnique []).unowned) ∧ s ≠ s' := by
  have hnotes : notes.Readable := ⟨by decide, by decide, by decide, by decide, by decide⟩
  have hgroup : (notes.addUnique []).Readable :=
    ⟨by decide, by decide, by decide, by decide, by decide⟩
  have hsql : h2.createTable notes = .ok ("CREATE TABLE notes (" ++
      "id BIGINT NOT NULL AUTO_INCREMENT, title VARCHAR(80) NOT NULL, user_id BIGINT, " ++
      "PRIMARY KEY (id), UNIQUE (user_id, title), " ++
      "FOREIGN KEY (user_id) REFERENCES users(id))") := by decide +kernel
  have hsql' : h2.createTable (notes.addUnique []) = .ok ("CREATE TABLE notes (" ++
      "id BIGINT NOT NULL AUTO_INCREMENT, title VARCHAR(80) NOT NULL, user_id BIGINT, " ++
      "PRIMARY KEY (id), UNIQUE (user_id, title), UNIQUE (), " ++
      "FOREIGN KEY (user_id) REFERENCES users(id))") := by decide +kernel
  have hiff := createTable_eq_iff (.inr rfl) hnotes hgroup hsql hsql'
  exact ⟨_, _, hnotes, hgroup, hsql, hsql', hiff, fun h => absurd (hiff.1 h) (by decide)⟩

end Dialect

end SqlBuilder
