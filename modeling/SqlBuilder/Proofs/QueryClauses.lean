import SqlBuilder.Dialect.Query
import SqlBuilder.Proofs.ClauseReading
import SqlBuilder.Proofs.Filling

/-!
# The parts of a query

A query is written in parts that end where they can be seen to end.  No word between names begins
another one, nor does any of the connectors between conditions (`QueryWord.eq_of_prefix`).  So a
result column ends at a comma or at `FROM` (`Projection.readsBack_chars`), and a clause behind the
table ends where the next one begins (`QueryClause.readsBack_chars`): no clause begins as a
connector does, which tells `OR` from `ORDER BY` behind conditions, and a number of rows ends at a
blank.
-/

namespace SqlBuilder

open Text

/-! ## Words -/

/-- The words between the names of a query. -/
inductive QueryWord where
  | label
  | table
  | join (type : JoinType)
  | filter
  | connector (k : Connector)
  | groupBy
  | orderBy
  | limit
  | offset
deriving DecidableEq

namespace QueryWord

/-- The word with the blanks that always stand around it. -/
def sql : QueryWord → String
  | label => " AS "
  | table => " FROM "
  | join type => " " ++ type.sql ++ " "
  | filter => " WHERE"
  | connector k => " " ++ k.sql ++ " "
  | groupBy => " GROUP BY "
  | orderBy => " ORDER BY "
  | limit => " LIMIT "
  | offset => " OFFSET "

/-- The characters of the word. -/
def chars (w : QueryWord) : List Char := w.sql.toList

/-- All words, for facts that are checked pair by pair. -/
def all : List QueryWord :=
  [label, table, filter, groupBy, orderBy, limit, offset, connector .and, connector .or] ++
    JoinType.all.map join

theorem mem_all (w : QueryWord) : w ∈ all := by
  cases w with
  | join type => simp [all, JoinType.mem_all]
  | connector k => cases k <;> decide
  | _ => decide

theorem eq_of_prefix {a b : QueryWord} (h : a.chars <+: b.chars) : a = b := by
  have hall : ∀ a ∈ all, ∀ b ∈ all, a.chars <+: b.chars → a = b := by decide +kernel
  exact hall a a.mem_all b b.mem_all h

theorem append_inj {a b : QueryWord} {r s : List Char} (h : a.chars ++ r = b.chars ++ s) :
    a = b ∧ r = s :=
  append_inj_of_prefixFree (fun _ _ => eq_of_prefix) h

theorem head?_chars_append (w : QueryWord) (r : List Char) : (w.chars ++ r).head? = some ' ' := by
  have hall : ∀ w ∈ all, w.chars.head? = some ' ' := by decide
  rw [List.head?_append, hall w w.mem_all]
  rfl

theorem stops_chars_append (w : QueryWord) (r : List Char) : Stops (w.chars ++ r) := by
  intro ch hch
  rw [w.head?_chars_append r] at hch
  obtain rfl := Option.some.inj hch
  rfl

theorem chars_connector (k : Connector) : (connector k).chars = Condition.separator k := by
  cases k <;> decide

end QueryWord

/-! ## Result columns -/

namespace Projection

/-- The names in the result column can be read. -/
structure Readable (p : Projection) : Prop where
  name : IsName p.name
  label : ∀ l ∈ p.label, IsName l

instance (p : Projection) : Decidable p.Readable :=
  decidable_of_iff (IsName p.name ∧ ∀ l ∈ p.label, IsName l)
    ⟨fun h => ⟨h.1, h.2⟩, fun h => ⟨h.name, h.label⟩⟩

/-- A label with `AS` in front of it. -/
def labelChars : Option String → List Char
  | none => []
  | some label => QueryWord.label.chars ++ label.toList

/-- The characters of a result column. -/
def chars (p : Projection) : List Char := p.name.toList ++ labelChars p.label

/-- What may stand behind a result column. -/
inductive Ends : List Char → Prop
  | comma (r : List Char) : Ends (',' :: r)
  | table (r : List Char) : Ends (QueryWord.table.chars ++ r)

theorem toList_sql (p : Projection) : p.sql.toList = p.chars := by
  obtain ⟨name, label⟩ := p
  unfold sql chars labelChars
  cases label with
  | none => simp
  | some label =>
    simp only [String.toList_append, List.append_assoc]
    rfl

theorem Ends.stops {r : List Char} (h : Ends r) : Stops r := by
  cases h with
  | comma r => exact stops_cons.2 rfl
  | table r => exact QueryWord.table.stops_chars_append r

theorem Ends.ne_label {r : List Char} (h : Ends r) (s : List Char) :
    r ≠ QueryWord.label.chars ++ s := by
  intro heq
  cases h with
  | comma r =>
    have hhead := QueryWord.label.head?_chars_append s
    rw [← heq] at hhead
    simp at hhead
  | table r => simpa using (QueryWord.append_inj heq).1

theorem stops_labelChars_append (label : Option String) {r : List Char} (hr : Ends r) :
    Stops (labelChars label ++ r) := by
  cases label with
  | none => exact hr.stops
  | some label =>
    unfold labelChars
    rw [List.append_assoc]
    exact QueryWord.label.stops_chars_append _

theorem readsBack_chars : ReadsBack Readable Ends chars := by
  rintro ⟨name, label⟩ ⟨name', label'⟩ r s hp hq hr hs h
  unfold chars at h
  rw [List.append_assoc, List.append_assoc] at h
  obtain ⟨rfl, hlabels⟩ := readsBack_name hp.name hq.name
    (stops_labelChars_append label hr) (stops_labelChars_append label' hs) h
  cases label with
  | none =>
    cases label' with
    | none => exact ⟨rfl, hlabels⟩
    | some label' =>
      rw [labelChars, labelChars, List.append_assoc] at hlabels
      exact absurd hlabels (hr.ne_label _)
  | some label =>
    cases label' with
    | none =>
      rw [labelChars, labelChars, List.append_assoc] at hlabels
      exact absurd hlabels.symm (hs.ne_label _)
    | some label' =>
      rw [labelChars, labelChars, List.append_assoc, List.append_assoc] at hlabels
      obtain ⟨rfl, hrest⟩ := readsBack_name (hp.label label rfl) (hq.label label' rfl)
        hr.stops hs.stops (QueryWord.append_inj hlabels).2
      exact ⟨rfl, hrest⟩

/-! ### Lists of result columns -/

/-- The result columns of a query; no column means all of them. -/
def listChars (ps : List Projection) : List Char :=
  if ps.isEmpty then ['*'] else commaChars chars ps

theorem listChars_cons (p : Projection) (ps : List Projection) (r : List Char) :
    listChars (p :: ps) ++ r = p.name.toList ++
      (labelChars p.label ++ ((ps.flatMap fun q => ',' :: ' ' :: q.chars) ++ r)) := by
  rw [listChars, List.isEmpty_cons, if_neg Bool.false_ne_true, commaChars_cons, chars]
  simp only [List.append_assoc]

theorem ends_flatMap_append (ps : List Projection) (r : List Char) :
    Ends ((ps.flatMap fun q => ',' :: ' ' :: q.chars) ++ (QueryWord.table.chars ++ r)) := by
  cases ps with
  | nil => exact .table r
  | cons p ps => exact .comma _

section List

variable {ps qs : List Projection} (hps : ∀ p ∈ ps, p.Readable)
include hps

theorem listChars_append_inj (hqs : ∀ q ∈ qs, q.Readable) {r s : List Char}
    (h : listChars ps ++ (QueryWord.table.chars ++ r) =
      listChars qs ++ (QueryWord.table.chars ++ s)) : ps = qs ∧ r = s := by
  have hend (r : List Char) : EndsList Ends (QueryWord.table.chars ++ r) := by
    refine ⟨.table r, QueryWord.table.stops_chars_append r, ?_⟩
    rw [QueryWord.head?_chars_append]
    decide
  have hstar (r : List Char) : Stops ('*' :: r) := stops_cons.2 rfl
  cases ps with
  | nil =>
    cases qs with
    | nil => exact ⟨rfl, List.append_cancel_left (List.append_cancel_left h)⟩
    | cons q qs =>
      have hname := (hqs q List.mem_cons_self).name
      rw [listChars_cons] at h
      exact absurd h.symm ((hname.startsName _).ne (hstar _))
  | cons p ps =>
    cases qs with
    | nil =>
      have hname := (hps p List.mem_cons_self).name
      rw [listChars_cons] at h
      exact absurd h ((hname.startsName _).ne (hstar _))
    | cons q qs =>
      have hlist : ReadsBack (fun ps : List Projection => ∀ p ∈ ps, p.Readable) (EndsList Ends)
          (commaChars chars) :=
        readsBack_chars.commaChars .comma fun _ hp => hp.name.startsName _
      obtain ⟨heq, hrest⟩ := hlist hps hqs (hend r) (hend s) h
      exact ⟨heq, List.append_cancel_left hrest⟩

/-- Result columns do not begin with `DISTINCT` unless one has that name. -/
theorem listChars_append_ne (hne : ∀ p ∈ ps, p.name ≠ "DISTINCT") (r s : List Char) :
    listChars ps ++ (QueryWord.table.chars ++ r) ≠ "DISTINCT".toList ++ ' ' :: s := by
  have hdistinct : IsName "DISTINCT" := by decide
  intro h
  cases ps with
  | nil => exact (hdistinct.startsName _).ne (stops_cons.2 rfl) h.symm
  | cons p ps =>
    rw [listChars_cons] at h
    have hstops := stops_labelChars_append p.label (ends_flatMap_append ps r)
    obtain ⟨hname, -⟩ := readsBack_name (hps p List.mem_cons_self).name hdistinct hstops
      (stops_cons.2 rfl) h
    exact hne p List.mem_cons_self hname

end List

end Projection

/-! ## Sort terms -/

namespace SortTerm

/-- The characters of a sort term. -/
def chars (s : SortTerm) : List Char :=
  s.column.toList ++ ' ' :: (if s.ascending then "ASC" else "DESC").toList

theorem toList_sql (s : SortTerm) : s.sql.toList = s.chars := by
  have hdirection : ∀ b : Bool, (if b then " ASC" else " DESC").toList =
      ' ' :: (if b then "ASC" else "DESC").toList := by decide
  unfold sql chars
  rw [String.toList_append, hdirection]

theorem readsBack_chars :
    ReadsBack (fun s : SortTerm => IsName s.column) (fun _ => True) chars := by
  rintro ⟨column, ascending⟩ ⟨column', ascending'⟩ r s hcolumn hcolumn' - - h
  have hfree (a b : Bool) : (if a then "ASC" else "DESC").toList <+:
      (if b then "ASC" else "DESC").toList → a = b := by
    cases a <;> cases b <;> decide
  unfold chars at h
  simp only [List.append_assoc, List.cons_append] at h
  obtain ⟨rfl, hdirection⟩ := IsName.append_cons_inj hcolumn hcolumn' h rfl
  obtain ⟨rfl, hrest⟩ := append_inj_of_prefixFree hfree hdirection
  exact ⟨rfl, hrest⟩

theorem readsBack_terms :
    ReadsBack (fun ss : List SortTerm => ∀ s ∈ ss, IsName s.column) (EndsList fun _ => True)
      (commaChars chars) :=
  readsBack_chars.commaChars (fun _ => trivial) fun _ hs => hs.startsName _

end SortTerm

/-! ## Clauses -/

/-- A clause behind the table of a query.  Conditions stand for themselves; a limit may be one that
limits nothing. -/
inductive QueryClause where
  | join (j : Join)
  | filter (conditions : List Char)
  | groupBy (columns : List String)
  | orderBy (terms : List SortTerm)
  | limit (n : Option UInt64)
  | offset (n : UInt64)

/-- A number of rows, or `-1` for no limit. -/
def limitText : Option UInt64 → String
  | none => "-1"
  | some n => toString n.toNat

theorem notMem_limitText (n : Option UInt64) : ' ' ∉ (limitText n).toList := by
  cases n with
  | none => exact show ' ' ∉ "-1".toList by decide
  | some n => exact notMem_toString (by decide) n.toNat

theorem limitText_inj {m n : Option UInt64} (h : (limitText m).toList = (limitText n).toList) :
    m = n := by
  have hnone (n : UInt64) : "-1".toList ≠ (limitText (some n)).toList := by
    intro h
    have hdash : '-' ∉ (limitText (some n)).toList := notMem_toString (by decide) n.toNat
    rw [← h] at hdash
    exact hdash (by decide)
  cases m with
  | none =>
    cases n with
    | none => rfl
    | some n => exact absurd h (hnone n)
  | some m =>
    cases n with
    | none => exact absurd h.symm (hnone m)
    | some n => rw [UInt64.toNat_inj.1 (toList_toString_inj h)]

namespace QueryClause

/-- The word that the clause begins with. -/
def word : QueryClause → QueryWord
  | join j => .join j.type
  | filter _ => .filter
  | groupBy _ => .groupBy
  | orderBy _ => .orderBy
  | limit _ => .limit
  | offset _ => .offset

/-- What stands behind the first word of the clause. -/
def body : QueryClause → List Char
  | join j => j.table.toList ++ ' ' :: ("ON ".toList ++
      (j.column.toList ++ ' ' :: ("= ".toList ++ j.onColumn.toList)))
  | filter conditions => conditions
  | groupBy columns => commaChars String.toList columns
  | orderBy terms => commaChars SortTerm.chars terms
  | limit n => (limitText n).toList
  | offset n => (limitText (some n)).toList

/-- The characters of the clause. -/
def chars (c : QueryClause) : List Char := c.word.chars ++ c.body

/-- The names in the clause can be read, and the conditions in it are conditions. -/
def Readable : QueryClause → Prop
  | join j => IsName j.table ∧ IsName j.column ∧ IsName j.onColumn
  | filter conditions => ∃ cs, Condition.Turns cs ∧ Condition.AllPlain cs ∧
      Condition.clauseChars cs = conditions
  | groupBy columns => ∀ column ∈ columns, IsName column
  | orderBy terms => ∀ s ∈ terms, IsName s.column
  | limit _ => True
  | offset _ => True

/-- What may stand behind a clause: nothing, or another one. -/
inductive Ends : List Char → Prop
  | nil : Ends []
  | clause (c : QueryClause) (r : List Char) : Ends (c.chars ++ r)

theorem chars_append (c : QueryClause) (r : List Char) :
    c.chars ++ r = c.word.chars ++ (c.body ++ r) :=
  List.append_assoc _ _ _

namespace Ends

variable {r : List Char}

theorem stops (h : Ends r) : Stops r := by
  cases h with
  | nil => exact stops_nil
  | clause c r =>
    rw [chars_append]
    exact c.word.stops_chars_append _

theorem head?_ne (h : Ends r) {ch : Char} (hch : ch ≠ ' ') : r.head? ≠ some ch := by
  cases h with
  | nil => simp
  | clause c r =>
    rw [chars_append, QueryWord.head?_chars_append]
    simpa using hch.symm

theorem endsList (h : Ends r) {R : List Char → Prop} (hR : R r) : EndsList R r :=
  ⟨hR, h.stops, h.head?_ne (by decide)⟩

/-- No clause begins as a connector with spaces does. -/
theorem ne_separator (h : Ends r) (k : Connector) (behind : List Char) :
    r ≠ Condition.separator k ++ behind := by
  rw [← QueryWord.chars_connector]
  cases h with
  | nil =>
    intro heq
    have hhead := (QueryWord.connector k).head?_chars_append behind
    rw [← heq] at hhead
    simp at hhead
  | clause c r =>
    rw [chars_append]
    intro heq
    have hword := (QueryWord.append_inj heq).1
    cases c <;> cases hword

/-- A number ends where a clause begins. -/
theorem limitText_append_inj (h : Ends r) {s : List Char} (hs : Ends s) {m n : Option UInt64}
    (heq : (limitText m).toList ++ r = (limitText n).toList ++ s) : m = n ∧ r = s := by
  have hspan (n : Option UInt64) : ∀ ch ∈ (limitText n).toList, (ch != ' ') = true := by
    intro ch hch
    simpa using fun heq : ch = ' ' => notMem_limitText n (heq ▸ hch)
  have hend {r : List Char} (h : Ends r) : ∀ ch ∈ r.head?, (ch != ' ') = false := by
    intro ch hch
    by_cases hblank : ch = ' '
    · simp [hblank]
    · exact absurd hch (h.head?_ne hblank)
  obtain ⟨htext, hrest⟩ := append_inj_of_span (hspan m) (hspan n) (hend h) (hend hs) heq
  exact ⟨limitText_inj htext, hrest⟩

end Ends

theorem joinBody_append_inj {j l : Join} (htype : j.type = l.type) (hj : (join j).Readable)
    (hl : (join l).Readable) {r s : List Char} (hr : Ends r) (hs : Ends s)
    (h : (join j).body ++ r = (join l).body ++ s) : j = l ∧ r = s := by
  obtain ⟨type, table, column, onColumn⟩ := j
  obtain ⟨type', table', column', onColumn'⟩ := l
  obtain ⟨htable, hcolumn, hon⟩ : IsName table ∧ IsName column ∧ IsName onColumn := hj
  obtain ⟨htable', hcolumn', hon'⟩ : IsName table' ∧ IsName column' ∧ IsName onColumn' := hl
  obtain rfl : type = type' := htype
  simp only [body, List.append_assoc, List.cons_append] at h
  obtain ⟨rfl, hcolumns⟩ := htable.append_cons_inj htable' h rfl
  obtain ⟨rfl, honColumn⟩ :=
    hcolumn.append_cons_inj hcolumn' (List.append_cancel_left hcolumns) rfl
  obtain ⟨rfl, hrest⟩ :=
    readsBack_name hon hon' hr.stops hs.stops (List.append_cancel_left honColumn)
  exact ⟨rfl, hrest⟩

theorem filterBody_append_inj {cs ds : List Char} (hcs : (filter cs).Readable)
    (hds : (filter ds).Readable) {r s : List Char} (hr : Ends r) (hs : Ends s)
    (h : (filter cs).body ++ r = (filter ds).body ++ s) : cs = ds ∧ r = s := by
  obtain ⟨cs, hturns, hplain, rfl⟩ := hcs
  obtain ⟨ds, hturns', hplain', rfl⟩ := hds
  obtain ⟨hnorm, hrest⟩ := Condition.clauseChars_append_inj hturns hturns' hplain hplain'
    hr.ne_separator hs.ne_separator h
  exact ⟨Condition.clauseChars_eq_of_map_normalize_eq hnorm, hrest⟩

/-- A clause is told from whatever clauses stand behind it. -/
theorem readsBack_chars : ReadsBack Readable Ends chars := by
  intro c d r s hc hd hr hs h
  rw [chars_append, chars_append] at h
  obtain ⟨hword, hbody⟩ := QueryWord.append_inj h
  cases c with
  | join j =>
    cases d with
    | join l =>
      obtain ⟨rfl, hrest⟩ :=
        joinBody_append_inj (QueryWord.join.inj hword) hc hd hr hs hbody
      exact ⟨rfl, hrest⟩
    | _ => cases hword
  | filter cs =>
    cases d with
    | filter ds =>
      obtain ⟨rfl, hrest⟩ := filterBody_append_inj hc hd hr hs hbody
      exact ⟨rfl, hrest⟩
    | _ => cases hword
  | groupBy columns =>
    cases d with
    | groupBy columns' =>
      obtain ⟨rfl, hrest⟩ := readsBack_names hc hd (hr.endsList hr.stops) (hs.endsList hs.stops)
        hbody
      exact ⟨rfl, hrest⟩
    | _ => cases hword
  | orderBy terms =>
    cases d with
    | orderBy terms' =>
      obtain ⟨rfl, hrest⟩ := SortTerm.readsBack_terms hc hd (hr.endsList trivial)
        (hs.endsList trivial) hbody
      exact ⟨rfl, hrest⟩
    | _ => cases hword
  | limit m =>
    cases d with
    | limit n =>
      obtain ⟨rfl, hrest⟩ := hr.limitText_append_inj hs hbody
      exact ⟨rfl, hrest⟩
    | _ => cases hword
  | offset m =>
    cases d with
    | offset n =>
      obtain ⟨hnumber, hrest⟩ := hr.limitText_append_inj hs hbody
      obtain rfl := Option.some.inj hnumber
      exact ⟨rfl, hrest⟩
    | _ => cases hword

/-- The clauses behind a table are told from nothing behind them. -/
theorem readsBack_clauses : ReadsBack (fun cs : List QueryClause => ∀ c ∈ cs, c.Readable)
    (· = []) (List.flatMap chars) := by
  refine readsBack_chars.flatMap (fun c r _ => .clause c r) ?_ ?_
  · rintro r rfl
    exact .nil
  · rintro c r s - rfl
    rw [chars_append]
    intro h
    have hhead := c.word.head?_chars_append (c.body ++ r)
    rw [h] at hhead
    cases hhead

end QueryClause

end SqlBuilder
