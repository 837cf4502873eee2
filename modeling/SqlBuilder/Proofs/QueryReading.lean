import SqlBuilder.Proofs.Placeholders
import SqlBuilder.Proofs.QueryClauses

/-!
# Reading queries back

The text of a SELECT says what every clause of the query says.  It is the result columns, the table
and a list of clauses (`Query.toList_sql`), each of which is told from what stands behind it;
`DISTINCT` is told from a result column unless a column has that name, and where SQLite writes a
limit that limits nothing, no number looks like it.  The clauses make all of the query but its
conditions (`Query.foldl_addTo_clauses`), of which they have the text.  So two queries have one text
exactly when they agree in all clauses, and in the text of their conditions (`Query.sql_eq_iff`).
-/

namespace SqlBuilder

open Text

namespace QueryClause

/-! ## Lists of clauses -/

section OfList

variable {α β : Type} {clause : List α → QueryClause} {xs : List α}

/-- The clause for a list, left out when the list is empty. -/
def ofList (clause : List α → QueryClause) (xs : List α) : List QueryClause :=
  if xs.isEmpty then [] else [clause xs]

theorem mem_ofList_iff {c : QueryClause} : c ∈ ofList clause xs ↔ xs ≠ [] ∧ c = clause xs := by
  cases xs <;> simp [ofList]

theorem foldl_ofList {step : β → QueryClause → β} {b : β} (h : step b (clause []) = b) :
    (ofList clause xs).foldl step b = step b (clause xs) := by
  cases xs <;> simp [ofList, h]

theorem flatMap_ofList {f : QueryClause → List β} (h : f (clause []) = []) :
    (ofList clause xs).flatMap f = f (clause xs) := by
  cases xs <;> simp [ofList, h]

end OfList

/-- The limits that are there, in the order of their text. -/
def standardLimits (m n : Option UInt64) : List QueryClause :=
  m.toList.map (fun m => limit (some m)) ++ n.toList.map offset

/-- The limits of a bundled dialect, in the order of their text. -/
def limits : Bundled → Option UInt64 → Option UInt64 → List QueryClause
  | .sqlite, none, some n => [limit none, offset n]
  | _, m, n => standardLimits m n

theorem readable_limits (b : Bundled) (m n : Option UInt64) : ∀ c ∈ limits b m n, c.Readable := by
  cases b <;> cases m <;> cases n <;> simp [limits, standardLimits, Readable]

/-! ## What a clause says -/

/-- The query with one more clause.  Of conditions there is only the text. -/
def addTo (q : Query) : QueryClause → Query
  | join j => { q with joins := q.joins ++ [j] }
  | filter _ => q
  | groupBy columns => { q with groupBy := columns }
  | orderBy terms => { q with orderBy := terms }
  | limit n => { q with limit := n }
  | offset n => { q with offset := some n }

theorem foldl_addTo_joins (q : Query) (joins : List Join) :
    (joins.map join).foldl addTo q = { q with joins := q.joins ++ joins } := by
  induction joins generalizing q with
  | nil => simp
  | cons j joins ih => simp [ih, addTo]

/-- What a clause says of conditions: their characters in a WHERE clause, nothing in another. -/
@[simp] def conditionChars : QueryClause → List Char
  | filter conditions => conditions
  | join _ | groupBy _ | orderBy _ | limit _ | offset _ => []

end QueryClause

/-! ## The text of a query -/

section Limits

variable (limit offset : Option UInt64)

theorem toList_standardLimits :
    (standardLimits limit offset).toList =
      (QueryClause.standardLimits limit offset).flatMap QueryClause.chars := by
  unfold standardLimits QueryClause.standardLimits
  rw [String.toList_append, List.flatMap_append]
  congr 1
  · cases limit with
    | none => rfl
    | some n =>
      rw [String.toList_append, Option.toList_some, List.map_singleton, List.flatMap_singleton]
      rfl
  · cases offset with
    | none => rfl
    | some n =>
      rw [String.toList_append, Option.toList_some, List.map_singleton, List.flatMap_singleton]
      rfl

theorem Bundled.toList_limits (b : Bundled) :
    (b.dialect.limits limit offset).toList =
      (QueryClause.limits b limit offset).flatMap QueryClause.chars := by
  have hstandard := toList_standardLimits limit offset
  cases b with
  | sqlite =>
    cases limit with
    | some n => exact hstandard
    | none =>
      cases offset with
      | none => exact hstandard
      | some n =>
        have hnone : " LIMIT -1 OFFSET ".toList =
            (QueryClause.limit none).chars ++ " OFFSET ".toList := by decide
        show (" LIMIT -1 OFFSET " ++ toString n.toNat).toList = _
        rw [String.toList_append, hnone, List.append_assoc, QueryClause.limits,
          List.flatMap_cons, List.flatMap_singleton]
        rfl
  | _ => exact hstandard

end Limits

namespace Query

/-- The clauses behind the table, in the order of their text. -/
def clauses (b : Bundled) (q : Query) : List QueryClause :=
  q.joins.map .join ++ (QueryClause.ofList .filter (Condition.clauseChars q.conditions) ++
    (QueryClause.ofList .groupBy q.groupBy ++ (QueryClause.ofList .orderBy q.orderBy ++
      QueryClause.limits b q.limit q.offset)))

/-- What stands between `SELECT` and the result columns. -/
def distinctChars (distinct : Bool) : List Char :=
  if distinct then "DISTINCT".toList ++ [' '] else []

/-- The text behind `SELECT`. -/
def chars (b : Bundled) (q : Query) : List Char :=
  distinctChars q.distinct ++ (Projection.listChars q.columns ++ (QueryWord.table.chars ++
    (q.table.toList ++ (q.clauses b).flatMap QueryClause.chars)))

theorem toList_columnsSql (q : Query) : q.columnsSql.toList = Projection.listChars q.columns := by
  unfold columnsSql Projection.listChars
  split_ifs
  · rfl
  · rw [toList_commaList_map]
    simp only [Projection.toList_sql]

theorem toList_headSql (q : Query) :
    q.headSql.toList = "SELECT ".toList ++ (distinctChars q.distinct ++
      (Projection.listChars q.columns ++ (QueryWord.table.chars ++ q.table.toList))) := by
  unfold headSql distinctChars
  cases q.distinct <;>
    simp only [String.toList_append, toList_columnsSql, List.append_assoc] <;>
    rfl

theorem toList_joinSql (j : Join) : (" " ++ j.sql).toList = (QueryClause.join j).chars := by
  have hon : " ON ".toList = ' ' :: "ON ".toList := by decide
  have heq : " = ".toList = ' ' :: "= ".toList := by decide
  unfold Join.sql QueryClause.chars QueryClause.word QueryClause.body QueryWord.chars
    QueryWord.sql
  simp only [String.toList_append, hon, heq, List.append_assoc, List.cons_append]

theorem toList_joinsText (joins : List Join) :
    (joinsText joins).toList = (joins.map QueryClause.join).flatMap QueryClause.chars := by
  induction joins with
  | nil => rfl
  | cons j joins ih =>
    rw [joinsText, List.map_cons, String.join_cons, String.toList_append, ← joinsText, ih,
      toList_joinSql, List.map_cons, List.flatMap_cons]

theorem toList_clauseSuffix {cs : List Condition} {t : Template}
    (h : Condition.clauseSuffix cs = .ok t) :
    (t.render "?").toList =
      (QueryClause.ofList .filter (Condition.clauseChars cs)).flatMap QueryClause.chars := by
  rcases Condition.clauseSuffix_outcomes h with ⟨rfl, htext⟩ | ⟨hturns, s, hs, htext⟩
  · rw [htext]
    rfl
  · have hne : (Condition.clauseChars cs).isEmpty = false := by cases hturns <;> rfl
    have hword : " WHERE".toList = " ".toList ++ "WHERE".toList := by decide
    rw [htext, String.toList_append, Condition.toList_clauseSql hs, QueryClause.ofList, hne,
      if_neg Bool.false_ne_true, List.flatMap_singleton, QueryClause.chars, ← List.append_assoc,
      ← hword]
    rfl

theorem toList_groupSql (q : Query) :
    q.groupSql.toList = (QueryClause.ofList .groupBy q.groupBy).flatMap QueryClause.chars := by
  unfold groupSql QueryClause.ofList
  split_ifs
  · rfl
  · rw [String.toList_append, toList_commaList, List.flatMap_singleton]
    rfl

theorem toList_orderSql (q : Query) :
    q.orderSql.toList = (QueryClause.ofList .orderBy q.orderBy).flatMap QueryClause.chars := by
  unfold orderSql QueryClause.ofList
  split_ifs
  · rfl
  · rw [String.toList_append, toList_commaList_map, List.flatMap_singleton]
    simp only [SortTerm.toList_sql]
    rfl

theorem toList_sql {b : Bundled} {q : Query} {s : String}
    (h : (Wording.query q).sql b.dialect = .ok s) :
    s.toList = "SELECT ".toList ++ q.chars b := by
  obtain ⟨t, ht, rfl⟩ := map_eq_ok_iff.1 h
  obtain ⟨joins, hjoins, suffix, hsuffix, rfl⟩ := return₂_eq_ok_iff.1 ht
  obtain rfl := joinsSql_eq hjoins
  have hhead := q.toList_headSql
  have hlimits := b.toList_limits q.limit q.offset
  simp only [Template.render_append, Template.render_cons, Template.render_nil, Fragment.render,
    Bundled.placeholder_dialect, String.toList_append, hhead, hlimits, toList_joinsText,
    toList_clauseSuffix hsuffix, toList_groupSql, toList_orderSql, List.append_assoc, chars,
    clauses, List.flatMap_append, String.toList_empty, List.append_nil]

/-! ## Reading a query -/

/-- Every name in the query can be read, every sub query ends where its parenthesis does, and no
result column is called as the word in front of them. -/
structure Readable (q : Query) : Prop where
  table : IsName q.table
  columns : ∀ p ∈ q.columns, p.Readable
  notDistinct : ∀ p ∈ q.columns, p.name ≠ "DISTINCT"
  joins : ∀ j ∈ q.joins, IsName j.table ∧ IsName j.column ∧ IsName j.onColumn
  conditions : Condition.AllPlain q.conditions
  groupBy : ∀ column ∈ q.groupBy, IsName column
  orderBy : ∀ s ∈ q.orderBy, IsName s.column

/-- The queries agree in all clauses, and their conditions have one text. -/
structure SameClauses (q r : Query) : Prop where
  table : q.table = r.table
  distinct : q.distinct = r.distinct
  columns : q.columns = r.columns
  joins : q.joins = r.joins
  conditions : Condition.clauseSql "?" q.conditions = Condition.clauseSql "?" r.conditions
  groupBy : q.groupBy = r.groupBy
  orderBy : q.orderBy = r.orderBy
  limit : q.limit = r.limit
  offset : q.offset = r.offset

theorem Readable.clauses (b : Bundled) {q : Query} (h : q.Readable) {t : Template}
    (ht : Condition.clauseSuffix q.conditions = .ok t) : ∀ c ∈ q.clauses b, c.Readable := by
  intro c hc
  simp only [Query.clauses, List.mem_append, List.mem_map, QueryClause.mem_ofList_iff] at hc
  rcases hc with ⟨j, hj, rfl⟩ | ⟨hne, rfl⟩ | ⟨-, rfl⟩ | ⟨-, rfl⟩ | hc
  · exact h.joins j hj
  · rcases Condition.clauseSuffix_outcomes ht with ⟨hnone, -⟩ | ⟨hturns, -⟩
    · exact absurd (Condition.clauseChars_eq_nil_iff.2 hnone) hne
    · exact ⟨q.conditions, hturns, h.conditions, rfl⟩
  · exact h.groupBy
  · exact h.orderBy
  · exact QueryClause.readable_limits b _ _ c hc

section Clauses

variable (b : Bundled) (q : Query)

/-- The clauses of a query make all of it but its conditions. -/
theorem foldl_addTo_clauses :
    (q.clauses b).foldl QueryClause.addTo { q with
        joins := [], conditions := [], groupBy := [], orderBy := [], limit := none,
        offset := none } =
      { q with conditions := [] } := by
  have hlimits (q : Query) : (QueryClause.limits b q.limit q.offset).foldl QueryClause.addTo
      { q with limit := none, offset := none } = q := by
    obtain ⟨_, _, _, _, _, _, _, limit, offset⟩ := q
    cases b <;> cases limit <;> cases offset <;> rfl
  unfold clauses
  rw [List.foldl_append, QueryClause.foldl_addTo_joins, List.foldl_append,
    QueryClause.foldl_ofList rfl, List.foldl_append, QueryClause.foldl_ofList rfl,
    List.foldl_append, QueryClause.foldl_ofList rfl]
  exact hlimits { q with conditions := [] }

theorem flatMap_conditionChars_clauses :
    (q.clauses b).flatMap QueryClause.conditionChars = Condition.clauseChars q.conditions := by
  have hjoins : (q.joins.map QueryClause.join).flatMap QueryClause.conditionChars = [] := by
    simp
  have hlimits : (QueryClause.limits b q.limit q.offset).flatMap QueryClause.conditionChars =
      [] := by
    cases b <;> cases q.limit <;> cases q.offset <;> rfl
  unfold clauses
  rw [List.flatMap_append, List.flatMap_append, List.flatMap_append, List.flatMap_append, hjoins,
    QueryClause.flatMap_ofList rfl, QueryClause.flatMap_ofList rfl,
    QueryClause.flatMap_ofList rfl, hlimits]
  simp

end Clauses

theorem distinctChars_append_inj {d e : Bool} {r s : List Char}
    (hr : ∀ behind, r ≠ "DISTINCT".toList ++ ' ' :: behind)
    (hs : ∀ behind, s ≠ "DISTINCT".toList ++ ' ' :: behind)
    (h : distinctChars d ++ r = distinctChars e ++ s) : d = e ∧ r = s := by
  unfold distinctChars at h
  by_cases hd : d = true
  · by_cases he : e = true
    · rw [if_pos hd, if_pos he] at h
      exact ⟨hd.trans he.symm, List.append_cancel_left h⟩
    · rw [if_pos hd, if_neg he, List.append_assoc] at h
      exact absurd h.symm (hs r)
  · by_cases he : e = true
    · rw [if_neg hd, if_pos he, List.append_assoc] at h
      exact absurd h (hr s)
    · rw [if_neg hd, if_neg he] at h
      exact ⟨by simp [hd, he], h⟩

section Reading

variable {b : Bundled} {q r : Query}

/-- The text of the query has a WHERE clause or none. -/
theorem exists_clauseSuffix_of_sql {d : Dialect} {s : String}
    (h : (Wording.query q).sql d = .ok s) :
    ∃ t, Condition.clauseSuffix q.conditions = .ok t := by
  obtain ⟨t, ht, -⟩ := map_eq_ok_iff.1 h
  obtain ⟨-, -, suffix, hsuffix, -⟩ := return₂_eq_ok_iff.1 ht
  exact ⟨suffix, hsuffix⟩

/-- What the text says is read off from left to right. -/
theorem clauses_eq_of_chars_eq (hq : q.Readable) (hr : r.Readable)
    (hqc : ∀ c ∈ q.clauses b, c.Readable) (hrc : ∀ c ∈ r.clauses b, c.Readable)
    (h : q.chars b = r.chars b) :
    q.distinct = r.distinct ∧ q.columns = r.columns ∧ q.table = r.table ∧
      q.clauses b = r.clauses b := by
  have hstops (cs : List QueryClause) : Stops (cs.flatMap QueryClause.chars) := by
    cases cs with
    | nil => exact stops_nil
    | cons c cs => exact (QueryClause.Ends.clause c _).stops
  obtain ⟨hdistinct, hlist⟩ := distinctChars_append_inj
    (Projection.listChars_append_ne hq.columns hq.notDistinct _)
    (Projection.listChars_append_ne hr.columns hr.notDistinct _) h
  obtain ⟨hcolumns, hbehind⟩ := Projection.listChars_append_inj hq.columns hr.columns hlist
  obtain ⟨htable, hclauses⟩ :=
    readsBack_name hq.table hr.table (hstops _) (hstops _) hbehind
  have hread := @QueryClause.readsBack_clauses (q.clauses b) (r.clauses b) [] [] hqc hrc rfl rfl
  exact ⟨hdistinct, hcolumns, htable, (hread (by rw [hclauses])).1⟩

/-- **Queries and their text.**  In a bundled dialect, two queries whose names can be read have one
text exactly when they agree in their tables, whether rows are distinct, their result columns with
labels, their joins, their columns to group and to sort by with directions, and their limits, and
when their conditions make the same WHERE clause. -/
theorem sql_eq_iff (b : Bundled) (hq : q.Readable) (hr : r.Readable) {s s' : String}
    (hs : (Wording.query q).sql b.dialect = .ok s)
    (hs' : (Wording.query r).sql b.dialect = .ok s') : s = s' ↔ q.SameClauses r := by
  obtain ⟨t, ht⟩ := exists_clauseSuffix_of_sql hs
  obtain ⟨u, hu⟩ := exists_clauseSuffix_of_sql hs'
  obtain ⟨clause, hclause⟩ := Condition.exists_clauseSql_of_clauseSuffix ht
  obtain ⟨clause', hclause'⟩ := Condition.exists_clauseSql_of_clauseSuffix hu
  have hconditions := Condition.clauseSql_eq_iff_clauseChars_eq hclause hclause'
  rw [← String.toList_inj, toList_sql hs, toList_sql hs', List.append_cancel_left_eq]
  constructor
  · intro h
    obtain ⟨hdistinct, hcolumns, htable, hclauses⟩ :=
      clauses_eq_of_chars_eq hq hr (hq.clauses b ht) (hr.clauses b hu) h
    have hwhere : clause = clause' := by
      rw [hconditions, ← flatMap_conditionChars_clauses b q, hclauses,
        flatMap_conditionChars_clauses]
    have hrest : ({ q with conditions := [] } : Query) = { r with conditions := [] } := by
      rw [← foldl_addTo_clauses b q, ← foldl_addTo_clauses b r, hclauses, htable, hdistinct,
        hcolumns]
    injection hrest with _ _ _ hjoins _ hgroup horder hlimit hoffset
    exact ⟨htable, hdistinct, hcolumns, hjoins, by rw [hclause, hclause', hwhere], hgroup, horder,
      hlimit, hoffset⟩
  · intro h
    have hwhere : clause = clause' :=
      Except.ok.inj (hclause.symm.trans (h.conditions.trans hclause'))
    unfold chars clauses
    rw [h.distinct, h.columns, h.table, h.joins, hconditions.1 hwhere, h.groupBy, h.orderBy,
      h.limit, h.offset]

end Reading

/-- Authors with their posts, from the eleventh row on. -/
def latePosts (limit : Option UInt64) : Query where
  table := "users"
  distinct := true
  columns := [⟨"users.name", some "author"⟩, ⟨"posts.title", none⟩]
  joins := [⟨.left, "posts", "posts.user_id", "users.id"⟩]
  conditions := [.group .or [.null .isNull "posts.title", .among .isNotIn "users.id" 2],
    .connector .and, .amongQuery .isIn "users.id" "SELECT id FROM admins"]
  groupBy := ["users.name"]
  orderBy := [⟨"posts.title", false⟩, ⟨"users.name", true⟩]
  limit := limit
  offset := some 10

/-- No limit is told from a limit where the dialect writes one before an offset. -/
theorem sql_eq_iff_latePosts : ∃ s s', (latePosts none).Readable ∧ (latePosts (some 1)).Readable ∧
    (Wording.query (latePosts none)).sql Bundled.sqlite.dialect = .ok s ∧
    (Wording.query (latePosts (some 1))).sql Bundled.sqlite.dialect = .ok s' ∧
    (s = s' ↔ (latePosts none).SameClauses (latePosts (some 1))) ∧ s ≠ s' := by
  have hnone : (latePosts none).Readable :=
    ⟨by decide, by decide, by decide, by decide, by decide +kernel, by decide, by decide⟩
  have hsome : (latePosts (some 1)).Readable := { hnone with }
  have hsql : (Wording.query (latePosts none)).sql Bundled.sqlite.dialect = .ok
      ("SELECT DISTINCT users.name AS author, posts.title FROM users " ++
        "LEFT OUTER JOIN posts ON posts.user_id = users.id " ++
        "WHERE (posts.title IS NULL OR users.id NOT IN (?, ?)) AND " ++
        "users.id IN (SELECT id FROM admins) GROUP BY users.name " ++
        "ORDER BY posts.title DESC, users.name ASC LIMIT -1 OFFSET 10") := by decide +kernel
  have hsql' : (Wording.query (latePosts (some 1))).sql Bundled.sqlite.dialect = .ok
      ("SELECT DISTINCT users.name AS author, posts.title FROM users " ++
        "LEFT OUTER JOIN posts ON posts.user_id = users.id " ++
        "WHERE (posts.title IS NULL OR users.id NOT IN (?, ?)) AND " ++
        "users.id IN (SELECT id FROM admins) GROUP BY users.name " ++
        "ORDER BY posts.title DESC, users.name ASC LIMIT 1 OFFSET 10") := by decide +kernel
  have hiff := sql_eq_iff .sqlite hnone hsome hsql hsql'
  exact ⟨_, _, hnone, hsome, hsql, hsql', hiff, fun h => nomatch (hiff.1 h).limit⟩

end Query

end SqlBuilder
