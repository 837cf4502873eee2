import SqlBuilder.Proofs.ClauseGrammar
import SqlBuilder.Proofs.Delimited
import SqlBuilder.Proofs.Leaves

/-!
# Reading WHERE clauses back

The text of a clause says which conditions it was made of.  Every predicate is self-delimiting: its
text, whatever follows, is the text of no other predicate (`Condition.chars_append_inj`), since the
column ends at a blank, the keyword behind it begins no other keyword, lists and sub queries end at
a parenthesis, and so do groups.  A whole clause is told from what follows unless that goes on with
a connector (`Condition.clauseChars_append_inj`).  One thing is not written, the connector of a
group with a single member; `Condition.normalize` forgets it, and two lists of conditions have one
text exactly when they are equal up to that (`Condition.clauseSql_eq_iff`).
-/

namespace SqlBuilder

/-! ## Keywords -/

/-- What stands between the column of a predicate and what it is compared with. -/
inductive Keyword where
  | null (test : NullTest)
  | compare (op : Comparison)
  | among (op : Membership)
  | between
deriving DecidableEq

namespace Keyword

/-- The keyword with what always follows it, up to a value or a list. -/
def sql : Keyword → String
  | null test => test.sql
  | compare op => op.sql ++ " "
  | among op => op.sql ++ " ("
  | between => "BETWEEN "

/-- The characters of the keyword. -/
def chars (k : Keyword) : List Char := k.sql.toList

/-- All keywords, for facts that are checked pair by pair. -/
def all : List Keyword :=
  [null .isNull, null .isNotNull, compare .eq, compare .ne, compare .gt, compare .ge, compare .lt,
    compare .le, compare .like, among .isIn, among .isNotIn, between]

theorem mem_all (k : Keyword) : k ∈ all := by
  rcases k with test | op | op | _
  · cases test <;> decide
  · cases op <;> decide
  · cases op <;> decide
  · decide

/-- With what is behind them, none of `<`, `<=` and `<>`, `IS NULL` and `IS NOT NULL`, … begins
another. -/
theorem eq_of_prefix {a b : Keyword} (h : a.chars <+: b.chars) : a = b := by
  have hall : ∀ a ∈ all, ∀ b ∈ all, a.chars <+: b.chars → a = b := by decide +kernel
  exact hall a a.mem_all b b.mem_all h

end Keyword

namespace Condition

/-! ## Characters of a clause -/

/-- `n` marks with commas between them. -/
def slotChars : Nat → List Char
  | 0 => []
  | 1 => ['?']
  | n + 2 => '?' :: ',' :: ' ' :: slotChars (n + 1)

/-- A connector with the blanks around it. -/
def separator (c : Connector) : List Char := ' ' :: (c.sql.toList ++ [' '])

/-- A predicate: its column, the keyword, and what stands behind that. -/
def leafChars (column : String) (k : Keyword) (body : List Char) : List Char :=
  column.toList ++ ' ' :: (k.chars ++ body)

mutual

/-- The text of a condition with `?` for every bound value, whether or not it is well formed. -/
def chars : Condition → List Char
  | null test column => leafChars column (.null test) []
  | compare op column => leafChars column (.compare op) ['?']
  | among op column count => leafChars column (.among op) (slotChars count ++ [')'])
  | amongQuery op column query => leafChars column (.among op) (query.toList ++ [')'])
  | between column => leafChars column .between "? AND ?".toList
  | connector c => c.sql.toList
  | group c members => '(' :: ((separator c).intercalate (allChars members) ++ [')'])

/-- The characters of each condition, still apart. -/
def allChars : List Condition → List (List Char)
  | [] => []
  | c :: cs => c.chars :: allChars cs

end

theorem toList_slotList (n : Nat) : ((Template.slotList n).render "?").toList = slotChars n := by
  rw [Template.slotList, Template.join]
  induction n using slotChars.induct with
  | case1 => rfl
  | case2 => rfl
  | case3 n ih =>
    rw [List.replicate_succ] at ih ⊢
    rw [List.replicate_succ, List.intercalate_cons_cons, Template.render_append,
      Template.render_append, String.toList_append, ih]
    rfl

theorem toList_join (sep : String) (ts : List Template) :
    ((Template.join sep ts).render "?").toList =
      sep.toList.intercalate (ts.map fun t => (t.render "?").toList) := by
  rw [Template.join]
  induction ts with
  | nil => rfl
  | cons t ts ih =>
    cases ts with
    | nil => rw [List.intercalate_singleton, List.map_singleton, List.intercalate_singleton]
    | cons u ts =>
      rw [List.map_cons, List.map_cons, List.intercalate_cons_cons, List.intercalate_cons_cons,
        Template.render_append, String.toList_append, ih]
      simp [Fragment.render]

mutual

theorem toList_render (c : Condition) {t : Template} (h : c.template = .ok t) :
    (t.render "?").toList = c.chars := by
  cases c with
  | group k members =>
    rw [template] at h
    split_ifs at h
    obtain ⟨ts, hts, rfl⟩ := map_eq_ok_iff.1 h
    simp [Fragment.render, chars, toList_join, map_toList_render k members hts, separator]
  | _ =>
    rw [template] at h
    try split_ifs at h
    cases h
    simp [Fragment.render, chars, leafChars, Keyword.chars, Keyword.sql, toList_slotList]

theorem map_toList_render (k : Connector) (ms : List Condition) {ts : List Template}
    (h : memberTemplates k ms = .ok ts) :
    (ts.map fun t => (t.render "?").toList) = allChars ms := by
  cases ms with
  | nil =>
    rw [memberTemplates] at h
    cases h
    rfl
  | cons m ms =>
    rw [memberTemplates] at h
    split at h
    · cases h
    · obtain ⟨t, ht, us, hus, rfl⟩ := return₂_eq_ok_iff.1 h
      rw [List.map_cons, allChars, toList_render m ht, map_toList_render k ms hus]

end

/-- What stands behind `WHERE`: a space in front of each condition. -/
def clauseChars (cs : List Condition) : List Char := cs.flatMap fun c => ' ' :: c.chars

theorem clauseChars_cons (c : Condition) (cs : List Condition) :
    clauseChars (c :: cs) = ' ' :: (c.chars ++ clauseChars cs) := rfl

theorem toList_render_flatMap {cs : List Condition} {ts : List Template}
    (h : cs.mapM template = .ok ts) :
    (Template.render "?" (ts.flatMap fun t => .text " " :: t)).toList = clauseChars cs := by
  induction cs generalizing ts with
  | nil =>
    cases h
    rfl
  | cons c cs ih =>
    obtain ⟨t, ht, us, hus, rfl⟩ := mapM_cons_eq_ok_iff.1 h
    rw [List.flatMap_cons, Template.render_append, String.toList_append, ih hus,
      Template.render_cons, String.toList_append, toList_render c ht]
    rfl

theorem toList_clauseSql {cs : List Condition} {s : String}
    (h : clauseSql "?" cs = .ok (some s)) :
    s.toList = "WHERE".toList ++ clauseChars cs := by
  obtain ⟨t, hclause, hs⟩ := map_eq_ok_iff.1 h
  obtain ⟨t, rfl, rfl⟩ := Option.map_eq_some_iff.1 hs
  cases cs with
  | nil => cases hclause
  | cons c cs =>
    rw [clause_cons] at hclause
    obtain ⟨⟨⟩, -, ts, hts, ht⟩ := return₂_eq_ok_iff.1 hclause
    obtain rfl := Option.some.inj ht
    rw [Template.render_cons, String.toList_append, toList_render_flatMap hts]
    rfl

/-! ## What the text forgets -/

mutual

/-- The condition with `AND` for the connector of every group that has one member. -/
def normalize : Condition → Condition
  | group c members => group (if members.length = 1 then .and else c) (normalizeAll members)
  | c => c

/-- The conditions with `AND` for the connectors that their text does not show. -/
def normalizeAll : List Condition → List Condition
  | [] => []
  | c :: cs => c.normalize :: normalizeAll cs

end

theorem normalizeAll_eq_map (cs : List Condition) : normalizeAll cs = cs.map normalize := by
  induction cs with
  | nil => rfl
  | cons c cs ih => rw [normalizeAll, ih, List.map_cons]

mutual

theorem chars_normalize (c : Condition) : c.normalize.chars = c.chars := by
  cases c with
  | group k members =>
    rw [normalize, chars, chars, allChars_normalizeAll members]
    match members with
    | [] => rfl
    | [m] => rfl
    | m :: n :: ms => rfl
  | _ => rfl

theorem allChars_normalizeAll (cs : List Condition) :
    allChars (normalizeAll cs) = allChars cs := by
  cases cs with
  | nil => rfl
  | cons c cs => rw [normalizeAll, allChars, allChars, chars_normalize c, allChars_normalizeAll cs]

end

/-! ## Predicates that are no groups -/

/-- The column of a leaf is a name, and its sub query cannot be taken for a list of marks or for
longer than it is. -/
structure Plain (c : Condition) : Prop where
  column : ∀ s ∈ c.column?, Text.IsName s
  query : ∀ s ∈ c.query?, '(' ∉ s.toList ∧ ')' ∉ s.toList ∧ '?' ∉ s.toList

instance (c : Condition) : Decidable c.Plain :=
  decidable_of_iff ((∀ s ∈ c.column?, Text.IsName s) ∧
      ∀ s ∈ c.query?, '(' ∉ s.toList ∧ ')' ∉ s.toList ∧ '?' ∉ s.toList)
    ⟨fun h => ⟨h.1, h.2⟩, fun h => ⟨h.column, h.query⟩⟩

/-- A predicate that can be written and read. -/
structure Readable (c : Condition) : Prop where
  wellFormed : c.WellFormed
  plain : ∀ leaf ∈ c.leaves, leaf.Plain

theorem notMem_slotChars (n : Nat) : ')' ∉ slotChars n := by
  induction n using slotChars.induct <;> simp_all [slotChars]

theorem slotChars_inj {m n : Nat} (h : slotChars m = slotChars n) : m = n := by
  induction m using slotChars.induct generalizing n with
  | case1 => rcases n with _ | _ | n <;> simp_all [slotChars]
  | case2 => rcases n with _ | _ | n <;> simp_all [slotChars]
  | case3 m ih =>
    rcases n with _ | _ | n
    · cases h
    · cases h
    · simp only [slotChars, List.cons.injEq, true_and] at h
      rw [Nat.succ_inj.1 (ih h)]

/-- A list of marks begins with a mark, a sub query has none. -/
theorem slotChars_append_ne {count : Nat} (hcount : 0 < count) {query : String}
    (hmark : '?' ∉ query.toList) (hne : ∃ ch ∈ query.toList, ¬ Text.isWhiteSpace ch)
    {r s : List Char} : slotChars count ++ r ≠ query.toList ++ s := by
  obtain ⟨cs, hcs⟩ : ∃ cs, slotChars count = '?' :: cs := by
    rcases count with _ | _ | n
    · omega
    · exact ⟨_, rfl⟩
    · exact ⟨_, rfl⟩
  intro h
  rw [hcs] at h
  cases hq : query.toList with
  | nil => simp [hq] at hne
  | cons ch rest =>
    rw [hq] at h hmark
    exact hmark ((List.cons.inj h).1 ▸ List.mem_cons_self)

/-- Column, keyword and what follows them in the text of a predicate that is no group. -/
def parts? : Condition → Option (String × Keyword × List Char)
  | null test column => some (column, .null test, [])
  | compare op column => some (column, .compare op, ['?'])
  | among op column count => some (column, .among op, slotChars count ++ [')'])
  | amongQuery op column query => some (column, .among op, query.toList ++ [')'])
  | between column => some (column, .between, "? AND ?".toList)
  | connector _ => none
  | group _ _ => none

theorem WellFormed.exists_parts {c : Condition} (h : c.WellFormed) :
    (∃ column k body, c.parts? = some (column, k, body)) ∨
      ∃ k members, c = Condition.group k members := by
  cases h with
  | group k _ _ => exact .inr ⟨_, _, rfl⟩
  | _ => exact .inl ⟨_, _, _, rfl⟩

section Parts

variable {p q : Condition} {column column' : String} {k k' : Keyword} {x y r s : List Char}

theorem chars_of_parts (h : p.parts? = some (column, k, x)) : p.chars = leafChars column k x := by
  cases p <;> cases h <;> rfl

theorem Readable.plain_of_parts (hp : p.Readable) (h : p.parts? = some (column, k, x)) :
    p.Plain := by
  apply hp.plain
  cases p <;> first | exact List.mem_singleton_self _ | cases h

theorem Readable.isName_of_parts (hp : p.Readable) (h : p.parts? = some (column, k, x)) :
    Text.IsName column := by
  apply (hp.plain_of_parts h).column
  cases p <;> cases h <;> rfl

theorem leafChars_append_inj (hcolumn : Text.IsName column) (hcolumn' : Text.IsName column')
    (h : leafChars column k x ++ r = leafChars column' k' y ++ s) :
    column = column' ∧ k = k' ∧ x ++ r = y ++ s := by
  simp only [leafChars, List.append_assoc, List.cons_append] at h
  obtain ⟨hc, hrest⟩ :=
    Text.append_cons_inj (hcolumn.notMem (by decide)) (hcolumn'.notMem (by decide)) h
  obtain ⟨hk, hbody⟩ := Text.append_inj_of_prefixFree (fun a b => Keyword.eq_of_prefix) hrest
  exact ⟨String.toList_inj.1 hc, hk, hbody⟩

theorem leafChars_append_ne (hcolumn : Text.IsName column) :
    leafChars column k x ++ r ≠ '(' :: s := by
  intro h
  cases hc : column.toList with
  | nil => exact hcolumn.nonempty (String.toList_inj.1 hc)
  | cons ch cs =>
    rw [leafChars, hc] at h
    obtain rfl : ch = '(' := (List.cons.inj h).1
    have hmem : '(' ∈ column.toList := by rw [hc]; exact List.mem_cons_self
    exact hcolumn.notMem (by decide) hmem

/-- Behind the same column and keyword, only lists and sub queries differ in what follows. -/
theorem eq_of_parts (hp : p.Readable) (hq : q.Readable) (hx : p.parts? = some (column, k, x))
    (hy : q.parts? = some (column, k, y)) (h : x ++ r = y ++ s) : p = q ∧ r = s := by
  have hpq := (hp.plain_of_parts hx).query
  have hqq := (hq.plain_of_parts hy).query
  cases hp.wellFormed with
  | null test _ =>
    cases hx
    cases hq.wellFormed <;> cases hy
    exact ⟨rfl, h⟩
  | compare op _ =>
    cases hx
    cases hq.wellFormed <;> cases hy
    exact ⟨rfl, (List.cons.inj h).2⟩
  | between _ =>
    cases hx
    cases hq.wellFormed <;> cases hy
    exact ⟨rfl, List.append_cancel_left h⟩
  | among op _ hcount =>
    cases hx
    rw [List.append_assoc] at h
    cases hq.wellFormed with
    | among _ _ hcount' =>
      cases hy
      rw [List.append_assoc] at h
      obtain ⟨hslots, hrest⟩ :=
        Text.append_cons_inj (notMem_slotChars _) (notMem_slotChars _) h
      rw [slotChars_inj hslots]
      exact ⟨rfl, hrest⟩
    | amongQuery _ _ hne =>
      cases hy
      rw [List.append_assoc] at h
      exact absurd h (slotChars_append_ne hcount (hqq _ rfl).2.2 hne)
    | _ => cases hy
  | amongQuery op _ hne =>
    cases hx
    rw [List.append_assoc] at h
    cases hq.wellFormed with
    | among _ _ hcount' =>
      cases hy
      rw [List.append_assoc] at h
      exact absurd h.symm (slotChars_append_ne hcount' (hpq _ rfl).2.2 hne)
    | amongQuery _ _ _ =>
      cases hy
      rw [List.append_assoc] at h
      obtain ⟨hquery, hrest⟩ := Text.append_cons_inj (hpq _ rfl).2.1 (hqq _ rfl).2.1 h
      rw [String.toList_inj.1 hquery]
      exact ⟨rfl, hrest⟩
    | _ => cases hy
  | group => cases hx

theorem leaf_append_inj (hp : p.Readable) (hq : q.Readable)
    (hparts : p.parts? = some (column, k, x)) (h : p.chars ++ r = q.chars ++ s) :
    p.normalize = q.normalize ∧ r = s := by
  have hcolumn := hp.isName_of_parts hparts
  rw [chars_of_parts hparts] at h
  rcases hq.wellFormed.exists_parts with ⟨column', k', y, hparts'⟩ | ⟨d, ns, rfl⟩
  · rw [chars_of_parts hparts'] at h
    obtain ⟨rfl, rfl, hbody⟩ := leafChars_append_inj hcolumn (hq.isName_of_parts hparts') h
    obtain ⟨rfl, hrest⟩ := eq_of_parts hp hq hparts hparts' hbody
    exact ⟨rfl, hrest⟩
  · exact absurd h (leafChars_append_ne hcolumn)

end Parts

/-! ## Groups -/

theorem separator_append_inj {c d : Connector} {r s : List Char}
    (h : separator c ++ r = separator d ++ s) : c = d ∧ r = s :=
  Text.append_inj_of_prefixFree (fun a b => by cases a <;> cases b <;> decide) h

theorem Readable.members {c : Connector} {ms : List Condition} (h : (group c ms).Readable) :
    ms ≠ [] ∧ ∀ m ∈ ms, m.Readable := by
  obtain ⟨hne, hms⟩ := wellFormed_group_iff.1 h.wellFormed
  have hplain := h.plain
  rw [leaves, allLeaves_eq_flatMap, List.forall_mem_flatMap] at hplain
  exact ⟨hne, fun m hm => ⟨hms m hm, hplain m hm⟩⟩

mutual

/-- Whatever stands behind them, predicates with one text are equal up to what the text forgets. -/
theorem chars_append_inj (p : Condition) {q : Condition} (hp : p.Readable) (hq : q.Readable)
    {r s : List Char} (h : p.chars ++ r = q.chars ++ s) : p.normalize = q.normalize ∧ r = s := by
  cases p with
  | connector k => cases hp.wellFormed
  | group c ms =>
    rcases hq.wellFormed.exists_parts with ⟨column, k, x, hparts⟩ | ⟨d, ns, rfl⟩
    · obtain ⟨hnorm, hrest⟩ := leaf_append_inj hq hp hparts h.symm
      exact ⟨hnorm.symm, hrest.symm⟩
    · simp only [chars, List.cons_append, List.append_assoc, List.cons.injEq, true_and,
        List.nil_append] at h
      obtain ⟨hnorm, hconnector, hrest⟩ := members_append_inj ms hp.members hq.members h
      have hlength : ms.length = ns.length := by
        simpa [normalizeAll_eq_map] using congrArg List.length hnorm
      refine ⟨?_, hrest⟩
      rw [normalize, normalize, hnorm, ← hlength]
      by_cases hone : ms.length = 1
      · rw [if_pos hone, if_pos hone]
      · rw [hconnector hone]
  | _ => exact leaf_append_inj hp hq rfl h

/-- Behind a member stands the end of the group, or the connector and one more member. -/
theorem members_append_inj (ms : List Condition) {ns : List Condition}
    (hms : ms ≠ [] ∧ ∀ m ∈ ms, m.Readable) (hns : ns ≠ [] ∧ ∀ n ∈ ns, n.Readable)
    {c d : Connector} {r s : List Char}
    (h : (separator c).intercalate (allChars ms) ++ ')' :: r =
      (separator d).intercalate (allChars ns) ++ ')' :: s) :
    normalizeAll ms = normalizeAll ns ∧ (ms.length ≠ 1 → c = d) ∧ r = s := by
  match ms, ns with
  | m :: ms, n :: ns =>
    obtain ⟨hm, hms⟩ := List.forall_mem_cons.1 hms.2
    obtain ⟨hn, hns⟩ := List.forall_mem_cons.1 hns.2
    -- Behind the last member stands a parenthesis, behind any other a space.
    match ms, ns with
    | [], [] =>
      simp only [allChars, List.intercalate_singleton] at h
      obtain ⟨hnorm, hrest⟩ := chars_append_inj m hm hn h
      exact ⟨by simp [normalizeAll, hnorm], by simp, (List.cons.inj hrest).2⟩
    | [], n' :: ns =>
      simp only [allChars, List.intercalate_singleton, List.intercalate_cons_cons,
        List.append_assoc] at h
      cases (chars_append_inj m hm hn h).2
    | m' :: ms, [] =>
      simp only [allChars, List.intercalate_singleton, List.intercalate_cons_cons,
        List.append_assoc] at h
      cases (chars_append_inj m hm hn h).2
    | m' :: ms, n' :: ns =>
      rw [allChars, allChars, allChars, allChars, List.intercalate_cons_cons,
        List.intercalate_cons_cons] at h
      simp only [List.append_assoc] at h
      obtain ⟨hnorm, hbehind⟩ := chars_append_inj m hm hn h
      obtain ⟨rfl, hmembers⟩ := separator_append_inj hbehind
      obtain ⟨hnorms, -, hrest⟩ := members_append_inj (m' :: ms) ⟨List.cons_ne_nil _ _, hms⟩
        ⟨List.cons_ne_nil _ _, hns⟩ hmembers
      refine ⟨?_, fun _ => rfl, hrest⟩
      rw [normalizeAll, hnorm, hnorms]
      rfl

end

/-! ## Clauses -/

/-- Every predicate and every sub query in the conditions can be read. -/
def AllPlain (cs : List Condition) : Prop := ∀ leaf ∈ cs.flatMap leaves, leaf.Plain

instance (cs : List Condition) : Decidable (AllPlain cs) :=
  inferInstanceAs (Decidable (∀ leaf ∈ cs.flatMap leaves, leaf.Plain))

theorem allPlain_cons_iff {c : Condition} {cs : List Condition} :
    AllPlain (c :: cs) ↔ (∀ leaf ∈ c.leaves, leaf.Plain) ∧ AllPlain cs := by
  rw [AllPlain, List.flatMap_cons, List.forall_mem_append]
  rfl

section Behind

variable {cs ds : List Condition} {r s : List Char}

theorem clauseChars_predicate_append_inj {p q : Condition} (hp : p.Readable) (hq : q.Readable)
    (h : clauseChars (p :: cs) ++ r = clauseChars (q :: ds) ++ s) :
    p.normalize = q.normalize ∧ clauseChars cs ++ r = clauseChars ds ++ s := by
  rw [clauseChars_cons, clauseChars_cons, List.cons_append, List.cons_append, List.append_assoc,
    List.append_assoc] at h
  exact chars_append_inj p hp hq (List.cons.inj h).2

theorem clauseChars_connector_append_inj {k l : Connector}
    (h : clauseChars (.connector k :: cs) ++ r = clauseChars (.connector l :: ds) ++ s) :
    k = l ∧ clauseChars cs ++ r = clauseChars ds ++ s := by
  rw [clauseChars_cons, clauseChars_cons, chars, chars, List.cons_append, List.cons_append,
    List.append_assoc, List.append_assoc] at h
  have hfree (a b : Connector) : a.sql.toList <+: b.sql.toList → a = b := by
    cases a <;> cases b <;> decide
  exact Text.append_inj_of_prefixFree hfree (List.cons.inj h).2

/-- A connector with a predicate behind it has a space on either side. -/
theorem exists_clauseChars_connector_eq (k : Connector) (hds : Turns ds) (s : List Char) :
    ∃ behind, clauseChars (.connector k :: ds) ++ s = separator k ++ behind := by
  obtain ⟨q, ds, rfl⟩ : ∃ q qs, ds = q :: qs := by
    cases hds <;> exact ⟨_, _, rfl⟩
  exact ⟨q.chars ++ clauseChars ds ++ s, by simp [clauseChars_cons, separator, chars]⟩

/-- A clause is told from what stands behind it if that goes on with no connector. -/
theorem clauseChars_append_inj (hcs : Turns cs) (hds : Turns ds) (hcsp : AllPlain cs)
    (hdsp : AllPlain ds) (hr : ∀ k behind, r ≠ separator k ++ behind)
    (hs : ∀ k behind, s ≠ separator k ++ behind) (h : clauseChars cs ++ r = clauseChars ds ++ s) :
    cs.map normalize = ds.map normalize ∧ r = s := by
  -- Where only one of the lists ends, a connector stands against what is behind the other.
  induction hcs generalizing ds with
  | one hp =>
    have hp := Readable.mk hp (allPlain_cons_iff.1 hcsp).1
    cases hds with
    | one hq =>
      have hq := Readable.mk hq (allPlain_cons_iff.1 hdsp).1
      obtain ⟨hnorm, hrest⟩ := clauseChars_predicate_append_inj hp hq h
      rw [List.map_singleton, hnorm, List.map_singleton]
      exact ⟨rfl, hrest⟩
    | @more q l ds hq hds =>
      have hq := Readable.mk hq (allPlain_cons_iff.1 hdsp).1
      obtain ⟨behind, hconnector⟩ := exists_clauseChars_connector_eq l hds s
      exact absurd ((clauseChars_predicate_append_inj hp hq h).2.trans hconnector) (hr l behind)
  | @more p k cs hp hcs ih =>
    obtain ⟨hleaves, hcsp⟩ := allPlain_cons_iff.1 hcsp
    have hp := Readable.mk hp hleaves
    cases hds with
    | one hq =>
      have hq := Readable.mk hq (allPlain_cons_iff.1 hdsp).1
      obtain ⟨behind, hconnector⟩ := exists_clauseChars_connector_eq k hcs r
      exact absurd ((clauseChars_predicate_append_inj hp hq h).2.symm.trans hconnector)
        (hs k behind)
    | more hq hds =>
      obtain ⟨hleaves, hdsp⟩ := allPlain_cons_iff.1 hdsp
      obtain ⟨hnorm, hconnectors⟩ :=
        clauseChars_predicate_append_inj hp (Readable.mk hq hleaves) h
      obtain ⟨rfl, hrest⟩ := clauseChars_connector_append_inj hconnectors
      obtain ⟨hmaps, hrest⟩ :=
        ih hds (allPlain_cons_iff.1 hcsp).2 (allPlain_cons_iff.1 hdsp).2 hrest
      rw [List.map_cons, List.map_cons, List.map_cons, List.map_cons, hnorm, hmaps]
      exact ⟨rfl, hrest⟩

end Behind

theorem clauseChars_inj {cs ds : List Condition} (hcs : Turns cs) (hds : Turns ds)
    (hcsp : AllPlain cs) (hdsp : AllPlain ds) (h : clauseChars cs = clauseChars ds) :
    cs.map normalize = ds.map normalize := by
  have hend (k : Connector) (behind : List Char) : [] ≠ separator k ++ behind := nofun
  exact (clauseChars_append_inj hcs hds hcsp hdsp hend hend (by rw [h])).1

theorem clauseChars_eq_of_map_normalize_eq {cs ds : List Condition}
    (h : cs.map normalize = ds.map normalize) : clauseChars cs = clauseChars ds := by
  have hnormal (cs : List Condition) : clauseChars cs = clauseChars (cs.map normalize) := by
    rw [clauseChars, clauseChars, List.flatMap_map]
    simp only [chars_normalize]
  rw [hnormal cs, hnormal ds, h]

/-- What follows the text in front of a clause: nothing without conditions. -/
theorem clauseSuffix_outcomes {cs : List Condition} {t : Template} (h : clauseSuffix cs = .ok t) :
    cs = [] ∧ t.render "?" = "" ∨ Turns cs ∧
      ∃ s, clauseSql "?" cs = .ok (some s) ∧ t.render "?" = " " ++ s := by
  obtain ⟨clause?, hclause, rfl⟩ := map_eq_ok_iff.1 h
  cases clause? with
  | none => exact .inl ⟨clause_eq_none_iff.1 hclause, rfl⟩
  | some t =>
    refine .inr ⟨(exists_clause_eq_some_iff.1 ⟨t, hclause⟩).turns, t.render "?", ?_, ?_⟩
    · rw [clauseSql, hclause]
      rfl
    · exact Template.render_cons _ _ _

theorem exists_clauseSql_of_clauseSuffix {cs : List Condition} {t : Template}
    (h : clauseSuffix cs = .ok t) : ∃ s, clauseSql "?" cs = .ok s := by
  rcases clauseSuffix_outcomes h with ⟨rfl, -⟩ | ⟨-, s, hs, -⟩
  · exact ⟨none, rfl⟩
  · exact ⟨some s, hs⟩

theorem clauseChars_eq_nil_iff {cs : List Condition} : clauseChars cs = [] ↔ cs = [] := by
  cases cs <;> simp [clauseChars]

theorem clauseChars_eq_iff {cs ds : List Condition} (hcs : cs = [] ∨ Turns cs)
    (hds : ds = [] ∨ Turns ds) (hcsp : AllPlain cs) (hdsp : AllPlain ds) :
    clauseChars cs = clauseChars ds ↔ cs.map normalize = ds.map normalize := by
  refine ⟨fun h => ?_, clauseChars_eq_of_map_normalize_eq⟩
  rcases hcs with rfl | hcs
  · rw [clauseChars_eq_nil_iff.1 h.symm]
  rcases hds with rfl | hds
  · rw [clauseChars_eq_nil_iff.1 h]
  exact clauseChars_inj hcs hds hcsp hdsp h

/-- Conditions that make a clause, or none, are no conditions or take turns with connectors. -/
theorem eq_nil_or_turns_of_clauseSql {cs : List Condition} {t : Option String}
    (h : clauseSql "?" cs = .ok t) : cs = [] ∨ Turns cs := by
  cases t with
  | none => exact .inl (clauseSql_eq_none_iff.1 h)
  | some s => exact .inr (exists_clauseSql_eq_some_iff.1 ⟨s, h⟩).turns

theorem eq_none_iff_of_clauseSql {cs : List Condition} {t : Option String}
    (h : clauseSql "?" cs = .ok t) : t = none ↔ clauseChars cs = [] := by
  rw [clauseChars_eq_nil_iff, ← @clauseSql_eq_none_iff "?", h, Except.ok.injEq]

/-- Clauses with and without conditions have one text if the conditions in them have one. -/
theorem clauseSql_eq_iff_clauseChars_eq {cs ds : List Condition} {t u : Option String}
    (ht : clauseSql "?" cs = .ok t) (hu : clauseSql "?" ds = .ok u) :
    t = u ↔ clauseChars cs = clauseChars ds := by
  have htnone := eq_none_iff_of_clauseSql ht
  have hunone := eq_none_iff_of_clauseSql hu
  cases t with
  | none =>
    rw [htnone.1 rfl, eq_comm, hunone]
    exact eq_comm
  | some s =>
    cases u with
    | none =>
      rw [hunone.1 rfl]
      exact htnone
    | some s' =>
      rw [Option.some_inj, ← String.toList_inj, toList_clauseSql ht, toList_clauseSql hu,
        List.append_cancel_left_eq]

/-- Two lists of conditions with plain leaves have one text when they are equal up to the connectors
of groups with one member, and only then. -/
theorem clauseSql_eq_iff {cs ds : List Condition} (hcs : AllPlain cs) (hds : AllPlain ds)
    {t u : Option String} (ht : clauseSql "?" cs = .ok t) (hu : clauseSql "?" ds = .ok u) :
    t = u ↔ cs.map normalize = ds.map normalize := by
  rw [clauseSql_eq_iff_clauseChars_eq ht hu]
  exact clauseChars_eq_iff (eq_nil_or_turns_of_clauseSql ht) (eq_nil_or_turns_of_clauseSql hu)
    hcs hds

/-- `OR` and `AND` in a group with one member. -/
theorem clauseSql_eq_iff_lone_member :
    AllPlain [.group .or [.compare .le "p.age"], .connector .and, .among .isIn "id" 2] ∧
      AllPlain [.group .and [.compare .le "p.age"], .connector .and, .among .isIn "id" 2] ∧
      clauseSql "?" [.group .or [.compare .le "p.age"], .connector .and, .among .isIn "id" 2] =
        .ok (some "WHERE (p.age <= ?) AND id IN (?, ?)") ∧
      clauseSql "?" [.group .and [.compare .le "p.age"], .connector .and, .among .isIn "id" 2] =
        .ok (some "WHERE (p.age <= ?) AND id IN (?, ?)") ∧
      (some "WHERE (p.age <= ?) AND id IN (?, ?)" = some "WHERE (p.age <= ?) AND id IN (?, ?)" ↔
        [Condition.group .or [.compare .le "p.age"], .connector .and, .among .isIn "id" 2].map
            normalize =
          [Condition.group .and [.compare .le "p.age"], .connector .and, .among .isIn "id" 2].map
            normalize) := by
  have hplain (k : Connector) :
      AllPlain [.group k [.compare .le "p.age"], .connector .and, .among .isIn "id" 2] := by
    cases k <;> decide +kernel
  exact ⟨hplain .or, hplain .and, rfl, rfl, clauseSql_eq_iff (hplain .or) (hplain .and) rfl rfl⟩

end Condition

end SqlBuilder
