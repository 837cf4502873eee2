import SqlBuilder.Database.Workbench
import SqlBuilder.Proofs.Letters
import SqlBuilder.Proofs.QueryText

/-!
# Placeholders

A dialect is free in how it marks bound values, and nothing else in its statements depends on that.
A template without a mark of its own (`Template.MarkFree`) says with any placeholder what it says
with `?`, up to the placeholder in place of each mark (`Template.replaceMarks_render`); and every
template of a statement is one if the names and sub queries that go into it are
(`Wording.markFree_of_template`): a clause has no other letters than those and its fixed words.  So
the same statement in two dialects that differ in their placeholder has the same fault, or the same
text up to the placeholder (`Wording.sql_placeholder`).
-/

namespace SqlBuilder

namespace Text

/-- The text with another text in place of each mark.  What is put in is not looked at again. -/
def replaceMarks (p s : String) : String :=
  String.ofList (s.toList.flatMap fun c => if c = '?' then p.toList else [c])

theorem toList_replaceMarks (p s : String) : (replaceMarks p s).toList =
    s.toList.flatMap fun c => if c = '?' then p.toList else [c] :=
  String.toList_ofList

@[simp] theorem replaceMarks_append (p s t : String) :
    replaceMarks p (s ++ t) = replaceMarks p s ++ replaceMarks p t := by
  apply String.toList_inj.1
  simp [toList_replaceMarks]

theorem replaceMarks_of_markFree {s : String} (h : MarkFree s) (p : String) :
    replaceMarks p s = s := by
  apply String.toList_inj.1
  rw [toList_replaceMarks, List.flatMap_congr (g := fun c => [c]), List.flatMap_singleton']
  intro c hc
  have hmark : c ≠ '?' := fun hmark => h (hmark ▸ hc)
  rw [if_neg hmark]

theorem replaceMarks_mark (p : String) : replaceMarks p "?" = p := by
  apply String.toList_inj.1
  simp [toList_replaceMarks]

end Text

open Text

/-! ## Templates -/

namespace Template

/-- No literal text of the template has a mark. -/
def MarkFree (t : Template) : Prop := ∀ s, .text s ∈ t → Text.MarkFree s

variable {t u : Template}

@[simp] theorem markFree_nil : MarkFree [] := fun _ hs => absurd hs List.not_mem_nil

@[simp] theorem markFree_text_cons {s : String} :
    MarkFree (.text s :: t) ↔ Text.MarkFree s ∧ MarkFree t := by
  simp [MarkFree]

@[simp] theorem markFree_slot_cons : MarkFree (.slot :: t) ↔ MarkFree t := by
  simp [MarkFree]

@[simp] theorem markFree_append : MarkFree (t ++ u) ↔ MarkFree t ∧ MarkFree u := by
  simp [MarkFree, or_imp, forall_and]

theorem markFree_iff : MarkFree t ↔ '?' ∉ t.letters := by
  induction t with
  | nil => simp
  | cons f t ih => cases f <;> simp [ih, Text.MarkFree]

theorem markFree_join {sep : String} (hsep : Text.MarkFree sep) {ts : List Template}
    (h : ∀ t ∈ ts, t.MarkFree) : (join sep ts).MarkFree := by
  induction ts with
  | nil => exact markFree_nil
  | cons t ts ih =>
    have ht := h t List.mem_cons_self
    have hts := ih fun u hu => h u (List.mem_cons_of_mem t hu)
    cases ts with
    | nil => rwa [join, List.intercalate_singleton]
    | cons u ts =>
      rw [join, List.intercalate_cons_cons]
      simp only [markFree_append, markFree_text_cons]
      exact ⟨⟨ht, hsep, markFree_nil⟩, hts⟩

theorem Fills.markFree {ls : List String} {s : String} (h : Fills t ls s) : t.MarkFree := by
  induction h with
  | nil => exact markFree_nil
  | text hs _ ih => exact markFree_text_cons.2 ⟨hs, ih⟩
  | slot _ ih => exact markFree_slot_cons.2 ih

theorem markFree_slotList (n : Nat) : (slotList n).MarkFree := by
  have hfills := (Fills.slotList (List.replicate n "")).markFree
  rwa [List.length_replicate] at hfills

theorem markFree_assignments {columns : List String} (h : ∀ c ∈ columns, Text.MarkFree c) :
    (assignments columns).MarkFree := by
  refine markFree_join (by decide) fun t ht => ?_
  obtain ⟨c, hc, rfl⟩ := List.mem_map.1 ht
  simp +decide [h c hc]

theorem markFree_columnsAndSlots {columns : List String} (h : ∀ c ∈ columns, Text.MarkFree c)
    {between : String} (hbetween : Text.MarkFree between) :
    (columnsAndSlots columns between).MarkFree := by
  have hcolumns : Text.MarkFree (commaList columns) := markFree_intercalate (by decide) h
  have hslots := markFree_slotList columns.length
  simp +decide [columnsAndSlots, hcolumns, hbetween, hslots]

/-- A text with any placeholder is the one with `?` up to the placeholder. -/
theorem replaceMarks_render (h : t.MarkFree) (p : String) :
    replaceMarks p (t.render "?") = t.render p := by
  induction t with
  | nil => rfl
  | cons f t ih =>
    rw [render_cons, render_cons, replaceMarks_append]
    cases f with
    | text s =>
      rw [markFree_text_cons] at h
      rw [ih h.2, Fragment.render, replaceMarks_of_markFree h.1]
      rfl
    | slot =>
      rw [markFree_slot_cons] at h
      rw [ih h, Fragment.render, replaceMarks_mark]
      rfl

end Template

/-! ## Conditions -/

namespace Condition

mutual

/-- No column and no sub query of the condition has a mark. -/
def MarkFree : Condition → Prop
  | null _ column => Text.MarkFree column
  | compare _ column => Text.MarkFree column
  | among _ column _ => Text.MarkFree column
  | amongQuery _ column query => Text.MarkFree column ∧ Text.MarkFree query
  | between column => Text.MarkFree column
  | connector _ => True
  | group _ members => AllMarkFree members

/-- No column and no sub query of the conditions has a mark. -/
def AllMarkFree : List Condition → Prop
  | [] => True
  | c :: cs => c.MarkFree ∧ AllMarkFree cs

end

mutual

theorem lacks_of_markFree (c : Condition) (h : c.MarkFree) : Lacks '?' [c] := by
  cases c with
  | group k members => exact lacks_group.2 (lacks_of_allMarkFree members h)
  | amongQuery op column query =>
    refine (lacks_leaf rfl).2 (List.forall_mem_cons.2 ⟨h.1, ?_⟩)
    exact List.forall_mem_singleton.2 h.2
  | connector c => exact (lacks_leaf rfl).2 (List.forall_mem_nil _)
  | _ => exact (lacks_leaf rfl).2 (List.forall_mem_singleton.2 h)

theorem lacks_of_allMarkFree (cs : List Condition) (h : AllMarkFree cs) : Lacks '?' cs := by
  cases cs with
  | nil => exact List.forall_mem_nil _
  | cons c cs => exact lacks_cons.2 ⟨lacks_of_markFree c h.1, lacks_of_allMarkFree cs h.2⟩

end

theorem markFree_of_clause {cs : List Condition} (h : AllMarkFree cs) {t : Template}
    (ht : clause cs = .ok (some t)) : t.MarkFree :=
  Template.markFree_iff.2 (notMem_letters_of_clause (by decide) (lacks_of_allMarkFree cs h) ht)

theorem markFree_of_clauseSuffix {cs : List Condition} (h : AllMarkFree cs) {t : Template}
    (ht : clauseSuffix cs = .ok t) : t.MarkFree := by
  obtain ⟨o, ho, rfl⟩ := map_eq_ok_iff.1 ht
  cases o with
  | none => exact Template.markFree_nil
  | some t => exact Template.markFree_text_cons.2 ⟨by decide, markFree_of_clause h ho⟩

end Condition

/-! ## Statements -/

/-- What a dialect writes apart from the names that it is given has no mark. -/
structure Dialect.MarkFree (d : Dialect) : Prop where
  limits : ∀ limit offset, Text.MarkFree (d.limits limit offset)
  upsert : ∀ table keys others, Text.MarkFree table → (∀ c ∈ keys, Text.MarkFree c) →
    (∀ c ∈ others, Text.MarkFree c) → (d.upsert table keys others).MarkFree

/-- Everything that the text of a statement is made of. -/
inductive Wording where
  | insert (table : String) (columns : List String)
  | insertOrReplace (table : String) (keys others : List String)
  | update (table : String) (columns : List String) (conditions : List Condition)
  | delete (table : String) (conditions : List Condition)
  | query (q : Query)

namespace Wording

/-- The template of the statement in a dialect. -/
def template (d : Dialect) : Wording → Except SyntaxFault Template
  | insert table columns => Template.insert table columns
  | insertOrReplace table keys others => Template.insertOrReplace d table keys others
  | update table columns conditions => Template.update table columns conditions
  | delete table conditions => Template.delete table conditions
  | query q => q.template d

/-- The text of the statement in a dialect. -/
def sql (d : Dialect) (w : Wording) : Except SyntaxFault String :=
  (w.template d).map (·.render d.placeholder)

/-- No name and no sub query has a mark. -/
def MarkFree : Wording → Prop
  | insert table columns => Text.MarkFree table ∧ ∀ c ∈ columns, Text.MarkFree c
  | insertOrReplace table keys others =>
    Text.MarkFree table ∧ (∀ c ∈ keys, Text.MarkFree c) ∧ ∀ c ∈ others, Text.MarkFree c
  | update table columns conditions =>
    Text.MarkFree table ∧ (∀ c ∈ columns, Text.MarkFree c) ∧ Condition.AllMarkFree conditions
  | delete table conditions => Text.MarkFree table ∧ Condition.AllMarkFree conditions
  | query q => q.MarkFree ∧ Condition.AllMarkFree q.conditions

variable {d : Dialect}

theorem markFree_of_template (hd : d.MarkFree) {w : Wording} (hw : w.MarkFree) {t : Template}
    (ht : w.template d = .ok t) : t.MarkFree := by
  cases w with
  | insert table columns =>
    obtain ⟨htable, hcolumns⟩ := hw
    rw [template, Template.insert] at ht
    split_ifs at ht
    cases ht
    have hrow := Template.markFree_columnsAndSlots hcolumns (show Text.MarkFree "VALUES " by decide)
    simp +decide [htable, hrow]
  | insertOrReplace table keys others =>
    obtain ⟨htable, hkeys, hothers⟩ := hw
    obtain ⟨columns, -, rfl⟩ := map_eq_ok_iff.1 ht
    exact hd.upsert table keys others htable hkeys hothers
  | update table columns conditions =>
    obtain ⟨htable, hcolumns, hconditions⟩ := hw
    rw [template, Template.update] at ht
    split_ifs at ht
    obtain ⟨suffix, hsuffix, rfl⟩ := map_eq_ok_iff.1 ht
    have hset := Template.markFree_assignments hcolumns
    have hwhere := Condition.markFree_of_clauseSuffix hconditions hsuffix
    simp +decide [htable, hset, hwhere]
  | delete table conditions =>
    obtain ⟨htable, hconditions⟩ := hw
    obtain ⟨suffix, hsuffix, rfl⟩ := map_eq_ok_iff.1 ht
    have hwhere := Condition.markFree_of_clauseSuffix hconditions hsuffix
    simp +decide [htable, hwhere]
  | query q =>
    obtain ⟨hq, hconditions⟩ := hw
    obtain ⟨joins, hjoins, clause, hclause, rfl⟩ := return₂_eq_ok_iff.1 ht
    obtain rfl := Query.joinsSql_eq hjoins
    have hhead := Query.markFree_headSql hq
    have hjoined := Query.markFree_joinsText hq.joins
    have hwhere := Condition.markFree_of_clauseSuffix hconditions hclause
    have hgroup := Query.markFree_groupSql hq
    have horder := Query.markFree_orderSql hq
    have hlimits := hd.limits q.limit q.offset
    simp [hhead, hjoined, hwhere, hgroup, horder, hlimits]

/-- The placeholder decides nothing but how slots are marked. -/
theorem template_placeholder (d : Dialect) (p : String) (w : Wording) :
    w.template { d with placeholder := p } = w.template d := by
  cases w with
  | query q =>
    have hjoins (js : List Join) :
        Query.joinsSql { d with placeholder := p } js = Query.joinsSql d js := by
      induction js with
      | nil => rfl
      | cons j js ih => rw [Query.joinsSql, Query.joinsSql, ih]
    rw [template, template, Query.template, Query.template, hjoins]
  | _ => rfl

end Wording

/-! ## Dialects -/

theorem Bundled.markFree_dialect (b : Bundled) : b.dialect.MarkFree where
  limits := b.markFree_limits
  upsert := by
    intro table keys others htable hkeys hothers
    have hrow {columns : List String} (h : ∀ c ∈ columns, Text.MarkFree c) :
        ∀ r ∈ columns.map (·, ""), Text.MarkFree r.1 := List.forall_mem_map.2 h
    have hfills := (b.fills_upsert htable (hrow hkeys) (hrow hothers)).markFree
    simpa [Function.comp_def] using hfills

theorem Dialect.markFree_custom (p : String) (joins : List JoinType) (rebinds : Bool) :
    (Dialect.custom p joins rebinds).MarkFree where
  limits := Bundled.markFree_standardLimits
  upsert := by
    intro table keys others htable hkeys hothers
    have hrow := Template.markFree_columnsAndSlots
      (List.forall_mem_append.2 ⟨hkeys, hothers⟩) (show Text.MarkFree "VALUES " by decide)
    have hset := Template.markFree_assignments hothers
    show (Dialect.upsertPlain rebinds table keys others).MarkFree
    unfold Dialect.upsertPlain
    split_ifs <;> simp +decide [htable, hrow, hset]

/-! ## Two dialects -/

namespace Wording

/-- In dialects that differ in their placeholder a statement has the same fault, or the same text up
to the placeholder; and so has a WHERE clause by itself. -/
theorem sql_placeholder {d : Dialect} (hd : d.MarkFree) (p : String) :
    (∀ w : Wording, w.MarkFree → w.sql { d with placeholder := p } =
      (w.sql { d with placeholder := "?" }).map (replaceMarks p)) ∧
    ∀ cs, Condition.AllMarkFree cs → Condition.clauseSql p cs =
      (Condition.clauseSql "?" cs).map (Option.map (replaceMarks p)) := by
  constructor
  · intro w hw
    rw [sql, sql, template_placeholder d p, template_placeholder d "?"]
    cases ht : w.template d with
    | error fault => rfl
    | ok t =>
      exact congrArg Except.ok (Template.replaceMarks_render (markFree_of_template hd hw ht) p).symm
  · intro cs hcs
    rw [Condition.clauseSql, Condition.clauseSql]
    rcases hc : Condition.clause cs with fault | _ | t
    · rfl
    · rfl
    · have hrender := Template.replaceMarks_render (Condition.markFree_of_clause hcs hc) p
      exact congrArg (fun s => Except.ok (some s)) hrender.symm

/-- A row with one key and one more column. -/
def keyedRow : Wording := insertOrReplace "users" ["id"] ["name"]

/-- A name among three, or an interval in brackets. -/
def namesOrInterval : List Condition :=
  [.among .isIn "name" 3, .connector .or, .group .and [.between "id", .null .isNotNull "name"]]

theorem sql_placeholder_keyedRow : (Dialect.custom "?" [] true).MarkFree ∧ keyedRow.MarkFree ∧
    Condition.AllMarkFree namesOrInterval ∧
    keyedRow.sql (.custom ":v" [] true) =
      (keyedRow.sql (.custom "?" [] true)).map (replaceMarks ":v") ∧
    Condition.clauseSql ":v" namesOrInterval =
      (Condition.clauseSql "?" namesOrInterval).map (Option.map (replaceMarks ":v")) := by
  have hd := Dialect.markFree_custom "?" [] true
  have hrow : keyedRow.MarkFree := ⟨by decide, by decide, by decide⟩
  have hnames : Condition.AllMarkFree namesOrInterval := by
    simp +decide [namesOrInterval, Condition.AllMarkFree, Condition.MarkFree]
  exact ⟨hd, hrow, hnames, (sql_placeholder hd ":v").1 _ hrow, (sql_placeholder hd ":v").2 _ hnames⟩

example : keyedRow.sql (.custom ":v" [] true) =
    .ok "UPSERT users (id, name) VALUES (:v, :v) SET name = :v" := by
  decide +kernel

end Wording

end SqlBuilder
