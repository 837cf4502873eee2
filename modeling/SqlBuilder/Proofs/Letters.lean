import SqlBuilder.Condition.Clause
import SqlBuilder.Proofs.Fallible
import SqlBuilder.Proofs.Leaves
import Mathlib.Data.List.Basic

/-!
# The letters of a template

What a text has of its own, whatever marks its slots.  The letters of a condition are fixed words
and the texts that its leaves bring along: the columns and the sub queries.  A character that occurs
in neither does not occur in the template (`Condition.notMem_letters_of_template`,
`Condition.notMem_letters_of_clause`).
-/

namespace SqlBuilder

/-! ## Templates -/

namespace Template

/-- The characters of the template itself: those that are there with nothing in the slots. -/
def letters (t : Template) : List Char := (t.render "").toList

variable {t u : Template} {m : Char}

@[simp] theorem letters_nil : letters [] = [] := rfl

@[simp] theorem letters_text_cons {s : String} :
    letters (.text s :: t) = s.toList ++ t.letters := by
  rw [letters, render_cons, String.toList_append]
  rfl

@[simp] theorem letters_slot_cons : letters (.slot :: t) = t.letters := by
  rw [letters, render_cons, String.toList_append]
  rfl

@[simp] theorem letters_append : letters (t ++ u) = t.letters ++ u.letters := by
  rw [letters, render_append, String.toList_append]
  rfl

theorem join_cons_cons (sep : String) (t u : Template) (ts : List Template) :
    join sep (t :: u :: ts) = t ++ .text sep :: join sep (u :: ts) := by
  rw [join, List.intercalate_cons_cons, List.append_assoc]
  rfl

theorem notMem_letters_join {sep : String} {ts : List Template} (hsep : m ∉ sep.toList)
    (hts : ∀ t ∈ ts, m ∉ t.letters) : m ∉ (join sep ts).letters := by
  induction ts with
  | nil => exact List.not_mem_nil
  | cons t ts ih =>
    have ht := hts t List.mem_cons_self
    have hrest := ih fun u hu => hts u (List.mem_cons_of_mem t hu)
    cases ts with
    | nil => rwa [join, List.intercalate_singleton]
    | cons u ts =>
      rw [join_cons_cons]
      simp [ht, hsep, hrest]

theorem notMem_letters_slotList (hm : m ∉ ", ".toList) (n : Nat) : m ∉ (slotList n).letters := by
  refine notMem_letters_join hm fun t ht => ?_
  rw [List.eq_of_mem_replicate ht]
  exact List.not_mem_nil

end Template

namespace Condition

open Template

/-! ## Conditions -/

/-- A character of the fixed words of a clause: a letter, a digit, or one of the signs that stand
between words. -/
def isWording (m : Char) : Bool := m.isAlphanum || " ,()<>=".toList.contains m

theorem notMem_of_isWording {m : Char} (hm : isWording m = false) {s : String}
    (hs : s.toList.all isWording) : m ∉ s.toList := by
  intro hmem
  have hwording := List.all_eq_true.1 hs m hmem
  rw [hm] at hwording
  exact Bool.false_ne_true hwording

/-- The texts that the condition brings along. -/
def ownTexts (c : Condition) : List String := c.column?.toList ++ c.query?.toList

/-- No column and no sub query of the conditions has the character, at any depth. -/
def Lacks (m : Char) (cs : List Condition) : Prop :=
  ∀ leaf ∈ allLeaves cs, ∀ s ∈ leaf.ownTexts, m ∉ s.toList

instance (m : Char) (cs : List Condition) : Decidable (Lacks m cs) :=
  inferInstanceAs (Decidable (∀ leaf ∈ allLeaves cs, ∀ s ∈ leaf.ownTexts, m ∉ s.toList))

section Letters

variable {m : Char}

theorem lacks_cons {c : Condition} {cs : List Condition} :
    Lacks m (c :: cs) ↔ Lacks m [c] ∧ Lacks m cs := by
  simp [Lacks, allLeaves, or_imp, forall_and]

theorem lacks_group {k : Connector} {cs : List Condition} : Lacks m [group k cs] ↔ Lacks m cs := by
  rw [Lacks, allLeaves, allLeaves, List.append_nil]
  rfl

/-- For a condition that is no group. -/
theorem lacks_leaf {c : Condition} (hc : c.leaves = [c]) :
    Lacks m [c] ↔ ∀ s ∈ c.ownTexts, m ∉ s.toList := by
  rw [Lacks, allLeaves, allLeaves, List.append_nil, hc, List.forall_mem_singleton]

mutual

/-- The letters of a template are wording, or the condition brought them along. -/
theorem notMem_letters_of_template (hm : isWording m = false) (c : Condition) (h : Lacks m [c])
    {t : Template} (ht : c.template = .ok t) : m ∉ t.letters := by
  have hword {s : String} (hs : s.toList.all isWording) : m ∉ s.toList :=
    notMem_of_isWording hm hs
  cases c with
  | null test column =>
    cases ht
    have hcolumn : m ∉ column.toList := (lacks_leaf rfl).1 h column List.mem_cons_self
    have htest : m ∉ test.sql.toList := hword (by cases test <;> decide)
    simp only [letters_text_cons, letters_nil, String.toList_append, List.mem_append, not_or]
    exact ⟨⟨⟨hcolumn, hword (by decide)⟩, htest⟩, List.not_mem_nil⟩
  | compare op column =>
    cases ht
    have hcolumn : m ∉ column.toList := (lacks_leaf rfl).1 h column List.mem_cons_self
    have hop : m ∉ op.sql.toList := hword (by cases op <;> decide)
    simp only [letters_text_cons, letters_slot_cons, letters_nil, String.toList_append,
      List.mem_append, not_or]
    exact ⟨⟨⟨⟨hcolumn, hword (by decide)⟩, hop⟩, hword (by decide)⟩, List.not_mem_nil⟩
  | among op column count =>
    rw [template] at ht
    split_ifs at ht
    cases ht
    have hcolumn : m ∉ column.toList := (lacks_leaf rfl).1 h column List.mem_cons_self
    have hop : m ∉ op.sql.toList := hword (by cases op <;> decide)
    have hslots := notMem_letters_slotList (hword (by decide)) count
    simp only [List.cons_append, letters_text_cons, letters_append, letters_nil,
      String.toList_append, List.mem_append, not_or]
    exact ⟨⟨⟨⟨hcolumn, hword (by decide)⟩, hop⟩, hword (by decide)⟩, hslots, hword (by decide),
      List.not_mem_nil⟩
  | amongQuery op column query =>
    rw [template] at ht
    split_ifs at ht
    cases ht
    have hcolumn : m ∉ column.toList := (lacks_leaf rfl).1 h column List.mem_cons_self
    have hquery : m ∉ query.toList :=
      (lacks_leaf rfl).1 h query (List.mem_cons_of_mem column List.mem_cons_self)
    have hop : m ∉ op.sql.toList := hword (by cases op <;> decide)
    simp only [letters_text_cons, letters_nil, String.toList_append, List.mem_append, not_or]
    exact ⟨⟨⟨⟨⟨⟨hcolumn, hword (by decide)⟩, hop⟩, hword (by decide)⟩, hquery⟩,
      hword (by decide)⟩, List.not_mem_nil⟩
  | between column =>
    cases ht
    have hcolumn : m ∉ column.toList := (lacks_leaf rfl).1 h column List.mem_cons_self
    simp only [letters_text_cons, letters_slot_cons, letters_nil, String.toList_append,
      List.mem_append, not_or]
    exact ⟨⟨hcolumn, hword (by decide)⟩, hword (by decide), List.not_mem_nil⟩
  | connector c =>
    cases ht
    have hconnector : m ∉ c.sql.toList := hword (by cases c <;> decide)
    simp only [letters_text_cons, letters_nil, List.mem_append, not_or]
    exact ⟨hconnector, List.not_mem_nil⟩
  | group k members =>
    rw [template] at ht
    split_ifs at ht
    obtain ⟨ts, hts, rfl⟩ := map_eq_ok_iff.1 ht
    have hmembers := notMem_letters_of_memberTemplates hm k members (lacks_group.1 h) hts
    have hjoin := notMem_letters_join
      (hword (s := " " ++ k.sql ++ " ") (by cases k <;> decide)) hmembers
    simp only [List.cons_append, letters_text_cons, letters_append, letters_nil, List.mem_append,
      not_or]
    exact ⟨hword (by decide), hjoin, hword (by decide), List.not_mem_nil⟩

theorem notMem_letters_of_memberTemplates (hm : isWording m = false) (k : Connector)
    (cs : List Condition) (h : Lacks m cs) {ts : List Template}
    (hts : memberTemplates k cs = .ok ts) : ∀ t ∈ ts, m ∉ t.letters := by
  cases cs with
  | nil =>
    cases hts
    exact List.forall_mem_nil _
  | cons c cs =>
    rw [memberTemplates] at hts
    split at hts
    · cases hts
    · obtain ⟨t, ht, us, hus, rfl⟩ := return₂_eq_ok_iff.1 hts
      obtain ⟨hc, hcs⟩ := lacks_cons.1 h
      exact List.forall_mem_cons.2 ⟨notMem_letters_of_template hm c hc ht,
        notMem_letters_of_memberTemplates hm k cs hcs hus⟩

end

theorem notMem_letters_of_mapM (hm : isWording m = false) {cs : List Condition} (h : Lacks m cs)
    {ts : List Template} (hts : cs.mapM template = .ok ts) :
    m ∉ letters (ts.flatMap fun t => .text " " :: t) := by
  induction cs generalizing ts with
  | nil =>
    cases hts
    exact List.not_mem_nil
  | cons c cs ih =>
    obtain ⟨t, ht, us, hus, rfl⟩ := mapM_cons_eq_ok_iff.1 hts
    obtain ⟨hc, hcs⟩ := lacks_cons.1 h
    have hspace : m ∉ " ".toList := notMem_of_isWording hm (by decide)
    simp only [List.flatMap_cons, letters_append, letters_text_cons, List.mem_append, not_or]
    exact ⟨⟨hspace, notMem_letters_of_template hm c hc ht⟩, ih hcs hus⟩

theorem notMem_letters_of_clause (hm : isWording m = false) {cs : List Condition} (h : Lacks m cs)
    {t : Template} (ht : clause cs = .ok (some t)) : m ∉ t.letters := by
  cases cs with
  | nil => cases ht
  | cons c cs =>
    obtain ⟨-, -, ts, hts, heq⟩ := return₂_eq_ok_iff.1 ht
    obtain rfl := Option.some.inj heq
    have hwhere : m ∉ "WHERE".toList := notMem_of_isWording hm (by decide)
    simp only [letters_text_cons, List.mem_append, not_or]
    exact ⟨hwhere, notMem_letters_of_mapM hm h hts⟩

end Letters

end Condition

end SqlBuilder
