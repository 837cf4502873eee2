import SqlBuilder.Proofs.ClauseGrammar
import SqlBuilder.Proofs.Letters
import Mathlib.Algebra.Ring.Nat

/-!
# Counting placeholders

Statements are bound by number, so the text of a condition has to ask for as many values as the
condition says that it binds.  Counting and writing are two recursions over the same tree.  Their
templates agree whatever the names are (`Condition.slots_of_template`, `Condition.slots_of_clause`).
A text has a mark in every slot, and in addition those that are among its letters
(`Template.count_render`).  With a mark that is not among them the text has exactly one for each
value (`Condition.count_placeholder`).
-/

namespace SqlBuilder

/-! ## Templates -/

namespace Template

variable {t : Template}

@[simp] theorem slots_text_cons {s : String} : slots (.text s :: t) = t.slots := by
  simp [slots]

@[simp] theorem slots_slot_cons : slots (.slot :: t) = t.slots + 1 := by
  simp [slots]

/-- A mark is in the text where the template has it, and in every slot. -/
theorem count_render (m : Char) (t : Template) :
    (t.render (String.singleton m)).toList.count m = t.letters.count m + t.slots := by
  induction t with
  | nil => rfl
  | cons f t ih =>
    rw [render_cons, String.toList_append, List.count_append, ih]
    cases f with
    | text s =>
      rw [letters_text_cons, List.count_append, slots_text_cons, Nat.add_assoc]
      rfl
    | slot =>
      have hone : (Fragment.slot.render (String.singleton m)).toList.count m = 1 := by
        simp [Fragment.render]
      rw [hone, letters_slot_cons, slots_slot_cons]
      omega

theorem slots_join (sep : String) (ts : List Template) :
    (join sep ts).slots = (ts.map slots).sum := by
  induction ts with
  | nil => rfl
  | cons t ts ih =>
    cases ts with
    | nil => rw [join, List.intercalate_singleton, List.map_singleton, List.sum_singleton]
    | cons u ts =>
      rw [join_cons_cons, slots_append, slots_text_cons, ih]
      exact List.sum_cons.symm

theorem slots_slotList (n : Nat) : (slotList n).slots = n := by
  rw [slotList, slots_join, List.map_replicate, List.sum_replicate_nat, slots_slot_cons, slots_nil,
    Nat.zero_add, Nat.mul_one]

end Template

namespace Condition

open Template

/-! ## The slots of conditions -/

mutual

theorem slots_of_template (c : Condition) {t : Template} (ht : c.template = .ok t) :
    t.slots = c.argCount := by
  cases c with
  | null test column =>
    cases ht
    rfl
  | compare op column =>
    cases ht
    rfl
  | among op column count =>
    rw [template] at ht
    split_ifs at ht
    cases ht
    rw [slots_append, slots_text_cons, slots_slotList]
    rfl
  | amongQuery op column query =>
    rw [template] at ht
    split_ifs at ht
    cases ht
    rfl
  | between column =>
    cases ht
    rfl
  | connector c =>
    cases ht
    rfl
  | group k members =>
    rw [template] at ht
    split_ifs at ht
    obtain ⟨ts, hts, rfl⟩ := map_eq_ok_iff.1 ht
    rw [slots_append, slots_text_cons, slots_join, slots_of_memberTemplates k members hts]
    rfl

theorem slots_of_memberTemplates (k : Connector) (cs : List Condition) {ts : List Template}
    (hts : memberTemplates k cs = .ok ts) : (ts.map slots).sum = totalArgs cs := by
  cases cs with
  | nil =>
    cases hts
    rfl
  | cons m ms =>
    rw [memberTemplates] at hts
    split at hts
    · cases hts
    · obtain ⟨t, ht, us, hus, rfl⟩ := return₂_eq_ok_iff.1 hts
      rw [List.map_cons, List.sum_cons, slots_of_template m ht, slots_of_memberTemplates k ms hus,
        totalArgs]

end

theorem slots_of_mapM {cs : List Condition} {ts : List Template}
    (hts : cs.mapM template = .ok ts) :
    slots (ts.flatMap fun t => .text " " :: t) = totalArgs cs := by
  induction cs generalizing ts with
  | nil =>
    cases hts
    rfl
  | cons c cs ih =>
    obtain ⟨t, ht, us, hus, rfl⟩ := mapM_cons_eq_ok_iff.1 hts
    rw [List.flatMap_cons, slots_append, slots_text_cons, slots_of_template c ht, ih hus, totalArgs]

theorem slots_of_clause {cs : List Condition} {t : Template} (ht : clause cs = .ok (some t)) :
    t.slots = totalArgs cs := by
  cases cs with
  | nil => cases ht
  | cons c cs =>
    obtain ⟨-, -, ts, hts, heq⟩ := return₂_eq_ok_iff.1 ht
    obtain rfl := Option.some.inj heq
    rw [slots_text_cons, slots_of_mapM hts]

/-! ## Texts -/

/-- **A condition asks for the values that it binds, one placeholder for each.**  The placeholder is
any character that is neither wording nor in a name or a sub query of the condition.  In the text of
a condition it occurs once for each value of the condition, and in an accepted clause once for each
value of its conditions; where there is no clause there are no values. -/
theorem count_placeholder {m : Char} (hm : isWording m = false) :
    (∀ (c : Condition) (s : String), Lacks m [c] → c.sql (String.singleton m) = .ok s →
      s.toList.count m = c.argCount) ∧
    ∀ (cs : List Condition) (clause : Option String), Lacks m cs →
      clauseSql (String.singleton m) cs = .ok clause →
      (clause.getD "").toList.count m = totalArgs cs := by
  constructor
  · intro c s h hs
    obtain ⟨t, ht, rfl⟩ := map_eq_ok_iff.1 hs
    rw [count_render, List.count_eq_zero.2 (notMem_letters_of_template hm c h ht), Nat.zero_add,
      slots_of_template c ht]
  · intro cs s h hs
    obtain ⟨o, ho, rfl⟩ := map_eq_ok_iff.1 hs
    cases o with
    | none => rw [clause_eq_none_iff.1 ho]; rfl
    | some t =>
      rw [Option.map_some, Option.getD_some, count_render,
        List.count_eq_zero.2 (notMem_letters_of_clause hm h ho), Nat.zero_add, slots_of_clause ho]

/-- A name with a question mark among three, or a group with a sub query. -/
def markedNames : List Condition :=
  [.among .isIn "who?" 3, .connector .or,
    .group .and [.between "id", .amongQuery .isNotIn "id" "SELECT id FROM old"]]

theorem count_placeholder_markedNames : isWording '$' = false ∧ Lacks '$' markedNames ∧
    Lacks '$' [.between "id"] ∧
    (∃ s, (between "id").sql (String.singleton '$') = .ok s ∧ s.toList.count '$' = 2) ∧
    ∃ s, clauseSql (String.singleton '$') markedNames = .ok (some s) ∧ s.toList.count '$' = 5 := by
  have hmark : isWording '$' = false := by decide
  have hid : Lacks '$' [.between "id"] := by decide
  have hnames : Lacks '$' markedNames := by decide
  refine ⟨hmark, hnames, hid, ⟨"id BETWEEN $ AND $", rfl, ?_⟩,
    "WHERE who? IN ($, $, $) OR (id BETWEEN $ AND $ AND id NOT IN (SELECT id FROM old))", rfl, ?_⟩
  · exact (count_placeholder hmark).1 (between "id") _ hid rfl
  · exact (count_placeholder hmark).2 markedNames (some _) hnames rfl

end Condition

end SqlBuilder
