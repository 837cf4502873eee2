import SqlBuilder.Dialect.Change
import Mathlib.Data.List.Basic

/-!
# Filling slots

What a text with marks says once its values are known.  `Text.fill` puts texts in place of the marks
of a text, from left to right.  `Template.Fills t ls s` says that `s` is the template `t` with `ls`
in its slots, and that `t` has no mark of its own; then the marks of the rendered template are its
slots (`Template.Fills.marks_render`) and filling them gives `s` (`Template.Fills.fill_render`).
-/

namespace SqlBuilder

namespace Text

/-! ## Marks -/

/-- No character of the text looks like a slot. -/
def MarkFree (s : String) : Prop := '?' ∉ s.toList

instance (s : String) : Decidable (MarkFree s) := inferInstanceAs (Decidable ('?' ∉ s.toList))

/-- The number of marks in a text. -/
def marks (s : String) : Nat := s.toList.count '?'

/-- The characters with each mark replaced by the next text of a list. -/
def fillChars : List Char → List String → List Char
  | [], _ => []
  | c :: cs, [] => c :: cs
  | c :: cs, l :: ls =>
    if c = '?' then l.toList ++ fillChars cs ls else c :: fillChars cs (l :: ls)

/-- The text with its marks replaced, from left to right, by the texts of a list.  Texts that are
put in are not looked at again; marks for which the list has none are kept. -/
def fill (s : String) (ls : List String) : String := String.ofList (fillChars s.toList ls)

theorem fillChars_nil (cs : List Char) : fillChars cs [] = cs := by
  cases cs <;> rfl

theorem fillChars_append_left {cs : List Char} (h : '?' ∉ cs) (ds : List Char) (ls : List String) :
    fillChars (cs ++ ds) ls = cs ++ fillChars ds ls := by
  cases ls with
  | nil => rw [fillChars_nil, fillChars_nil]
  | cons l ls =>
    induction cs with
    | nil => rfl
    | cons c cs ih =>
      have hc : c ≠ '?' := fun hc => h (hc ▸ List.mem_cons_self)
      rw [List.cons_append, fillChars, if_neg hc, ih (mt (List.mem_cons_of_mem c) h),
        List.cons_append]

@[simp] theorem markFree_append {s t : String} :
    MarkFree (s ++ t) ↔ MarkFree s ∧ MarkFree t := by
  simp [MarkFree, not_or]

theorem markFree_intercalate {sep : String} {ss : List String} (hsep : MarkFree sep)
    (h : ∀ s ∈ ss, MarkFree s) : MarkFree (sep.intercalate ss) := by
  induction ss with
  | nil => exact List.not_mem_nil
  | cons s ss ih =>
    have hs := h s List.mem_cons_self
    have hss := ih fun t ht => h t (List.mem_cons_of_mem s ht)
    cases ss with
    | nil => rwa [String.intercalate_singleton]
    | cons t ss =>
      rw [String.intercalate_cons_cons]
      exact markFree_append.2 ⟨markFree_append.2 ⟨hs, hsep⟩, hss⟩

/-- A number is written with digits only. -/
theorem notMem_toString {d : Char} (hd : d.isDigit = false) (n : Nat) :
    d ∉ (toString n).toList := by
  intro hmem
  have hdigit := Nat.isDigit_of_mem_toDigits (Nat.succ_pos 9) (Nat.le_refl 10)
    (show d ∈ Nat.toDigits 10 n by simpa using hmem)
  exact absurd hdigit (by rw [hd]; exact Bool.false_ne_true)

theorem markFree_toString (n : Nat) : MarkFree (toString n) := notMem_toString (by decide) n

end Text

open Text

/-- Columns in parentheses, the text between, and their texts in parentheses. -/
def rowText (rows : List (String × String)) (between : String) : String :=
  "(" ++ commaList (rows.map (·.1)) ++ ") " ++ between ++ "(" ++ commaList (rows.map (·.2)) ++ ")"

/-- Each column with its text. -/
def assignmentText (rows : List (String × String)) : String :=
  commaList (rows.map fun r => r.1 ++ " = " ++ r.2)

namespace Template

/-! ## Templates with their slots filled -/

/-- The second text is the template with the texts of the list in its slots, and the template has no
mark of its own. -/
inductive Fills : Template → List String → String → Prop
  | nil : Fills [] [] ""
  | text {s : String} {t : Template} {ls : List String} {out : String} :
    MarkFree s → Fills t ls out → Fills (.text s :: t) ls (s ++ out)
  | slot {l : String} {t : Template} {ls : List String} {out : String} :
    Fills t ls out → Fills (.slot :: t) (l :: ls) (l ++ out)

namespace Fills

variable {t u : Template} {ls ms : List String} {s s' : String}

theorem marks_render (h : Fills t ls s) : marks (t.render "?") = ls.length := by
  induction h with
  | nil => rfl
  | text hs _ ih =>
    rw [render_cons, marks, String.toList_append, List.count_append]
    have hzero := List.count_eq_zero.2 hs
    rw [marks] at ih
    rw [Fragment.render, hzero, ih, Nat.zero_add]
  | slot _ ih =>
    rw [marks] at ih
    rw [render_cons, marks, String.toList_append, List.count_append, ih, List.length_cons,
      Nat.add_comm]
    rfl

theorem fillChars_render (h : Fills t ls s) : fillChars (t.render "?").toList ls = s.toList := by
  induction h with
  | nil => rfl
  | text hs _ ih =>
    rw [render_cons, String.toList_append, Fragment.render, fillChars_append_left hs, ih,
      String.toList_append]
  | @slot l t ls out _ ih =>
    rw [render_cons, String.toList_append, String.toList_append, ← ih]
    rfl

theorem fill_render (h : Fills t ls s) : fill (t.render "?") ls = s := by
  rw [fill, h.fillChars_render, String.ofList_toList]

theorem append (h : Fills t ls s) (h' : Fills u ms s') : Fills (t ++ u) (ls ++ ms) (s ++ s') := by
  induction h with
  | nil => simpa using h'
  | text hs _ ih =>
    rw [String.append_assoc]
    exact .text hs ih
  | slot _ ih =>
    rw [String.append_assoc]
    exact .slot ih

theorem of_text (h : MarkFree s) : Fills [.text s] [] s := by
  have hfills := Fills.text h .nil
  rwa [String.append_empty] at hfills

/-- Templates with a separator between neighbours, each given with its texts and what comes out. -/
theorem join {sep : String} (hsep : MarkFree sep) {parts : List (Template × List String × String)}
    (h : ∀ p ∈ parts, Fills p.1 p.2.1 p.2.2) :
    Fills (Template.join sep (parts.map (·.1))) (parts.flatMap (·.2.1))
      (sep.intercalate (parts.map (·.2.2))) := by
  induction parts with
  | nil => exact .nil
  | cons p parts ih =>
    have hp := h p List.mem_cons_self
    have hparts := ih fun q hq => h q (List.mem_cons_of_mem p hq)
    cases parts with
    | nil => simpa [Template.join] using hp
    | cons q parts =>
      have hall := hp.append ((of_text hsep).append hparts)
      rw [← List.append_assoc, List.nil_append, ← String.append_assoc] at hall
      rw [Template.join, List.map_cons, List.map_cons, List.intercalate_cons_cons,
        List.map_cons, List.map_cons, String.intercalate_cons_cons]
      exact hall

theorem of_slot (l : String) : Fills [.slot] [l] l := by
  have hfills := Fills.slot (l := l) .nil
  rwa [String.append_empty] at hfills

theorem slotList (ls : List String) : Fills (Template.slotList ls.length) ls (commaList ls) := by
  have hparts := @join ", " (by decide) (ls.map fun l => ([.slot], [l], l)) fun p hp => by
    obtain ⟨l, -, rfl⟩ := List.mem_map.1 hp
    exact of_slot l
  simpa [List.map_map, List.flatMap_map, Function.comp_def, Template.slotList, commaList]
    using hparts

variable {rows : List (String × String)}

theorem assignments (h : ∀ r ∈ rows, MarkFree r.1) :
    Fills (Template.assignments (rows.map (·.1))) (rows.map (·.2)) (assignmentText rows) := by
  have hparts := @join ", " (by decide)
    (rows.map fun r => ([.text (r.1 ++ " = "), .slot], [r.2], r.1 ++ " = " ++ r.2))
    fun p hp => by
      obtain ⟨r, hr, rfl⟩ := List.mem_map.1 hp
      exact .text (markFree_append.2 ⟨h r hr, by decide⟩) (of_slot r.2)
  simpa [List.map_map, List.flatMap_map, Function.comp_def, Template.assignments, assignmentText,
    commaList, ← List.map_eq_flatMap] using hparts

theorem columnsAndSlots (h : ∀ r ∈ rows, MarkFree r.1) {between : String}
    (hbetween : MarkFree between) :
    Fills (Template.columnsAndSlots (rows.map (·.1)) between) (rows.map (·.2))
      (rowText rows between) := by
  have hnames : MarkFree (commaList (rows.map (·.1))) := by
    apply markFree_intercalate (by decide)
    intro name hname
    obtain ⟨r, hr, rfl⟩ := List.mem_map.1 hname
    exact h r hr
  have hhead : MarkFree ("(" ++ commaList (rows.map (·.1)) ++ ") " ++ between ++ "(") := by
    simp only [markFree_append]
    exact ⟨⟨⟨⟨by decide, hnames⟩, by decide⟩, hbetween⟩, by decide⟩
  have hslots := (slotList (rows.map (·.2))).append (of_text (show MarkFree ")" by decide))
  rw [List.length_map, List.append_nil] at hslots
  simpa [Template.columnsAndSlots, rowText, String.append_assoc] using Fills.text hhead hslots

end Fills

end Template

end SqlBuilder
