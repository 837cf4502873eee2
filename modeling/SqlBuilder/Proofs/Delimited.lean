import SqlBuilder.Dialect.Basic
import Mathlib.Data.List.Basic

/-!
# Where a text ends

A text that others follow can be read back when its end is seen: it stops at the first delimiter
(`append_cons_inj`), it goes on as long as its characters have a property (`append_inj_of_span`), or
it is one of several texts none of which begins another (`append_inj_of_prefixFree`).  Names of
tables and columns are texts that stop at blanks and punctuation (`IsName`).

`ReadsBack` says of a way to write things that they can be told from what stands behind them.  It
carries over to things written one after another (`ReadsBack.flatMap`) and to lists with commas
(`ReadsBack.commaChars`).
-/

namespace SqlBuilder.Text

variable {α : Type}

theorem append_cons_inj {d : α} {a b r s : List α} (ha : d ∉ a) (hb : d ∉ b)
    (h : a ++ d :: r = b ++ d :: s) : a = b ∧ r = s := by
  induction a generalizing b with
  | nil =>
    cases b with
    | nil => exact ⟨rfl, (List.cons.inj h).2⟩
    | cons c b =>
      obtain rfl := (List.cons.inj h).1
      exact absurd List.mem_cons_self hb
  | cons e a ih =>
    cases b with
    | nil =>
      obtain rfl := (List.cons.inj h).1
      exact absurd List.mem_cons_self ha
    | cons c b =>
      obtain ⟨rfl, hrest⟩ := List.cons.inj h
      obtain ⟨rfl, rfl⟩ :=
        ih (mt (List.mem_cons_of_mem e) ha) (mt (List.mem_cons_of_mem e) hb) hrest
      exact ⟨rfl, rfl⟩

theorem append_inj_of_prefixFree {f : α → List Char} (hf : ∀ a b, f a <+: f b → a = b) {a b : α}
    {r s : List Char} (h : f a ++ r = f b ++ s) : a = b ∧ r = s := by
  have hab : a = b := by
    have ha : f a <+: f b ++ s := h ▸ List.prefix_append (f a) r
    rcases List.prefix_or_prefix_of_prefix ha (List.prefix_append (f b) s) with hp | hp
    · exact hf a b hp
    · exact (hf b a hp).symm
  subst hab
  exact ⟨rfl, List.append_cancel_left h⟩

theorem append_inj_of_span {p : α → Bool} {a b r s : List α} (ha : ∀ x ∈ a, p x)
    (hb : ∀ x ∈ b, p x) (hr : ∀ x ∈ r.head?, p x = false) (hs : ∀ x ∈ s.head?, p x = false)
    (h : a ++ r = b ++ s) : a = b ∧ r = s := by
  have hspan {a r : List α} (ha : ∀ x ∈ a, p x) (hr : ∀ x ∈ r.head?, p x = false) :
      (a ++ r).takeWhile p = a := by
    rw [List.takeWhile_append_of_pos ha]
    cases r with
    | nil => simp
    | cons x r => simp [hr x rfl]
  have hab : a = b := by rw [← hspan ha hr, h, hspan hb hs]
  subst hab
  exact ⟨rfl, List.append_cancel_left h⟩

/-! ## Names -/

/-- Letters, digits, underscores and dots.  Outside ASCII every character counts as a letter. -/
def isNameChar (ch : Char) : Bool := ch.isAlphanum || ch = '_' || ch = '.' || 0x80 ≤ ch.toNat

/-- A text that can stand for a column. -/
structure IsName (s : String) : Prop where
  nonempty : s ≠ ""
  chars : ∀ ch ∈ s.toList, isNameChar ch

instance (s : String) : Decidable (IsName s) :=
  decidable_of_iff (s ≠ "" ∧ s.toList.all isNameChar)
    ⟨fun h => ⟨h.1, List.all_eq_true.1 h.2⟩, fun h => ⟨h.nonempty, List.all_eq_true.2 h.chars⟩⟩

theorem IsName.notMem {s : String} (h : IsName s) {ch : Char} (hch : isNameChar ch = false) :
    ch ∉ s.toList :=
  fun hmem => absurd (h.chars ch hmem) (by simp [hch])

/-- A name ends at a character that stands in no name. -/
theorem IsName.append_cons_inj {a b : String} (ha : IsName a) (hb : IsName b) {ch : Char}
    {r s : List Char} (h : a.toList ++ ch :: r = b.toList ++ ch :: s)
    (hch : isNameChar ch = false) : a = b ∧ r = s := by
  obtain ⟨hab, hrs⟩ := Text.append_cons_inj (ha.notMem hch) (hb.notMem hch) h
  exact ⟨String.toList_inj.1 hab, hrs⟩

/-- No name goes on here. -/
def Stops (r : List Char) : Prop := ∀ ch ∈ r.head?, isNameChar ch = false

@[simp] theorem stops_nil : Stops [] := fun _ h => nomatch h

@[simp] theorem stops_cons {ch : Char} {r : List Char} :
    Stops (ch :: r) ↔ isNameChar ch = false := by
  simp [Stops]

/-- The text begins as a name does. -/
def StartsName (a : List Char) : Prop := ∃ ch cs, a = ch :: cs ∧ isNameChar ch = true

theorem IsName.startsName {s : String} (h : IsName s) (r : List Char) :
    StartsName (s.toList ++ r) := by
  cases hs : s.toList with
  | nil => exact absurd (String.toList_inj.1 hs) h.nonempty
  | cons ch cs =>
    have hmem : ch ∈ s.toList := by rw [hs]; exact List.mem_cons_self
    exact ⟨ch, cs ++ r, rfl, h.chars ch hmem⟩

theorem StartsName.append {a : List Char} (h : StartsName a) (r : List Char) :
    StartsName (a ++ r) := by
  obtain ⟨ch, cs, rfl, hch⟩ := h
  exact ⟨ch, cs ++ r, rfl, hch⟩

theorem StartsName.ne {a r : List Char} (ha : StartsName a) (hr : Stops r) : a ≠ r := by
  obtain ⟨ch, cs, rfl, hch⟩ := ha
  rintro rfl
  rw [stops_cons, hch] at hr
  exact Bool.noConfusion hr

/-! ## Numbers -/

theorem toList_toString_inj {m n : Nat} (h : (toString m).toList = (toString n).toList) :
    m = n := by
  have hdigits : Nat.toDigits 10 m = Nat.toDigits 10 n := by simpa using h
  rw [← Nat.ofDigitChars_ten_toDigits (n := m), hdigits, Nat.ofDigitChars_ten_toDigits]

/-! ## Things one after another -/

/-- What has `P` is told from anything with `R` that stands behind it. -/
def ReadsBack (P : α → Prop) (R : List Char → Prop) (f : α → List Char) : Prop :=
  ∀ ⦃a b : α⦄ ⦃r s : List Char⦄, P a → P b → R r → R s → f a ++ r = f b ++ s → a = b ∧ r = s

theorem readsBack_name : ReadsBack IsName Stops String.toList := by
  intro a b r s ha hb hr hs h
  obtain ⟨hab, hrs⟩ := append_inj_of_span ha.chars hb.chars hr hs h
  exact ⟨String.toList_inj.1 hab, hrs⟩

namespace ReadsBack

variable {P : α → Prop} {R E : List Char → Prop} {f : α → List Char}

/-- Things written one after another, up to an end that none of them begins with. -/
theorem flatMap (h : ReadsBack P R f) (hnext : ∀ a r, P a → R (f a ++ r)) (hE : ∀ r, E r → R r)
    (hne : ∀ a r s, P a → E s → f a ++ r ≠ s) :
    ReadsBack (fun xs : List α => ∀ x ∈ xs, P x) E (List.flatMap f) := by
  have hbehind {xs : List α} (hxs : ∀ x ∈ xs, P x) {r : List Char} (hr : E r) :
      R (xs.flatMap f ++ r) := by
    cases xs with
    | nil => exact hE r hr
    | cons x xs =>
      rw [List.flatMap_cons, List.append_assoc]
      exact hnext x _ (hxs x List.mem_cons_self)
  intro xs ys r s hxs hys hr hs heq
  induction xs generalizing ys with
  | nil =>
    cases ys with
    | nil => exact ⟨rfl, heq⟩
    | cons y ys =>
      rw [List.flatMap_cons, List.append_assoc] at heq
      exact absurd heq.symm (hne y _ _ (hys y List.mem_cons_self) hr)
  | cons x xs ih =>
    rw [List.flatMap_cons, List.append_assoc] at heq
    obtain ⟨hx, hxs⟩ := List.forall_mem_cons.1 hxs
    cases ys with
    | nil => exact absurd heq (hne x _ _ hx hs)
    | cons y ys =>
      rw [List.flatMap_cons, List.append_assoc] at heq
      obtain ⟨hy, hys'⟩ := List.forall_mem_cons.1 hys
      obtain ⟨rfl, hrest⟩ := h hx hy (hbehind hxs hr) (hbehind hys' hs) heq
      obtain ⟨rfl, hrs⟩ := ih hxs hys' hrest
      exact ⟨rfl, hrs⟩

end ReadsBack

/-- Things with commas between them. -/
def commaChars (f : α → List Char) (xs : List α) : List Char := [',', ' '].intercalate (xs.map f)

theorem toList_commaList (names : List String) :
    (commaList names).toList = commaChars String.toList names :=
  String.toList_intercalate

theorem toList_commaList_map (f : α → String) (xs : List α) :
    (commaList (xs.map f)).toList = commaChars (fun x => (f x).toList) xs := by
  rw [toList_commaList, commaChars, commaChars, List.map_map]
  rfl

theorem commaChars_cons (f : α → List Char) (x : α) (xs : List α) :
    commaChars f (x :: xs) = f x ++ xs.flatMap fun y => ',' :: ' ' :: f y := by
  induction xs generalizing x with
  | nil => simp [commaChars]
  | cons y xs ih =>
    rw [commaChars, List.map_cons, List.map_cons, List.intercalate_cons_cons, ← List.map_cons,
      ← commaChars, ih, List.flatMap_cons]
    simp

/-- What may stand behind a list with commas. -/
structure EndsList (R : List Char → Prop) (r : List Char) : Prop where
  behind : R r
  stops : Stops r
  noComma : r.head? ≠ some ','

namespace ReadsBack

variable {P : α → Prop} {R : List Char → Prop} {f : α → List Char}

theorem commaChars (h : ReadsBack P R f) (hcomma : ∀ r, R (',' :: r))
    (hstart : ∀ a, P a → StartsName (f a)) :
    ReadsBack (fun xs : List α => ∀ x ∈ xs, P x) (EndsList R) (commaChars f) := by
  -- Behind the first member, a comma stands in front of each.
  have hrest : ReadsBack (fun xs : List α => ∀ x ∈ xs, P x) (EndsList R)
      (List.flatMap fun y => ',' :: ' ' :: f y) := by
    refine flatMap (R := R) ?_ (fun a r _ => hcomma _) (fun r hr => hr.behind) ?_
    · intro a b r s ha hb hr hs heq
      exact h ha hb hr hs (List.cons.inj (List.cons.inj heq).2).2
    · rintro a r s ha hs rfl
      exact hs.noComma rfl
  have hbehind (xs : List α) {r : List Char} (hr : EndsList R r) :
      R ((xs.flatMap fun y => ',' :: ' ' :: f y) ++ r) := by
    cases xs with
    | nil => exact hr.behind
    | cons x xs => exact hcomma _
  intro xs ys r s hxs hys hr hs heq
  cases xs with
  | nil =>
    cases ys with
    | nil => exact ⟨rfl, heq⟩
    | cons y ys =>
      rw [commaChars_cons, List.append_assoc] at heq
      exact absurd heq.symm (((hstart y (hys y List.mem_cons_self)).append _).ne hr.stops)
  | cons x xs =>
    rw [commaChars_cons, List.append_assoc] at heq
    obtain ⟨hx, hxs⟩ := List.forall_mem_cons.1 hxs
    cases ys with
    | nil => exact absurd heq (((hstart x hx).append _).ne hs.stops)
    | cons y ys =>
      rw [commaChars_cons, List.append_assoc] at heq
      obtain ⟨hy, hys'⟩ := List.forall_mem_cons.1 hys
      obtain ⟨rfl, htail⟩ := h hx hy (hbehind xs hr) (hbehind ys hs) heq
      obtain ⟨rfl, hrs⟩ := hrest hxs hys' hr hs htail
      exact ⟨rfl, hrs⟩

end ReadsBack

theorem readsBack_names : ReadsBack (fun names : List String => ∀ name ∈ names, IsName name)
    (EndsList Stops) (commaChars String.toList) := by
  refine readsBack_name.commaChars (fun r => stops_cons.2 rfl) fun name hname => ?_
  simpa using hname.startsName []

end SqlBuilder.Text
