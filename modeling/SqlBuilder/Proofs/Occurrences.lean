import SqlBuilder.Dialect.Basic
import SqlBuilder.Text.Within
import Mathlib.Algebra.Ring.Nat
import Mathlib.Data.List.Infix

/-!
# Counting occurrences

How often one text occurs in another.  The count of a text put together from two is the sum of the
counts of both (`occurrencesIn_append`) unless an occurrence lies across the seam, and a seam is
safe where a few characters beside it are known: `FinishesNone part w` says that a text beginning
with `w` finishes no occurrence from further left, `BeginsNone part w` that a text ending with `w`
begins none that goes on to the right.  Both are decided by looking at the parts of `part`.
-/

namespace SqlBuilder.Text

/-- At how many places of `whole` the text `part`, which is not empty, begins. -/
def occurrencesIn (part : List Char) : (whole : List Char) → Nat
  | [] => 0
  | c :: cs => (if part.isPrefixOf (c :: cs) then 1 else 0) + occurrencesIn part cs

/-- How often `part`, which is not empty, occurs in `s`. -/
def occurrences (s part : String) : Nat := occurrencesIn part.toList s.toList

theorem occurrencesIn_eq_zero_iff {part : List Char} (hpart : part ≠ []) (whole : List Char) :
    occurrencesIn part whole = 0 ↔ occursIn part whole = false := by
  induction whole with
  | nil => simp [occurrencesIn, occursIn, hpart]
  | cons c cs ih =>
    rw [occurrencesIn, occursIn, Nat.add_eq_zero_iff, ih, Bool.or_eq_false_iff]
    cases part.isPrefixOf (c :: cs) <;> simp

/-- A text occurs nowhere that lacks its first character. -/
theorem occurrencesIn_eq_zero_of_notMem {d : Char} {part whole : List Char} (h : d ∉ whole) :
    occurrencesIn (d :: part) whole = 0 := by
  induction whole with
  | nil => rfl
  | cons c cs ih =>
    have hc : d ≠ c := fun hc => h (hc ▸ List.mem_cons_self)
    rw [occurrencesIn, ih (mt (List.mem_cons_of_mem c) h), List.isPrefixOf, beq_false_of_ne hc]
    rfl

/-! ## Seams -/

/-- No occurrence of `part` begins in `xs` and ends in `ys` when they are put together. -/
def Apart (part xs ys : List Char) : Prop :=
  ∀ u v, u ≠ [] → v ≠ [] → u ++ v = part → u <:+ xs → ¬ v <+: ys

theorem Apart.tail {part xs ys : List Char} {c : Char} (h : Apart part (c :: xs) ys) :
    Apart part xs ys :=
  fun u v hu hv huv hux => h u v hu hv huv (hux.trans (List.suffix_cons c xs))

theorem Apart.prefix_iff {part xs ys : List Char} (h : Apart part xs ys) (hxs : xs ≠ []) :
    part <+: xs ++ ys ↔ part <+: xs := by
  refine ⟨fun hp => ?_, fun hp => hp.trans (List.prefix_append xs ys)⟩
  rcases List.prefix_or_prefix_of_prefix hp (List.prefix_append xs ys) with hle | ⟨v, rfl⟩
  · exact hle
  · by_cases hv : v = []
    · rw [hv, List.append_nil]
    · exact absurd ((List.prefix_append_right_inj xs).1 hp)
        (h xs v hxs hv rfl (List.suffix_refl xs))

theorem occurrencesIn_append {part xs ys : List Char} (h : Apart part xs ys) :
    occurrencesIn part (xs ++ ys) = occurrencesIn part xs + occurrencesIn part ys := by
  induction xs with
  | nil => rw [List.nil_append, occurrencesIn, Nat.zero_add]
  | cons c xs ih =>
    have hfront : part.isPrefixOf (c :: (xs ++ ys)) = part.isPrefixOf (c :: xs) := by
      rw [Bool.eq_iff_iff, List.isPrefixOf_iff_prefix, List.isPrefixOf_iff_prefix]
      exact h.prefix_iff (List.cons_ne_nil c xs)
    rw [List.cons_append, occurrencesIn, occurrencesIn, hfront, ih h.tail, Nat.add_assoc]

/-- A text that begins with `w` finishes no occurrence of `part` from further left. -/
def FinishesNone (part w : List Char) : Prop :=
  ∀ v ∈ part.tails, v ≠ [] → v ≠ part → ¬ v <+: w ∧ ¬ w <+: v

/-- A text that ends with `w` begins no occurrence of `part` that goes on to the right. -/
def BeginsNone (part w : List Char) : Prop :=
  ∀ u ∈ part.inits, u ≠ [] → u ≠ part → ¬ u <:+ w ∧ ¬ w <:+ u

instance (part w : List Char) : Decidable (FinishesNone part w) :=
  inferInstanceAs (Decidable (∀ v ∈ part.tails, v ≠ [] → v ≠ part → ¬ v <+: w ∧ ¬ w <+: v))

instance (part w : List Char) : Decidable (BeginsNone part w) :=
  inferInstanceAs (Decidable (∀ u ∈ part.inits, u ≠ [] → u ≠ part → ¬ u <:+ w ∧ ¬ w <:+ u))

theorem FinishesNone.append {part w : List Char} (h : FinishesNone part w) (ys : List Char) :
    FinishesNone part (w ++ ys) := by
  intro v hv hne hpart
  obtain ⟨hvw, hwv⟩ := h v hv hne hpart
  refine ⟨fun hle => ?_, fun hle => hwv ((List.prefix_append w ys).trans hle)⟩
  exact (List.prefix_or_prefix_of_prefix hle (List.prefix_append w ys)).elim hvw hwv

theorem BeginsNone.append {part w : List Char} (h : BeginsNone part w) (xs : List Char) :
    BeginsNone part (xs ++ w) := by
  intro u hu hne hpart
  obtain ⟨huw, hwu⟩ := h u hu hne hpart
  refine ⟨fun hle => ?_, fun hle => hwu ((List.suffix_append xs w).trans hle)⟩
  exact (List.suffix_or_suffix_of_suffix hle (List.suffix_append xs w)).elim huw hwu

theorem FinishesNone.apart {part ys : List Char} (h : FinishesNone part ys) (xs : List Char) :
    Apart part xs ys := by
  rintro u v hu hv rfl -
  exact (h v ((List.mem_tails v _).2 (List.suffix_append u v)) hv (by simpa using hu)).1

theorem BeginsNone.apart {part xs : List Char} (h : BeginsNone part xs) (ys : List Char) :
    Apart part xs ys := by
  rintro u v hu hv rfl hux -
  exact (h u ((List.mem_inits u _).2 (List.prefix_append u v)) hu (by simpa using hv)).1 hux

/-- No occurrence begins in a text that lacks the first character. -/
theorem apart_of_notMem {d : Char} {part xs : List Char} (h : d ∉ xs) (ys : List Char) :
    Apart (d :: part) xs ys := by
  rintro (_ | ⟨e, u⟩) v hu - huv hux -
  · exact hu rfl
  · obtain ⟨rfl, -⟩ : e = d ∧ u ++ v = part := by simpa using huv
    exact h (hux.subset List.mem_cons_self)

/-! ## Comma lists -/

/-- Each occurrence in a list with commas lies in one of its members, for a text that has no
occurrence with a part of a comma. -/
theorem occurrences_commaList {part : String} (hend : FinishesNone part.toList ", ".toList)
    (hbegin : BeginsNone part.toList ", ".toList) (hcomma : occurrences ", " part = 0)
    (ss : List String) :
    occurrences (commaList ss) part = (ss.map (occurrences · part)).sum := by
  unfold commaList
  induction ss with
  | nil => rfl
  | cons s ss ih =>
    cases ss with
    | nil => rw [String.intercalate_singleton, List.map_singleton, List.sum_singleton]
    | cons t ss =>
      rw [String.intercalate_cons_cons, List.map_cons, List.sum_cons, ← ih]
      unfold occurrences at hcomma ⊢
      rw [String.toList_append, String.toList_append,
        occurrencesIn_append ((hbegin.append _).apart _), occurrencesIn_append (hend.apart _),
        hcomma, Nat.add_zero]

theorem contains_iff_isInfix {s part : String} :
    contains s part = true ↔ part.toList <:+: s.toList :=
  occursIn_iff_isInfix part.toList s.toList

theorem contains_append_right {s t part : String} (h : contains t part = true) :
    contains (s ++ t) part = true := by
  rw [contains_iff_isInfix, String.toList_append]
  exact (contains_iff_isInfix.1 h).trans (List.suffix_append _ _).isInfix

theorem contains_append_left {s t part : String} (h : contains s part = true) :
    contains (s ++ t) part = true := by
  rw [contains_iff_isInfix, String.toList_append]
  exact (contains_iff_isInfix.1 h).trans (List.prefix_append _ _).isInfix

/-- The members of a list with commas occur in it. -/
theorem contains_commaList {s : String} {ss : List String} (h : s ∈ ss) :
    contains (commaList ss) s = true := by
  unfold commaList
  induction ss with
  | nil => exact absurd h List.not_mem_nil
  | cons t ss ih =>
    cases ss with
    | nil =>
      rw [List.mem_singleton.1 h, String.intercalate_singleton, contains_iff_isInfix]
    | cons u ss =>
      rw [String.intercalate_cons_cons]
      rcases List.mem_cons.1 h with rfl | hrest
      · rw [String.append_assoc]
        exact contains_append_left (contains_iff_isInfix.2 (List.infix_refl _))
      · exact contains_append_right (ih hrest)

end SqlBuilder.Text
