import SqlBuilder.Monitor.SqlLog
import Mathlib.Tactic.ByContra
import Mathlib.Tactic.SplitIfs

/-!
# How much of a text is shown

A text that has a budget of bytes keeps its longest beginning in whole characters that fits
(`Text.LongestFit`).  There is only one, and it leaves at most three bytes of the budget if the text
does not fit, because no character takes more than four.  The search for the cut goes back from the
budget and over no place between characters (`Text.byteIdx_le_boundary`), so what it keeps is the
longest fit (`Text.longestFit_fit`), and that is what outcomes and logs show
(`Text.longestFit_shown`).
-/

namespace SqlBuilder.Text

/-! ## Beginnings in whole characters -/

theorem toList_prefix_iff {s t : String} : t.toList <+: s.toList ↔ ∃ rest, s = t ++ rest := by
  constructor
  · rintro ⟨cs, hcs⟩
    refine ⟨String.ofList cs, ?_⟩
    rw [← String.toList_inj, String.toList_append, String.toList_ofList, hcs]
  · rintro ⟨rest, rfl⟩
    rw [String.toList_append]
    exact List.prefix_append _ _

/-- Of two beginnings of a text, one that takes no more bytes is a beginning of the other. -/
theorem prefix_of_utf8ByteSize_le {s t u : String} (ht : t.toList <+: s.toList)
    (hu : u.toList <+: s.toList) (hle : t.utf8ByteSize ≤ u.utf8ByteSize) :
    t.toList <+: u.toList := by
  rcases List.prefix_or_prefix_of_prefix ht hu with h | h
  · exact h
  · obtain ⟨rest, rfl⟩ := toList_prefix_iff.1 h
    rw [String.utf8ByteSize_append] at hle
    have hrest : rest = "" := String.utf8ByteSize_eq_zero_iff.1 (by omega)
    simp [hrest]

/-- `t` is the longest beginning of `s` in whole characters that takes at most `budget` bytes. -/
structure LongestFit (budget : Nat) (s t : String) : Prop where
  isPrefix : t.toList <+: s.toList
  utf8ByteSize_le : t.utf8ByteSize ≤ budget
  longest (u : String) : u.toList <+: s.toList → u.utf8ByteSize ≤ budget → u.toList <+: t.toList

namespace LongestFit

variable {budget : Nat} {s t u : String}

theorem unique (ht : LongestFit budget s t) (hu : LongestFit budget s u) : t = u := by
  have htu := hu.longest t ht.isPrefix ht.utf8ByteSize_le
  have hut := ht.longest u hu.isPrefix hu.utf8ByteSize_le
  exact String.toList_inj.1 (htu.eq_of_length_le hut.length_le)

theorem eq_self (ht : LongestFit budget s t) (hle : s.utf8ByteSize ≤ budget) : t = s := by
  have hst := ht.longest s (List.prefix_refl _) hle
  exact String.toList_inj.1 (ht.isPrefix.eq_of_length_le hst.length_le)

/-- The next character is too much. -/
theorem lt_add_utf8Size (ht : LongestFit budget s t) {c : Char} {rest : String}
    (hs : s = t ++ String.singleton c ++ rest) : budget < t.utf8ByteSize + c.utf8Size := by
  by_contra hfits
  have hle : (t ++ String.singleton c).utf8ByteSize ≤ budget := by
    rw [String.utf8ByteSize_append, String.utf8ByteSize_singleton]
    omega
  have hlonger := (ht.longest _ (toList_prefix_iff.2 ⟨rest, hs⟩) hle).length_le
  rw [String.toList_append, List.length_append, String.toList_singleton,
    List.length_singleton] at hlonger
  omega

theorem le_add_three (ht : LongestFit budget s t) (hlt : budget < s.utf8ByteSize) :
    budget ≤ t.utf8ByteSize + 3 := by
  have hle := ht.utf8ByteSize_le
  obtain ⟨cs, hcs⟩ := ht.isPrefix
  cases cs with
  | nil =>
    rw [List.append_nil, String.toList_inj] at hcs
    subst hcs
    omega
  | cons c cs =>
    have hs : s = t ++ String.singleton c ++ String.ofList cs := by
      rw [← String.toList_inj, ← hcs]
      simp
    have hnext := ht.lt_add_utf8Size hs
    have hfour := c.utf8Size_le_four
    omega

end LongestFit

/-! ## The search for the cut -/

theorem byteIdx_boundary_le (s : String) (n : Nat) : (boundary s n).offset.byteIdx ≤ n := by
  induction n with
  | zero => simp [boundary]
  | succ n ih =>
    rw [boundary]
    split
    · simp
    · omega

/-- The search goes back over no place between characters. -/
theorem byteIdx_le_boundary {s : String} (p : s.Pos) {n : Nat} (hp : p.offset.byteIdx ≤ n) :
    p.offset.byteIdx ≤ (boundary s n).offset.byteIdx := by
  induction n with
  | zero => omega
  | succ n ih =>
    rw [boundary]
    split
    · simpa using hp
    · next hinside =>
      -- the search goes on from inside a character only, and there `p` is not
      have hne : p.offset.byteIdx ≠ n + 1 := fun heq => hinside (heq ▸ p.isValid)
      exact ih (by omega)

/-- What is before the cut is the longest fit, also of a text that fits. -/
theorem longestFit_sliceTo_boundary (n : Nat) (s : String) :
    LongestFit n s (s.sliceTo (boundary s n)).copy := by
  have hbegins := toList_prefix_iff.2 ⟨_, (boundary s n).splits.eq_append⟩
  have hsize : (s.sliceTo (boundary s n)).copy.utf8ByteSize = (boundary s n).offset.byteIdx := by
    rw [String.Slice.utf8ByteSize_copy, String.utf8ByteSize_sliceTo]
  refine ⟨hbegins, hsize ▸ byteIdx_boundary_le s n, fun u hu hle => ?_⟩
  -- where a beginning in whole characters ends is a place that the search does not pass
  obtain ⟨rest, hrest⟩ := toList_prefix_iff.1 hu
  have hvalid : u.rawEndPos.IsValid s :=
    String.Pos.Raw.isValid_iff_exists_append.2 ⟨u, rest, hrest, rfl⟩
  apply prefix_of_utf8ByteSize_le hu hbegins
  rw [hsize]
  exact byteIdx_le_boundary (s.pos _ hvalid) hle

theorem longestFit_fit (budget : Nat) (s : String) : LongestFit budget s (fit budget s) := by
  unfold fit
  split_ifs with hfits
  · exact ⟨List.prefix_refl _, hfits, fun u hu _ => hu⟩
  · exact longestFit_sliceTo_boundary budget s

/-! ## What is shown -/

/-- `shown` stands for `s` where there is a budget: `s` itself, or its longest fit and three
dots. -/
structure Shows (budget : Nat) (s shown : String) : Prop where
  eq_self : s.utf8ByteSize ≤ budget → shown = s
  eq_append_dots : budget < s.utf8ByteSize → ∃ t, LongestFit budget s t ∧ shown = t ++ "..."
  utf8ByteSize_le : shown.utf8ByteSize ≤ budget + 3

theorem shows_shorten (budget : Nat) (s : String) : Shows budget s (shorten budget s) := by
  by_cases hfits : s.utf8ByteSize ≤ budget
  · rw [shorten, if_pos hfits]
    exact ⟨fun _ => rfl, fun hlt => absurd hfits (Nat.not_le.2 hlt), by omega⟩
  · have hfit := longestFit_fit budget s
    rw [shorten, if_neg hfits]
    refine ⟨fun hle => absurd hle hfits, fun _ => ⟨_, hfit, rfl⟩, ?_⟩
    rw [String.utf8ByteSize_append]
    exact Nat.add_le_add_right hfit.utf8ByteSize_le 3

/-- **No character is split, and no more is cut off than has to be.**  What is kept of a text is its
longest fit and nothing else: all of a text that fits, and at most three bytes less than the budget
of one that does not.  The outcome of a failed execution shows its message so, and the log of
statements their texts, unless it has no budget. -/
theorem longestFit_shown (budget : Nat) (s : String) :
    (∀ t, LongestFit budget s t ↔ t = fit budget s) ∧
    (if s.utf8ByteSize ≤ budget then fit budget s = s
      else budget - 3 ≤ (fit budget s).utf8ByteSize) ∧
    (∃ shown, Outcome.failed s = .error shown ∧ Shows Outcome.maxMessageBytes s shown) ∧
    ∀ level : Level, Shows budget s (SqlLog.shown ⟨level, some budget⟩ s) ∧
      SqlLog.shown ⟨level, none⟩ s = s := by
  have hfit := longestFit_fit budget s
  refine ⟨fun t => ⟨fun ht => ht.unique hfit, fun ht => ht ▸ hfit⟩, ?_, ?_, fun level => ?_⟩
  · split_ifs with hfits
    · exact hfit.eq_self hfits
    · have hleft := hfit.le_add_three (Nat.lt_of_not_le hfits)
      omega
  · exact ⟨_, rfl, shows_shorten Outcome.maxMessageBytes s⟩
  · exact ⟨shows_shorten budget s, rfl⟩

/-- A cut inside a character goes back to where that begins, be it the first one. -/
example : shorten 4 "café" = "caf..." ∧ shorten 5 "café" = "café" ∧ shorten 3 "😀" = "..." := by
  decide

end SqlBuilder.Text
