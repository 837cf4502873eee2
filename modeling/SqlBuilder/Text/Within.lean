/-!
# Texts inside texts

Whether a text occurs in another, and the two sides of its last occurrence.
-/

namespace SqlBuilder.Text

/-- Whether `part` occurs in `whole` without a gap. -/
def occursIn (part : List Char) : (whole : List Char) → Bool
  | [] => part.isEmpty
  | c :: cs => part.isPrefixOf (c :: cs) || occursIn part cs

/-- Whether `part` occurs in `s`. -/
def contains (s part : String) : Bool := occursIn part.toList s.toList

theorem occursIn_iff_isInfix (part whole : List Char) :
    occursIn part whole = true ↔ part <:+: whole := by
  induction whole with
  | nil => simp [occursIn]
  | cons c cs ih => simp [occursIn, ih, List.infix_cons_iff]

/-- What stands before and after the last occurrence of `part`. -/
def splitLast (part : List Char) : List Char → Option (List Char × List Char)
  | [] => none
  | c :: cs =>
    match splitLast part cs with
    | some (before, after) => some (c :: before, after)
    | none =>
      if part.isPrefixOf (c :: cs) then some ([], (c :: cs).drop part.length) else none

end SqlBuilder.Text
