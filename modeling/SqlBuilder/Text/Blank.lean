import SqlBuilder.Text.Ranges

/-!
# Blank text

The characters with the Unicode property `White_Space`, and texts made of nothing else.
-/

namespace SqlBuilder.Text

/-- The ranges of `White_Space`. -/
def whiteSpaceRanges : List (Nat × Nat) :=
  [(0x09, 0x0d), (0x20, 0x20), (0x85, 0x85), (0xa0, 0xa0), (0x1680, 0x1680), (0x2000, 0x200a),
    (0x2028, 0x2029), (0x202f, 0x202f), (0x205f, 0x205f), (0x3000, 0x3000)]

/-- The character has the property `White_Space`. -/
def isWhiteSpace (c : Char) : Bool := inRanges whiteSpaceRanges c

/-- The text is empty or made of white space only. -/
def isBlank (s : String) : Bool := s.toList.all isWhiteSpace

/-- The property holds of 25 characters. -/
example : ascends 0 whiteSpaceRanges ∧ codeCount whiteSpaceRanges = 25 := by decide +kernel

end SqlBuilder.Text
