import SqlBuilder.Text.Blank
import SqlBuilder.Text.Mark
import SqlBuilder.Text.Unassigned

/-!
# Visible characters

A character is visible if it has a form of its own on the page.  Controls, white space other than
the ordinary blank, formatting characters, private characters and unassigned ones have none, and
neither have fillers and other characters that a reader is to pass over, nor marks that only extend
the character before them.  The data is that of Unicode 17.0.
-/

namespace SqlBuilder.Text

/-- A control character, of category `Cc`: one below U+0020 or from U+007F to U+009F. -/
def isControl (c : Char) : Bool := c.toNat < 0x20 || (0x7f ≤ c.toNat && c.toNat ≤ 0x9f)

/-- The ranges of formatting characters, of category `Cf`. -/
def formatRanges : List (Nat × Nat) :=
  [(0xad, 0xad), (0x600, 0x605), (0x61c, 0x61c), (0x6dd, 0x6dd), (0x70f, 0x70f), (0x890, 0x891),
    (0x8e2, 0x8e2), (0x180e, 0x180e), (0x200b, 0x200f), (0x202a, 0x202e), (0x2060, 0x2064),
    (0x2066, 0x206f), (0xfeff, 0xfeff), (0xfff9, 0xfffb), (0x110bd, 0x110bd), (0x110cd, 0x110cd),
    (0x13430, 0x1343f), (0x1bca0, 0x1bca3), (0x1d173, 0x1d17a), (0xe0001, 0xe0001),
    (0xe0020, 0xe007f)]

/-- The character is a formatting character. -/
def isFormat (c : Char) : Bool := inRanges formatRanges c

/-- The ranges of characters left to private agreement, of category `Co`. -/
def privateRanges : List (Nat × Nat) :=
  [(0xe000, 0xf8ff), (0xf0000, 0xffffd), (0x100000, 0x10fffd)]

/-- The meaning of the character is left to private agreement. -/
def isPrivate (c : Char) : Bool := inRanges privateRanges c

/-- The ranges of `Default_Ignorable_Code_Point`.  Among the letters it has the fillers of Hangul:
U+115F, U+1160, U+3164 and U+FFA0. -/
def ignorableRanges : List (Nat × Nat) :=
  [(0xad, 0xad), (0x34f, 0x34f), (0x61c, 0x61c), (0x115f, 0x1160), (0x17b4, 0x17b5),
    (0x180b, 0x180f), (0x200b, 0x200f), (0x202a, 0x202e), (0x2060, 0x206f), (0x3164, 0x3164),
    (0xfe00, 0xfe0f), (0xfeff, 0xfeff), (0xffa0, 0xffa0), (0xfff0, 0xfff8), (0x1bca0, 0x1bca3),
    (0x1d173, 0x1d17a), (0xe0000, 0xe0fff)]

/-- The character is passed over where it has no effect of its own. -/
def isIgnorable (c : Char) : Bool := inRanges ignorableRanges c

/-- The ordinary blank or a graphic character of ASCII. -/
def isPrintableAscii (c : Char) : Bool := 0x20 ≤ c.toNat && c.toNat < 0x7f

/-- The character has a form of its own, or is the ordinary blank.  The test for ASCII comes first:
it answers for most texts. -/
def isVisible (c : Char) : Bool :=
  isPrintableAscii c ||
    !(isControl c || isWhiteSpace c || isFormat c || isPrivate c || isUnassigned c ||
      isIgnorable c || isExtendingMark c)

/-- The three tables ascend, from behind ASCII on. -/
example :
    ascends 0x80 formatRanges ∧ ascends 0x80 privateRanges ∧ ascends 0x80 ignorableRanges := by
  decide +kernel

/-- There are 170 formatting characters, and 4174 codes are ignorable. -/
example : codeCount formatRanges = 170 ∧ codeCount ignorableRanges = 4174 := by decide +kernel

/-- The ordinary blank is visible, a tab and the end of a line are not. -/
example : isVisible ' ' ∧ isVisible '\t' = false ∧ isVisible '\n' = false := by decide +kernel

/-- An accent that combines with a letter is not visible; a letter that has one is, and so is a
half-width sound mark. -/
example : isVisible '\u0301' = false ∧ isVisible '\u00e9' ∧ isVisible '\uff9e' := by
  decide +kernel

/-- A filler is not visible, the first vowel of its block is. -/
example : isVisible '\u1160' = false ∧ isVisible '\u1161' := by decide +kernel

end SqlBuilder.Text
