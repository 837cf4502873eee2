import SqlBuilder.Text.Within

/-!
# Failures of writing JSON

Why a value has no JSON text.  The reason is a text, and it may say at its end where the value goes
wrong, as in `bad number at line 3 column 14`.  `Json.Failure.ofText` reads such an ending, and
`Json.Failure.text` writes it again, in numbers without leading zeros.  Lines count from one, so an
ending with line zero names no place and is left out.
-/

namespace SqlBuilder.Json

/-- A place in a text. -/
structure Place where
  line : Nat
  column : Nat
  line_pos : 0 < line
deriving DecidableEq

/-- Why a value has no JSON text and, if it is known, where it goes wrong. -/
structure Failure where
  reason : String
  place : Option Place
deriving DecidableEq

namespace Failure

/-- What stands between the reason and the line. -/
def lineMark : String := " at line "

/-- What stands between the line and the column. -/
def columnMark : String := " column "

/-- The number with these digits, if there are any and it fits into 64 bits. -/
def number? (digits : List Char) : Option Nat :=
  let n := Nat.ofDigitChars 10 digits 0
  if !digits.isEmpty && digits.all Char.isDigit && n < UInt64.size then some n else none

/-- The text in front of an ending that looks like a place, and its line and column. -/
def ending? (cs : List Char) : Option (List Char × Nat × Nat) := do
  let (reason, place) ← Text.splitLast lineMark.toList cs
  let (line, column) ← Text.splitLast columnMark.toList place
  return (reason, ← number? line, ← number? column)

/-- The failure that the text describes. -/
def ofText (s : String) : Failure :=
  match ending? s.toList with
  | some (reason, line, column) =>
    ⟨String.ofList reason, if h : 0 < line then some ⟨line, column, h⟩ else none⟩
  | none => ⟨s, none⟩

/-- The description of a failure. -/
def text (f : Failure) : String :=
  match f.place with
  | some p => f.reason ++ lineMark ++ toString p.line ++ columnMark ++ toString p.column
  | none => f.reason

/-- Numbers lose their leading zeros, and line zero is left out with its column. -/
example :
    (ofText "x at line 007 column 03").text = "x at line 7 column 3" ∧
      (ofText "x at line 0 column 17").text = "x" := by
  decide +kernel

/-- Only the last ending is a place, and nothing may follow it. -/
example :
    (ofText "x at line 0 column 0 at line 1 column 2").reason = "x at line 0 column 0" ∧
      ofText "x at line 0 column 1." = ⟨"x at line 0 column 1.", none⟩ := by
  decide +kernel

/-- A number without digits or with more than 64 bits is none. -/
example : ending? " at line 1 column ".toList = none ∧
    ending? " at line 18446744073709551616 column 1".toList = none := by
  decide +kernel

end Failure

end SqlBuilder.Json
