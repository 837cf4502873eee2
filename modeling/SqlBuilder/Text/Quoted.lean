import SqlBuilder.Text.Visible

/-!
# Quoted text for logs

How texts and byte strings are shown inside a description of a value: between double quotes, with a
backslash before what would end the text or leave the line.  A quoted form is one line.
-/

namespace SqlBuilder.Text

/-- Lower-case hexadecimal digits, without leading zeros. -/
def hex (n : Nat) : String := String.ofList (Nat.toDigits 16 n)

/-- Two lower-case hexadecimal digits. -/
def hexByte (b : UInt8) : String :=
  if b < 16 then "0" ++ hex b.toNat else hex b.toNat

/-- The short escapes that texts and byte strings share. -/
def shortEscape? (c : Char) : Option String :=
  match c with
  | '"' => some "\\\""
  | '\\' => some "\\\\"
  | '\n' => some "\\n"
  | '\r' => some "\\r"
  | '\t' => some "\\t"
  | '\x00' => some "\\0"
  | _ => none

/-- A character of a quoted text; one that is not visible is given by its code. -/
def quoteChar (c : Char) : String :=
  match shortEscape? c with
  | some e => e
  | none => if isVisible c then c.toString else "\\u\x7b" ++ hex c.toNat ++ "\x7d"

/-- The text between double quotes. -/
def quoted (s : String) : String := "\"" ++ String.join (s.toList.map quoteChar) ++ "\""

/-- A byte of a quoted byte string: printable ASCII stands for itself. -/
def quoteByte (b : UInt8) : String :=
  match shortEscape? (Char.ofNat b.toNat) with
  | some e => e
  | none =>
    if 0x20 ≤ b && b < 0x7f then (Char.ofNat b.toNat).toString else "\\x" ++ hexByte b

/-- The byte string between double quotes, with a `b` in front. -/
def quotedBytes (bytes : List UInt8) : String :=
  "b\"" ++ String.join (bytes.map quoteByte) ++ "\""

end SqlBuilder.Text
