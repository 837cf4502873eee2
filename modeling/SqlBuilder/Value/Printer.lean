import SqlBuilder.Value.Basic
import SqlBuilder.Decimal.Layout
import SqlBuilder.Text.Quoted

/-!
# Text of values

Two printed forms.  `Value.display` is for people: numbers in full, never with an exponent, texts in
single quotes as they are, byte strings by their length.  `Value.describe` is for logs: it names the
storage type and shows the content so that no two values look alike.
-/

namespace SqlBuilder.Value

open Decimal

/-- The form for people. -/
def display : Value → String
  | short n => toString n.toInt
  | int n => toString n.toInt
  | long n => toString n.toInt
  | float bits => plainLayout.number single bits.toNat
  | double bits => plainLayout.number Decimal.double bits.toNat
  | string s => "'" ++ s ++ "'"
  | blob bytes => "<" ++ toString bytes.length ++ " bytes>"
  | null type => "NULL::" ++ type.name

/-- What stands between the parentheses of the form for logs. -/
def content : Value → String
  | short n => toString n.toInt
  | int n => toString n.toInt
  | long n => toString n.toInt
  | float bits => exactLayout.number single bits.toNat
  | double bits => exactLayout.number Decimal.double bits.toNat
  | string s => Text.quoted s
  | blob bytes => Text.quotedBytes bytes
  | null type => type.name

/-- The form for logs. -/
def describe (v : Value) : String :=
  (if v.isNull then "Null" else v.sqlType.name) ++ "(" ++ v.content ++ ")"

/-- A list of values in the form for logs. -/
def describeList (vs : List Value) : String :=
  "[" ++ ", ".intercalate (vs.map describe) ++ "]"

end SqlBuilder.Value
