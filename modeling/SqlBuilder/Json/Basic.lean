import SqlBuilder.Decimal.Layout
import SqlBuilder.Text.Quoted

/-!
# JSON values

The values of JSON and their text without spaces.  Only what must be escaped is escaped;
floating-point numbers have their shortest digits, and those that are not finite have no text but
`null`.  The members of an object keep their order in the text;
`Json.ofMembers` is the object whose keys ascend, with the last value given for each.
-/

namespace SqlBuilder

/-- A JSON value.  Whole numbers and floating-point numbers are told apart. -/
inductive Json where
  | null
  | bool (b : Bool)
  | int (n : Int)
  | double (bits : UInt64)
  | string (s : String)
  | array (items : List Json)
  | object (members : List (String × Json))

namespace Json

/-- A character inside a JSON string. -/
def escapeChar (c : Char) : String :=
  match c with
  | '"' => "\\\""
  | '\\' => "\\\\"
  | '\n' => "\\n"
  | '\r' => "\\r"
  | '\t' => "\\t"
  | '\x08' => "\\b"
  | '\x0c' => "\\f"
  | c => if c.toNat < 0x20 then "\\u00" ++ Text.hexByte c.toNat.toUInt8 else c.toString

/-- A string between double quotes. -/
def quoted (s : String) : String := "\"" ++ String.join (s.toList.map escapeChar) ++ "\""

mutual

/-- The text of a value. -/
def text : Json → String
  | null => "null"
  | bool b => if b then "true" else "false"
  | int n => toString n
  | double bits =>
    if (Decimal.double.magnitude bits.toNat).isFinite then
      Decimal.dataLayout.number Decimal.double bits.toNat
    else "null"
  | string s => quoted s
  | array items => "[" ++ ",".intercalate (itemTexts items) ++ "]"
  | object members => "\x7b" ++ ",".intercalate (memberTexts members) ++ "\x7d"

/-- The texts of the items of an array. -/
def itemTexts : List Json → List String
  | [] => []
  | j :: js => j.text :: itemTexts js

/-- The members of an object, each as its key and the text of its value. -/
def memberTexts : List (String × Json) → List String
  | [] => []
  | (key, j) :: ms => (quoted key ++ ":" ++ j.text) :: memberTexts ms

end

/-- Puts a member among members with ascending keys, in place of one with the same key. -/
def insertMember (key : String) (j : Json) : List (String × Json) → List (String × Json)
  | [] => [(key, j)]
  | (k, i) :: ms =>
    if key < k then (key, j) :: (k, i) :: ms
    else if key = k then (key, j) :: ms
    else (k, i) :: insertMember key j ms

/-- The object with ascending keys and the last value of each. -/
def ofMembers (members : List (String × Json)) : Json :=
  .object (members.foldl (fun ms (key, j) => insertMember key j ms) [])

end Json

end SqlBuilder
