import SqlBuilder.Json.Basic

/-!
# Reading JSON

`Json.read?` reads the text of one JSON value.  A whole number that fits into 64 bits is read as it
is; any other number is read as a floating-point number, from its first digits (as many as fit into
64 bits) and a power of ten, with one rounding for the digits and one for each scaling.  Objects get
ascending keys and the last value of each.
-/

namespace SqlBuilder.Json

/-! ## Numbers -/

/-- The number that the digits continue, up to 64 bits, and how many digits are left over. -/
def leadingDigits (n : Nat) : List Char → Nat × Nat
  | [] => (n, 0)
  | c :: cs =>
    let next := 10 * n + (c.toNat - '0'.toNat)
    if next < UInt64.size then leadingDigits next cs else (n, cs.length + 1)

/-- The largest power of ten that scales at once. -/
def largestPower : Nat := 308

/-- `x · 10 ^ exponent`, in scalings of at most `largestPower`. -/
def scale : (fuel : Nat) → (x : Float) → (exponent : Int) → Float
  | 0, x, _ => x
  | fuel + 1, x, exponent =>
    let power := Float.ofScientific 1 false (min exponent.natAbs largestPower)
    let scaled := if 0 ≤ exponent then x * power else x / power
    if exponent.natAbs ≤ largestPower then scaled
    else
      scale fuel scaled
        (if 0 ≤ exponent then exponent - largestPower else exponent + largestPower)

/-- Three scalings take every number out of range that more would. -/
def mostScalings : Nat := 3

/-- The floating-point number with these digits before and after the point, times a power of ten. -/
def readDouble (whole fraction : List Char) (exponent : Int) : Float :=
  let (n, left) := leadingDigits 0 whole
  let (n, leftAfter) := leadingDigits n fraction
  scale mostScalings (UInt64.ofNat n).toFloat
    (exponent + left - (fraction.length - leftAfter : Nat))

/-- The text of a number without its sign, in parts: before the point, after it, the exponent. -/
def splitNumber (cs : List Char) : List Char × List Char × List Char :=
  let whole := cs.takeWhile Char.isDigit
  let rest := cs.drop whole.length
  let fraction := match rest with
    | '.' :: rest => rest.takeWhile Char.isDigit
    | _ => []
  let exponent := match rest with
    | '.' :: rest => rest.drop (fraction.length + 1)
    | rest => rest.drop 1
  (whole, fraction, exponent)

/-- An exponent with or without its sign; none is zero. -/
def readExponent : List Char → Int
  | '-' :: ds => -(Nat.ofDigitChars 10 ds 0 : Int)
  | '+' :: ds => Nat.ofDigitChars 10 ds 0
  | ds => Nat.ofDigitChars 10 ds 0

/-- The number with this text. -/
def readNumber (text : List Char) : Json :=
  let negative := text.head? = some '-'
  let cs := if negative then text.drop 1 else text
  let n := Nat.ofDigitChars 10 cs 0
  if cs.all Char.isDigit && negative && n ≠ 0 && 2 * n ≤ UInt64.size then .int (-n)
  else if cs.all Char.isDigit && !negative && n < UInt64.size then .int n
  else
    let (whole, fraction, exponent) := splitNumber cs
    let x := readDouble whole fraction (readExponent exponent)
    .double (if negative then -x else x).toBits

/-! ## Strings -/

/-- The value of a hexadecimal digit; none for any other character. -/
def hexDigit? (c : Char) : Option Nat :=
  if '0' ≤ c ∧ c ≤ '9' then some (c.toNat - '0'.toNat)
  else if 'a' ≤ c ∧ c ≤ 'f' then some (c.toNat - 'a'.toNat + 10)
  else if 'A' ≤ c ∧ c ≤ 'F' then some (c.toNat - 'A'.toNat + 10)
  else none

/-- The number with these hexadecimal digits. -/
def hexNumber? (cs : List Char) : Option Nat :=
  cs.foldlM (fun n c => (hexDigit? c).map (16 * n + ·)) 0

/-- The character that a letter after a backslash stands for. -/
def unescape : Char → Char
  | 'n' => '\n'
  | 't' => '\t'
  | 'r' => '\r'
  | 'b' => '\x08'
  | 'f' => '\x0c'
  | c => c

/-- The code units up to the closing quote, and the text behind it. -/
def readUnits : List Char → Option (List Nat × List Char)
  | [] => none
  | '"' :: cs => some ([], cs)
  | '\\' :: 'u' :: a :: b :: c :: d :: cs => do
    let unit ← hexNumber? [a, b, c, d]
    let (units, rest) ← readUnits cs
    return (unit :: units, rest)
  | '\\' :: c :: cs => (readUnits cs).map fun (units, rest) => ((unescape c).toNat :: units, rest)
  | c :: cs => (readUnits cs).map fun (units, rest) => (c.toNat :: units, rest)

/-- The characters of the code units; two halves of a pair make one character. -/
def joinPairs : List Nat → List Char
  | [] => []
  | [unit] => [Char.ofNat unit]
  | high :: low :: units =>
    if 0xd800 ≤ high ∧ high < 0xdc00 ∧ 0xdc00 ≤ low ∧ low < 0xe000 then
      Char.ofNat (0x10000 + (high - 0xd800) * 0x400 + (low - 0xdc00)) :: joinPairs units
    else Char.ofNat high :: joinPairs (low :: units)

/-- The string up to the closing quote, and the text behind it. -/
def readString (cs : List Char) : Option (String × List Char) :=
  (readUnits cs).map fun (units, rest) => (String.ofList (joinPairs units), rest)

/-! ## Values -/

/-- The text behind leading blanks. -/
def skipBlanks (cs : List Char) : List Char := cs.dropWhile Char.isWhitespace

/-- The character may stand in a number, at whatever place. -/
def isNumberChar (c : Char) : Bool :=
  c.isDigit || c = '-' || c = '+' || c = '.' || c = 'e' || c = 'E'

mutual

/-- A value, and the text behind it. -/
def readValue : (fuel : Nat) → List Char → Option (Json × List Char)
  | 0, _ => none
  | fuel + 1, cs =>
    match skipBlanks cs with
    | 'n' :: 'u' :: 'l' :: 'l' :: cs => some (.null, cs)
    | 't' :: 'r' :: 'u' :: 'e' :: cs => some (.bool true, cs)
    | 'f' :: 'a' :: 'l' :: 's' :: 'e' :: cs => some (.bool false, cs)
    | '"' :: cs => (readString cs).map fun (s, cs) => (.string s, cs)
    | '[' :: cs =>
      match skipBlanks cs with
      | ']' :: cs => some (.array [], cs)
      | cs => (readItems fuel cs).map fun (items, cs) => (.array items, cs)
    | '\x7b' :: cs =>
      match skipBlanks cs with
      | '\x7d' :: cs => some (.object [], cs)
      | cs => (readMembers fuel cs).map fun (members, cs) => (ofMembers members, cs)
    | cs =>
      let text := cs.takeWhile isNumberChar
      if text.isEmpty then none else some (readNumber text, cs.drop text.length)

/-- The items up to the end of an array. -/
def readItems : (fuel : Nat) → List Char → Option (List Json × List Char)
  | 0, _ => none
  | fuel + 1, cs => do
    let (item, cs) ← readValue fuel cs
    match skipBlanks cs with
    | ',' :: cs => (readItems fuel cs).map fun (items, cs) => (item :: items, cs)
    | ']' :: cs => some ([item], cs)
    | _ => none

/-- The members up to the end of an object. -/
def readMembers : (fuel : Nat) → List Char → Option (List (String × Json) × List Char)
  | 0, _ => none
  | fuel + 1, cs =>
    match skipBlanks cs with
    | '"' :: cs => do
      let (key, cs) ← readString cs
      match skipBlanks cs with
      | ':' :: cs => do
        let (value, cs) ← readValue fuel cs
        match skipBlanks cs with
        | ',' :: cs => (readMembers fuel cs).map fun (ms, cs) => ((key, value) :: ms, cs)
        | '\x7d' :: cs => some ([(key, value)], cs)
        | _ => none
      | _ => none
    | _ => none

end

/-- The value with this text, blanks around it aside. -/
def read? (text : String) : Option Json :=
  let cs := text.toList
  match readValue (cs.length + 1) cs with
  | some (value, rest) => if (skipBlanks rest).isEmpty then some value else none
  | none => none

end SqlBuilder.Json
