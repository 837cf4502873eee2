import SqlBuilder.Decimal.Binary
import SqlBuilder.Decimal.Shortest

/-!
# Laying out decimals

A `Layout` says which numbers are written positionally and which with an exponent, whether a whole
number keeps a point, whether an exponent has a plus sign, and which way a tie between two shortest
decimals goes.  `Layout.number` writes a floating-point bit pattern with its shortest digits under
such a layout.
-/

namespace SqlBuilder.Decimal

/-- How decimals are laid out.  The exponents meant are those of the leading digit. -/
structure Layout where
  /-- Smaller exponents are written with an exponent. -/
  positionalFrom : Option Int
  /-- This exponent and larger ones are written with an exponent. -/
  positionalBelow : Option Int
  /-- Whole numbers end in a point and a zero. -/
  pointZero : Bool
  /-- An exponent that is not negative has a plus sign. -/
  exponentPlus : Bool
  tie : Tie

/-- Every number is positional, and whole numbers have no point. -/
def plainLayout : Layout := ⟨none, none, false, false, .up⟩

/-- Positional from `0.0001` to below `10 ^ 16`, with a point in every positional number. -/
def exactLayout : Layout := ⟨some (-4), some 16, true, false, .up⟩

/-- Positional from `0.00001` to below `10 ^ 16`, with a point in every positional number and a sign
in every exponent. -/
def dataLayout : Layout := ⟨some (-5), some 16, true, true, .toEven⟩

/-- Whether a leading digit at `exponent` is written positionally. -/
def Layout.isPositional (l : Layout) (exponent : Int) : Bool :=
  l.positionalFrom.all (· ≤ exponent) && l.positionalBelow.all (exponent < ·)

/-- Zeros that fill up places. -/
private def zeros (n : Nat) : List Char := List.replicate n '0'

/-- The digits with the point where `exponent` puts it. -/
def Layout.positional (l : Layout) (digits : List Char) (exponent : Int) : List Char :=
  let whole := digits.length + exponent
  if 0 ≤ exponent then
    digits ++ zeros exponent.toNat ++ if l.pointZero then ['.', '0'] else []
  else if 0 < whole then
    digits.take whole.toNat ++ '.' :: digits.drop whole.toNat
  else
    '0' :: '.' :: zeros (-whole).toNat ++ digits

/-- One digit, the others after a point, and the exponent of the first. -/
def Layout.scientific (l : Layout) (digits : List Char) (lead : Int) : List Char :=
  digits.take 1 ++ (if digits.length ≤ 1 then [] else '.' :: digits.drop 1) ++
    'e' :: (if l.exponentPlus && 0 ≤ lead then ['+'] else []) ++ (toString lead).toList

/-- The text of a numeral under the layout. -/
def Layout.numeral (l : Layout) (d : Numeral) : List Char :=
  let digits := Nat.toDigits 10 d.digits
  let lead := d.exponent + digits.length - 1
  if d.digits = 0 || l.isPositional lead then l.positional digits d.exponent
  else l.scientific digits lead

/-- The layouts differ from ten to the sixteenth on. -/
example :
    plainLayout.numeral ⟨1, 16⟩ = "10000000000000000".toList ∧
      exactLayout.numeral ⟨1, 16⟩ = "1e16".toList ∧
      dataLayout.numeral ⟨1, 16⟩ = "1e+16".toList := by
  decide +kernel

/-- Below a ten-thousandth the exact layout turns to an exponent first. -/
example :
    plainLayout.numeral ⟨25, -6⟩ = "0.000025".toList ∧
      exactLayout.numeral ⟨25, -6⟩ = "2.5e-5".toList ∧
      dataLayout.numeral ⟨25, -6⟩ = "0.000025".toList ∧
      dataLayout.numeral ⟨25, -7⟩ = "2.5e-6".toList := by
  decide +kernel

/-- The number with this bit pattern, under the layout.  What is not a number has no sign. -/
def Layout.number (l : Layout) (f : BinaryFormat) (bits : Nat) : String :=
  let sign := if f.isNegative bits then "-" else ""
  match f.magnitude bits with
  | .notANumber => "NaN"
  | .infinite => sign ++ "inf"
  | .finite significand scale narrowBelow =>
    sign ++ String.ofList (l.numeral (shortest l.tie significand scale narrowBelow))

end SqlBuilder.Decimal
