/-!
# Binary floating point

A `BinaryFormat` fixes how the bits of a floating-point number are divided.
`BinaryFormat.isNegative` and `BinaryFormat.magnitude` read a bit pattern as a sign and a magnitude,
and a finite magnitude as `significand · 2 ^ scale` with natural `significand`.
-/

namespace SqlBuilder.Decimal

/-- The widths of the stored significand and of the exponent. -/
structure BinaryFormat where
  significandBits : Nat
  exponentBits : Nat

/-- The 32-bit format. -/
def single : BinaryFormat := ⟨23, 8⟩

/-- The 64-bit format. -/
def double : BinaryFormat := ⟨52, 11⟩

/-- A magnitude. -/
inductive Magnitude where
  | notANumber
  | infinite
  /-- The number `significand · 2 ^ scale`.  With `narrowBelow` the next smaller number is only
  half as far away as the next larger one. -/
  | finite (significand : Nat) (scale : Int) (narrowBelow : Bool)
deriving DecidableEq

/-- The magnitude is a number. -/
def Magnitude.isFinite : Magnitude → Bool
  | finite _ _ _ => true
  | _ => false

namespace BinaryFormat

/-- The number of stored significands. -/
def significandSpan (f : BinaryFormat) : Nat := Nat.pow 2 f.significandBits

/-- The number of stored exponents. -/
def exponentSpan (f : BinaryFormat) : Nat := Nat.pow 2 f.exponentBits

/-- The scale of the numbers nearest to zero. -/
def minScale (f : BinaryFormat) : Int :=
  2 - (f.exponentSpan / 2 : Nat) - f.significandBits

/-- The sign bit of a pattern. -/
def isNegative (f : BinaryFormat) (bits : Nat) : Bool :=
  bits.testBit (f.significandBits + f.exponentBits)

/-- The magnitude of a pattern. -/
def magnitude (f : BinaryFormat) (bits : Nat) : Magnitude :=
  let stored := bits % f.significandSpan
  let exponent := bits / f.significandSpan % f.exponentSpan
  if exponent + 1 = f.exponentSpan then
    if stored = 0 then .infinite else .notANumber
  else if exponent = 0 then
    .finite stored f.minScale false
  else
    .finite (f.significandSpan + stored) (f.minScale + (exponent - 1))
      (stored = 0 && exponent ≠ 1)

end BinaryFormat

end SqlBuilder.Decimal
