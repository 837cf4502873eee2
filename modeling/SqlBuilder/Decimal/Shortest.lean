/-!
# The shortest decimal that reads back

A floating-point number stands for every real number that rounds to it.  `shortest` finds the
decimal with the fewest digits among those reals: for 1, 2, … digits it tries the two neighbours of
the number on the grid of decimals with so many digits, and takes the first grid that has a hit.  Of
two hits the nearer one is taken, and a `Tie` rule decides when they are equally near.

All arithmetic is exact: with `x = significand · 2 ^ scale`, quantities are compared as natural
numbers over one common denominator.
-/

namespace SqlBuilder.Decimal

/-- The number `digits · 10 ^ exponent`. -/
structure Numeral where
  digits : Nat
  exponent : Int
deriving DecidableEq

/-- Which of two equally near neighbours is taken. -/
inductive Tie where
  | up
  | toEven
deriving DecidableEq

/-- The reals that round to a number, as natural numbers over `unit`: from `low` to `high` around
`middle`, ends included if `closed`. -/
structure Interval where
  low : Nat
  middle : Nat
  high : Nat
  unit : Nat
  closed : Bool

/-- The reals that round to `significand · 2 ^ scale`.  Halfway cases go to the even significand,
so the ends belong to it exactly when it is even. -/
def Interval.ofBinary (significand : Nat) (scale : Int) (narrowBelow : Bool) : Interval :=
  let up := Nat.pow 2 (scale - 2).toNat
  { low := (4 * significand - if narrowBelow then 1 else 2) * up
    middle := 4 * significand * up
    high := (4 * significand + 2) * up
    unit := Nat.pow 2 (2 - scale).toNat
    closed := significand % 2 = 0 }

/-- Whether the real `n / d` lies in the interval. -/
def Interval.contains (i : Interval) (n d : Nat) : Bool :=
  let x := n * i.unit
  if i.closed then i.low * d ≤ x && x ≤ i.high * d else i.low * d < x && x < i.high * d

/-- The number of decimal digits; none for zero. -/
def digitCount (n : Nat) : Nat := if n = 0 then 0 else (Nat.toDigits 10 n).length

/-- The exponent of the leading decimal digit of `n / d`, for positive `n` and `d`. -/
def leadingExponent (n d : Nat) : Int :=
  if d ≤ n then (digitCount (n / d) : Int) - 1 else -(digitCount ((d + n - 1) / n - 1) : Int)

/-- The multiple of `10 ^ exponent` nearest to the middle among its two neighbours that lie in the
interval. -/
def Interval.onGrid? (i : Interval) (tie : Tie) (exponent : Int) : Option Numeral :=
  let num := Nat.pow 10 exponent.toNat
  let den := Nat.pow 10 (-exponent).toNat
  let below := i.middle * den / (i.unit * num)
  let hit (k : Nat) : Bool := i.contains (k * num) den
  let twice := 2 * (i.middle * den)
  let midpoint := (2 * below + 1) * (i.unit * num)
  match hit below, hit (below + 1) with
  | false, false => none
  | true, false => some ⟨below, exponent⟩
  | false, true => some ⟨below + 1, exponent⟩
  | true, true =>
    let down := twice < midpoint ∨ twice = midpoint ∧ tie = .toEven ∧ below % 2 = 0
    some ⟨if down then below else below + 1, exponent⟩

/-- The same number with as few trailing zeros as `fuel` lets us take away. -/
def Numeral.strip : Nat → Numeral → Numeral
  | 0, d => d
  | fuel + 1, d =>
    if d.digits ≠ 0 ∧ d.digits % 10 = 0 then strip fuel ⟨d.digits / 10, d.exponent + 1⟩ else d

/-- The shortest decimal in the interval, tried with up to `most` digits. -/
def Interval.shortest (i : Interval) (tie : Tie) (most : Nat) : Numeral :=
  let lead := leadingExponent i.middle i.unit
  let found := (List.range most).findSome? fun (n : Nat) => i.onGrid? tie (lead - n)
  (found.getD ⟨0, 0⟩).strip most

/-- Seventeen digits tell any two 64-bit numbers apart. -/
def mostDigits : Nat := 17

/-- The shortest decimal that reads back as the nonzero number `significand · 2 ^ scale`, and zero
for zero. -/
def shortest (tie : Tie) (significand : Nat) (scale : Int) (narrowBelow : Bool) : Numeral :=
  if significand = 0 then ⟨0, 0⟩
  else (Interval.ofBinary significand scale narrowBelow).shortest tie mostDigits

end SqlBuilder.Decimal
