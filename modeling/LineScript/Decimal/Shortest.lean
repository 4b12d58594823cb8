import LineScript.Decimal.Double

/-! The shortest decimal of a double. A positive double stands for every real
that rounds to it; of the decimals in that interval the one with the fewest
digits is chosen, and of those the nearest. All comparisons are exact. -/
namespace LineScript.Decimal

def ten (exponent : Nat) : Nat := Nat.pow 10 exponent

/-- The decimal `coefficient * 10 ^ power`. -/
structure Scaled where
  coefficient : Nat
  power : Int
deriving DecidableEq, Repr

inductive Tie where
  | up
  | even

/-- A range of reals around `value`, all in units of `numerator / denominator`. -/
structure Interval where
  low : Nat
  value : Nat
  high : Nat
  closed : Bool
  numerator : Nat
  denominator : Nat

/-- The reals that round to `mantissa * 2 ^ power`. The gap below a power of two
is half as wide, unless the exponent is already the least one. -/
def Interval.ofParts (mantissa : Nat) (power : Int) : Interval where
  low := if mantissa = Double.two 52 ∧ -1074 < power then 4 * mantissa - 1 else 4 * mantissa - 2
  value := 4 * mantissa
  high := 4 * mantissa + 2
  closed := mantissa % 2 == 0
  numerator := Double.two (power - 2).toNat
  denominator := Double.two (2 - power).toNat

/-- Compares `coefficient * 10 ^ power` with `size` units. -/
def Interval.compare (range : Interval) (decimal : Scaled) (size : Nat) : Ordering :=
  Ord.compare (decimal.coefficient * ten decimal.power.toNat * range.denominator)
    (size * range.numerator * ten (-decimal.power).toNat)

def Interval.contains (range : Interval) (decimal : Scaled) : Bool :=
  match range.compare decimal range.low, range.compare decimal range.high with
  | .gt, .lt => true
  | .eq, _ => range.closed
  | _, .eq => range.closed
  | _, _ => false

/-- The largest `e` with `10 ^ e` not above the value, found next to an estimate
from the binary logarithm. -/
def Interval.exponent (range : Interval) (mantissa : Nat) (power : Int) : Int :=
  let estimate := (mantissa.log2 + power) * 30103 / 100000
  if range.compare ⟨1, estimate⟩ range.value == .gt then estimate - 1
  else if range.compare ⟨1, estimate + 1⟩ range.value == .gt then estimate
  else estimate + 1

def Interval.quotient (range : Interval) (power : Int) : Nat :=
  range.value * range.numerator * ten (-power).toNat / (range.denominator * ten power.toNat)

/-- Compares the distances from the value to the multiples of `10 ^ power` below
and above it. -/
def Interval.nearer (range : Interval) (below : Nat) (power : Int) : Ordering :=
  range.compare ⟨2 * below + 1, power⟩ (2 * range.value)

/-- Of the two multiples of `10 ^ power` around the value, the one to print. -/
def Interval.onGrid? (range : Interval) (tie : Tie) (power : Int) : Option Scaled :=
  let below := range.quotient power
  let down := range.contains ⟨below, power⟩
  let up := range.contains ⟨below + 1, power⟩
  if down && up then
    match range.nearer below power, tie with
    | .gt, _ => some ⟨below, power⟩
    | .lt, _ => some ⟨below + 1, power⟩
    | .eq, .up => some ⟨below + 1, power⟩
    | .eq, .even => some ⟨below + below % 2, power⟩
  else if down then some ⟨below, power⟩
  else if up then some ⟨below + 1, power⟩
  else none

/-- The first of `count` ever finer grids with a decimal in the interval. -/
def Interval.search (range : Interval) (tie : Tie) (power : Int) : Nat → Scaled
  | 0 => ⟨range.quotient power, power⟩
  | count + 1 => (range.onGrid? tie power).getD (range.search tie (power - 1) count)

/-- Removes the factors of ten from the coefficient. -/
def Scaled.normalize (decimal : Scaled) : Scaled :=
  if decimal.coefficient ≠ 0 ∧ decimal.coefficient % 10 = 0 then
    Scaled.normalize ⟨decimal.coefficient / 10, decimal.power + 1⟩
  else decimal
termination_by decimal.coefficient
decreasing_by omega

/-- The shortest decimal that rounds to `mantissa * 2 ^ power`. Seventeen digits
always suffice. -/
def shortest (tie : Tie) (mantissa : Nat) (power : Int) : Scaled :=
  if mantissa = 0 then ⟨0, 0⟩
  else
    let range := Interval.ofParts mantissa power
    (range.search tie (range.exponent mantissa power) 17).normalize

def Scaled.digits (decimal : Scaled) : List Char := Nat.toDigits 10 decimal.coefficient

/-- The power of ten of the first digit. -/
def Scaled.exponent (decimal : Scaled) : Int :=
  decimal.power + (decimal.digits.length - 1 : Nat)

end LineScript.Decimal
