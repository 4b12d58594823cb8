/-! The exact value of a double. A finite double is a natural mantissa times a
power of two with a sign; integrality, truncation and the remainder are decided
on those parts in integer arithmetic. -/
namespace LineScript.Double

def two (exponent : Nat) : Nat := Nat.pow 2 exponent

inductive Parts where
  | nan
  | infinite (negative : Bool)
  | finite (negative : Bool) (mantissa : Nat) (power : Int)
deriving DecidableEq, Repr

def parts (x : Float) : Parts :=
  let bits := x.toBits.toNat
  let negative := bits / two 63 == 1
  let biased : Nat := bits / two 52 % two 11
  let fraction := bits % two 52
  if biased = 2047 then
    if fraction = 0 then .infinite negative else .nan
  else if biased = 0 then .finite negative fraction (-1074)
  else .finite negative (two 52 + fraction) ((biased : Int) - 1075)

/-- The integer part of `mantissa * 2 ^ power`. -/
def floor (mantissa : Nat) (power : Int) : Nat :=
  if 0 ≤ power then mantissa * two power.toNat else mantissa / two (-power).toNat

/-- Whether `mantissa * 2 ^ power` is a whole number. -/
def isWhole (mantissa : Nat) (power : Int) : Bool :=
  0 ≤ power || mantissa % two (-power).toNat == 0

/-- The integer that a double equals, if there is one. -/
def toInt? (x : Float) : Option Int :=
  match parts x with
  | .finite negative mantissa power =>
    if isWhole mantissa power then
      let size : Int := floor mantissa power
      some (if negative then -size else size)
    else none
  | _ => none

/-- Truncates to a natural number not above `limit`. Negative numbers and NaN go
to zero. -/
def clamp (limit : Nat) (x : Float) : Nat :=
  match parts x with
  | .nan => 0
  | .infinite negative => if negative then 0 else limit
  | .finite negative mantissa power => if negative then 0 else min (floor mantissa power) limit

/-- The double `± mantissa * 2 ^ power`, exact when the mantissa is below
`2 ^ 53` and the power at least `-1074`. -/
def ofParts (negative : Bool) (mantissa : Nat) (power : Int) : Float :=
  let sign := if negative then two 63 else 0
  if mantissa = 0 then Float.ofBits (UInt64.ofNat sign)
  else
    let shift := min (52 - mantissa.log2) (power + 1074).toNat
    let mantissa := mantissa * two shift
    let power := power - shift
    let size :=
      if mantissa < two 52 then mantissa
      else (power + 1075).toNat * two 52 + (mantissa - two 52)
    Float.ofBits (UInt64.ofNat (sign + size))

def nan : Float := 0.0 / 0.0

/-- The remainder of the division truncated toward zero, which is always exact.
It has the sign of the dividend. -/
def remainder (x y : Float) : Float :=
  match parts x, parts y with
  | .finite negative m p, .finite _ n q =>
    let power := min p q
    let dividend := m * two (p - power).toNat
    let divisor := n * two (q - power).toNat
    if divisor = 0 then nan else ofParts negative (dividend % divisor) power
  | .finite .., .infinite _ => x
  | _, _ => nan

end LineScript.Double
