import LineScript.Text.Blank
import LineScript.Decimal.Double

/-! Decimal literals: an optional sign, digits with an optional point, and an
optional exponent. Reading keeps the exact value; rounding to a double is a
separate step. -/
namespace LineScript.Decimal

/-- The exact value `± coefficient * 10 ^ power`. -/
structure Literal where
  negative : Bool
  coefficient : Nat
  power : Int
deriving DecidableEq, Repr

def splitSign : Text → Bool × Text
  | '-' :: rest => (true, rest)
  | '+' :: rest => (false, rest)
  | text => (false, text)

/-- The digits at the start of a text and the rest. -/
def splitDigits (text : Text) : Text × Text :=
  (text.takeWhile Char.isDigit, text.dropWhile Char.isDigit)

def splitFraction : Text → Text × Text
  | '.' :: rest => splitDigits rest
  | text => ([], text)

def digitsValue (digits : Text) : Nat := Nat.ofDigitChars 10 digits 0

/-- An exponent that takes up the whole text; no text is the exponent zero. -/
def readExponent? : Text → Option Int
  | [] => some 0
  | mark :: rest =>
    if mark = 'e' ∨ mark = 'E' then
      let (negative, digits) := splitSign rest
      if digits ≠ [] ∧ digits.all Char.isDigit then
        let size : Int := digitsValue digits
        some (if negative then -size else size)
      else none
    else none

def Literal.read? (text : Text) : Option Literal :=
  let (negative, unsigned) := splitSign text
  let (whole, tail) := splitDigits unsigned
  let (fraction, tail) := splitFraction tail
  if whole = [] ∧ fraction = [] then none
  else
    (readExponent? tail).map fun exponent =>
      ⟨negative, digitsValue (whole ++ fraction), exponent - fraction.length⟩

/-- The nearest double. Values far outside the range of doubles are infinite or
zero without being computed. -/
def Literal.toFloat (literal : Literal) : Float :=
  let leading : Int := (Nat.toDigits 10 literal.coefficient).length + literal.power
  let size : Float :=
    if literal.coefficient = 0 ∨ leading < -400 then 0.0
    else if 400 < leading then 1.0 / 0.0
    else Float.ofScientific literal.coefficient (literal.power < 0) literal.power.natAbs
  if literal.negative then -size else size

def parseNumber? (text : Text) : Option Float :=
  (Literal.read? (Text.trim text)).map Literal.toFloat

end LineScript.Decimal
