import LineScript.Decimal.Shortest

/-! The text of a decimal: plain, or with an exponent when the first digit stands
outside a given range of powers of ten. -/
namespace LineScript.Decimal

def zeros (count : Nat) : List Char := List.replicate count '0'

/-- Plain decimal text of `digits`, the first of which counts `10 ^ exponent`. -/
def plain (digits : List Char) (exponent : Int) : List Char :=
  if exponent < 0 then '0' :: '.' :: zeros (-exponent - 1).toNat ++ digits
  else
    let whole := exponent.toNat + 1
    if digits.length ≤ whole then digits ++ zeros (whole - digits.length)
    else digits.take whole ++ '.' :: digits.drop whole

def isPlainWhole (digits : List Char) (exponent : Int) : Bool :=
  digits.length ≤ exponent + 1

/-- One digit, the others after a point, and the exponent with its sign. -/
def scientific (digits : List Char) (exponent : Int) : List Char :=
  let tail := digits.drop 1
  digits.take 1 ++ (if tail.isEmpty then [] else '.' :: tail) ++
    'e' :: (if exponent < 0 then '-' else '+') :: Nat.toDigits 10 exponent.natAbs

/-- How decimals are written: which exponents of the first digit are plain,
whether a plain whole number keeps a zero after the point, and where ties go. -/
structure Style where
  least : Int
  greatest : Int
  keepPoint : Bool
  tie : Tie

def Style.write (style : Style) (digits : List Char) (exponent : Int) : List Char :=
  if style.least ≤ exponent ∧ exponent ≤ style.greatest then
    plain digits exponent ++
      (if style.keepPoint && isPlainWhole digits exponent then ['.', '0'] else [])
  else scientific digits exponent

def signed (negative : Bool) (text : List Char) : List Char :=
  if negative then '-' :: text else text

/-- The text of `± mantissa * 2 ^ power`. -/
def Style.finite (style : Style) (negative : Bool) (mantissa : Nat) (power : Int) : List Char :=
  let decimal := shortest style.tie mantissa power
  signed negative (style.write decimal.digits decimal.exponent)

end LineScript.Decimal
