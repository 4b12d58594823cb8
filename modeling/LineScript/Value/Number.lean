import LineScript.Decimal.Layout
import LineScript.Text.Blank

/-! The three texts of a number: the one a script prints, the one inside the text
of a collection, and the one that never has an exponent. -/
namespace LineScript.Number

/-- Printed numbers are plain from `0.000001` up to twenty-one whole digits. -/
def printed : Decimal.Style := ⟨-6, 20, false, .up⟩

/-- Numbers in collections are plain in a narrower range, and a large whole
number keeps its point. -/
def nested : Decimal.Style := ⟨-5, 15, true, .even⟩

def maxSafeInteger : Nat := 9007199254740991

def text (x : Float) : Text :=
  match Double.parts x with
  | .nan => "NaN".toList
  | .infinite negative => Decimal.signed negative "Infinity".toList
  | .finite negative mantissa power =>
    if mantissa = 0 then ['0'] else printed.finite negative mantissa power

def integerText (n : Int) : Text := Decimal.signed (n < 0) (Nat.toDigits 10 n.natAbs)

def nestedText (x : Float) : Text :=
  match Double.parts x with
  | .finite negative mantissa power =>
    match Double.toInt? x with
    | some n =>
      if n.natAbs ≤ maxSafeInteger then integerText n else nested.finite negative mantissa power
    | none => nested.finite negative mantissa power
  | _ => "null".toList

def plainText (x : Float) : Text :=
  match Double.parts x with
  | .nan => "NaN".toList
  | .infinite negative => Decimal.signed negative "inf".toList
  | .finite negative mantissa power =>
    let decimal := Decimal.shortest .up mantissa power
    Decimal.signed negative (Decimal.plain decimal.digits decimal.exponent)

end LineScript.Number
