import LineScript.Decimal.Literal
import LineScript.Text.Search
import LineScript.Toml.Node
import LineScript.Toml.Quoted

/-! Unquoted values of settings documents: truth values, integers in four bases,
floats, dates and times. A word is a value only if all of it is one. -/
namespace LineScript.Toml

/-- Removes underscores, each of which must stand between two digits. -/
def groupedDigits? (isDigit : Char → Bool) : Text → Option Text
  | [] => none
  | [c] => if isDigit c then some [c] else none
  | c :: '_' :: rest =>
    if isDigit c then (groupedDigits? isDigit rest).map (c :: ·) else none
  | c :: rest => if isDigit c then (groupedDigits? isDigit rest).map (c :: ·) else none

/-- Integers have 64 bits. -/
def inRange (n : Int) : Bool := -9223372036854775808 ≤ n && n ≤ 9223372036854775807

def valueInBase (base : Nat) (digits : Text) : Nat :=
  digits.foldl (fun sum c => base * sum + (hexValue? c).getD 0) 0

def integerInBase? (base : Nat) (digits : Text) : Option Int := do
  let digits ← groupedDigits? (fun c => (hexValue? c).any (· < base)) digits
  let value : Int := valueInBase base digits
  if inRange value then some value else none

def decimalDigits? (text : Text) : Option Text := do
  let digits ← groupedDigits? Char.isDigit text
  match digits with
  | '0' :: _ :: _ => none
  | _ => some digits

def integer? (word : Text) : Option Int :=
  match word with
  | '0' :: 'x' :: digits => integerInBase? 16 digits
  | '0' :: 'o' :: digits => integerInBase? 8 digits
  | '0' :: 'b' :: digits => integerInBase? 2 digits
  | _ => do
    let (negative, unsigned) := Decimal.splitSign word
    let size : Int := Decimal.digitsValue (← decimalDigits? unsigned)
    let value := if negative then -size else size
    if inRange value then some value else none

def floatText? (word : Text) : Option Text := do
  let isMark (c : Char) := c == 'e' || c == 'E'
  let (_, unsigned) := Decimal.splitSign word
  let mantissa := unsigned.takeWhile (!isMark ·)
  let exponent := unsigned.dropWhile (!isMark ·)
  let whole := mantissa.takeWhile (· != '.')
  let fraction := mantissa.dropWhile (· != '.')
  if fraction.isEmpty && exponent.isEmpty then none
  let _ ← decimalDigits? whole
  if !fraction.isEmpty then
    let _ ← groupedDigits? Char.isDigit (fraction.drop 1)
  if !exponent.isEmpty then
    let _ ← groupedDigits? Char.isDigit (Decimal.splitSign (exponent.drop 1)).2
  return word.filter (· != '_')

def isFloat (word : Text) : Bool :=
  let (_, unsigned) := Decimal.splitSign word
  unsigned = "inf".toList || unsigned = "nan".toList ||
    match (floatText? word).bind Decimal.parseNumber? with
    | some x => !(x == 1.0 / 0.0)
    | none => false

def fixedDigits? (count : Nat) (text : Text) : Option (Nat × Text) :=
  let digits := text.take count
  if digits.length = count ∧ digits.all Char.isDigit then
    some (Decimal.digitsValue digits, text.drop count)
  else none

def expect? (c : Char) : Text → Option Text
  | [] => none
  | d :: rest => if c = d then some rest else none

def daysInMonth (year month : Nat) : Nat :=
  let leap := year % 4 == 0 && (year % 100 != 0 || year % 400 == 0)
  match month with
  | 2 => if leap then 29 else 28
  | 4 | 6 | 9 | 11 => 30
  | _ => 31

/-- The rest after a date `yyyy-mm-dd`. -/
def date? (text : Text) : Option Text := do
  let (year, rest) ← fixedDigits? 4 text
  let (month, rest) ← fixedDigits? 2 (← expect? '-' rest)
  let (day, rest) ← fixedDigits? 2 (← expect? '-' rest)
  if 1 ≤ month ∧ month ≤ 12 ∧ 1 ≤ day ∧ day ≤ daysInMonth year month then some rest else none

/-- The rest after a time `hh:mm:ss` with an optional fraction. -/
def time? (text : Text) : Option Text := do
  let (hour, rest) ← fixedDigits? 2 text
  let (minute, rest) ← fixedDigits? 2 (← expect? ':' rest)
  let (second, rest) ← fixedDigits? 2 (← expect? ':' rest)
  if 23 < hour ∨ 59 < minute ∨ 60 < second then none
  match rest with
  | '.' :: fraction =>
    let digits := fraction.takeWhile Char.isDigit
    if digits.isEmpty then none else some (fraction.drop digits.length)
  | _ => some rest

/-- An optional offset from universal time at the end of a word. -/
def isOffset : Text → Bool
  | [] | ['Z'] | ['z'] => true
  | sign :: rest => (sign == '+' || sign == '-') && Option.isSome do
    let (hour, rest) ← fixedDigits? 2 rest
    let (minute, rest) ← fixedDigits? 2 (← expect? ':' rest)
    if 23 < hour ∨ 59 < minute ∨ rest ≠ [] then none else some ()

def isTime (word : Text) : Bool := time? word == some []

def isDateTime (word : Text) : Bool :=
  match date? word with
  | some [] => true
  | some (mark :: rest) =>
    (mark == 'T' || mark == 't' || mark == ' ') && (time? rest).any isOffset
  | none => false

def isWordChar (c : Char) : Bool :=
  c.isAlphanum || c == '_' || c == '+' || c == '-' || c == '.' || c == ':'

/-- The word at the start of a text. A blank between a date and a time belongs to
the word. -/
def splitWord (text : Text) : Text × Text :=
  let word := text.takeWhile isWordChar
  match date? word, text.drop word.length with
  | some [], ' ' :: d :: rest =>
    if d.isDigit then
      let time := (d :: rest).takeWhile isWordChar
      (word ++ ' ' :: time, (d :: rest).drop time.length)
    else (word, ' ' :: d :: rest)
  | _, rest => (word, rest)

def scalar? (word : Text) : Option Scalar :=
  if word = "true".toList then some (.boolean true)
  else if word = "false".toList then some (.boolean false)
  else
    match integer? word with
    | some n => some (.integer n)
    | none => if isFloat word || isDateTime word || isTime word then some .other else none

end LineScript.Toml
