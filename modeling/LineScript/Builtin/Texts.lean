import LineScript.Builtin.Argument
import LineScript.Decimal.Double
import LineScript.Text.Case
import LineScript.Text.Search

/-! Operations on texts. All positions and lengths count characters. -/
namespace LineScript.Operation

/-- The characters between two positions in either order. Positions are truncated
and clamped to the text. -/
def sliceOf (text : Text) (a b : Float) : Text :=
  let start := Double.clamp text.length a
  let stop := Double.clamp text.length b
  (text.take (max start stop)).drop (min start stop)

def sliceText (value a b : Value) : Except Fault Value := do
  let s ← slice.text 0 value
  let x ← slice.number 1 a
  let y ← slice.number 2 b
  return .text (String.ofList (sliceOf s.toList x y))

def replaceText (value needle replacement : Value) : Except Fault Value := do
  let s ← replace.text 0 value
  let old ← replace.text 1 needle
  let new ← replace.text 2 replacement
  return .text (String.ofList (Text.replace old.toList new.toList s.toList))

def upperText (value : Value) : Except Fault Value := do
  return .text (String.ofList (Text.toUpper (← upper.text 0 value).toList))

def lowerText (value : Value) : Except Fault Value := do
  return .text (String.ofList (Text.toLower (← lower.text 0 value).toList))

def containsText (value needle : Value) : Except Fault Value := do
  let (s, t) ← contains.texts value needle
  return .boolean (Text.contains t.toList s.toList)

/-- The pieces of a text at a delimiter; an empty delimiter separates all
characters. -/
def pieces (text delimiter : Text) : List Text :=
  if delimiter = [] then text.map fun c => [c] else Text.split delimiter text

def splitText (value delimiter : Value) : Except Fault (List Value) := do
  let (s, t) ← split.texts value delimiter
  return (pieces s.toList t.toList).map fun piece => .text (String.ofList piece)

def trimText (value : Value) : Except Fault Value := do
  return .text (String.ofList (Text.trim (← trim.text 0 value).toList))

/-- The position of the first occurrence, or minus one. -/
def positionOf (value needle : Value) : Except Fault Value := do
  let (s, t) ← position.texts value needle
  return .number <| match Text.position? t.toList s.toList with
    | some index => Float.ofNat index
    | none => -1.0

def reverseText (value : Value) : Except Fault Value := do
  return .text (String.ofList (← reverse.text 0 value).toList.reverse)

def countWords (value : Value) : Except Fault Value := do
  return .number (Float.ofNat (Text.wordCount (← wordCount.text 0 value).toList))

/-- The first `count` characters of `pad` repeated without end. -/
def fill (pad : Array Char) (count : Nat) : String :=
  count.fold (fun index _ filled => (pad[index % pad.size]?).elim filled filled.push) ""

/-- The characters that bring `text` up to the target length. An empty pad fills
nothing. -/
def fillFor (text : String) (target : Float) (pad : String) : String :=
  if pad = "" then ""
  else fill pad.toList.toArray (Double.clamp maxPaddedLength target - text.length)

/-- The text to be padded and its filling. -/
def padding (operation : Operation) (value target pad : Value) :
    Except Fault (String × String) := do
  let s ← operation.text 0 value
  let x ← operation.number 1 target
  let p ← operation.text 2 pad
  if Float.ofNat maxPaddedLength < x then throw (.outOfRange (.padding operation x))
  return (s, fillFor s x p)

def padTextRight (value target pad : Value) : Except Fault Value := do
  let (s, filling) ← padRight.padding value target pad
  return .text (s ++ filling)

def padTextLeft (value target pad : Value) : Except Fault Value := do
  let (s, filling) ← padLeft.padding value target pad
  return .text (filling ++ s)

end LineScript.Operation
