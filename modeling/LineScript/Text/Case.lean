import LineScript.Text.Blank
import LineScript.Text.CaseClass
import LineScript.Text.CaseMap

/-! Case conversion of texts. Every character is mapped on its own, except that
a capital sigma at the end of a word becomes the final small sigma. -/
namespace LineScript.Text

def upperChar (c : Char) : List Char :=
  if c.toNat < 0x80 then [c.toUpper] else mapOutsideAscii upperRuns upperExpansions c

def lowerChar (c : Char) : List Char :=
  if c.toNat < 0x80 then [c.toLower] else mapOutsideAscii lowerRuns lowerExpansions c

def toUpper (text : Text) : Text := text.flatMap upperChar

/-- Whether the first character that is not case-ignorable is a cased letter. -/
def meetsCased (text : Text) : Bool := (text.find? (!isCaseIgnorable ·)).any isCased

/-- A sigma ends a word when a letter comes before it and none after it. -/
def endsWord (before after : Text) : Bool := meetsCased before && !meetsCased after

/-- Maps `text` to small letters; `before` is what precedes it, last character
first. -/
def toLowerFrom (before : Text) : Text → Text
  | [] => []
  | c :: rest =>
    (if c = 'Σ' then [if endsWord before rest then 'ς' else 'σ'] else lowerChar c) ++
      toLowerFrom (c :: before) rest

def toLower (text : Text) : Text := toLowerFrom [] text

end LineScript.Text
