import LineScript.Text.Blank

/-! Identifiers: an ASCII letter or underscore, then letters, digits and
underscores. -/
namespace LineScript.Scan

def isIdentifierStart (c : Char) : Bool := c.isAlpha || c == '_'

def isIdentifierChar (c : Char) : Bool := c.isAlphanum || c == '_'

/-- The identifier at the start of a text, empty if there is none, and the rest. -/
def splitIdentifier (text : Text) : Text × Text :=
  match text with
  | [] => ([], [])
  | c :: _ =>
    if isIdentifierStart c then (text.takeWhile isIdentifierChar, text.dropWhile isIdentifierChar)
    else ([], text)

def isIdentifier (text : Text) : Bool :=
  match text with
  | [] => false
  | c :: _ => isIdentifierStart c && text.all isIdentifierChar

theorem splitIdentifier_append (text : Text) :
    (splitIdentifier text).1 ++ (splitIdentifier text).2 = text := by
  unfold splitIdentifier
  split
  · rfl
  · split <;> simp

end LineScript.Scan
