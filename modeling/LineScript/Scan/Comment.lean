import LineScript.Scan.Depth
import LineScript.Scan.Identifier
import LineScript.Text.Search

/-! Comments of one line. A hash sign or the marker word, outside string literals,
ends the text of a line; the word counts only when it stands alone. -/
namespace LineScript.Scan

def commentWord : Text := ['t', 'i', 'p', 'p', 'a', 'n', 'i']

/-- Whether the marker word begins here, between `before` and what follows it. -/
def startsCommentWord (before : Option Char) (text : Text) : Bool :=
  match Text.dropStart? commentWord text with
  | none => false
  | some after => !before.any isIdentifierChar && !after.head?.any isIdentifierChar

def stripCommentFrom (depth : Depth) (before : Option Char) : Text → Text
  | [] => []
  | c :: rest =>
    if !depth.inQuote && (c == '#' || startsCommentWord before (c :: rest)) then []
    else c :: stripCommentFrom (depth.feed c) (some c) rest

def stripComment (text : Text) : Text := stripCommentFrom {} none text

/-- What a physical line says: its text without comment and outer blanks. -/
def content (line : Text) : Text := Text.trim (stripComment line)

end LineScript.Scan
