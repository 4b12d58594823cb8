import LineScript.Scan.Group

/-! String literals. A backslash before a quote or a backslash stands for that
character alone; before any other character both are kept. -/
namespace LineScript.Expression

/-- The text that the body of a string literal stands for. -/
def unescape : Text → Text
  | [] => []
  | ['\\'] => ['\\']
  | '\\' :: c :: rest =>
    if c = '"' ∨ c = '\\' then c :: unescape rest else '\\' :: c :: unescape rest
  | c :: rest => c :: unescape rest

/-- The content of a fragment that is exactly one string literal. -/
def stringLiteral? (fragment : Text) : Option Text := (Scan.enclosed? '"' fragment).map unescape

def escapeChar (c : Char) : Text := if c = '"' ∨ c = '\\' then ['\\', c] else [c]

def quote (text : Text) : Text := '"' :: text.flatMap escapeChar ++ ['"']

end LineScript.Expression
