import LineScript.Text.Blank
import LineScript.Text.Printable

/-! The quoted form in which error messages show a text: everything that would be
invisible or ambiguous is escaped. -/
namespace LineScript.Text

def escapeCode (c : Char) : Text :=
  ['\\', 'u', '\x7b'] ++ Nat.toDigits 16 c.toNat ++ ['\x7d']

def quoteChar (c : Char) : Text :=
  if c = '"' then ['\\', '"']
  else if c = '\\' then ['\\', '\\']
  else if c = '\n' then ['\\', 'n']
  else if c = '\r' then ['\\', 'r']
  else if c = '\t' then ['\\', 't']
  else if c.toNat = 0 then ['\\', '0']
  else if isShown c then [c]
  else escapeCode c

def quoted (text : Text) : Text := '"' :: text.flatMap quoteChar ++ ['"']

end LineScript.Text
