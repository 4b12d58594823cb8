import LineScript.Text.Blank

/-! The nesting state at one position of a text. Each kind of bracket has its own
counter, and brackets inside a string literal do not count. -/
namespace LineScript

structure Depth where
  parens : Int := 0
  brackets : Int := 0
  braces : Int := 0
  inQuote : Bool := false
  escaped : Bool := false
deriving DecidableEq, Repr

namespace Depth

/-- A backslash escapes the next character of a string literal, so an escaped
quote does not close it. -/
def feedQuoted (depth : Depth) (c : Char) : Depth :=
  if c = '\\' then { depth with escaped := !depth.escaped }
  else if c = '"' ∧ depth.escaped = false then { depth with inQuote := false }
  else { depth with escaped := false }

def feedPlain (depth : Depth) (c : Char) : Depth :=
  match c with
  | '"' => { depth with inQuote := true }
  | '(' => { depth with parens := depth.parens + 1 }
  | ')' => { depth with parens := depth.parens - 1 }
  | '[' => { depth with brackets := depth.brackets + 1 }
  | ']' => { depth with brackets := depth.brackets - 1 }
  | '\x7b' => { depth with braces := depth.braces + 1 }
  | '\x7d' => { depth with braces := depth.braces - 1 }
  | _ => depth

def feed (depth : Depth) (c : Char) : Depth :=
  if depth.inQuote then depth.feedQuoted c else depth.feedPlain c

def after (depth : Depth) (text : Text) : Depth := text.foldl feed depth

def isTop (depth : Depth) : Bool :=
  !depth.inQuote && depth.parens == 0 && depth.brackets == 0 && depth.braces == 0

/-- Open brackets and braces. Parentheses never continue a line. -/
def literal (depth : Depth) : Int := depth.brackets + depth.braces

/-- Whether `c` lies at top level: neither it nor what precedes it is inside a
group or a string literal. -/
def keepsTop (depth : Depth) (c : Char) : Bool := depth.isTop && (depth.feed c).isTop

end Depth

def literalDepth (text : Text) : Int := (Depth.after {} text).literal

end LineScript
