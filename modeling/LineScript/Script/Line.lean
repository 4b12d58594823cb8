import LineScript.Error
import LineScript.Scan.Comment

/-! Logical lines. Comments and blank lines are dropped, and a line with an open
bracket or brace goes on until all of them are closed. -/
namespace LineScript

structure Line where
  number : Nat
  indent : Nat
  text : Text
deriving DecidableEq, Repr

/-- The physical lines of a text. A line ends with a newline, before which one
carriage return is dropped. -/
def physicalLines : Text → List Text
  | [] => []
  | '\n' :: rest => [] :: physicalLines rest
  | '\r' :: '\n' :: rest => [] :: physicalLines rest
  | c :: rest =>
    match physicalLines rest with
    | [] => [[c]]
    | line :: lines => (c :: line) :: lines

/-- Lines that begin or end a block comment start with three quotes. -/
def isBlockMarker (line : Text) : Bool :=
  Text.startsWith ['"', '"', '"'] (Text.trimStart line)

namespace Assembly

/-- A logical line, or the error that ends the source. -/
abbrev Item := Except ScriptError Line

/-- Between logical lines, inside a block comment, or inside a line whose
brackets are still open. -/
inductive Mode where
  | between
  | comment
  | pending (line : Line)

/-- The line goes on while a bracket or brace is open. -/
def isOpen (line : Line) : Bool := 0 < literalDepth line.text

/-- Adds a further physical line, after a blank; one without content adds
nothing. -/
def extend (line : Line) (raw : Text) : Line :=
  match Scan.content raw with
  | [] => line
  | more => { line with text := line.text ++ ' ' :: more }

/-- A line with an open bracket stays pending; any other is complete. -/
def settle (line : Line) : Mode × Option Line :=
  if isOpen line then (.pending line, none) else (.between, some line)

/-- The mode after one physical line and the logical line that it completes. -/
def step (number : Nat) (mode : Mode) (raw : Text) : Mode × Option Line :=
  match mode with
  | .pending line => settle (extend line raw)
  | .comment => (if isBlockMarker raw then .between else .comment, none)
  | .between =>
    if isBlockMarker raw then (.comment, none)
    else
      match Scan.content raw with
      | [] => (.between, none)
      | text => settle ⟨number, Text.indentation raw, text⟩

def unclosed (line : Line) : ScriptError := (Fault.malformed .unclosedLiteral).located line.number

def itemsFrom (number : Nat) (mode : Mode) : List Text → List Item
  | [] =>
    match mode with
    | .pending line => [.error (unclosed line)]
    | _ => []
  | raw :: rest =>
    match step number mode raw with
    | (mode, some line) => .ok line :: itemsFrom (number + 1) mode rest
    | (mode, none) => itemsFrom (number + 1) mode rest

/-- The logical lines of a source text. Only the last item can be an error. -/
def items (source : Text) : List Item := itemsFrom 1 .between (physicalLines source)

/-- Lines indented deeper than `indent`, up to the first that is not, and the
rest. -/
def takeBlock (indent : Nat) : List Item → List Line × List Item
  | .ok line :: rest =>
    if indent < line.indent then
      let (body, rest) := takeBlock indent rest
      (line :: body, rest)
    else ([], .ok line :: rest)
  | items => ([], items)

theorem takeBlock_append (indent : Nat) (items : List Item) :
    (takeBlock indent items).1.map .ok ++ (takeBlock indent items).2 = items := by
  fun_induction takeBlock indent items <;> simp_all

theorem takeBlock_length_le (indent : Nat) (items : List Item) :
    (takeBlock indent items).2.length ≤ items.length := by
  have whole := congrArg List.length (takeBlock_append indent items)
  simp only [List.length_append] at whole
  omega

end Assembly

end LineScript
