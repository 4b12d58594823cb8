import LineScript.Expression.Evaluate
import LineScript.Scan.Comment

/-! Statements: a command name and its arguments in parentheses that end the
line. -/
namespace LineScript

structure Statement where
  command : String
  arguments : List Text
deriving DecidableEq, Repr

namespace Statement

def parse (line : Text) : Except Fault Statement :=
  let text := Scan.content line
  match Expression.call? text with
  | some (command, list) => (Expression.arguments list).map fun arguments => ⟨command, arguments⟩
  | none => .error (.malformed (.notStatement text))

/-- Evaluates the arguments from left to right, then calls the command. -/
def execute (catalog : Catalog) (limit : Nat) (line : Text) : Action Fault Value := do
  let statement ← Action.ofExcept (parse line)
  let values ← statement.arguments.mapM (Expression.evaluate catalog limit)
  catalog.invoke statement.command values

end Statement

end LineScript
