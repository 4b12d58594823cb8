import LineScript.Builtin.Argument
import LineScript.Action
import LineScript.Decimal.Literal
import LineScript.Scan.Identifier

/-! Operations that bind names and that talk to the console. -/
namespace LineScript.Operation

/-- The name to bind is the text of the first argument. -/
def bindingName (operation : Operation) (value : Value) : Action Fault String := do
  let name ← Action.textOf value
  if Scan.isIdentifier name then return String.ofList name
  else .fail (.mismatch (.bindingName operation name))

def bindVariable (name value : Value) : Action Fault Value := do
  let name ← bind.bindingName name
  Action.setVariable name value
  return .undefined

def bindAsConstant (name value : Value) : Action Fault Value := do
  let name ← bindConstant.bindingName name
  Action.setConstant name value
  return .undefined

/-- A failure of the console is a fault of the script. -/
def ofConsole : Except String α → Action Fault α
  | .ok value => .done value
  | .error message => .fail (.console message)

/-- Writes the trimmed texts of all arguments on one line. -/
def printLine (values : List Value) : Action Fault Value := do
  let heap ← Action.heap
  let line := [' '].intercalate (values.map fun value => Text.trim (heap.text value))
  ofConsole (← Action.request (.write (String.ofList line)))
  return .undefined

def askLine (message : Value) : Action Fault Text := do
  let message ← Action.textOf message
  match ← ofConsole (← Action.request (.prompt (String.ofList message))) with
  | some answer => return Text.trim answer.toList
  | none => .fail (.console "input ended before a prompt was answered")

def askForText (message : Value) : Action Fault Value := do
  return .text (String.ofList (← askLine message))

def askForNumber (message : Value) : Action Fault Value := do
  let answer ← askLine message
  match Decimal.parseNumber? answer with
  | some x => return .number x
  | none => .fail (.notANumber answer)

end LineScript.Operation
