import LineScript.Error

/-! Arguments of the kind that an operation asks for. -/
namespace LineScript.Operation

def wrongKind (operation : Operation) (position : Nat) (expected : Kind) (found : Value) : Fault :=
  .mismatch (.argument operation position expected found.kind)

def number (operation : Operation) (position : Nat) : Value → Except Fault Float
  | .number x => .ok x
  | found => .error (operation.wrongKind position .number found)

def text (operation : Operation) (position : Nat) : Value → Except Fault String
  | .text s => .ok s
  | found => .error (operation.wrongKind position .text found)

def arrayCell (operation : Operation) (position : Nat) : Value → Except Fault Nat
  | .array cell => .ok cell
  | found => .error (operation.wrongKind position .array found)

def objectCell (operation : Operation) (position : Nat) : Value → Except Fault Nat
  | .object cell => .ok cell
  | found => .error (operation.wrongKind position .object found)

/-- The first two arguments as numbers. -/
def numbers (operation : Operation) (a b : Value) : Except Fault (Float × Float) := do
  let x ← operation.number 0 a
  let y ← operation.number 1 b
  return (x, y)

/-- The first two arguments as texts. -/
def texts (operation : Operation) (a b : Value) : Except Fault (String × String) := do
  let s ← operation.text 0 a
  let t ← operation.text 1 b
  return (s, t)

end LineScript.Operation
