import LineScript.Builtin.Argument
import LineScript.Decimal.Double
import LineScript.Action

/-! Arithmetic and truth. Addition sums numbers and joins everything else. -/
namespace LineScript

/-- The numbers behind the values, if all of them are numbers. -/
def allNumbers? (values : List Value) : Option (List Float) := values.mapM Value.number?

def sum (numbers : List Float) : Float := numbers.foldl (· + ·) 0.0

/-- The sum of numbers, or the texts of all operands in order. -/
def sumOrJoin (values : List Value) : Action ε Value :=
  match allNumbers? values with
  | some numbers => pure (.number (sum numbers))
  | none => do
    let heap ← Action.heap
    return .text (String.ofList (values.flatMap heap.text))

namespace Operation

def difference (a b : Value) : Except Fault Value := do
  let (x, y) ← subtract.numbers a b
  return .number (x - y)

def product (a b : Value) : Except Fault Value := do
  let (x, y) ← multiply.numbers a b
  return .number (x * y)

def quotient (a b : Value) : Except Fault Value := do
  let (x, y) ← divide.numbers a b
  if y == 0.0 then throw .divisionByZero
  return .number (x / y)

def residue (a b : Value) : Except Fault Value := do
  let (x, y) ← modulo.numbers a b
  if y == 0.0 then throw .moduloByZero
  return .number (Double.remainder x y)

end Operation

end LineScript
