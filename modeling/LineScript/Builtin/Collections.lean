import LineScript.Builtin.Argument
import LineScript.Action

/-! Operations on arrays and objects. Appending and removing change the array in
place, so every value that shares its cell sees the change. -/
namespace LineScript.Operation

def count (items : List α) : Value := .number (Float.ofNat items.length)

def lengthOf : Value → Action Fault Value
  | .array cell => do return count ((← Action.heap).items cell)
  | value => do
    let s ← Action.ofExcept (length.text 0 value)
    return .number (Float.ofNat s.length)

def lengthOfList (list : Value) : Action Fault Value := do
  let cell ← Action.ofExcept (listLength.arrayCell 0 list)
  return count ((← Action.heap).items cell)

def appendTo (list item : Value) : Action Fault Value := do
  let cell ← Action.ofExcept (listAppend.arrayCell 0 list)
  Action.request (.append cell item)
  return list

def removeLastOf (list : Value) : Action Fault Value := do
  let cell ← Action.ofExcept (listRemoveLast.arrayCell 0 list)
  let item ← Action.request (.removeLast cell)
  return item.getD .undefined

def keysOf (object : Value) : Action Fault Value := do
  let cell ← Action.ofExcept (objectKeys.objectCell 0 object)
  Action.newArray (((← Action.heap).entries cell).keys.map .text)

def valuesOf (object : Value) : Action Fault Value := do
  let cell ← Action.ofExcept (objectValues.objectCell 0 object)
  Action.newArray ((← Action.heap).entries cell).values

end LineScript.Operation
