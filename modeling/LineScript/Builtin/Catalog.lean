import LineScript.Builtin.Arithmetic
import LineScript.Builtin.Collections
import LineScript.Builtin.Dialogue
import LineScript.Builtin.Texts

/-! The catalog of builtin functions and constants, and the one way in which
functions are called: the name is looked up, the number of arguments is checked,
and only then does the operation run. -/
namespace LineScript

/-- The action of an operation on its arguments. There is none when an argument
that the operation reads is missing. -/
def Operation.action? : Operation → List Value → Option (Action Fault Value)
  | bind, name :: value :: _ => some (bindVariable name value)
  | bindConstant, name :: value :: _ => some (bindAsConstant name value)
  | print, values => some (printLine values)
  | askText, message :: _ => some (askForText message)
  | askNumber, message :: _ => some (askForNumber message)
  | add, values => some (sumOrJoin values)
  | subtract, a :: b :: _ => some (.ofExcept (difference a b))
  | multiply, a :: b :: _ => some (.ofExcept (product a b))
  | divide, a :: b :: _ => some (.ofExcept (quotient a b))
  | modulo, a :: b :: _ => some (.ofExcept (residue a b))
  | both, a :: b :: _ => some (.done (.boolean (a.isTruthy && b.isTruthy)))
  | either, a :: b :: _ => some (.done (.boolean (a.isTruthy || b.isTruthy)))
  | negate, a :: _ => some (.done (.boolean !a.isTruthy))
  | concat, a :: b :: _ => some do
    let heap ← Action.heap
    return .text (String.ofList (heap.text a ++ heap.text b))
  | length, value :: _ => some (lengthOf value)
  | slice, value :: a :: b :: _ => some (.ofExcept (sliceText value a b))
  | replace, value :: old :: new :: _ => some (.ofExcept (replaceText value old new))
  | upper, value :: _ => some (.ofExcept (upperText value))
  | lower, value :: _ => some (.ofExcept (lowerText value))
  | contains, value :: needle :: _ => some (.ofExcept (containsText value needle))
  | split, value :: delimiter :: _ => some do
    Action.newArray (← Action.ofExcept (splitText value delimiter))
  | trim, value :: _ => some (.ofExcept (trimText value))
  | position, value :: needle :: _ => some (.ofExcept (positionOf value needle))
  | reverse, value :: _ => some (.ofExcept (reverseText value))
  | padRight, value :: target :: pad :: _ => some (.ofExcept (padTextRight value target pad))
  | padLeft, value :: target :: pad :: _ => some (.ofExcept (padTextLeft value target pad))
  | wordCount, value :: _ => some (.ofExcept (countWords value))
  | listLength, list :: _ => some (lengthOfList list)
  | listAppend, list :: item :: _ => some (appendTo list item)
  | listRemoveLast, list :: _ => some (removeLastOf list)
  | objectKeys, object :: _ => some (keysOf object)
  | objectValues, object :: _ => some (valuesOf object)
  | _, _ => none

inductive Builtin where
  | function (arity : Arity) (operation : Operation)
  | constant (value : Value)

abbrev Catalog := Table Builtin

namespace Catalog

def function? (catalog : Catalog) (name : String) : Option (Arity × Operation) :=
  match catalog.get? name with
  | some (.function arity operation) => some (arity, operation)
  | _ => none

def isFunction (catalog : Catalog) (name : String) : Bool := (catalog.function? name).isSome

/-- Every operation under its own name, and the two truth values. -/
def standard : Catalog :=
  Operation.all.map (fun operation => (operation.name, .function operation.arity operation)) ++
    [("sachho", .constant (.boolean true)), ("jutho", .constant (.boolean false))]

/-- Adds a further name for a function, with an arity of its own. -/
def addAlias (catalog : Catalog) (name existing : String) (arity : Arity) : Catalog :=
  match catalog.function? existing with
  | some (_, operation) => catalog.insert name (.function arity operation)
  | none => catalog

def invoke (catalog : Catalog) (name : String) (arguments : List Value) : Action Fault Value :=
  match catalog.function? name with
  | none => .fail (.unknownCommand name)
  | some (arity, operation) =>
    if arity.accepts arguments.length then
      (operation.action? arguments).getD (.fail (.arity name operation.arity arguments.length))
    else .fail (.arity name arity arguments.length)

/-- The value of a name: a binding, or else a builtin constant. -/
def lookup (catalog : Catalog) (name : String) : Action Fault Value := do
  match (← Action.bindings).get? name, catalog.get? name with
  | some value, _ => return value
  | none, some (.constant value) => return value
  | none, some (.function ..) => .fail (.mismatch (.functionAsValue name))
  | none, none => .fail (.undefinedVariable name)

end Catalog

end LineScript
