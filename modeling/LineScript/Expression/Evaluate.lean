import LineScript.Builtin.Catalog
import LineScript.Expression.Form

/-! Evaluation of expressions. The evaluator reads the form of a fragment and
evaluates its parts with one level of nesting less; at level zero it refuses. -/
namespace LineScript.Expression

def Relation.admits : Relation → Ordering → Bool
  | equal, order => order == .eq
  | different, order => order != .eq
  | atMost, order => order != .gt
  | atLeast, order => order != .lt
  | less, order => order == .lt
  | greater, order => order == .gt

/-- Equality never fails; the other relations need values of one orderable kind,
and nothing is related to NaN. -/
def Relation.holds (relation : Relation) (left right : Value) : Except Fault Bool :=
  match relation with
  | equal => .ok (left.sameAs right)
  | different => .ok (!left.sameAs right)
  | _ =>
    match left.order? right with
    | some order => .ok (order.any relation.admits)
    | none => .error (.mismatch (.order left.kind right.kind))

def Connective.join : Connective → Bool → Bool → Bool
  | both, a, b => a && b
  | either, a, b => a || b

def property (heap : Heap) (value : Value) (name : String) : Except Fault Value :=
  match value with
  | .object cell =>
    match (heap.entries cell).get? name with
    | some found => .ok found
    | none => .error (.outOfRange (.property name))
  | _ => .error (.mismatch (.property name value.kind))

/-- The item of an array at a whole, non-negative position below its length. -/
def element (heap : Heap) (value index : Value) : Except Fault Value :=
  match value, index with
  | .array cell, .number position =>
    let items := heap.items cell
    match (Double.toInt? position).bind fun n => if 0 ≤ n then items[n.toNat]? else none with
    | some item => .ok item
    | none => .error (.outOfRange (.index position items.length))
  | .array _, _ => .error (.mismatch (.indexKind index.kind))
  | _, _ => .error (.mismatch (.notIndexable value.kind))

abbrev Evaluator := Text → Action Fault Value

def addend (self : Evaluator) (fragment : Text) : Action Fault Value :=
  if Text.isAllBlank fragment then .fail (.malformed .missingAddend) else self fragment

def operand (self : Evaluator) (fragment : Text) : Action Fault Value :=
  if Text.isAllBlank fragment then .fail (.malformed .missingOperand) else self fragment

def access (self : Evaluator) (value : Value) : Accessor → Action Fault Value
  | .property name => do Action.ofExcept (property (← Action.heap) value name)
  | .index fragment => do
    let index ← self fragment
    Action.ofExcept (element (← Action.heap) value index)

def enter (self : Evaluator) (entries : Table Value) (text : Text) :
    Action Fault (Table Value) := do
  let (key, fragment) ← Action.ofExcept (pair text)
  return entries.insert key (← self fragment)

/-- Every operand is evaluated, whatever the ones before it gave. -/
def connect (self : Evaluator) (result : Bool) (part : Connective × Text) :
    Action Fault Bool := do
  return part.1.join result (← operand self part.2).isTruthy

/-- Evaluates a form, given how its parts are evaluated. -/
def Form.evaluate (catalog : Catalog) (self : Evaluator) : Form → Action Fault Value
  | .empty => .fail (.malformed .emptyExpression)
  | .string content => return .text (String.ofList content)
  | .sum operands => do sumOrJoin (← operands.mapM (addend self))
  | .call name list =>
    if catalog.isFunction name then do
      let fragments ← Action.ofExcept (arguments list)
      catalog.invoke name (← fragments.mapM self)
    else .fail (.undefinedFunction name)
  | .array body => do
    let fragments ← Action.ofExcept (items body)
    Action.newArray (← fragments.mapM self)
  | .object body => do
    let fragments ← Action.ofExcept (items body)
    Action.newObject (← fragments.foldlM (enter self) [])
  | .chain base accessors => do
    accessors.foldlM (access self) (← catalog.lookup base)
  | .logical first others => do
    let start := (← operand self first).isTruthy
    return .boolean (← others.foldlM (connect self) start)
  | .comparison left relation right => do
    let left ← operand self left
    let right ← operand self right
    return .boolean (← Action.ofExcept (relation.holds left right))
  | .number value => return .number value
  | .identifier name => catalog.lookup name
  | .unreadable fragment => .fail (.malformed (.unreadable fragment))

/-- Evaluates a fragment nested at most `limit` levels deep. -/
def evaluate (catalog : Catalog) : Nat → Evaluator
  | 0, _ => .fail (.malformed .deepExpression)
  | limit + 1, fragment =>
    (Form.ofFragment (Text.trim fragment)).evaluate catalog (evaluate catalog limit)

end LineScript.Expression
