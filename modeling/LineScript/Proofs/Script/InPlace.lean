import LineScript.Proofs.Action
import LineScript.Proofs.Builtin.Dispatch
import LineScript.Proofs.Expression.InPlace
import LineScript.Script.Statement

/-! Running statements in place. The parts of a line are cut out of it between byte positions, and
a builtin reads its arguments by their positions. A step that looked outside of the text or of the
arguments would end the run in a way of its own. None does, so that running in place is running. -/
namespace LineScript.InPlace

open Expression (Accessor Connective Form)
open Text (At IsBoundary byteSize slice?)

def parse (line : Text) : Option (Except Fault Statement) := do
  let text := Text.trim (← stripComment line)
  match ← call text with
  | some (command, list) => return (← arguments list).map fun fragments => ⟨command, fragments⟩
  | none => return .error (.malformed (.notStatement text))

theorem parse_eq (line : Text) : parse line = some (Statement.parse line) := by
  simp only [parse, Statement.parse, Scan.content, stripComment_eq, call_eq, arguments_eq,
    Option.bind_eq_bind, Option.bind_some]
  cases Expression.call? (Text.trim (Scan.stripComment line)) <;> rfl

inductive Halt where
  | fault (fault : Fault)
  /-- A slice or an argument is not there. -/
  | outside

def taken {α : Type} : Option α → Action Halt α
  | some value => .done value
  | none => .fail .outside

def read {α : Type} (reader : Option (Except Fault α)) : Action Halt α := do
  (Action.ofExcept (← taken reader)).mapError .fault

/-- Calls a standard builtin, which reads its arguments by their positions. -/
def invoke (name : String) (arguments : List Value) : Action Halt Value :=
  match Catalog.standard.function? name with
  | none => .fail (.fault (.unknownCommand name))
  | some (arity, operation) =>
    if arity.accepts arguments.length then do
      (← taken (operation.action? arguments)).mapError .fault
    else .fail (.fault (.arity name arity arguments.length))

theorem invoke_eq (name : String) (arguments : List Value) :
    invoke name arguments = (Catalog.standard.invoke name arguments).mapError .fault := by
  rw [invoke]
  cases found : Catalog.standard.function? name with
  | none => rw [Catalog.invoke, found]; rfl
  | some entry =>
    obtain ⟨arity, operation⟩ := entry
    obtain ⟨named, rfl⟩ := Catalog.function?_standard.1 found
    cases accepted : operation.arity.accepts arguments.length with
    | true =>
      have runs := Catalog.invoke_accepted named accepted
      simp only [accepted, if_true, runs]
      rfl
    | false =>
      rw [Catalog.invoke_miscounted named accepted]
      simp only [accepted, Bool.false_eq_true, if_false]
      rfl

section

variable (self : Text → Action Halt Value)

def addend (fragment : Text) : Action Halt Value :=
  if Text.isAllBlank fragment then .fail (.fault (.malformed .missingAddend)) else self fragment

def operand (fragment : Text) : Action Halt Value :=
  if Text.isAllBlank fragment then .fail (.fault (.malformed .missingOperand)) else self fragment

def access (value : Value) : Accessor → Action Halt Value
  | .property name => do
    (Action.ofExcept (Expression.property (← Action.heap) value name)).mapError .fault
  | .index fragment => do
    let index ← self fragment
    (Action.ofExcept (Expression.element (← Action.heap) value index)).mapError .fault

def enter (entries : Table Value) (text : Text) : Action Halt (Table Value) := do
  let (key, fragment) ← read (pair text)
  return entries.insert key (← self fragment)

def connect (result : Bool) (part : Connective × Text) : Action Halt Bool := do
  return part.1.join result (← operand self part.2).isTruthy

def evaluateForm : Form → Action Halt Value
  | .empty => .fail (.fault (.malformed .emptyExpression))
  | .string content => return .text (String.ofList content)
  | .sum operands => do (sumOrJoin (← operands.mapM (addend self))).mapError .fault
  | .call name list =>
    if Catalog.standard.isFunction name then do
      let fragments ← read (arguments list)
      invoke name (← fragments.mapM self)
    else .fail (.fault (.undefinedFunction name))
  | .array body => do
    let fragments ← read (items body)
    Action.newArray (← fragments.mapM self)
  | .object body => do
    let fragments ← read (items body)
    Action.newObject (← fragments.foldlM (enter self) [])
  | .chain base accessors => do
    accessors.foldlM (access self) (← (Catalog.standard.lookup base).mapError .fault)
  | .logical first others => do
    let start := (← operand self first).isTruthy
    return .boolean (← others.foldlM (connect self) start)
  | .comparison left relation right => do
    let left ← operand self left
    let right ← operand self right
    return .boolean (← (Action.ofExcept (relation.holds left right)).mapError .fault)
  | .number value => return .number value
  | .identifier name => (Catalog.standard.lookup name).mapError .fault
  | .unreadable fragment => .fail (.fault (.malformed (.unreadable fragment)))

end

section

variable {ε δ α β : Type} {convert : ε → δ}

theorem mapM_eq_mapError {f : α → Action ε β} {g : α → Action δ β}
    (same : ∀ a, g a = (f a).mapError convert) (list : List α) :
    list.mapM g = (list.mapM f).mapError convert := by
  induction list with
  | nil => rfl
  | cons a rest ih =>
    simp only [List.mapM_cons, Action.mapError_bind, same, ih]
    rfl

theorem foldlM_eq_mapError {f : β → α → Action ε β} {g : β → α → Action δ β}
    (same : ∀ b a, g b a = (f b a).mapError convert) (start : β) (list : List α) :
    list.foldlM g start = (list.foldlM f start).mapError convert := by
  induction list generalizing start with
  | nil => rfl
  | cons a rest ih => simp only [List.foldlM_cons, Action.mapError_bind, same, ih]

end

section

variable {self : Expression.Evaluator} {other : Text → Action Halt Value}
  (same : ∀ fragment, other fragment = (self fragment).mapError .fault)

include same

theorem addend_eq (fragment : Text) :
    addend other fragment = (Expression.addend self fragment).mapError .fault := by
  rw [addend, Expression.addend, same]
  split <;> rfl

theorem operand_eq (fragment : Text) :
    operand other fragment = (Expression.operand self fragment).mapError .fault := by
  rw [operand, Expression.operand, same]
  split <;> rfl

theorem access_eq (value : Value) (accessor : Accessor) :
    access other value accessor = (Expression.access self value accessor).mapError .fault := by
  cases accessor with
  | property name => rfl
  | index fragment =>
    rw [access, Expression.access, same, Action.mapError_bind]
    rfl

theorem enter_eq (entries : Table Value) (text : Text) :
    enter other entries text = (Expression.enter self entries text).mapError .fault := by
  rw [enter, pair_eq, Expression.enter, Action.mapError_bind]
  simp only [same, Action.mapError_bind]
  rfl

theorem connect_eq (result : Bool) (part : Connective × Text) :
    connect other result part = (Expression.connect self result part).mapError .fault := by
  rw [connect, operand_eq same, Expression.connect, Action.mapError_bind]
  rfl

theorem evaluateForm_eq (form : Form) :
    evaluateForm other form = (form.evaluate .standard self).mapError .fault := by
  cases form with
  | empty | string | number | identifier | unreadable => rfl
  | sum operands =>
    simp only [evaluateForm, Form.evaluate, Action.mapError_bind, mapM_eq_mapError (addend_eq same)]
  | call name list =>
    simp only [evaluateForm, Form.evaluate, arguments_eq]
    split
    · simp only [Action.mapError_bind, mapM_eq_mapError same, invoke_eq]
      rfl
    · rfl
  | array body =>
    simp only [evaluateForm, Form.evaluate, items_eq, Action.mapError_bind, mapM_eq_mapError same]
    rfl
  | object body =>
    simp only [evaluateForm, Form.evaluate, items_eq, Action.mapError_bind,
      foldlM_eq_mapError (enter_eq same)]
    rfl
  | chain base accessors =>
    simp only [evaluateForm, Form.evaluate, Action.mapError_bind,
      foldlM_eq_mapError (access_eq same)]
  | logical first others =>
    simp only [evaluateForm, Form.evaluate, Action.mapError_bind, operand_eq same,
      foldlM_eq_mapError (connect_eq same)]
    rfl
  | comparison left relation right =>
    simp only [evaluateForm, Form.evaluate, Action.mapError_bind, operand_eq same]
    rfl

end

def evaluate : Nat → Text → Action Halt Value
  | 0, _ => .fail (.fault (.malformed .deepExpression))
  | limit + 1, fragment => do evaluateForm (evaluate limit) (← taken (form (Text.trim fragment)))

def execute (limit : Nat) (line : Text) : Action Halt Value := do
  let statement ← read (parse line)
  invoke statement.command (← statement.arguments.mapM (evaluate limit))

theorem evaluate_eq (limit : Nat) (fragment : Text) :
    evaluate limit fragment = (Expression.evaluate .standard limit fragment).mapError .fault := by
  induction limit generalizing fragment with
  | zero => rfl
  | succ limit ih =>
    rw [evaluate, form_eq, Expression.evaluate]
    exact evaluateForm_eq ih _

theorem execute_eq (limit : Nat) (line : Text) :
    execute limit line = (Statement.execute .standard limit line).mapError .fault := by
  simp only [execute, Statement.execute, parse_eq, Action.mapError_bind, invoke_eq,
    mapM_eq_mapError (evaluate_eq limit)]
  rfl

/-- The byte positions that are found in a text are positions between its characters, and no slice
that a reader takes of it is missing. -/
structure InBounds (text : Text) : Prop where
  /-- A slice exists where its ends are in order, inside the text and between characters. -/
  slices (start stop : Nat) : (slice? text start stop).isSome ↔
    (start ≤ stop ∧ stop ≤ byteSize text) ∧ IsBoundary text start ∧ IsBoundary text stop
  inside (offset : Nat) : IsBoundary text offset → offset ≤ byteSize text
  topLevel (index : Nat) (c : Char) : (index, c) ∈ Scan.topLevel text →
    At text index c ∧ IsBoundary text index ∧ IsBoundary text (index + c.utf8Size)
  closes (index : Nat) : Scan.matchingClose? text = some index →
    IsBoundary text index ∧ ∃ c, At text index c ∧ c.utf8Size = 1
  finds (patterns : List Text) (found : Scan.Occurrence) : Scan.find? patterns text = some found →
    IsBoundary text (byteSize found.before) ∧
      IsBoundary text (byteSize found.before + byteSize found.pattern)
  identifier : IsBoundary text (byteSize (Scan.splitIdentifier text).1)
  parted (delimiter : Char) : split delimiter text = some (Scan.split delimiter text)
  stripped : stripComment text = some (Scan.stripComment text)
  parsed : parse text = some (Statement.parse text)
  quoted : stringLiteral text = some (Expression.stringLiteral? text)
  called : call text = some (Expression.call? text)
  chained : chain text = some (Expression.chain? text)
  paired : pair text = some (Expression.pair text)
  joined : logical text = some (Expression.logical? text)
  compared : comparison text = some (Expression.comparison? text)

theorem inBounds (text : Text) : InBounds text where
  slices _ _ := Text.isSome_slice?_iff
  inside _ boundary := boundary.le
  topLevel index c member := by
    have stands := at_of_mem_topLevel member
    exact ⟨stands, stands.isBoundary, stands.isBoundary_next⟩
  closes index found := by
    obtain ⟨c, stands, narrow⟩ := at_of_matchingClose? found
    exact ⟨stands.isBoundary, c, stands, narrow⟩
  finds patterns found here := by
    have whole := (Scan.eq_of_find? here).2
    refine ⟨⟨found.before, found.pattern ++ found.after, ?_, rfl⟩, found.before ++ found.pattern,
      found.after, whole, by simp⟩
    rw [whole, List.append_assoc]
  identifier := ⟨_, _, (Scan.splitIdentifier_append text).symm, rfl⟩
  parted delimiter := split_eq delimiter text
  stripped := stripComment_eq text
  parsed := parse_eq text
  quoted := stringLiteral_eq text
  called := call_eq text
  chained := chain_eq text
  paired := pair_eq text
  joined := logical_eq text
  compared := comparison_eq text

/-- Nothing is looked up outside: no position in any text, and no argument in any call of a standard
builtin. Evaluating fragments and executing lines in place ends as it does on characters. -/
theorem reads_in_bounds :
    (∀ text, InBounds text) ∧
    (∀ name arguments,
      Catalog.Dispatches name arguments (Catalog.standard.invoke name arguments)) ∧
    ∀ limit text,
      evaluate limit text = (Expression.evaluate .standard limit text).mapError .fault ∧
        execute limit text = (Statement.execute .standard limit text).mapError .fault :=
  ⟨inBounds, Catalog.dispatches_standard, fun limit text =>
    ⟨evaluate_eq limit text, execute_eq limit text⟩⟩

end LineScript.InPlace
