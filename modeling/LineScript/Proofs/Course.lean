import LineScript.Proofs.Session

/-! The builtin calls of a run. A course is an action in which the calls of builtin operations
stand out: outside of them evaluation reads names and cells and makes the cells of literals, and
does nothing else. Every action of the interpreter has a course, from which one reads off which
operations are called in a given world, with what arguments and to what end. -/
namespace LineScript

structure Invocation where
  operation : Operation
  arguments : List Value
  action : Action Fault Value
  found : operation.action? arguments = some action

/-- What evaluation asks for outside of all calls. -/
def Request.IsOwn : Request → Prop
  | .readBindings | .readHeap | .newArray _ | .newObject _ => True
  | _ => False

inductive Course (ε α : Type) where
  | done (value : α)
  | fail (error : ε)
  | ask (request : Request) (own : request.IsOwn) (next : request.Answer → Course ε α)
  | call (invocation : Invocation) (next : Except Fault Value → Course ε α)

namespace Course

variable {ε δ α β γ : Type}

def bind (course : Course ε α) (next : α → Course ε β) : Course ε β :=
  match course with
  | done value => next value
  | fail error => fail error
  | ask request own answered => ask request own fun answer => (answered answer).bind next
  | call invocation ended => call invocation fun outcome => (ended outcome).bind next

instance : Monad (Course ε) where
  pure := done
  bind := bind

theorem bind_done (course : Course ε α) : course.bind done = course := by
  induction course with
  | done | fail => rfl
  | ask _ _ _ ih | call _ _ ih => simp only [bind, ih]

theorem bind_assoc (course : Course ε α) (first : α → Course ε β) (second : β → Course ε γ) :
    (course.bind first).bind second = course.bind fun value => (first value).bind second := by
  induction course with
  | done | fail => rfl
  | ask _ _ _ ih | call _ _ ih => simp only [bind, ih]

instance : LawfulMonad (Course ε) :=
  LawfulMonad.mk' _ bind_done (fun _ _ => rfl) bind_assoc

def mapError (convert : ε → δ) : Course ε α → Course δ α
  | done value => done value
  | fail error => fail (convert error)
  | ask request own next => ask request own fun answer => (next answer).mapError convert
  | call invocation next => call invocation fun outcome => (next outcome).mapError convert

def ofExcept : Except ε α → Course ε α
  | .ok value => done value
  | .error error => fail error

/-- The action that a course is the course of. -/
def action : Course ε α → Action ε α
  | done value => .done value
  | fail error => .fail error
  | ask request _ next => .ask request fun answer => (next answer).action
  | call invocation next => invocation.action.attempt fun outcome => (next outcome).action

theorem action_bind (course : Course ε α) (next : α → Course ε β) :
    (course >>= next).action = course.action >>= fun value => (next value).action := by
  induction course with
  | done value => rfl
  | fail error => rfl
  | ask request own answered ih => exact congrArg (Action.ask request) (funext ih)
  | call invocation ended ih =>
    have later := funext ih
    rw [action, Action.attempt_bind, ← later]
    rfl

theorem action_mapError (convert : ε → δ) (course : Course ε α) :
    (course.mapError convert).action = course.action.mapError convert := by
  induction course with
  | done value => rfl
  | fail error => rfl
  | ask request own answered ih => exact congrArg (Action.ask request) (funext ih)
  | call invocation ended ih =>
    rw [mapError, action, action, Action.mapError_attempt]
    exact congrArg _ (funext ih)

theorem action_ofExcept (outcome : Except ε α) :
    (ofExcept outcome).action = Action.ofExcept outcome := by
  cases outcome <;> rfl

end Course

structure Account {ε α : Type} (action : Action ε α) where
  course : Course ε α
  faithful : course.action = action

namespace Account

variable {ε δ α β : Type}

def done (value : α) : Account (.done value : Action ε α) := ⟨.done value, rfl⟩

def fail (error : ε) : Account (.fail error : Action ε α) := ⟨.fail error, rfl⟩

def ofExcept (outcome : Except ε α) : Account (Action.ofExcept outcome) :=
  ⟨.ofExcept outcome, Course.action_ofExcept outcome⟩

def own (request : Request) (own : request.IsOwn) :
    Account (Action.request request : Action ε request.Answer) :=
  ⟨.ask request own .done, rfl⟩

def call {operation : Operation} {arguments : List Value} {action : Action Fault Value}
    (found : operation.action? arguments = some action) : Account action where
  course := .call ⟨operation, arguments, action, found⟩ .ofExcept
  faithful := by
    rw [Course.action, funext Course.action_ofExcept]
    exact action.attempt_ofExcept

def bind {action : Action ε α} {next : α → Action ε β} (first : Account action)
    (later : ∀ value, Account (next value)) : Account (action >>= next) where
  course := first.course >>= fun value => (later value).course
  faithful := by
    rw [Course.action_bind, first.faithful, funext fun value => (later value).faithful]

def mapError {action : Action ε α} (account : Account action) (convert : ε → δ) :
    Account (action.mapError convert) where
  course := account.course.mapError convert
  faithful := by rw [Course.action_mapError, account.faithful]

def ite {condition : Prop} [Decidable condition] {first second : Action ε α}
    (yes : Account first) (no : Account second) :
    Account (if condition then first else second) where
  course := if condition then yes.course else no.course
  faithful := by
    split
    · exact yes.faithful
    · exact no.faithful

def mapM {f : β → Action ε α} (each : ∀ item, Account (f item)) (list : List β) :
    Account (list.mapM f) where
  course := list.mapM fun item => (each item).course
  faithful := by
    induction list with
    | nil => rfl
    | cons item rest ih =>
      simp only [List.mapM_cons, Course.action_bind, (each item).faithful, ih]
      rfl

def foldlM {f : α → β → Action ε α} (each : ∀ value item, Account (f value item)) (list : List β)
    (start : α) : Account (list.foldlM f start) where
  course := list.foldlM (fun value item => (each value item).course) start
  faithful := by
    induction list generalizing start with
    | nil => rfl
    | cons item rest ih =>
      simp only [List.foldlM_cons, Course.action_bind, (each start item).faithful, ih]

def forM {f : β → Action ε PUnit} (each : ∀ item, Account (f item)) (list : List β) :
    Account (list.forM f) where
  course := list.forM fun item => (each item).course
  faithful := by
    induction list with
    | nil => rfl
    | cons item rest ih =>
      rw [List.forM, List.forM, Course.action_bind, (each item).faithful, ih]

end Account

namespace Catalog

variable (catalog : Catalog) (name : String)

/-- An operation is called unless it lacks an argument. -/
def calling (operation : Operation) (arguments : List Value) {other : Action Fault Value}
    (otherwise : Account other) : Account ((operation.action? arguments).getD other) where
  course :=
    match found : operation.action? arguments with
    | some action => (Account.call found).course
    | none => otherwise.course
  faithful := by
    split
    next action found => simp only [found, Option.getD_some, (Account.call found).faithful]
    next missing => simp only [missing, Option.getD_none, otherwise.faithful]

def invocation (arguments : List Value) : Account (catalog.invoke name arguments) where
  course :=
    match catalog.function? name with
    | none => .fail (.unknownCommand name)
    | some (arity, operation) =>
      if arity.accepts arguments.length then
        (calling operation arguments (.fail (.arity name operation.arity arguments.length))).course
      else .fail (.arity name arity arguments.length)
  faithful := by
    rw [invoke]
    cases catalog.function? name with
    | none => rfl
    | some entry =>
      obtain ⟨arity, operation⟩ := entry
      dsimp only
      split
      · exact (calling _ _ _).faithful
      · rfl

def reading : Account (catalog.lookup name) where
  course := .ask .readBindings trivial fun bindings =>
    match bindings.get? name, catalog.get? name with
    | some value, _ => .done value
    | none, some (.constant value) => .done value
    | none, some (.function ..) => .fail (.mismatch (.functionAsValue name))
    | none, none => .fail (.undefinedVariable name)
  faithful := by
    refine congrArg (Action.ask .readBindings) (funext fun bindings => ?_)
    dsimp only [Action.request, Action.bind]
    cases bindings.get? name with
    | some value => rfl
    | none =>
      cases catalog.get? name with
      | none => rfl
      | some builtin => cases builtin <;> rfl

end Catalog

namespace Expression

section

variable {evaluator : Evaluator} (self : ∀ fragment, Account (evaluator fragment))

def addendAccount (fragment : Text) : Account (addend evaluator fragment) :=
  .ite (.fail _) (self fragment)

def operandAccount (fragment : Text) : Account (operand evaluator fragment) :=
  .ite (.fail _) (self fragment)

def accessAccount (value : Value) :
    (accessor : Accessor) → Account (access evaluator value accessor)
  | .property _ => .bind (.own .readHeap trivial) fun _ => .ofExcept _
  | .index fragment =>
    .bind (self fragment) fun _ => .bind (.own .readHeap trivial) fun _ => .ofExcept _

def enterAccount (entries : Table Value) (text : Text) : Account (enter evaluator entries text) :=
  .bind (.ofExcept _) fun (_, fragment) => .bind (self fragment) fun _ => .done _

def connectAccount (result : Bool) (part : Connective × Text) :
    Account (connect evaluator result part) :=
  .bind (operandAccount self part.2) fun _ => .done _

/-- A sum is a call of addition, and no other form but a call makes a call of its own. -/
def formAccount (catalog : Catalog) : (form : Form) → Account (form.evaluate catalog evaluator)
  | .empty => .fail _
  | .string _ => .done _
  | .sum operands =>
    .bind (.mapM (addendAccount self) operands) fun values =>
      .call (show Operation.add.action? values = some (sumOrJoin values) from rfl)
  | .call name _ =>
    .ite (.bind (.ofExcept _) fun fragments => .bind (.mapM self fragments) fun values =>
      catalog.invocation name values) (.fail _)
  | .array _ =>
    .bind (.ofExcept _) fun fragments => .bind (.mapM self fragments) fun values =>
      .own (.newArray values) trivial
  | .object _ =>
    .bind (.ofExcept _) fun texts => .bind (.foldlM (enterAccount self) texts []) fun entries =>
      .own (.newObject entries) trivial
  | .chain base accessors =>
    .bind (catalog.reading base) fun value => .foldlM (accessAccount self) accessors value
  | .logical first others =>
    .bind (operandAccount self first) fun start =>
      .bind (.foldlM (connectAccount self) others start.isTruthy) fun _ => .done _
  | .comparison left _ right =>
    .bind (operandAccount self left) fun _ => .bind (operandAccount self right) fun _ =>
      .bind (.ofExcept _) fun _ => .done _
  | .number _ => .done _
  | .identifier name => catalog.reading name
  | .unreadable _ => .fail _

end

def account (catalog : Catalog) :
    (limit : Nat) → (fragment : Text) → Account (evaluate catalog limit fragment)
  | 0, _ => .fail _
  | limit + 1, fragment =>
    formAccount (account catalog limit) catalog (Form.ofFragment (Text.trim fragment))

end Expression

def Statement.account (catalog : Catalog) (limit : Nat) (line : Text) :
    Account (execute catalog limit line) :=
  .bind (.ofExcept _) fun statement =>
    .bind (.mapM (Expression.account catalog limit) statement.arguments) fun values =>
      catalog.invocation statement.command values

namespace Script

section

variable (catalog : Catalog) (limit : Nat)

def takenAccount (branch : Branch) : Account (isTaken catalog limit branch) :=
  match branch with
  | ⟨_, .when condition, _⟩ | ⟨_, .orWhen condition, _⟩ =>
    .mapError (.bind (Expression.account catalog limit condition) fun _ => .done _) _
  | ⟨_, .otherwise, _⟩ => .done true

variable {body : BodyRunner} (inner : ∀ line lines, Account (body line lines))

def branchesAccount : (chain : List Branch) → Account (runBranches catalog limit body chain)
  | [] => .done ()
  | branch :: rest =>
    .bind (takenAccount catalog limit branch) fun _ =>
      .ite (inner branch.line branch.body) (branchesAccount rest)

def stepAccount : (step : Step) → Account (runStep catalog limit body step)
  | .fault error => .fail error
  | .statement line =>
    .bind (.mapError (Statement.account catalog limit line.text) _) fun _ => .done ()
  | .conditional chain => branchesAccount catalog limit inner chain

def itemsAccount (items : List Assembly.Item) : Account (runItems catalog limit body items) :=
  .forM (stepAccount catalog limit inner) (steps items)

def bodyAccount : (room : Nat) → (line : Line) → (lines : List Line) →
    Account (runBody catalog limit room line lines)
  | 0, _, _ => .fail _
  | room + 1, _, lines => itemsAccount catalog limit (bodyAccount room) (lines.map .ok)

def account (source : Text) : Account (run catalog limit source) :=
  itemsAccount catalog limit (bodyAccount catalog limit limit) (Assembly.items source)

end

end Script

structure Moment (σ : Type) where
  operation : Operation
  arguments : List Value
  before : World σ
  outcome : Except Fault Value
  after : World σ

def Invocation.moment {σ : Type} (invocation : Invocation) (console : Console σ)
    (world : World σ) : Moment σ :=
  let ended := invocation.action.run console world
  ⟨invocation.operation, invocation.arguments, world, ended.1, ended.2⟩

namespace Course

variable {ε α σ : Type} (console : Console σ)

/-- The calls of a course that starts in a world, in the order in which they are made. -/
def moments : Course ε α → World σ → List (Moment σ)
  | done _, _ | fail _, _ => []
  | ask request _ next, world =>
    (next (world.answer console request).1).moments (world.answer console request).2
  | call invocation next, world =>
    invocation.moment console world ::
      (next (invocation.moment console world).outcome).moments
        (invocation.moment console world).after

theorem run_call (invocation : Invocation) (next : Except Fault Value → Course ε α)
    (world : World σ) :
    (call invocation next).action.run console world =
      (next (invocation.moment console world).outcome).action.run console
        (invocation.moment console world).after :=
  Action.run_attempt console invocation.action _ world

end Course

/-- The builtin calls that a call on an interpreter makes. -/
def Interpreter.moments {σ : Type} (interpreter : Interpreter σ) (world : World σ) :
    Call → List (Moment σ)
  | .run source => (Script.account interpreter.catalog interpreter.limit source).course.moments
      interpreter.console world
  | .evaluate fragment => (Expression.account interpreter.catalog interpreter.limit
      fragment).course.moments interpreter.console world
  | .execute line => (Statement.account interpreter.catalog interpreter.limit
      line).course.moments interpreter.console world

end LineScript
