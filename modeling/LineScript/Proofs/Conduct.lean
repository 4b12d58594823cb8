import LineScript.Interpreter
import LineScript.Proofs.Action
import Mathlib.Data.List.Basic

/-! What every piece of script keeps to, however deep inside an expression or a block it stands:
it binds identifiers only, and after the console has refused it something it makes no other
request. -/
namespace LineScript

inductive Exchange where
  | write (line : String) (answer : Except String Unit)
  | prompt (message : String) (answer : Except String (Option String))
deriving DecidableEq

/-- The console failed, or had no more input for a prompt. -/
def Exchange.isRefused : Exchange → Bool
  | .write _ (.error _) | .prompt _ (.error _) | .prompt _ (.ok none) => true
  | _ => false

namespace Request

def exchange? : (request : Request) → request.Answer → Option Exchange
  | .write line, answer => some (.write line answer)
  | .prompt message, answer => some (.prompt message answer)
  | _, _ => none

def Named : Request → Prop
  | .setVariable name _ | .setConstant name _ => Scan.isIdentifier name.toList = true
  | _ => True

end Request

def Fault.IsConsole (fault : Fault) : Prop := fault.code = .console

def ScriptError.IsConsole (error : ScriptError) : Prop := error.code = .console

namespace Action

variable {ε α β : Type} {final : ε → Prop}

/-- An action that binds identifiers only, and that fails with a final error as soon as the
console refuses a request. -/
inductive Orderly (final : ε → Prop) : Action ε α → Prop where
  | done (value : α) : Orderly final (done value)
  | fail (error : ε) : Orderly final (fail error)
  | ask {request : Request} {next : request.Answer → Action ε α} : request.Named →
      (∀ answer, Orderly final (next answer)) →
      (∀ answer, (request.exchange? answer).any Exchange.isRefused →
        ∃ error, next answer = fail error ∧ final error) →
      Orderly final (ask request next)

namespace Orderly

theorem bind_of_returns {action : Action ε α} {next : α → Action ε β}
    (orderly : action.Orderly final)
    (later : ∀ value, action.Returns value → (next value).Orderly final) :
    (action >>= next).Orderly final := by
  induction orderly with
  | done value => exact later value rfl
  | fail error => exact .fail error
  | ask named _ refused ih =>
    refine .ask named
      (fun answer => ih answer fun value returns => later value ⟨answer, returns⟩) ?_
    -- a refusal ends the first action, so what was to follow never starts
    intro answer refusal
    obtain ⟨error, fails, isFinal⟩ := refused answer refusal
    exact ⟨error, by rw [fails]; rfl, isFinal⟩

theorem bind {action : Action ε α} {next : α → Action ε β} (orderly : action.Orderly final)
    (later : ∀ value, (next value).Orderly final) : (action >>= next).Orderly final :=
  orderly.bind_of_returns fun value _ => later value

theorem mapError {δ : Type} {last : δ → Prop} {action : Action ε α} (orderly : action.Orderly final)
    {convert : ε → δ} (keeps : ∀ error, final error → last (convert error)) :
    (action.mapError convert).Orderly last := by
  induction orderly with
  | done value => exact .done value
  | fail error => exact .fail (convert error)
  | ask named _ refused ih =>
    refine .ask named ih ?_
    intro answer refusal
    obtain ⟨error, fails, isFinal⟩ := refused answer refusal
    exact ⟨convert error, by rw [fails]; rfl, keeps error isFinal⟩

theorem mapM {f : β → Action ε α} (each : ∀ item, (f item).Orderly final) (list : List β) :
    (list.mapM f).Orderly final := by
  induction list with
  | nil => exact .done []
  | cons item rest ih =>
    rw [List.mapM_cons]
    exact (each item).bind fun _ => ih.bind fun _ => .done _

theorem foldlM {f : α → β → Action ε α} (each : ∀ value item, (f value item).Orderly final)
    (list : List β) (start : α) : (list.foldlM f start).Orderly final := by
  induction list generalizing start with
  | nil => exact .done start
  | cons item rest ih =>
    rw [List.foldlM_cons]
    exact (each start item).bind ih

theorem forM {f : β → Action ε PUnit} (each : ∀ item, (f item).Orderly final) (list : List β) :
    (list.forM f).Orderly final := by
  induction list with
  | nil => exact .done _
  | cons item rest ih => exact (each item).bind fun _ => ih

end Orderly

theorem orderly_ofExcept (outcome : Except ε α) : (ofExcept outcome).Orderly final := by
  cases outcome with
  | ok value => exact .done value
  | error error => exact .fail error

theorem orderly_request (request : Request) (named : request.Named)
    (silent : ∀ answer, request.exchange? answer = none) :
    (Action.request request : Action ε request.Answer).Orderly final := by
  refine .ask named (fun answer => .done answer) ?_
  intro answer refusal
  rw [silent] at refusal
  cases refusal

theorem orderly_heap : (heap : Action ε Heap).Orderly final :=
  orderly_request .readHeap trivial fun _ => rfl

theorem orderly_newArray (items : List Value) : (newArray items : Action ε Value).Orderly final :=
  orderly_request (.newArray items) trivial fun _ => rfl

theorem orderly_newObject (entries : Table Value) :
    (newObject entries : Action ε Value).Orderly final :=
  orderly_request (.newObject entries) trivial fun _ => rfl

theorem orderly_change (request : Request) (named : request.Named)
    (silent : ∀ answer, request.exchange? answer = none) (outcome : request.Answer → Except ε α)
    (result : β) :
    (Action.request request >>= fun answer => ofExcept (outcome answer) >>= fun _ =>
      .done result).Orderly final :=
  (orderly_request request named silent).bind fun _ =>
    (orderly_ofExcept _).bind fun _ => .done result

end Action

theorem orderly_sumOrJoin {ε : Type} {final : ε → Prop} (values : List Value) :
    (sumOrJoin values : Action ε Value).Orderly final := by
  rw [sumOrJoin]
  split
  · exact .done _
  · exact Action.orderly_heap.bind fun _ => .done _

namespace Operation

open LineScript.Action (Orderly orderly_change orderly_ofExcept orderly_heap orderly_newArray
  orderly_request)

theorem orderly_bindingName (operation : Operation) (value : Value) :
    (operation.bindingName value).Orderly Fault.IsConsole := by
  refine (orderly_heap.bind fun _ => .done _).bind fun name => ?_
  split
  · exact .done _
  · exact .fail _

theorem isIdentifier_of_bindingName {operation : Operation} {value : Value} {name : String}
    (returns : (operation.bindingName value).Returns name) :
    Scan.isIdentifier name.toList = true := by
  obtain ⟨text, _, checked⟩ := Action.returns_bind returns
  split at checked
  next valid =>
    obtain rfl : String.ofList text = name := checked
    rwa [String.toList_ofList]
  next => cases checked

theorem orderly_printLine (values : List Value) : (printLine values).Orderly Fault.IsConsole := by
  refine orderly_heap.bind fun heap => .ask trivial (fun answer => ?_) fun answer refusal => ?_
  · cases answer with
    | ok value => exact .done _
    | error message => exact .fail _
  · cases answer with
    | ok value => cases refusal
    | error message => exact ⟨.console message, rfl, rfl⟩

theorem orderly_askLine (message : Value) : (askLine message).Orderly Fault.IsConsole := by
  refine (orderly_heap.bind fun _ => .done _).bind fun text =>
    .ask trivial (fun answer => ?_) fun answer refusal => ?_
  · match answer with
    | .ok (some line) => exact .done _
    | .ok none | .error message => exact .fail _
  · match answer with
    | .ok (some line) => cases refusal
    | .ok none => exact ⟨.console _, rfl, rfl⟩
    | .error message => exact ⟨.console message, rfl, rfl⟩

theorem orderly_askForText (message : Value) : (askForText message).Orderly Fault.IsConsole :=
  (orderly_askLine message).bind fun _ => .done _

theorem orderly_askForNumber (message : Value) :
    (askForNumber message).Orderly Fault.IsConsole := by
  refine (orderly_askLine message).bind fun answer => ?_
  split
  · exact .done _
  · exact .fail _

theorem orderly_lengthOf (value : Value) : (lengthOf value).Orderly Fault.IsConsole := by
  cases value with
  | array cell => exact orderly_heap.bind fun _ => .done _
  | _ => exact (orderly_ofExcept _).bind fun _ => .done _

theorem orderly_lengthOfList (list : Value) : (lengthOfList list).Orderly Fault.IsConsole :=
  (orderly_ofExcept _).bind fun _ => orderly_heap.bind fun _ => .done _

theorem orderly_action? : ∀ {operation : Operation} {values : List Value}
    {action : Action Fault Value}, operation.action? values = some action →
      action.Orderly Fault.IsConsole
  | .bind, name :: value :: _, _, rfl =>
    (orderly_bindingName bind name).bind_of_returns fun label returns =>
      orderly_change (.setVariable label value) (isIdentifier_of_bindingName returns)
        (fun _ => rfl) id Value.undefined
  | .bindConstant, name :: value :: _, _, rfl =>
    (orderly_bindingName bindConstant name).bind_of_returns fun label returns =>
      orderly_change (.setConstant label value) (isIdentifier_of_bindingName returns)
        (fun _ => rfl) id Value.undefined
  | .print, values, _, rfl => orderly_printLine values
  | .askText, message :: _, _, rfl => orderly_askForText message
  | .askNumber, message :: _, _, rfl => orderly_askForNumber message
  | .add, values, _, rfl => orderly_sumOrJoin values
  | .subtract, _ :: _ :: _, _, rfl | .multiply, _ :: _ :: _, _, rfl | .divide, _ :: _ :: _, _, rfl
  | .modulo, _ :: _ :: _, _, rfl => orderly_ofExcept _
  | .both, _ :: _ :: _, _, rfl | .either, _ :: _ :: _, _, rfl | .negate, _ :: _, _, rfl => .done _
  | .concat, _ :: _ :: _, _, rfl => orderly_heap.bind fun _ => .done _
  | .length, value :: _, _, rfl => orderly_lengthOf value
  | .slice, _ :: _ :: _ :: _, _, rfl | .replace, _ :: _ :: _ :: _, _, rfl | .upper, _ :: _, _, rfl
  | .lower, _ :: _, _, rfl | .contains, _ :: _ :: _, _, rfl | .trim, _ :: _, _, rfl
  | .position, _ :: _ :: _, _, rfl | .reverse, _ :: _, _, rfl
  | .padRight, _ :: _ :: _ :: _, _, rfl | .padLeft, _ :: _ :: _ :: _, _, rfl
  | .wordCount, _ :: _, _, rfl => orderly_ofExcept _
  | .split, _ :: _ :: _, _, rfl => (orderly_ofExcept _).bind fun _ => orderly_newArray _
  | .listLength, list :: _, _, rfl => orderly_lengthOfList list
  | .listAppend, _ :: item :: _, _, rfl =>
    (orderly_ofExcept _).bind fun cell =>
      (orderly_request (.append cell item) trivial fun _ => rfl).bind fun _ => .done _
  | .listRemoveLast, _ :: _, _, rfl =>
    (orderly_ofExcept _).bind fun cell =>
      (orderly_request (.removeLast cell) trivial fun _ => rfl).bind fun _ => .done _
  | .objectKeys, _ :: _, _, rfl | .objectValues, _ :: _, _, rfl =>
    (orderly_ofExcept _).bind fun _ => orderly_heap.bind fun _ => orderly_newArray _

end Operation

open LineScript.Action (Orderly orderly_ofExcept orderly_heap orderly_newArray orderly_newObject
  orderly_request)

theorem Catalog.orderly_invoke (catalog : Catalog) (name : String) (arguments : List Value) :
    (catalog.invoke name arguments).Orderly Fault.IsConsole := by
  rw [Catalog.invoke]
  split
  · exact .fail _
  · split
    next arity operation _ accepted =>
      cases found : operation.action? arguments with
      | none => exact .fail _
      | some action => exact Operation.orderly_action? found
    next => exact .fail _

theorem Catalog.orderly_lookup (catalog : Catalog) (name : String) :
    (catalog.lookup name).Orderly Fault.IsConsole := by
  refine (orderly_request .readBindings trivial fun _ => rfl).bind fun bindings => ?_
  split
  · exact .done _
  · exact .done _
  · exact .fail _
  · exact .fail _

namespace Expression

section

variable {self : Evaluator} (inner : ∀ fragment, (self fragment).Orderly Fault.IsConsole)

include inner

theorem orderly_addend (fragment : Text) : (addend self fragment).Orderly Fault.IsConsole := by
  rw [addend]
  split
  · exact .fail _
  · exact inner fragment

theorem orderly_operand (fragment : Text) : (operand self fragment).Orderly Fault.IsConsole := by
  rw [operand]
  split
  · exact .fail _
  · exact inner fragment

theorem orderly_access (value : Value) (accessor : Accessor) :
    (access self value accessor).Orderly Fault.IsConsole := by
  cases accessor with
  | property name => exact orderly_heap.bind fun _ => orderly_ofExcept _
  | index fragment =>
    exact (inner fragment).bind fun _ => orderly_heap.bind fun _ => orderly_ofExcept _

theorem orderly_enter (entries : Table Value) (text : Text) :
    (enter self entries text).Orderly Fault.IsConsole :=
  (orderly_ofExcept _).bind fun (_, fragment) => (inner fragment).bind fun _ => .done _

theorem orderly_connect (result : Bool) (part : Connective × Text) :
    (connect self result part).Orderly Fault.IsConsole :=
  (orderly_operand inner part.2).bind fun _ => .done _

theorem Form.orderly_evaluate (catalog : Catalog) (form : Form) :
    (form.evaluate catalog self).Orderly Fault.IsConsole := by
  cases form with
  | empty => exact .fail _
  | string content => exact .done _
  | sum operands =>
    exact (Orderly.mapM (orderly_addend inner) operands).bind fun _ => orderly_sumOrJoin _
  | call name list =>
    rw [Form.evaluate]
    split
    · refine (orderly_ofExcept _).bind fun fragments => ?_
      exact (Orderly.mapM inner fragments).bind fun _ => catalog.orderly_invoke name _
    · exact .fail _
  | array body =>
    refine (orderly_ofExcept _).bind fun fragments => ?_
    exact (Orderly.mapM inner fragments).bind fun _ => orderly_newArray _
  | object body =>
    refine (orderly_ofExcept _).bind fun fragments => ?_
    exact (Orderly.foldlM (orderly_enter inner) fragments []).bind fun _ => orderly_newObject _
  | chain base accessors =>
    exact (catalog.orderly_lookup base).bind (Orderly.foldlM (orderly_access inner) accessors)
  | logical first others =>
    refine (orderly_operand inner first).bind fun start => ?_
    exact (Orderly.foldlM (orderly_connect inner) others _).bind fun _ => .done _
  | comparison left relation right =>
    refine (orderly_operand inner left).bind fun _ => (orderly_operand inner right).bind fun _ => ?_
    exact (orderly_ofExcept _).bind fun _ => .done _
  | number value => exact .done _
  | identifier name => exact catalog.orderly_lookup name
  | unreadable fragment => exact .fail _

end

theorem orderly_evaluate (catalog : Catalog) (limit : Nat) (fragment : Text) :
    (evaluate catalog limit fragment).Orderly Fault.IsConsole := by
  induction limit generalizing fragment with
  | zero => exact .fail _
  | succ limit ih => exact Form.orderly_evaluate ih catalog _

end Expression

theorem Statement.orderly_execute (catalog : Catalog) (limit : Nat) (line : Text) :
    (execute catalog limit line).Orderly Fault.IsConsole := by
  refine (orderly_ofExcept _).bind fun statement => ?_
  exact (Orderly.mapM (Expression.orderly_evaluate catalog limit) _).bind fun _ =>
    catalog.orderly_invoke _ _

namespace Script

section

variable (catalog : Catalog) (limit : Nat)

theorem orderly_located {α : Type} (line : Line) {action : Action Fault α}
    (orderly : action.Orderly Fault.IsConsole) :
    (located line action).Orderly ScriptError.IsConsole :=
  orderly.mapError fun _ isConsole => isConsole

theorem orderly_isTaken (branch : Branch) :
    (isTaken catalog limit branch).Orderly ScriptError.IsConsole := by
  rw [isTaken]
  split
  · exact orderly_located _ ((Expression.orderly_evaluate catalog limit _).bind fun _ => .done _)
  · exact orderly_located _ ((Expression.orderly_evaluate catalog limit _).bind fun _ => .done _)
  · exact .done true

section

variable {body : BodyRunner}
  (inner : ∀ line lines, (body line lines).Orderly ScriptError.IsConsole)

include inner

theorem orderly_runBranches (chain : List Branch) :
    (runBranches catalog limit body chain).Orderly ScriptError.IsConsole := by
  induction chain with
  | nil => exact .done ()
  | cons branch rest ih =>
    refine (orderly_isTaken catalog limit branch).bind fun taken => ?_
    cases taken with
    | true => exact inner branch.line branch.body
    | false => exact ih

theorem orderly_runStep (step : Step) :
    (runStep catalog limit body step).Orderly ScriptError.IsConsole := by
  cases step with
  | fault error => exact .fail error
  | statement line =>
    exact (orderly_located line (Statement.orderly_execute catalog limit line.text)).bind
      fun _ => .done ()
  | conditional chain => exact orderly_runBranches catalog limit inner chain

theorem orderly_runItems (items : List Assembly.Item) :
    (runItems catalog limit body items).Orderly ScriptError.IsConsole :=
  Orderly.forM (orderly_runStep catalog limit inner) (steps items)

end

theorem orderly_runBody (room : Nat) (line : Line) (lines : List Line) :
    (runBody catalog limit room line lines).Orderly ScriptError.IsConsole := by
  induction room generalizing line lines with
  | zero => exact .fail _
  | succ room ih => exact orderly_runItems catalog limit ih _

theorem orderly_run (source : Text) :
    (run catalog limit source).Orderly ScriptError.IsConsole :=
  orderly_runItems catalog limit (orderly_runBody catalog limit limit) _

end

end Script

end LineScript
