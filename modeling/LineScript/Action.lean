import LineScript.Bindings
import LineScript.Value.Heap

/-! Actions: what running a piece of script asks of the world, request by request.
An action ends in a value or a fault, or makes a request and goes on with the
answer. Running it against a console and a store is a separate step, so that a
statement about all worlds is a statement about one tree. -/
namespace LineScript

inductive Request where
  | readBindings
  | readHeap
  | setVariable (name : String) (value : Value)
  | setConstant (name : String) (value : Value)
  | newArray (items : List Value)
  | newObject (entries : Table Value)
  | append (cell : Nat) (item : Value)
  | removeLast (cell : Nat)
  | write (line : String)
  | prompt (message : String)

abbrev Request.Answer : Request → Type
  | readBindings => Bindings
  | readHeap => Heap
  | setVariable .. | setConstant .. => Except Fault Unit
  | newArray _ | newObject _ => Value
  | append .. => Unit
  | removeLast _ => Option Value
  | write _ => Except String Unit
  | prompt _ => Except String (Option String)

inductive Action (ε α : Type) where
  | done (value : α)
  | fail (error : ε)
  | ask (request : Request) (next : request.Answer → Action ε α)

namespace Action

def bind (action : Action ε α) (next : α → Action ε β) : Action ε β :=
  match action with
  | done value => next value
  | fail error => fail error
  | ask request answered => ask request fun answer => (answered answer).bind next

instance : Monad (Action ε) where
  pure := done
  bind := bind

def mapError (convert : ε → δ) : Action ε α → Action δ α
  | done value => done value
  | fail error => fail (convert error)
  | ask request next => ask request fun answer => (next answer).mapError convert

def request (request : Request) : Action ε request.Answer := ask request done

def ofExcept : Except ε α → Action ε α
  | .ok value => done value
  | .error error => fail error

def heap : Action ε Heap := request .readHeap

def bindings : Action ε Bindings := request .readBindings

def newArray (items : List Value) : Action ε Value := request (.newArray items)

def newObject (entries : Table Value) : Action ε Value := request (.newObject entries)

def setVariable (name : String) (value : Value) : Action Fault Unit := do
  ofExcept (← request (.setVariable name value))

def setConstant (name : String) (value : Value) : Action Fault Unit := do
  ofExcept (← request (.setConstant name value))

def textOf (value : Value) : Action ε Text := do
  return (← heap).text value

theorem bind_done (action : Action ε α) : action.bind done = action := by
  induction action with
  | done | fail => rfl
  | ask request next ih => simp only [bind, ih]

theorem bind_assoc (action : Action ε α) (first : α → Action ε β) (second : β → Action ε γ) :
    (action.bind first).bind second = action.bind fun value => (first value).bind second := by
  induction action with
  | done | fail => rfl
  | ask request next ih => simp only [bind, ih]

instance : LawfulMonad (Action ε) :=
  LawfulMonad.mk' _ bind_done (fun _ _ => rfl) bind_assoc

end Action

end LineScript
