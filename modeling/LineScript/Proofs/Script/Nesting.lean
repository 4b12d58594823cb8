import LineScript.Proofs.Session

/-! The count of nested conditionals. An interpreter may count the clauses whose bodies it is
inside of, refuse to enter another one when the count has reached the limit, and keep the count
from one call to the next. Since every body that was entered is left again, whether it fails or
not, the count is back where it was after every call, and calls do as they do without it. -/
namespace LineScript

namespace Script

section

variable (catalog : Catalog) (limit : Nat)

/-- How the lines under a clause run at a given count. The count that they leave behind is part
of the result and of the error. -/
abbrev CountingRunner := Nat → Line → List Line → Action (ScriptError × Nat) Nat

def countBranches (body : CountingRunner) (count : Nat) :
    List Branch → Action (ScriptError × Nat) Nat
  | [] => return count
  | branch :: rest => do
    if ← (isTaken catalog limit branch).mapError (·, count) then
      body count branch.line branch.body
    else countBranches body count rest

def countStep (body : CountingRunner) (count : Nat) : Step → Action (ScriptError × Nat) Nat
  | .fault error => .fail (error, count)
  | .statement line => do
    let _ ← (located line (Statement.execute catalog limit line.text)).mapError (·, count)
    return count
  | .conditional branches => countBranches catalog limit body count branches

def countItems (body : CountingRunner) (count : Nat) (items : List Assembly.Item) :
    Action (ScriptError × Nat) Nat :=
  (steps items).foldlM (countStep catalog limit body) count

/-- Leaves a body: the count goes down by one, whatever the outcome. -/
def leave : Except (ScriptError × Nat) Nat → Action (ScriptError × Nat) Nat
  | .ok count => .done (count - 1)
  | .error (error, count) => .fail (error, count - 1)

/-- Enters a body unless the count has reached the limit. No more than `fuel` bodies are entered
one inside the other. -/
def countBody : (fuel : Nat) → CountingRunner
  | 0, count, line, _ => .fail ((Fault.malformed .deepBlock).located line.number, count)
  | fuel + 1, count, line, lines =>
    if limit ≤ count then .fail ((Fault.malformed .deepBlock).located line.number, count)
    else (countItems catalog limit (countBody fuel) (count + 1) (lines.map .ok)).attempt leave

def keeping (count : Nat) (action : Action ScriptError Unit) : Action (ScriptError × Nat) Nat := do
  action.mapError (·, count)
  return count

theorem keeping_bind {α : Type} (count : Nat) (action : Action ScriptError Unit)
    (next : Nat → Action (ScriptError × Nat) α) :
    keeping count action >>= next = action.mapError (·, count) >>= fun _ => next count := by
  simp only [keeping, bind_assoc, pure_bind]

theorem keeping_then {α : Type} (count : Nat) (action : Action ScriptError α)
    (rest : α → Action ScriptError Unit) :
    keeping count (action >>= rest) =
      action.mapError (·, count) >>= fun value => keeping count (rest value) := by
  simp only [keeping, Action.mapError_bind, bind_assoc]

theorem attempt_leave (count : Nat) (action : Action ScriptError Unit) :
    (keeping (count + 1) action).attempt leave = keeping count action := by
  induction action with
  | done value => rfl
  | fail error => rfl
  | ask request next ih => exact congrArg (Action.ask request) (funext ih)

theorem run_keeping {σ : Type} (console : Console σ) (count : Nat)
    (action : Action ScriptError Unit) (world : World σ) :
    (keeping count action).run console world =
      (((action.run console world).1.map fun _ => count).mapError (·, count),
        (action.run console world).2) := by
  induction action generalizing world with
  | done value => rfl
  | fail error => rfl
  | ask request next ih => exact ih _ _

section

variable {body : CountingRunner} {plain : BodyRunner} {count : Nat}
  (same : ∀ line lines, body count line lines = keeping count (plain line lines))

include same

theorem countBranches_eq (chain : List Branch) :
    countBranches catalog limit body count chain =
      keeping count (runBranches catalog limit plain chain) := by
  induction chain with
  | nil => rfl
  | cons branch rest ih =>
    rw [countBranches, runBranches, keeping_then]
    congr 1
    funext taken
    cases taken with
    | true => exact same branch.line branch.body
    | false => exact ih

theorem countStep_eq (step : Step) :
    countStep catalog limit body count step =
      keeping count (runStep catalog limit plain step) := by
  cases step with
  | fault error => rfl
  | statement line =>
    rw [runStep, keeping_then]
    rfl
  | conditional chain => exact countBranches_eq catalog limit same chain

theorem countItems_eq (items : List Assembly.Item) :
    countItems catalog limit body count items =
      keeping count (runItems catalog limit plain items) := by
  rw [countItems, runItems]
  induction steps items with
  | nil => rfl
  | cons step rest ih =>
    rw [List.foldlM_cons, countStep_eq catalog limit same, keeping_bind, ih, List.forM,
      keeping_then]

end

/-- A body that is entered at a count has the room that the count leaves. -/
theorem countBody_eq {fuel count : Nat} (enough : limit - count ≤ fuel) (line : Line)
    (lines : List Line) :
    countBody catalog limit fuel count line lines =
      keeping count (runBody catalog limit (limit - count) line lines) := by
  induction fuel generalizing count line lines with
  | zero =>
    rw [Nat.le_zero.1 enough]
    rfl
  | succ fuel ih =>
    rw [countBody]
    split
    next full =>
      rw [Nat.sub_eq_zero_of_le full]
      rfl
    next free =>
      -- entering a body takes one from the room and adds one to the count
      obtain ⟨room, less⟩ : ∃ room, limit - count = room + 1 := ⟨limit - count - 1, by omega⟩
      have inner : limit - (count + 1) = room := by omega
      have same (line : Line) (lines : List Line) :
          countBody catalog limit fuel (count + 1) line lines =
            keeping (count + 1) (runBody catalog limit room line lines) := by
        rw [ih (by omega), inner]
      rw [countItems_eq catalog limit same, attempt_leave, less, runBody]

end

end Script

namespace Interpreter

variable {σ : Type} (interpreter : Interpreter σ)

/-- Runs a script on an interpreter that counts, from the count that it is left with. -/
def runCounting (source : Text) (state : World σ × Nat) : Except ScriptError Unit × World σ × Nat :=
  let limit := interpreter.limit
  let body := Script.countBody interpreter.catalog limit limit
  match (Script.countItems interpreter.catalog limit body state.2 (Assembly.items source)).run
    interpreter.console state.1 with
  | (.ok count, world) => (.ok (), world, count)
  | (.error (error, count), world) => (.error error, world, count)

/-- The state after a call on an interpreter that counts. Evaluating an expression or executing
a statement enters no body. -/
def performCounting (state : World σ × Nat) : Call → World σ × Nat
  | .run source => (interpreter.runCounting source state).2
  | .evaluate fragment => ((interpreter.evaluate fragment state.1).2, state.2)
  | .execute line => ((interpreter.execute line state.1).2, state.2)

def sessionCounting (calls : List Call) (state : World σ × Nat) : World σ × Nat :=
  calls.foldl interpreter.performCounting state

theorem runCounting_eq (source : Text) (world : World σ) :
    interpreter.runCounting source (world, 0) =
      ((interpreter.run source world).1, (interpreter.run source world).2, 0) := by
  have same := Script.countItems_eq interpreter.catalog interpreter.limit
    (Script.countBody_eq interpreter.catalog interpreter.limit (Nat.sub_le _ 0))
    (Assembly.items source)
  have plain : Script.runItems interpreter.catalog interpreter.limit
      (Script.runBody interpreter.catalog interpreter.limit (interpreter.limit - 0))
      (Assembly.items source) = Script.run interpreter.catalog interpreter.limit source := rfl
  rw [runCounting, same, plain, Script.run_keeping, run]
  cases ((Script.run interpreter.catalog interpreter.limit source).run interpreter.console
    world).1 <;> rfl

theorem performCounting_eq (world : World σ) (call : Call) :
    interpreter.performCounting (world, 0) call = (interpreter.perform world call, 0) := by
  cases call with
  | run source => rw [performCounting, runCounting_eq, perform]
  | evaluate fragment => rfl
  | execute line => rfl

theorem sessionCounting_eq (calls : List Call) (world : World σ) :
    interpreter.sessionCounting calls (world, 0) = (interpreter.session calls world, 0) := by
  induction calls generalizing world with
  | nil => rfl
  | cons call rest ih =>
    have first := interpreter.performCounting_eq world call
    rw [sessionCounting, List.foldl_cons, first, session, List.foldl_cons]
    exact ih _

end Interpreter

end LineScript
