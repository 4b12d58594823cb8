import LineScript.Script.Clause
import LineScript.Script.Line
import LineScript.Script.Statement

/-! Running scripts. The items of a source are grouped into steps: single
statements and conditionals with their branches. Steps run in order, and a
failure ends the run. -/
namespace LineScript

structure Branch where
  line : Line
  clause : Clause
  body : List Line
deriving DecidableEq, Repr

inductive Step where
  | fault (error : ScriptError)
  | statement (line : Line)
  | conditional (branches : List Branch)

namespace Script

open Assembly

/-- A further clause of a conditional at column `indent`. -/
def nextClause? (indent : Nat) : List Item → Option (Line × Clause × List Item)
  | .ok line :: rest =>
    if line.indent = indent then
      match LineKind.of line.text with
      | .ok (.clause (.orWhen condition)) => some (line, .orWhen condition, rest)
      | .ok (.clause .otherwise) => some (line, .otherwise, rest)
      | _ => none
    else none
  | _ => none

theorem eq_of_nextClause? {indent : Nat} {items rest : List Item} {line : Line} {clause : Clause}
    (found : nextClause? indent items = some (line, clause, rest)) : items = .ok line :: rest := by
  unfold nextClause? at found
  repeat' split at found
  all_goals simp_all

theorem length_lt_of_nextClause? {indent : Nat} {items rest : List Item} {line : Line}
    {clause : Clause} (found : nextClause? indent items = some (line, clause, rest)) :
    rest.length < items.length := by
  rw [eq_of_nextClause? found]
  exact Nat.lt_succ_self _

/-- The branches of the conditional at column `indent` that goes on with the
clause on `line`, and the items after it. Nothing follows the last alternative. -/
def branches (indent : Nat) (line : Line) (clause : Clause) (items : List Item) :
    List Branch × List Item :=
  let block := takeBlock line.indent items
  let branch : Branch := ⟨line, clause, block.1⟩
  if clause = .otherwise then ([branch], block.2)
  else
    match _ : nextClause? indent block.2 with
    | none => ([branch], block.2)
    | some (line, clause, rest) =>
      let others := branches indent line clause rest
      (branch :: others.1, others.2)
termination_by items.length
decreasing_by
  exact Nat.lt_of_lt_of_le (length_lt_of_nextClause? ‹_›) (takeBlock_length_le _ _)

theorem branches_length_le (indent : Nat) (line : Line) (clause : Clause) (items : List Item) :
    (branches indent line clause items).2.length ≤ items.length := by
  fun_induction branches indent line clause items with
  | case1 | case2 => exact takeBlock_length_le _ _
  | case3 _ _ _ _ _ _ _ _ _ found _ ih =>
    have shorter := Nat.le_of_lt (length_lt_of_nextClause? found)
    exact Nat.le_trans ih (Nat.le_trans shorter (takeBlock_length_le _ _))

/-- Groups items into steps. A line that cannot be read is a step that fails. -/
def steps (items : List Item) : List Step :=
  match items with
  | [] => []
  | .error error :: _ => [.fault error]
  | .ok line :: rest =>
    match LineKind.of line.text with
    | .error fault => [.fault (fault.located line.number)]
    | .ok .statement => .statement line :: steps rest
    | .ok (.clause (.when condition)) =>
      let chain := branches line.indent line (.when condition) rest
      .conditional chain.1 :: steps chain.2
    | .ok (.clause _) =>
      [.fault ((Fault.malformed (.orphanClause line.text)).located line.number)]
termination_by items.length
decreasing_by
  all_goals simp only [List.length_cons]
  · omega
  · have := branches_length_le line.indent line (.when condition) rest
    omega

def located (line : Line) (action : Action Fault α) : Action ScriptError α :=
  action.mapError (·.located line.number)

section

variable (catalog : Catalog) (limit : Nat)

abbrev BodyRunner := Line → List Line → Action ScriptError Unit

def isTaken (branch : Branch) : Action ScriptError Bool :=
  match branch.clause with
  | .when condition | .orWhen condition => located branch.line do
    return (← Expression.evaluate catalog limit condition).isTruthy
  | .otherwise => return true

/-- Runs the first branch whose condition holds. Later conditions are not
evaluated. -/
def runBranches (body : BodyRunner) : List Branch → Action ScriptError Unit
  | [] => return
  | branch :: rest => do
    if ← isTaken catalog limit branch then body branch.line branch.body
    else runBranches body rest

def runStep (body : BodyRunner) : Step → Action ScriptError Unit
  | .fault error => .fail error
  | .statement line => do
    let _ ← located line (Statement.execute catalog limit line.text)
  | .conditional branches => runBranches catalog limit body branches

def runItems (body : BodyRunner) (items : List Item) : Action ScriptError Unit :=
  (steps items).forM (runStep catalog limit body)

/-- Runs the lines under a clause, with room for conditionals nested `room`
levels deep. -/
def runBody : Nat → BodyRunner
  | 0, line, _ => .fail ((Fault.malformed .deepBlock).located line.number)
  | room + 1, _, lines => runItems catalog limit (runBody room) (lines.map .ok)

/-- Runs a whole source text. The limit bounds both the nesting of expressions
and that of conditionals. -/
def run (source : Text) : Action ScriptError Unit :=
  runItems catalog limit (runBody catalog limit limit) (items source)

end

end Script

end LineScript
