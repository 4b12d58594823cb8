import LineScript.Proofs.Script.Failure
import LineScript.Proofs.Script.Nesting

/-! Scripts one after the other. A script whose first line neither stands under a clause nor goes
on with a conditional runs after another script just as it does by itself, except that the
lines of its errors are counted from the start of the whole. -/
namespace LineScript

def Line.down (count : Nat) (line : Line) : Line := { line with number := line.number + count }

def ScriptError.down (count : Nat) (error : ScriptError) : ScriptError :=
  { error with line := error.line.map (· + count) }

namespace Assembly

open Layout (itemsFrom_cons resume)

def Item.down (count : Nat) : Item → Item
  | .ok line => .ok (line.down count)
  | .error error => .error (error.down count)

def Mode.down (count : Nat) : Mode → Mode
  | .between => .between
  | .comment => .comment
  | .pending line => .pending (line.down count)

theorem extend_down (count : Nat) (line : Line) (raw : Text) :
    extend (line.down count) raw = (extend line raw).down count := by
  rw [extend, extend]
  split <;> rfl

theorem settle_down (count : Nat) (line : Line) :
    settle (line.down count) =
      ((settle line).1.down count, (settle line).2.map (Line.down count)) := by
  have same : isOpen (line.down count) = isOpen line := rfl
  rw [settle, settle, same]
  split <;> rfl

theorem step_down (count number : Nat) (mode : Mode) (raw : Text) :
    step (number + count) (mode.down count) raw =
      ((step number mode raw).1.down count, (step number mode raw).2.map (Line.down count)) := by
  cases mode with
  | pending line => rw [Mode.down, step, extend_down, settle_down, step]
  | comment =>
    rw [Mode.down, step, step]
    split <;> rfl
  | between =>
    rw [Mode.down, step, step]
    split
    · rfl
    · split
      · rfl
      · exact settle_down count ⟨number, Text.indentation raw, Scan.content raw⟩

theorem itemsFrom_down (count number : Nat) (mode : Mode) (lines : List Text) :
    itemsFrom (number + count) (mode.down count) lines =
      (itemsFrom number mode lines).map (Item.down count) := by
  induction lines generalizing number mode with
  | nil => cases mode <;> rfl
  | cons raw rest ih =>
    have next : number + count + 1 = number + 1 + count := by omega
    have completed : ((step number mode raw).2.map (Line.down count)).map Except.ok =
        ((step number mode raw).2.map Except.ok).map (Item.down count) := by
      rw [Option.map_map, Option.map_map]
      rfl
    rw [itemsFrom_cons, itemsFrom_cons, step_down, resume, resume, List.map_append, next, ih,
      completed, Option.toList_map]

theorem modeAfter_eq_between {number : Nat} {mode : Mode} {lines : List Text}
    (complete : ∀ error, .error error ∉ itemsFrom number mode lines)
    (outside : modeAfter number mode lines ≠ .comment) :
    modeAfter number mode lines = .between := by
  induction lines generalizing number mode with
  | nil =>
    cases mode with
    | between => rfl
    | comment => exact absurd rfl outside
    | pending line => exact absurd List.mem_cons_self (complete (unclosed line))
  | cons raw rest ih =>
    refine ih (fun error member => complete error ?_) outside
    rw [itemsFrom_cons, resume]
    exact List.mem_append_right _ member

theorem takeBlock_down (count indent : Nat) (items : List Item) :
    takeBlock indent (items.map (Item.down count)) =
      ((takeBlock indent items).1.map (Line.down count),
        (takeBlock indent items).2.map (Item.down count)) := by
  fun_induction takeBlock indent items with
  | case1 line items deeper body after block ih =>
    rw [block] at ih
    have inside : indent < (line.down count).indent := deeper
    rw [List.map_cons, Item.down, takeBlock, if_pos inside, ih]
    rfl
  | case2 line items stays =>
    have outside : ¬indent < (line.down count).indent := stays
    rw [List.map_cons, Item.down, takeBlock, if_neg outside]
    rfl
  | case3 items other =>
    cases items with
    | nil => rfl
    | cons item items =>
      cases item with
      | ok line => exact absurd rfl (other line items)
      | error error => rfl

end Assembly

def Branch.down (count : Nat) (branch : Branch) : Branch :=
  ⟨branch.line.down count, branch.clause, branch.body.map (Line.down count)⟩

def Step.down (count : Nat) : Step → Step
  | .fault error => .fault (error.down count)
  | .statement line => .statement (line.down count)
  | .conditional branches => .conditional (branches.map (Branch.down count))

namespace Script

open Assembly (Item takeBlock)
open Structure (Ends branches_otherwise branches_none branches_some)

theorem nextClause?_down (count indent : Nat) (items : List Item) :
    nextClause? indent (items.map (Item.down count)) =
      (nextClause? indent items).map fun (line, clause, rest) =>
        (line.down count, clause, rest.map (Item.down count)) := by
  cases items with
  | nil => rfl
  | cons item rest =>
    cases item with
    | error error => rfl
    | ok line =>
      have here : (line.down count).indent = line.indent := rfl
      have same : (line.down count).text = line.text := rfl
      rw [List.map_cons, Item.down, nextClause?, nextClause?, here, same]
      repeat' split
      all_goals rfl

theorem branches_down (count indent : Nat) (line : Line) (clause : Clause) (items : List Item) :
    branches indent (line.down count) clause (items.map (Item.down count)) =
      ((branches indent line clause items).1.map (Branch.down count),
        (branches indent line clause items).2.map (Item.down count)) := by
  have block (line : Line) (items : List Item) :=
    Assembly.takeBlock_down count (line.down count).indent items
  fun_induction branches indent line clause items with
  | case1 line items => exact branches_otherwise (block line items)
  | case2 line clause items _ _ going missing =>
    refine branches_none (block line items) going ?_
    rw [nextClause?_down]
    exact congrArg _ missing
  | case3 line clause items _ _ going next nextClause rest found _ ih =>
    have onward : nextClause? indent
        ((takeBlock line.indent items).2.map (Item.down count)) = _ := nextClause?_down _ _ _
    rw [found] at onward
    rw [branches_some (block line items) going onward, ih]
    rfl

theorem steps_down (count : Nat) (items : List Item) :
    steps (items.map (Item.down count)) = (steps items).map (Step.down count) := by
  have same (line : Line) : (line.down count).text = line.text := rfl
  fun_induction steps items with
  | case1 =>
    rw [List.map_nil, steps]
    rfl
  | case2 error rest =>
    rw [List.map_cons, Item.down, steps]
    rfl
  | case3 line rest fault reads =>
    rw [List.map_cons, Item.down, steps.eq_3, same, reads]
    rfl
  | case4 line rest reads ih =>
    rw [List.map_cons, Item.down, steps.eq_3, same, reads]
    exact congrArg _ ih
  | case5 line rest condition reads chain ih =>
    have here : (line.down count).indent = line.indent := rfl
    rw [List.map_cons, Item.down, steps.eq_3, same, reads]
    simp only [here, branches_down]
    exact congrArg _ ih
  | case6 line rest clause other reads =>
    rw [List.map_cons, Item.down, steps.eq_3, same, reads]
    cases clause with
    | when condition => exact absurd rfl (other condition)
    | orWhen condition => rfl
    | otherwise => rfl

section

variable {catalog : Catalog} {limit count : Nat}

theorem located_down {α : Type} (line : Line) (action : Action Fault α) :
    located (line.down count) action = (located line action).mapError (·.down count) := by
  rw [located, located, Action.mapError_mapError]
  rfl

def Movable (count : Nat) (body : BodyRunner) : Prop :=
  ∀ (line : Line) (lines : List Line),
    body (line.down count) (lines.map (Line.down count)) =
      (body line lines).mapError (·.down count)

theorem isTaken_down (branch : Branch) :
    isTaken catalog limit (branch.down count) =
      (isTaken catalog limit branch).mapError (·.down count) := by
  obtain ⟨line, clause, body⟩ := branch
  cases clause with
  | when condition => exact located_down line _
  | orWhen condition => exact located_down line _
  | otherwise => rfl

theorem runBranches_down {body : BodyRunner} (movable : Movable count body)
    (chain : List Branch) :
    runBranches catalog limit body (chain.map (Branch.down count)) =
      (runBranches catalog limit body chain).mapError (·.down count) := by
  induction chain with
  | nil => rfl
  | cons branch rest ih =>
    rw [List.map_cons, runBranches, runBranches, isTaken_down, Action.mapError_bind]
    congr 1
    funext taken
    cases taken with
    | true => exact movable branch.line branch.body
    | false => exact ih

theorem runStep_down {body : BodyRunner} (movable : Movable count body) (step : Step) :
    runStep catalog limit body (step.down count) =
      (runStep catalog limit body step).mapError (·.down count) := by
  cases step with
  | fault error => rfl
  | statement line =>
    have same : (line.down count).text = line.text := rfl
    rw [Step.down, runStep, runStep, same, located_down, Action.mapError_bind]
    rfl
  | conditional chain => exact runBranches_down movable chain

theorem runItems_down {body : BodyRunner} (movable : Movable count body) (items : List Item) :
    runItems catalog limit body (items.map (Item.down count)) =
      (runItems catalog limit body items).mapError (·.down count) := by
  rw [runItems, runItems, steps_down]
  induction steps items with
  | nil => rfl
  | cons step rest ih =>
    rw [List.map_cons, List.forM, List.forM, runStep_down movable, ih, Action.mapError_bind]

theorem movable_runBody (room : Nat) : Movable count (runBody catalog limit room) := by
  induction room with
  | zero => exact fun line lines => rfl
  | succ room ih =>
    intro line lines
    have moved : (lines.map (Line.down count)).map Except.ok =
        (lines.map Except.ok).map (Item.down count) := by
      rw [List.map_map, List.map_map]
      rfl
    rw [runBody, runBody, moved, runItems_down ih]

end

section

variable {back : List Item} (ends : ∀ column, Ends column back)

include ends

theorem takeBlock_append_of_ends (indent : Nat) (front : List Item) :
    takeBlock indent (front ++ back) =
      ((takeBlock indent front).1, (takeBlock indent front).2 ++ back) := by
  by_cases all : (takeBlock indent front).2 = []
  · rw [takeBlock_append_of_all all, (ends indent).block, all, List.append_nil, List.nil_append]
  · exact takeBlock_append_of_rest all back

theorem nextClause?_append_of_ends (indent : Nat) (items : List Item) :
    nextClause? indent (items ++ back) =
      (nextClause? indent items).map fun (line, clause, rest) => (line, clause, rest ++ back) := by
  cases items with
  | nil => exact (ends indent).clause
  | cons item items => exact nextClause?_append (List.cons_ne_nil item items) back

theorem branches_append_of_ends (indent : Nat) (line : Line) (clause : Clause)
    (front : List Item) :
    branches indent line clause (front ++ back) =
      ((branches indent line clause front).1, (branches indent line clause front).2 ++ back) := by
  have block (line : Line) (front : List Item) := takeBlock_append_of_ends ends line.indent front
  fun_induction branches indent line clause front with
  | case1 line front => exact branches_otherwise (block line front)
  | case2 line clause front _ _ going missing =>
    refine branches_none (block line front) going ?_
    rw [nextClause?_append_of_ends ends]
    exact congrArg _ missing
  | case3 line clause front _ _ going next nextClause rest found _ ih =>
    have onward := nextClause?_append_of_ends ends indent (takeBlock line.indent front).2
    rw [found] at onward
    rw [branches_some (block line front) going onward, ih]

/-- Items that neither a block nor a conditional goes on with run after those before them. -/
theorem runItems_append_of_ends {catalog : Catalog} {limit : Nat} (body : BodyRunner)
    (front : List Item) :
    runItems catalog limit body (front ++ back) =
      runItems catalog limit body front >>= fun _ => runItems catalog limit body back := by
  induction size : front.length using Nat.strong_induction_on generalizing front with
  | _ size ih =>
    cases front with
    | nil =>
      rw [runItems_nil]
      rfl
    | cons item rest =>
      rw [List.length_cons] at size
      rw [List.cons_append]
      rcases runItems_cons body item with
        ⟨error, _, fails⟩ | ⟨line, rfl, runs⟩ | ⟨line, clause, rfl, runs⟩
      · rw [fails, fails]
        rfl
      · rw [runs, runs, ih rest.length (by omega) rest rfl, bind_assoc]
      · -- the conditional ends within `front`, since `back` does not go on with it
        have shorter := branches_length_le line.indent line clause rest
        rw [runs, runs, branches_append_of_ends ends, ih _ (by omega) _ rfl, bind_assoc]

end

/-- Items whose first line, if there is one, begins at the margin and is no further clause of a
conditional. -/
def Separate (items : List Item) : Prop :=
  ∀ line, items.head? = some (.ok line) → line.indent = 0 ∧
    LineKind.of line.text ≠ .ok (.clause .otherwise) ∧
    ∀ condition, LineKind.of line.text ≠ .ok (.clause (.orWhen condition))

theorem Separate.down {items : List Item} (separate : Separate items) (count : Nat) :
    Separate (items.map (Item.down count)) := by
  intro line first
  cases items with
  | nil => cases first
  | cons item rest =>
    cases item with
    | error error => cases first
    | ok line =>
      cases first
      exact separate line rfl

theorem Separate.ends {items : List Item} (separate : Separate items) (column : Nat) :
    Ends column items := by
  cases items with
  | nil => exact Structure.ends_nil column
  | cons item rest =>
    cases item with
    | error error => exact ⟨rfl, rfl⟩
    | ok line =>
      obtain ⟨margin, final, further⟩ := separate line rfl
      refine ⟨?_, ?_⟩
      · rw [takeBlock, if_neg (by omega)]
      · rw [nextClause?]
        repeat' split
        next condition reads => exact absurd reads (further condition)
        next reads => exact absurd reads final
        all_goals rfl

theorem run_append (catalog : Catalog) (limit : Nat) {first second : List Text}
    {source front back : Text} (whole : Lines (first ++ second) source) (before : Lines first front)
    (after : Lines second back) (complete : ∀ error, .error error ∉ Assembly.items front)
    (outside : Assembly.modeAfter 1 .between first ≠ .comment)
    (separate : Separate (Assembly.items back)) :
    run catalog limit source = run catalog limit front >>= fun _ =>
      (run catalog limit back).mapError (·.down first.length) := by
  rw [before.items] at complete
  have between := Assembly.modeAfter_eq_between complete outside
  have moved : Assembly.itemsFrom (1 + first.length) .between second =
      (Assembly.items back).map (Item.down first.length) := by
    rw [after.items]
    exact Assembly.itemsFrom_down first.length 1 .between second
  rw [run, whole.items, Assembly.itemsFrom_append between, moved,
    runItems_append_of_ends (separate.down _).ends, runItems_down (movable_runBody limit),
    ← before.items]
  rfl

end Script

/-- Running the lines of two scripts is running one script and then, if that ends well, the
other: the world is the same, and so is the result, except that the errors of the second script
are that many lines further down. The first script must leave no bracket and no comment open,
and the second must not go on with it. No call, whether it fails or not, leaves a trace in the
count of nested conditionals, so that none changes how a later one runs. The text of a value that
is reached from itself never ends; a script that writes it out is taken to go on with what is left
of it (`Heap.tree`). -/
theorem run_sequence {σ : Type} (interpreter : Interpreter σ) {first second : List Text}
    {source front back : Text} (whole : Lines (first ++ second) source) (before : Lines first front)
    (after : Lines second back) (complete : ∀ error, .error error ∉ Assembly.items front)
    (outside : Assembly.modeAfter 1 .between first ≠ .comment)
    (separate : Script.Separate (Assembly.items back)) (world : World σ) :
    (∀ error later, interpreter.run front world = (.error error, later) →
        interpreter.run source world = (.error error, later)) ∧
      (∀ later, interpreter.run front world = (.ok (), later) →
        interpreter.run source world =
          ((interpreter.run back later).1.mapError (·.down first.length),
            (interpreter.run back later).2)) ∧
      ∀ (calls : List Call) (next : Text),
        interpreter.sessionCounting calls (world, 0) = (interpreter.session calls world, 0) ∧
          interpreter.runCounting next (interpreter.sessionCounting calls (world, 0)) =
            ((interpreter.run next (interpreter.session calls world)).1,
              (interpreter.run next (interpreter.session calls world)).2, 0) := by
  have joined := Script.run_append interpreter.catalog interpreter.limit whole before after complete
    outside separate
  refine ⟨fun error later fails => ?_, fun later ends => ?_, fun calls next => ?_⟩
  · rw [Interpreter.run, joined]
    exact Action.run_bind_error fails _
  · rw [Interpreter.run, joined, Action.run_bind ends, Action.run_mapError]
    rfl
  · have counted := interpreter.sessionCounting_eq calls world
    exact ⟨counted, by rw [counted, interpreter.runCounting_eq]⟩

def conditionalScript : Text := "yadi 1:\n  bhanai(\"a\")\n".toList

def unboundScript : Text := "bhanai(x)\n".toList

theorem run_sequence_conditional :
    let together := (Interpreter.inMemory .standard 256).run (conditionalScript ++ unboundScript)
      ⟨{}, {}, {}⟩
    Script.Separate (Assembly.items unboundScript) ∧
      together.1 = .error ((Fault.undefinedVariable "x").located 3) ∧
      together.2.console.output = #["a"] := by
  intro together
  have before : Lines ["yadi 1:".toList, "  bhanai(\"a\")".toList] conditionalScript :=
    .cons (by decide) (.cons (by decide) .nil)
  have after : Lines ["bhanai(x)".toList] unboundScript := .cons (by decide) .nil
  have whole : Lines ["yadi 1:".toList, "  bhanai(\"a\")".toList, "bhanai(x)".toList]
      (conditionalScript ++ unboundScript) :=
    .cons (by decide) (.cons (by decide) (.cons (by decide) .nil))
  have complete : ∀ error, .error error ∉ Assembly.items conditionalScript := by
    have items : Assembly.items conditionalScript =
        [.ok ⟨1, 0, "yadi 1:".toList⟩, .ok ⟨2, 2, "bhanai(\"a\")".toList⟩] := by decide +kernel
    simp [items]
  have separate : Script.Separate (Assembly.items unboundScript) := by
    have items : Assembly.items unboundScript = [.ok ⟨1, 0, "bhanai(x)".toList⟩] := by
      decide +kernel
    have reads : LineKind.of "bhanai(x)".toList = .ok .statement := by rfl
    intro line first
    rw [items] at first
    cases first
    rw [reads]
    exact ⟨rfl, nofun, nofun⟩
  have ends : ((Interpreter.inMemory .standard 256).run conditionalScript ⟨{}, {}, {}⟩).1 =
      .ok () := by decide +kernel
  have sequence := (run_sequence (Interpreter.inMemory .standard 256) whole before after complete
    nofun separate ⟨{}, {}, {}⟩).2.1 _ (Prod.ext ends rfl)
  refine ⟨separate, ?_⟩
  rw [show together = _ from sequence]
  decide +kernel

end LineScript
