import LineScript.Proofs.Console
import LineScript.Proofs.Expression.Limit

/-! One limit bounds the nesting of expressions and that of conditionals. It can make a script
fail, and that is all it can do. -/
namespace LineScript

/-- The error of an expression or a conditional that is nested beyond the limit. -/
def ScriptError.IsRefusal (error : ScriptError) : Prop :=
  ∃ line, error = (Fault.malformed .deepExpression).located line ∨
    error = (Fault.malformed .deepBlock).located line

theorem Statement.within_execute (catalog : Catalog) {limit more : Nat} (larger : limit ≤ more)
    (line : Text) :
    (execute catalog limit line).Within (· = .tooDeep) (execute catalog more line) :=
  (Action.Within.refl _).bind fun _ =>
    (inherited_within.mapM fun part _ => Expression.within_evaluate catalog larger part).bind
      fun _ => .refl _

namespace Script

section

variable (catalog : Catalog) {limit more : Nat} (larger : limit ≤ more)

theorem within_located {α : Type} (line : Line) {first second : Action Fault α}
    (within : first.Within (· = .tooDeep) second) :
    (located line first).Within ScriptError.IsRefusal (located line second) :=
  within.mapError fun _ same => ⟨line.number, .inl (by rw [same])⟩

include larger

theorem within_isTaken (branch : Branch) :
    (isTaken catalog limit branch).Within ScriptError.IsRefusal (isTaken catalog more branch) := by
  rw [isTaken, isTaken]
  split
  · exact within_located _ ((Expression.within_evaluate catalog larger _).bind fun _ => .refl _)
  · exact within_located _ ((Expression.within_evaluate catalog larger _).bind fun _ => .refl _)
  · exact .refl _

section

variable {body other : BodyRunner}
  (inner : ∀ line lines, (body line lines).Within ScriptError.IsRefusal (other line lines))

include inner

theorem within_runBranches (chain : List Branch) :
    (runBranches catalog limit body chain).Within ScriptError.IsRefusal
      (runBranches catalog more other chain) := by
  induction chain with
  | nil => exact .refl _
  | cons branch rest ih =>
    refine (within_isTaken catalog larger branch).bind fun taken => ?_
    cases taken with
    | true => exact inner branch.line branch.body
    | false => exact ih

theorem within_runStep (step : Step) :
    (runStep catalog limit body step).Within ScriptError.IsRefusal
      (runStep catalog more other step) := by
  cases step with
  | fault error => exact .refl _
  | statement line =>
    exact (within_located line (Statement.within_execute catalog larger line.text)).bind
      fun _ => .refl _
  | conditional chain => exact within_runBranches catalog larger inner chain

theorem within_runItems (items : List Assembly.Item) :
    (runItems catalog limit body items).Within ScriptError.IsRefusal
      (runItems catalog more other items) :=
  .forM (within_runStep catalog larger inner) (steps items)

end

theorem within_runBody {room space : Nat} (roomier : room ≤ space) (line : Line)
    (lines : List Line) :
    (runBody catalog limit room line lines).Within ScriptError.IsRefusal
      (runBody catalog more space line lines) := by
  induction room generalizing space line lines with
  | zero => exact .refused _ ⟨line.number, .inr rfl⟩
  | succ room ih =>
    obtain ⟨space, rfl⟩ : ∃ less, space = less + 1 := ⟨space - 1, by omega⟩
    exact within_runItems catalog larger (fun line lines => ih (by omega) line lines) _

theorem within_run (source : Text) :
    (run catalog limit source).Within ScriptError.IsRefusal (run catalog more source) :=
  within_runItems catalog larger (within_runBody catalog larger larger) _

end

end Script

/-- The limit refuses, and it does nothing else. What a script, an expression or a statement does
without a refusal it also does under every larger limit. An evaluation depends on the evaluation
of shorter texts only, so a limit above the length of a text never refuses to evaluate it. The
text of a value that is reached from itself never ends; what writes it out is taken to go on with
what is left of it (`Heap.tree`), whatever the limit. -/
theorem limit_only_refuses {σ : Type} (interpreter : Interpreter σ) {limit : Nat}
    (larger : interpreter.limit ≤ limit) (text : Text) (world : World σ) :
    ((∀ error, (interpreter.run text world).1 = .error error → ¬error.IsRefusal) →
        ({ interpreter with limit } : Interpreter σ).run text world =
          interpreter.run text world) ∧
      ((interpreter.evaluate text world).1 ≠ .error (.malformed .deepExpression) →
        ({ interpreter with limit } : Interpreter σ).evaluate text world =
          interpreter.evaluate text world) ∧
      ((interpreter.execute text world).1 ≠ .error (.malformed .deepExpression) →
        ({ interpreter with limit } : Interpreter σ).execute text world =
          interpreter.execute text world) ∧
      (∀ self other : Expression.Evaluator,
        (∀ part : Text, part.length < text.length → self part = other part) →
          (Expression.Form.ofFragment (Text.trim text)).evaluate interpreter.catalog self =
            (Expression.Form.ofFragment (Text.trim text)).evaluate interpreter.catalog other) ∧
      (text.length < interpreter.limit →
        (interpreter.evaluate text world).1 ≠ .error (.malformed .deepExpression)) := by
  refine ⟨fun granted => ?_, fun granted => ?_, fun granted => ?_, fun self other same => ?_,
    fun room => ?_⟩
  · exact (Script.within_run interpreter.catalog larger text).run_eq granted
  · refine (Expression.within_evaluate interpreter.catalog larger text).run_eq ?_
    rintro error ends rfl
    exact granted ends
  · refine (Statement.within_execute interpreter.catalog larger text).run_eq ?_
    rintro error ends rfl
    exact granted ends
  · exact Expression.evaluate_eq_of_shorter interpreter.catalog same
  · exact Expression.spared_evaluate interpreter.catalog room σ interpreter.console world

def nestedScript : Text := "yadi hoina(hoina(\"a\")):\n  bhanai(hoina(\"b\"))".toList

theorem limit_only_refuses_nested :
    (∃ error, ((Interpreter.inMemory .standard 2).run nestedScript ⟨{}, {}, {}⟩).1 =
        .error error ∧ error.IsRefusal) ∧
      (Interpreter.inMemory .standard 256).run nestedScript ⟨{}, {}, {}⟩ =
        (Interpreter.inMemory .standard 3).run nestedScript ⟨{}, {}, {}⟩ ∧
      ((Interpreter.inMemory .standard 18).evaluate "hoina(hoina(\"a\"))".toList ⟨{}, {}, {}⟩).1 ≠
        .error (.malformed .deepExpression) := by
  have refused : ((Interpreter.inMemory .standard 2).run nestedScript ⟨{}, {}, {}⟩).1 =
      .error ((Fault.malformed .deepExpression).located 1) := by decide +kernel
  have granted : ((Interpreter.inMemory .standard 3).run nestedScript ⟨{}, {}, {}⟩).1 =
      .ok () := by decide +kernel
  have three := limit_only_refuses (Interpreter.inMemory .standard 3) (show 3 ≤ 256 by decide)
    nestedScript ⟨{}, {}, {}⟩
  have eighteen := limit_only_refuses (Interpreter.inMemory .standard 18) (Nat.le_refl 18)
    "hoina(hoina(\"a\"))".toList ⟨{}, {}, {}⟩
  refine ⟨⟨_, refused, 1, .inl rfl⟩, three.1 fun error fails => ?_, ?_⟩
  · rw [granted] at fails
    cases fails
  · exact eighteen.2.2.2.2 (by decide +kernel)

end LineScript
