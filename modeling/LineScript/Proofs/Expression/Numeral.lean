import LineScript.Proofs.Action
import LineScript.Proofs.Expression.Operators

/-! Numbers in a script and at a prompt. Both are read by the same function, but in a script the
plus sign comes first: it divides a text wherever it stands, so a number that is written with one
is a sum, and the sum is refused because what stands before the sign is no expression. A number
without a plus sign means the same in both places. -/
namespace LineScript

namespace Expression

open Decimal (parseNumber?)
open Scan (Nested)

section

variable (catalog : Catalog) (limit : Nat)

theorem evaluate_unsigned {text : Text} {value : Float} (read : parseNumber? text = some value)
    (unsigned : '+' ∉ text) : evaluate catalog (limit + 1) text = .done (.number value) := by
  let numeral : Grammar.Numeral := ⟨text, by rw [read]; rfl⟩
  have same : numeral.value = value := by simp [numeral, Grammar.Numeral.value, read]
  rw [evaluate, Grammar.ofFragment_number numeral unsigned, same]
  rfl

theorem evaluate_sum_of_fail {front rest : Text} {fault : Fault}
    (tight : Text.trim (front ++ '+' :: rest) = front ++ '+' :: rest)
    (literal : stringLiteral? (front ++ '+' :: rest) = none) (nested : Nested ['+'] front)
    (fails : addend (evaluate catalog limit) front = .fail fault) :
    evaluate catalog (limit + 1) (front ++ '+' :: rest) = .fail fault := by
  obtain ⟨second, others, parts⟩ :=
    List.exists_cons_of_ne_nil (Scan.splitFrom_ne_nil '+' {} rest)
  have form : Form.ofFragment (front ++ '+' :: rest) = .sum (front :: second :: others) := by
    rw [Form.ofFragment, if_neg (by simp), literal, Scan.split_delimiter (by decide) nested,
      Scan.split, parts]
  rw [evaluate, tight, form, Form.evaluate, List.mapM_cons, fails]
  rfl

theorem addend_of_unread {front : Text} (numeric : ∀ c ∈ front, Decimal.isNumeric c = true)
    (unsigned : '+' ∉ front) (other : ∀ c ∈ front.head?, Scan.isIdentifierStart c = false)
    (unread : Decimal.Literal.read? front = none) :
    ∃ cause, addend (evaluate catalog limit) front = .fail (.malformed cause) := by
  cases front with
  | nil => exact ⟨.missingAddend, rfl⟩
  | cons c rest =>
    have tight : Text.Tight (c :: rest) := Text.tight_of_solid (by simp) fun d member =>
      Decimal.not_isBlank_of_isNumeric (numeric d member)
    have missing : parseNumber? (c :: rest) = none := by
      rw [parseNumber?, tight.trim_eq, unread, Option.map_none]
    rw [addend, tight.isAllBlank_eq, if_neg Bool.false_ne_true]
    cases limit with
    | zero => exact ⟨.deepExpression, rfl⟩
    | succ limit =>
      refine ⟨.unreadable (c :: rest), ?_⟩
      rw [evaluate, tight.trim_eq, Grammar.ofFragment_numeric numeric unsigned (other c rfl),
        missing]
      rfl

theorem evaluate_signed {text : Text} {value : Float} (read : parseNumber? text = some value)
    (plus : '+' ∈ text) :
    ∃ cause, evaluate catalog (limit + 1) text = .fail (.malformed cause) := by
  let numeral : Grammar.Numeral := ⟨text, by rw [read]; rfl⟩
  obtain ⟨literal, spelled⟩ := numeral.exists_read
  have inner : '+' ∈ Text.trim numeral.text := (Text.mem_trim_iff (by decide)).2 plus
  obtain ⟨front, rest, whole, unsigned, unread⟩ := Decimal.exists_before_plus spelled inner
  have numeric := numeral.isNumeric
  have tight := numeral.tight.trim_eq
  have literally := numeral.compound.string
  rw [whole] at spelled numeric tight literally
  have numericFront := (List.forall_mem_append.1 numeric).1
  have other : ∀ c ∈ front.head?, Scan.isIdentifierStart c = false := by
    intro c first
    obtain ⟨more, rfl⟩ := List.head?_eq_some_iff.1 first
    exact Decimal.not_isIdentifierStart_of_read? spelled
  obtain ⟨cause, fails⟩ := addend_of_unread catalog limit numericFront unsigned other unread
  have nested := Grammar.nested_of_isNumeric numericFront unsigned
  refine ⟨cause, ?_⟩
  rw [evaluate_congr catalog (limit + 1) (numeral.tight.trim_eq.symm : Text.trim text = _), whole]
  exact evaluate_sum_of_fail catalog limit tight literally (nested.mono (by decide)) fails

end

end Expression

namespace Operation

section

variable {σ : Type} {console : Console σ} {world : World σ} {message : Value} {line : Text}
  {state : σ}
  (typed : console.prompt (String.ofList (world.heap.text message)) world.console =
    (.ok (some (String.ofList line)), state))

include typed

theorem run_askLine : (askLine message).run console world =
    (.ok (Text.trim line), { world with console := state }) := by
  have text : (Action.textOf message : Action Fault Text).run console world =
      (.ok (world.heap.text message), world) := rfl
  have asked : (Action.request (.prompt (String.ofList (world.heap.text message))) :
      Action Fault _).run console world =
        (.ok (.ok (some (String.ofList line))), { world with console := state }) := by
    rw [Action.request, Action.run, World.answer, typed]
    rfl
  rw [askLine, Action.run_bind text, Action.run_bind asked]
  change (_, _) = _
  rw [String.toList_ofList]

theorem run_askForNumber {value : Float} (read : Decimal.parseNumber? line = some value) :
    (askForNumber message).run console world =
      (.ok (.number value), { world with console := state }) := by
  have trimmed : Decimal.parseNumber? (Text.trim line) = some value := by
    rw [Decimal.parseNumber?, Text.trim_trim, ← Decimal.parseNumber?, read]
  rw [askForNumber, Action.run_bind (run_askLine typed), trimmed]
  rfl

end

end Operation

/-- A number means the same in a script as at a prompt, if it is written without a plus sign:
the prompt for a number gives its value, and so does evaluating it, in any world and without a
change. With a plus sign it is read as a sum in a script; the sum is malformed, whatever the world,
and nothing changes. -/
theorem evaluate_numeral {σ : Type} (console : Console σ) (catalog : Catalog) (limit : Nat)
    (world : World σ) {text : Text} {value : Float}
    (read : Decimal.parseNumber? text = some value) :
    let interpreter : Interpreter σ := ⟨console, catalog, limit + 1⟩
    (∀ message state, console.prompt (String.ofList (world.heap.text message)) world.console =
        (.ok (some (String.ofList text)), state) →
      (⟨console, .standard, limit + 1⟩ : Interpreter σ).invoke "sodhNumber" [message] world =
        (.ok (.number value), { world with console := state })) ∧
    ('+' ∉ text → interpreter.evaluate text world = (.ok (.number value), world)) ∧
    ('+' ∈ text → ∃ cause,
      interpreter.evaluate text world = (.error (.malformed cause), world)) := by
  refine ⟨fun message state typed => ?_, fun unsigned => ?_, fun plus => ?_⟩
  · exact Operation.run_askForNumber typed read
  · rw [Interpreter.evaluate, Expression.evaluate_unsigned catalog limit read unsigned]
    rfl
  · obtain ⟨cause, fails⟩ := Expression.evaluate_signed catalog limit read plus
    refine ⟨cause, ?_⟩
    rw [Interpreter.evaluate, fails]
    rfl

theorem evaluate_numeral_exponent :
    let text := "-2.5E-1".toList
    Decimal.parseNumber? text = some (-0.25) ∧ '+' ∉ text ∧
      (Interpreter.inMemory .standard 1).invoke "sodhNumber" [.text "n?"]
          ⟨{}, {}, { input := ["-2.5E-1"] }⟩ =
        (.ok (.number (-0.25)), ⟨{}, {}, { prompts := #["n?"] }⟩) ∧
      (Interpreter.inMemory .standard 1).evaluate text ⟨{}, {}, {}⟩ =
        (.ok (.number (-0.25)), ⟨{}, {}, {}⟩) := by
  intro text
  have read : Decimal.parseNumber? text = some (-0.25) := by decide +kernel
  have unsigned : '+' ∉ text := by decide
  have typed := (evaluate_numeral Transcript.console .standard 0
    ⟨{}, {}, { input := ["-2.5E-1"] }⟩ read).1 (.text "n?") { prompts := #["n?"] } rfl
  have written := (evaluate_numeral Transcript.console .standard 0 ⟨{}, {}, {}⟩ read).2.1 unsigned
  exact ⟨read, unsigned, typed, written⟩

/-- The sign of an exponent is taken for a plus: a prompt reads the number, a script the sum of
`1e` and `5`. -/
theorem evaluate_splits_exponent :
    let text := "1e+5".toList
    Text.trim text = text ∧ Decimal.parseNumber? text = some 100000.0 ∧
      (Interpreter.inMemory .standard 256).invoke "sodhNumber" [.text "n?"]
          ⟨{}, {}, { input := ["1e+5"] }⟩ =
        (.ok (.number 100000.0), ⟨{}, {}, { prompts := #["n?"] }⟩) ∧
      (Interpreter.inMemory .standard 256).evaluate text ⟨{}, {}, {}⟩ =
        (.error (.malformed (.unreadable "1e".toList)), ⟨{}, {}, {}⟩) := by
  intro text
  have read : Decimal.parseNumber? text = some 100000.0 := by decide +kernel
  exact ⟨by decide, read, rfl, rfl⟩

end LineScript
