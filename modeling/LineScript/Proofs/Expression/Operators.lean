import LineScript.Interpreter
import LineScript.Proofs.Console
import LineScript.Proofs.Expression.Forms
import LineScript.Proofs.Scan.Stack

/-! Operators and the functions of the same meaning. Two operands that are nested and have no
comma and no plus sign outside their groups can be joined by an operator or handed to a function.
Both texts are cut into the same two operands; the left one is evaluated, then the right one, and
the same is done with the two values. -/
namespace LineScript

namespace Expression

open Scan (Nested)
open Text (isAllBlank Tight)

theorem evaluate_congr (catalog : Catalog) (limit : Nat) {fragment other : Text}
    (same : Text.trim fragment = Text.trim other) :
    evaluate catalog limit fragment = evaluate catalog limit other := by
  cases limit with
  | zero => rfl
  | succ limit => rw [evaluate, same, evaluate]

section

variable {fragment other : Text} (same : Text.trim fragment = Text.trim other)
  (solid : isAllBlank other = false)

include same solid

theorem isAllBlank_eq_false : isAllBlank fragment = false := by
  rw [← Bool.not_eq_true, ← Text.trim_eq_nil_iff, same, Text.trim_eq_nil_iff, solid]
  exact Bool.false_ne_true

theorem addend_evaluate (catalog : Catalog) (limit : Nat) :
    addend (evaluate catalog limit) fragment = evaluate catalog limit other := by
  rw [addend, isAllBlank_eq_false same solid, evaluate_congr catalog limit same]
  rfl

theorem operand_evaluate (catalog : Catalog) (limit : Nat) :
    operand (evaluate catalog limit) fragment = evaluate catalog limit other := by
  rw [operand, isAllBlank_eq_false same solid, evaluate_congr catalog limit same]
  rfl

end

/-- A fragment that stays in one part next to an operator and between commas. -/
structure Operand (fragment : Text) : Prop where
  solid : isAllBlank fragment = false
  nested : Scan.isNested fragment = true
  free : ∀ place ∈ Scan.topLevel fragment, place.2 ∉ [',', '+']

theorem Operand.avoids {fragment : Text} (operand : Operand fragment) :
    Nested [',', '+'] fragment :=
  (Scan.nested_of_isNested operand.nested).avoiding (Scan.passes_of_topLevelFrom operand.free)

/-- The word of a connective begins at a place outside all groups and string literals. -/
def ConnectiveAt (text : Text) (place : Nat) : Prop :=
  (Depth.after {} (text.take place)).isTop = true ∧
    ∃ word ∈ Connective.words, word <+: text.drop place

instance (text : Text) (place : Nat) : Decidable (ConnectiveAt text place) :=
  inferInstanceAs (Decidable (_ ∧ _))

/-- Of the connectives in a text none begins outside the one written between the operands. -/
def Sole (connective : Connective) (left right : Text) : Prop :=
  ∀ place < (left ++ connective.word ++ right).length,
    ConnectiveAt (left ++ connective.word ++ right) place →
      left.length ≤ place ∧ place < left.length + connective.word.length

instance (connective : Connective) (left right : Text) : Decidable (Sole connective left right) :=
  inferInstanceAs (Decidable (∀ place < _, _ → _))

inductive Operator where
  | plus
  | word (connective : Connective)
deriving DecidableEq, Repr

namespace Operator

def symbol : Operator → Text
  | plus => [' ', '+', ' ']
  | word connective => connective.word

def operation : Operator → Operation
  | plus => .add
  | word .both => .both
  | word .either => .either

def combine : Operator → Value → Value → Action Fault Value
  | plus, left, right => sumOrJoin [left, right]
  | word connective, left, right => return .boolean (connective.join left.isTruthy right.isTruthy)

def joined (operator : Operator) (left right : Text) : Text := left ++ operator.symbol ++ right

def called (operator : Operator) (left right : Text) : Text :=
  operator.operation.name.toList ++ ('(' :: (left ++ [',', ' '] ++ right) ++ [')'])

end Operator

/-- Evaluates two operands, the left one first, and goes on with their values. -/
def inTurn (self : Evaluator) (left right : Text) (next : Value → Value → Action Fault Value) :
    Action Fault Value := do
  let first ← self left
  let second ← self right
  next first second

/-- A text in which a connective would be found has none in a piece outside the written one. -/
theorem Sole.missing {connective : Connective} {left right : Text}
    (sole : Sole connective left right) {outer piece rest more : Text}
    (whole : outer ++ piece ++ rest ++ more = left ++ connective.word ++ right)
    (level : Depth.after {} outer = {})
    (outside : outer.length + piece.length ≤ left.length ∨
      left.length + connective.word.length ≤ outer.length)
    (front : Text) (c : Char) (back : Text) (split : piece = front ++ c :: back)
    (top : (Depth.after {} front).keepsTop c = true) :
    Scan.matchFirst? Connective.words (c :: (back ++ rest)) = none := by
  rw [Option.eq_none_iff_forall_ne_some]
  rintro ⟨pattern, after⟩ found
  obtain ⟨member, start⟩ := Scan.eq_of_matchFirst? found
  have place :
      left ++ connective.word ++ right = outer ++ front ++ (pattern ++ (after ++ more)) := by
    rw [← whole, split, ← List.append_assoc pattern, ← start]
    simp
  have here : ConnectiveAt (left ++ connective.word ++ right) (outer ++ front).length := by
    rw [place, ConnectiveAt, List.take_left, List.drop_left, Depth.after_append, level]
    exact ⟨(Bool.and_eq_true_iff.1 top).1, pattern, member, List.prefix_append ..⟩
  have bound := congrArg List.length split
  have size := congrArg List.length whole
  simp only [List.length_append, List.length_cons] at bound size
  have within := sole _ (by simp only [List.length_append]; omega) here
  simp only [List.length_append] at within
  omega

section

variable {left right : Text} (front : Operand left) (back : Operand right)

include front back

theorem Operator.trim_joined (operator : Operator) :
    Text.trim (operator.joined left right) =
      Text.trimStart left ++ (operator.symbol ++ Text.trimEnd right) := by
  rw [joined, Text.trim_between front.solid back.solid, List.append_assoc]

theorem Operator.compound_joined (operator : Operator) :
    Grammar.Compound (Text.trim (operator.joined left right)) := by
  have nonempty : Text.trimStart left ≠ [] := by simp [Text.trimStart_eq_nil_iff, front.solid]
  have loose : Grammar.Loose operator.symbol := by
    cases operator with
    | plus => exact ⟨_, _, rfl, by decide, by decide⟩
    | word connective => exact Grammar.Loose.word connective
  rw [operator.trim_joined front back]
  exact Grammar.compound_of_nested front.avoids.trimStart nonempty (loose.append _)

theorem evaluate_plus (catalog : Catalog) (limit : Nat) :
    evaluate catalog (limit + 1) (Operator.plus.joined left right) =
      inTurn (evaluate catalog limit) left right fun first second => sumOrJoin [first, second] := by
  have blank : Nested [',', '+'] [' '] := .plain (by decide) (by decide) .nil
  have cut : Scan.split '+' (Text.trim (Operator.plus.joined left right)) =
      [Text.trimStart left ++ [' '], [' '] ++ Text.trimEnd right] := by
    have first := (front.avoids.trimStart.append blank).mono (by decide : ['+'].all _ = true)
    have second := (blank.append back.avoids.trimEnd).mono (by decide : ['+'].all _ = true)
    have whole : Text.trimStart left ++ (Operator.plus.symbol ++ Text.trimEnd right) =
        Text.trimStart left ++ [' '] ++ '+' :: ([' '] ++ Text.trimEnd right) := by
      simp [Operator.symbol]
    rw [Operator.plus.trim_joined front back, whole, Scan.split_delimiter (by decide) first,
      Scan.split_nested second]
  have form : Form.ofFragment (Text.trim (Operator.plus.joined left right)) =
      .sum [Text.trimStart left ++ [' '], [' '] ++ Text.trimEnd right] := by
    have nonempty : Text.trim (Operator.plus.joined left right) ≠ [] := by
      simp [Operator.plus.trim_joined front back, Operator.symbol]
    rw [Form.ofFragment, if_neg nonempty, (Operator.plus.compound_joined front back).string, cut]
  have first : Text.trim (Text.trimStart left ++ [' ']) = Text.trim left := by
    rw [Text.trim_append_blank _ (by decide), Text.trim_trimStart]
  have second : Text.trim ([' '] ++ Text.trimEnd right) = Text.trim right := by
    rw [Text.trim_blank_append (by decide), Text.trim_trimEnd]
  rw [evaluate, form, Form.evaluate, List.mapM_cons, List.mapM_cons, List.mapM_nil,
    addend_evaluate first front.solid, addend_evaluate second back.solid]
  simp only [bind_assoc, pure_bind, inTurn]

theorem evaluate_called (catalog : Catalog) (limit : Nat) (operator : Operator)
    (function : catalog.isFunction operator.operation.name = true) :
    evaluate catalog (limit + 1) (operator.called left right) =
      inTurn (evaluate catalog limit) left right fun first second =>
        catalog.invoke operator.operation.name [first, second] := by
  have valid : Scan.isIdentifier operator.operation.name.toList = true := by
    rcases operator with _ | _ | _ <;> decide
  have read : call? (Text.trim (operator.called left right)) =
      some (operator.operation.name, left ++ [',', ' '] ++ right) := by
    have comma : Nested [] [',', ' '] :=
      .plain (by decide) (by decide) (.plain (by decide) (by decide) .nil)
    have inner := (front.avoids.loosen.append comma).append back.avoids.loosen
    have name : Tight operator.operation.name.toList := Grammar.Name.tight ⟨_, valid⟩
    have group : Tight ('(' :: (left ++ [',', ' '] ++ right) ++ [')']) :=
      Grammar.tight_enclosed (by decide) (by decide) _
    rw [Operator.called, (name.append group).trim_eq, call?_eq_some_iff]
    exact ⟨_, valid, rfl, Grammar.enclosed?_bracket .paren inner⟩
  have listed := Grammar.arguments_pair (front.avoids.mono (by decide)) front.solid
    (back.avoids.mono (by decide)) back.solid
  have first := evaluate_congr catalog limit (Text.tight_trim front.solid).trim_eq
  have second := evaluate_congr catalog limit (Text.tight_trim back.solid).trim_eq
  rw [evaluate_call catalog limit read, Form.evaluate, if_pos function, listed]
  change ([Text.trim left, Text.trim right].mapM (evaluate catalog limit) >>=
    catalog.invoke operator.operation.name) = _
  rw [List.mapM_cons, List.mapM_cons, List.mapM_nil, first, second]
  simp only [bind_assoc, pure_bind, inTurn]

section

variable {connective : Connective} (sole : Sole connective left right)

include sole

theorem find?_joined :
    Scan.find? Connective.words (Text.trim ((Operator.word connective).joined left right)) =
      some ⟨Text.trimStart left, connective.word, Text.trimEnd right⟩ := by
  obtain ⟨before, blankBefore, first⟩ := Text.exists_gap_trimStart left
  obtain ⟨after, _, second⟩ := Text.exists_trimEnd_gap right
  have whole : before ++ Text.trimStart left ++ (connective.word ++ Text.trimEnd right) ++ after =
      left ++ connective.word ++ right := by
    rw [← first, List.append_assoc, List.append_assoc, ← second, List.append_assoc]
  have gap : Nested [] before := Scan.nested_gap (by decide) blankBefore
  have outside : before.length + (Text.trimStart left).length ≤ left.length := by
    rw [← List.length_append, ← first]
  have missing := sole.missing whole (Depth.after_nested Depth.clear_start gap) (.inl outside)
  have level := Depth.after_nested Depth.clear_start front.avoids.trimStart
  have found : Scan.findFrom Connective.words {} (connective.word ++ Text.trimEnd right) = _ :=
    Grammar.find?_word connective (Text.trimEnd right)
  rw [Operator.trim_joined front back, Scan.find?, Operator.symbol,
    Scan.findFrom_append_of_missing missing, level, found]
  simp [Scan.Occurrence.prepend]

omit back in
theorem find?_right : Scan.find? Connective.words (Text.trimEnd right) = none := by
  obtain ⟨after, _, second⟩ := Text.exists_trimEnd_gap right
  have whole : left ++ connective.word ++ Text.trimEnd right ++ [] ++ after =
      left ++ connective.word ++ right := by
    rw [List.append_nil, List.append_assoc, ← second]
  have level : Depth.after {} (left ++ connective.word) = {} :=
    Depth.after_nested Depth.clear_start
      (front.avoids.loosen.append (Grammar.nested_word connective).loosen)
  have missing := sole.missing whole level (.inr (by rw [List.length_append]))
  have passed := Scan.findFrom_append_of_missing missing
  rw [List.append_nil] at passed
  rw [Scan.find?, passed]
  rfl

theorem evaluate_word (catalog : Catalog) (limit : Nat) :
    evaluate catalog (limit + 1) ((Operator.word connective).joined left right) =
      inTurn (evaluate catalog limit) left right fun first second =>
        return .boolean (connective.join first.isTruthy second.isTruthy) := by
  have compound := (Operator.word connective).compound_joined front back
  have single : Scan.split '+' (Text.trim ((Operator.word connective).joined left right)) =
      [Text.trim ((Operator.word connective).joined left right)] := by
    have word := (Grammar.nested_word connective).mono (by decide : ['+'].all _ = true)
    have first := front.avoids.trimStart.mono (by decide : ['+'].all _ = true)
    have second := back.avoids.trimEnd.mono (by decide : ['+'].all _ = true)
    refine Scan.split_nested ?_
    rw [Operator.trim_joined front back]
    exact first.append (word.append second)
  have found : logical? (Text.trim ((Operator.word connective).joined left right)) =
      some (Text.trimStart left, [(connective, Text.trimEnd right)]) := by
    rw [logical?, find?_joined front back sole, Option.map_some, Grammar.ofWord_word,
      Grammar.operandsAfter_of_none (find?_right front sole)]
  have form : Form.ofFragment (Text.trim ((Operator.word connective).joined left right)) =
      .logical (Text.trimStart left) [(connective, Text.trimEnd right)] := by
    have nonempty : Text.trim ((Operator.word connective).joined left right) ≠ [] := by
      rw [Operator.trim_joined front back]
      simp [Text.trimStart_eq_nil_iff, front.solid]
    rw [Form.ofFragment, if_neg nonempty, compound.string, single]
    exact compound.ofOperand_logical found
  rw [evaluate, form, Form.evaluate, operand_evaluate (Text.trim_trimStart left) front.solid]
  simp only [List.foldlM_cons, List.foldlM_nil, connect,
    operand_evaluate (Text.trim_trimEnd right) back.solid, bind_assoc, pure_bind, inTurn]

end

/-- Every operator evaluates its operands once, the left one first. -/
theorem evaluate_joined (operator : Operator)
    (sole : ∀ connective, operator = .word connective → Sole connective left right)
    (catalog : Catalog) (limit : Nat) :
    evaluate catalog (limit + 1) (operator.joined left right) =
      inTurn (evaluate catalog limit) left right operator.combine := by
  cases operator with
  | plus => exact evaluate_plus front back catalog limit
  | word connective => exact evaluate_word front back (sole connective rfl) catalog limit

end

theorem Operator.invoke_eq (operator : Operator) (left right : Value) :
    Catalog.standard.invoke operator.operation.name [left, right] =
      operator.combine left right := by
  rcases operator with _ | _ | _ <;> rfl

end Expression

/-- An operator between two operands means what the builtin function of that meaning means of
them. In every world and for every limit both texts give the same value or fault and leave the
same bindings, heap and console; and below the limit both evaluate the left operand, then the
right one, each once, before anything is done with the values. -/
theorem evaluate_operator_eq_call {σ : Type} (console : Console σ) (limit : Nat) (world : World σ)
    (operator : Expression.Operator) {left right : Text} (front : Expression.Operand left)
    (back : Expression.Operand right)
    (sole : ∀ connective, operator = .word connective → Expression.Sole connective left right) :
    let interpreter : Interpreter σ := ⟨console, .standard, limit⟩
    interpreter.evaluate (operator.joined left right) world =
        interpreter.evaluate (operator.called left right) world ∧
      ∀ room, limit = room + 1 →
        interpreter.evaluate (operator.joined left right) world =
          (Expression.inTurn (Expression.evaluate .standard room) left right
            operator.combine).run console world := by
  intro interpreter
  cases limit with
  | zero => exact ⟨rfl, fun room absent => by cases absent⟩
  | succ limit =>
    have function : Catalog.standard.isFunction operator.operation.name = true := by
      rcases operator with _ | _ | _ <;> decide +kernel
    have joined := Expression.evaluate_joined front back operator sole .standard limit
    have called := Expression.evaluate_called front back .standard limit operator function
    simp only [operator.invoke_eq] at called
    refine ⟨?_, fun room same => ?_⟩
    · simp only [interpreter, Interpreter.evaluate, joined, called]
    · cases same
      simp only [interpreter, Interpreter.evaluate, joined]

/-- The left operand holds a connective in a string literal, a comma and a plus sign in its
parentheses; it prints before the right operand turns out to be unbound. -/
theorem evaluate_operator_eq_call_unbound :
    let operator : Expression.Operator := .word .either
    let left := "bhanai(\" ra \", \"a\" + \"b\")".toList
    let right := " y ".toList
    let interpreter := Interpreter.inMemory .standard 4
    interpreter.evaluate (operator.joined left right) ⟨{}, {}, {}⟩ =
        interpreter.evaluate (operator.called left right) ⟨{}, {}, {}⟩ ∧
      (interpreter.evaluate (operator.called left right) ⟨{}, {}, {}⟩).2.console.output =
        #["ra ab"] := by
  intro operator left right interpreter
  have front : Expression.Operand left := ⟨by decide, by decide, by decide⟩
  have back : Expression.Operand right := ⟨by decide, by decide, by decide⟩
  have sole : ∀ connective, operator = .word connective →
      Expression.Sole connective left right := by
    intro connective same
    obtain rfl := Expression.Operator.word.inj same
    decide +kernel
  exact ⟨(evaluate_operator_eq_call Transcript.console 4 ⟨{}, {}, {}⟩ operator front back sole).1,
    by decide +kernel⟩

end LineScript
