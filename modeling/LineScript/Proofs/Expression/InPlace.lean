import LineScript.Proofs.Expression.Reading
import LineScript.Proofs.Scan.InPlace

/-! Reading expressions in place. Names, bodies and operands are cut out of their fragment between
byte positions, of which some are one byte before or behind another because every bracket, quote,
point and colon takes one byte. Each reader has the result of the reader on characters. -/
namespace LineScript.InPlace

open Expression (Accessor Connective Form Relation)
open Text (byteSize slice? sliceFrom?)

section

variable (fragment : Text)

theorem slice?_identifier :
    slice? fragment 0 (identifierSize fragment) = some (Scan.splitIdentifier fragment).1 :=
  Text.slice?_front (Scan.splitIdentifier_append fragment).symm (identifierSize_eq fragment).symm

theorem sliceFrom?_identifier :
    sliceFrom? fragment (identifierSize fragment) = some (Scan.splitIdentifier fragment).2 :=
  Text.sliceFrom?_eq_some (Scan.splitIdentifier_append fragment).symm
    (identifierSize_eq fragment).symm

theorem identifierSize_eq_zero_iff :
    identifierSize fragment = 0 ↔ (Scan.splitIdentifier fragment).1 = [] := by
  rw [identifierSize_eq, Text.byteSize_eq_zero_iff]

theorem identifierSize_eq_byteSize_iff :
    identifierSize fragment = byteSize fragment ↔ (Scan.splitIdentifier fragment).2 = [] := by
  have whole := congrArg byteSize (Scan.splitIdentifier_append fragment)
  rw [Text.byteSize_append] at whole
  rw [identifierSize_eq, ← Text.byteSize_eq_zero_iff]
  omega

def stringLiteral : Option (Option Text) := do
  return (← enclosed '"' fragment).map Expression.unescape

theorem stringLiteral_eq : stringLiteral fragment = some (Expression.stringLiteral? fragment) := by
  rw [stringLiteral, enclosed_eq]
  rfl

def call : Option (Option (String × Text)) := do
  let size := identifierSize fragment
  let rest ← sliceFrom? fragment size
  if size = 0 then return none
  match ← enclosed '(' rest with
  | none => return none
  | some list => return some (String.ofList (← slice? fragment 0 size), list)

theorem call_eq : call fragment = some (Expression.call? fragment) := by
  simp only [call, Expression.call?, sliceFrom?_identifier, slice?_identifier, enclosed_eq,
    identifierSize_eq_zero_iff, Option.bind_eq_bind, Option.bind_some]
  split
  · rfl
  · cases Scan.enclosed? '(' (Scan.splitIdentifier fragment).2 <;> rfl

def accessor : Text → Option (Option (Accessor × Text))
  | [] => some none
  | c :: rest =>
    if c = '.' then
      let size := identifierSize rest
      if size = 0 then some none
      else do
        return some (.property (String.ofList (← slice? rest 0 size)), ← sliceFrom? rest size)
    else if c = '[' then
      match matchingClose (c :: rest) with
      | none => some none
      | some close => do
        return some (.index (← slice? (c :: rest) 1 close), ← sliceFrom? (c :: rest) (close + 1))
    else some none

theorem accessor_eq : accessor fragment = some (Expression.accessor? fragment) := by
  cases fragment with
  | nil => rfl
  | cons c rest =>
    rw [accessor, Expression.accessor?]
    split
    · simp only [slice?_identifier, sliceFrom?_identifier, identifierSize_eq_zero_iff,
        Option.bind_eq_bind, Option.bind_some]
      split <;> rfl
    · split
      · rw [matchingClose_eq]
        cases found : Scan.group? (c :: rest) with
        | none => rw [Scan.matchingClose?, found]; rfl
        | some group =>
          rw [matchingClose?_of_group? found]
          simp [slice?_body found, sliceFrom?_rest found]
      · rfl

end

theorem length_lt_of_accessor {text tail : Text} {first : Accessor}
    (found : accessor text = some (some (first, tail))) : tail.length < text.length :=
  Expression.length_lt_of_accessor? (Option.some.inj ((accessor_eq text).symm.trans found))

def accessors (text : Text) : Option (Option (List Accessor)) :=
  if text = [] then some (some [])
  else
    match _ : accessor text with
    | none => none
    | some none => some none
    | some (some (first, tail)) => do return (← accessors tail).map (first :: ·)
termination_by text.length
decreasing_by exact length_lt_of_accessor ‹_›

theorem accessors_eq (text : Text) : accessors text = some (Expression.accessors? text) := by
  fun_induction accessors text with
  | case1 => rw [Expression.accessors?, if_pos rfl]
  | case2 text nonempty outside =>
    rw [accessor_eq] at outside
    cases outside
  | case3 text nonempty missing =>
    have unread : Expression.accessor? text = none :=
      Option.some.inj ((accessor_eq text).symm.trans missing)
    rw [Expression.accessors?, if_neg nonempty]
    split
    next => rfl
    next found => cases unread.symm.trans found
  | case4 text nonempty first tail found ih =>
    rw [accessor_eq] at found
    rw [Grammar.accessors?_cons (Option.some.inj found), ih]
    rfl

def chain (fragment : Text) : Option (Option (String × List Accessor)) := do
  let size := identifierSize fragment
  if size = 0 ∨ size = byteSize fragment then return none
  match ← accessors (← sliceFrom? fragment size) with
  | none => return none
  | some list => return some (String.ofList (← slice? fragment 0 size), list)

theorem chain_eq (fragment : Text) : chain fragment = some (Expression.chain? fragment) := by
  simp only [chain, Expression.chain?, sliceFrom?_identifier, slice?_identifier, accessors_eq,
    identifierSize_eq_zero_iff, identifierSize_eq_byteSize_iff, Option.bind_eq_bind,
    Option.bind_some]
  split
  · rfl
  · cases Expression.accessors? (Scan.splitIdentifier fragment).2 <;> rfl

theorem length_lt_of_occurrence {text : Text} {found : Scan.Occurrence}
    (here : occurrence Connective.words text = some (some found)) :
    found.after.length < text.length :=
  Expression.length_lt_of_find? (Option.some.inj ((occurrence_eq _ text).symm.trans here))

def operandsAfter (connective : Connective) (text : Text) : Option (List (Connective × Text)) :=
  match _ : occurrence Connective.words text with
  | none => none
  | some none => some [(connective, text)]
  | some (some found) => do
    return (connective, found.before) :: (← operandsAfter (.ofWord found.pattern) found.after)
termination_by text.length
decreasing_by exact length_lt_of_occurrence ‹_›

theorem operandsAfter_eq (connective : Connective) (text : Text) :
    operandsAfter connective text = some (Expression.operandsAfter connective text) := by
  fun_induction operandsAfter connective text with
  | case1 connective text outside =>
    rw [occurrence_eq] at outside
    cases outside
  | case2 connective text missing =>
    rw [occurrence_eq] at missing
    rw [Grammar.operandsAfter_of_none (Option.some.inj missing)]
  | case3 connective text found here ih =>
    rw [occurrence_eq] at here
    rw [Grammar.operandsAfter_of_some (Option.some.inj here), ih]
    rfl

section

variable (fragment : Text)

def logical : Option (Option (Text × List (Connective × Text))) := do
  match ← occurrence Connective.words fragment with
  | none => return none
  | some found =>
    return some (found.before, ← operandsAfter (.ofWord found.pattern) found.after)

theorem logical_eq : logical fragment = some (Expression.logical? fragment) := by
  simp only [logical, Expression.logical?, occurrence_eq, operandsAfter_eq, Option.bind_eq_bind,
    Option.bind_some]
  cases Scan.find? Connective.words fragment <;> rfl

def comparison : Option (Option (Text × Relation × Text)) := do
  return (← occurrence Relation.symbols fragment).map fun found =>
    (found.before, .ofSymbol found.pattern, found.after)

theorem comparison_eq : comparison fragment = some (Expression.comparison? fragment) := by
  rw [comparison, occurrence_eq]
  rfl

def operandForm : Option Form := do
  match ← call fragment with
  | some (name, list) => return .call name list
  | none =>
  match ← enclosed '[' fragment with
  | some body => return .array body
  | none =>
  match ← enclosed '\x7b' fragment with
  | some body => return .object body
  | none =>
  match ← chain fragment with
  | some (base, accessors) => return .chain base accessors
  | none =>
  match ← logical fragment with
  | some (first, others) => return .logical first others
  | none =>
  match ← comparison fragment with
  | some (left, relation, right) => return .comparison left relation right
  | none =>
  match Decimal.parseNumber? fragment with
  | some value => return .number value
  | none =>
    return if Scan.isIdentifier fragment then .identifier (String.ofList fragment)
      else .unreadable fragment

theorem operandForm_eq : operandForm fragment = some (Form.ofOperand fragment) := by
  simp only [operandForm, Form.ofOperand, call_eq, enclosed_eq, chain_eq, logical_eq, comparison_eq,
    Option.bind_eq_bind, Option.bind_some]
  cases Expression.call? fragment with
  | some call => rfl
  | none =>
  cases Scan.enclosed? '[' fragment with
  | some body => rfl
  | none =>
  cases Scan.enclosed? '\x7b' fragment with
  | some body => rfl
  | none =>
  cases Expression.chain? fragment with
  | some chain => rfl
  | none =>
  cases Expression.logical? fragment with
  | some operands => rfl
  | none =>
  cases Expression.comparison? fragment with
  | some sides => rfl
  | none => cases Decimal.parseNumber? fragment <;> rfl

def form : Option Form := do
  if fragment = [] then return .empty
  match ← stringLiteral fragment with
  | some content => return .string content
  | none =>
    match ← split '+' fragment with
    | first :: second :: others => return .sum (first :: second :: others)
    | _ => operandForm fragment

theorem form_eq : form fragment = some (Form.ofFragment fragment) := by
  simp only [form, Form.ofFragment, stringLiteral_eq, split_eq, operandForm_eq,
    Option.bind_eq_bind, Option.bind_some]
  by_cases blank : fragment = []
  · rw [if_pos blank, if_pos blank]
    rfl
  · rw [if_neg blank, if_neg blank]
    cases Expression.stringLiteral? fragment with
    | some content => rfl
    | none => rcases Scan.split '+' fragment with _ | ⟨_, _ | ⟨_, _⟩⟩ <;> rfl

end

def arguments (list : Text) : Option (Except Fault (List Text)) := do
  if Text.isAllBlank list then return .ok []
  let fragments := (← split ',' list).map Text.trim
  return if fragments.any List.isEmpty then .error (.malformed (.emptyArgument list))
    else .ok fragments

theorem arguments_eq (list : Text) : arguments list = some (Expression.arguments list) := by
  simp only [arguments, Expression.arguments, split_eq, Option.bind_eq_bind, Option.bind_some]
  split <;> rfl

def items (body : Text) : Option (Except Fault (List Text)) := do
  if Text.isAllBlank body then return .ok []
  let fragments := Expression.dropTrailing ((← split ',' body).map Text.trim)
  return if fragments.any List.isEmpty then .error (.malformed (.emptyElement body))
    else .ok fragments

theorem items_eq (body : Text) : items body = some (Expression.items body) := by
  simp only [items, Expression.items, split_eq, Option.bind_eq_bind, Option.bind_some]
  split <;> rfl

def key (text : Text) : Option (Except Fault String) := do
  match ← stringLiteral text with
  | some content => return .ok (String.ofList content)
  | none =>
    return if Scan.isIdentifier text || (Decimal.parseNumber? text).isSome then
      .ok (String.ofList text)
    else .error (.malformed (.badKey text))

theorem key_eq (text : Text) : key text = some (Expression.key text) := by
  simp only [key, Expression.key, stringLiteral_eq, Option.bind_eq_bind, Option.bind_some]
  cases Expression.stringLiteral? text <;> rfl

def pair (text : Text) : Option (Except Fault (String × Text)) := do
  match ← occurrence [[':']] text with
  | none => return .error (.malformed (.notPair text))
  | some found => return (← key (Text.trim found.before)).map (·, found.after)

theorem pair_eq (text : Text) : pair text = some (Expression.pair text) := by
  simp only [pair, Expression.pair, occurrence_eq, key_eq, Option.bind_eq_bind, Option.bind_some]
  cases Scan.find? [[':']] text <;> rfl

end LineScript.InPlace
