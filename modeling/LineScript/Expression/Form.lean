import LineScript.Decimal.Literal
import LineScript.Error
import LineScript.Expression.Literal
import LineScript.Scan.Identifier
import LineScript.Scan.TopLevel

/-! The forms of expressions. A fragment is tried against the forms in a fixed
order, and the first that fits decides how it is read; its parts stay text until
they are evaluated. -/
namespace LineScript.Expression

inductive Accessor where
  | property (name : String)
  | index (fragment : Text)
deriving DecidableEq, Repr

inductive Connective where
  | both
  | either
deriving DecidableEq, Repr

/-- Connectives are words, so the blanks around them belong to them. -/
def Connective.word : Connective → Text
  | both => [' ', 'r', 'a', ' ']
  | either => [' ', 'a', 't', 'h', 'a', 'w', 'a', ' ']

def Connective.words : List Text := [both.word, either.word]

def Connective.ofWord (word : Text) : Connective := if word = both.word then both else either

inductive Relation where
  | equal | different | atMost | atLeast | less | greater
deriving DecidableEq, Repr

def Relation.symbol : Relation → Text
  | equal => ['=', '=']
  | different => ['!', '=']
  | atMost => ['<', '=']
  | atLeast => ['>', '=']
  | less => ['<']
  | greater => ['>']

/-- Longer symbols come first, so that none is read as the start of another. -/
def Relation.all : List Relation := [equal, different, atMost, atLeast, less, greater]

def Relation.symbols : List Text := all.map symbol

def Relation.ofSymbol (symbol : Text) : Relation :=
  (all.find? fun relation => relation.symbol == symbol).getD greater

inductive Form where
  | empty
  | string (content : Text)
  | sum (operands : List Text)
  | call (name : String) (arguments : Text)
  | array (body : Text)
  | object (body : Text)
  | chain (base : String) (accessors : List Accessor)
  | logical (first : Text) (others : List (Connective × Text))
  | comparison (left : Text) (relation : Relation) (right : Text)
  | number (value : Float)
  | identifier (name : String)
  | unreadable (fragment : Text)

/-- A call `name(arguments)` that takes up the whole fragment. -/
def call? (fragment : Text) : Option (String × Text) :=
  let (name, tail) := Scan.splitIdentifier fragment
  if name = [] then none
  else (Scan.enclosed? '(' tail).map fun arguments => (String.ofList name, arguments)

def accessor? : Text → Option (Accessor × Text)
  | [] => none
  | c :: rest =>
    if c = '.' then
      let (name, tail) := Scan.splitIdentifier rest
      if name = [] then none else some (.property (String.ofList name), tail)
    else if c = '[' then
      (Scan.group? (c :: rest)).map fun group => (.index group.body, group.rest)
    else none

theorem length_lt_of_accessor? {text tail : Text} {accessor : Accessor}
    (found : accessor? text = some (accessor, tail)) : tail.length < text.length := by
  cases text with
  | nil => simp [accessor?] at found
  | cons c rest =>
    rw [accessor?] at found
    split at found
    · have whole := congrArg List.length (Scan.splitIdentifier_append rest)
      simp only [List.length_append] at whole
      dsimp only at found
      split at found
      · cases found
      · cases found
        simp only [List.length_cons]
        omega
    · split at found
      · simp only [Option.map_eq_some_iff, Prod.mk.injEq] at found
        obtain ⟨group, opened, rfl, rfl⟩ := found
        rw [Scan.eq_of_group? opened]
        simp
        omega
      · cases found

def accessors? (text : Text) : Option (List Accessor) :=
  if text = [] then some []
  else
    match _ : accessor? text with
    | none => none
    | some (accessor, tail) => (accessors? tail).map (accessor :: ·)
termination_by text.length
decreasing_by exact length_lt_of_accessor? ‹_›

/-- A name followed by at least one accessor. -/
def chain? (fragment : Text) : Option (String × List Accessor) :=
  let (base, tail) := Scan.splitIdentifier fragment
  if base = [] ∨ tail = [] then none
  else (accessors? tail).map fun accessors => (String.ofList base, accessors)

theorem length_lt_of_find? {text : Text} {found : Scan.Occurrence}
    (here : Scan.find? Connective.words text = some found) :
    found.after.length < text.length := by
  obtain ⟨member, whole⟩ := Scan.eq_of_find? here
  have solid : found.pattern ≠ [] := by
    intro blank
    rw [blank] at member
    simp [Connective.words, Connective.word] at member
  have positive := List.length_pos_iff.2 solid
  rw [whole]
  simp only [List.length_append]
  omega

/-- The operands after a connective, each with the connective before it. -/
def operandsAfter (connective : Connective) (text : Text) : List (Connective × Text) :=
  match _ : Scan.find? Connective.words text with
  | none => [(connective, text)]
  | some found =>
    (connective, found.before) :: operandsAfter (.ofWord found.pattern) found.after
termination_by text.length
decreasing_by exact length_lt_of_find? ‹_›

def logical? (fragment : Text) : Option (Text × List (Connective × Text)) :=
  (Scan.find? Connective.words fragment).map fun found =>
    (found.before, operandsAfter (.ofWord found.pattern) found.after)

def comparison? (fragment : Text) : Option (Text × Relation × Text) :=
  (Scan.find? Relation.symbols fragment).map fun found =>
    (found.before, .ofSymbol found.pattern, found.after)

/-- The forms of a fragment that is no literal string and no sum. -/
def Form.ofOperand (fragment : Text) : Form :=
  match call? fragment with
  | some (name, list) => .call name list
  | none =>
  match Scan.enclosed? '[' fragment with
  | some body => .array body
  | none =>
  match Scan.enclosed? '\x7b' fragment with
  | some body => .object body
  | none =>
  match chain? fragment with
  | some (base, accessors) => .chain base accessors
  | none =>
  match logical? fragment with
  | some (first, others) => .logical first others
  | none =>
  match comparison? fragment with
  | some (left, relation, right) => .comparison left relation right
  | none =>
  match Decimal.parseNumber? fragment with
  | some value => .number value
  | none => if Scan.isIdentifier fragment then .identifier (String.ofList fragment)
    else .unreadable fragment

def Form.ofFragment (fragment : Text) : Form :=
  if fragment = [] then .empty
  else
    match stringLiteral? fragment with
    | some content => .string content
    | none =>
      match Scan.split '+' fragment with
      | first :: second :: others => .sum (first :: second :: others)
      | _ => .ofOperand fragment

/-- The fragments of an argument list, trimmed. A blank list has none, and an
empty fragment among others is malformed. -/
def arguments (list : Text) : Except Fault (List Text) :=
  if Text.isAllBlank list then .ok []
  else
    let fragments := (Scan.split ',' list).map Text.trim
    if fragments.any List.isEmpty then .error (.malformed (.emptyArgument list))
    else .ok fragments

/-- Drops an empty last item unless it is the only one. -/
def dropTrailing (items : List Text) : List Text :=
  if items.length > 1 ∧ items.getLast? = some [] then items.dropLast else items

/-- The items of a collection, trimmed; one trailing comma is tolerated. -/
def items (body : Text) : Except Fault (List Text) :=
  if Text.isAllBlank body then .ok []
  else
    let fragments := dropTrailing ((Scan.split ',' body).map Text.trim)
    if fragments.any List.isEmpty then .error (.malformed (.emptyElement body))
    else .ok fragments

/-- Keys are string literals, identifiers or numbers; the latter two stand for
their own text. -/
def key (text : Text) : Except Fault String :=
  match stringLiteral? text with
  | some content => .ok (String.ofList content)
  | none =>
    if Scan.isIdentifier text || (Decimal.parseNumber? text).isSome then .ok (String.ofList text)
    else .error (.malformed (.badKey text))

def pair (text : Text) : Except Fault (String × Text) :=
  match Scan.find? [[':']] text with
  | none => .error (.malformed (.notPair text))
  | some found => (key (Text.trim found.before)).map (·, found.after)

end LineScript.Expression
