import LineScript.Expression.Evaluate
import LineScript.Proofs.Text.Trim

/-! Expressions as trees, with the value that each tree stands for and the texts that
write it down. A sum has terms, a term is a chain of comparisons joined by connectives,
and a comparison relates atoms. The meaning of a tree is made from the meanings of its
parts; no text occurs in it. Every tree can be written down. -/
namespace LineScript.Grammar

open Expression (Connective Relation)

structure Name where
  text : Text
  valid : Scan.isIdentifier text = true

def Name.label (name : Name) : String := String.ofList name.text

structure Variable extends Name where
  free : ∀ connective : Connective, connective.word ≠ ' ' :: text ++ [' ']

structure Numeral where
  text : Text
  valid : (Decimal.parseNumber? text).isSome = true

def Numeral.value (numeral : Numeral) : Float :=
  (Decimal.parseNumber? numeral.text).get numeral.valid

inductive Key where
  | string (content : Text)
  | name (name : Name)
  | number (numeral : Numeral)

def Key.label : Key → String
  | .string content => String.ofList content
  | .name word => word.label
  | .number numeral => String.ofList (Text.trim numeral.text)

mutual

inductive Expr where
  | sum (first : Term) (others : List Term)

inductive Term where
  | chain (first : Comparison) (others : List (Connective × Comparison))

inductive Comparison where
  | atom (atom : Atom)
  | related (left : Atom) (relation : Relation) (right : Comparison)

inductive Atom where
  | string (content : Text)
  | number (numeral : Numeral) (unsigned : '+' ∉ numeral.text)
  | name (name : Variable)
  | call (name : Name) (arguments : List Expr)
  | array (items : List Expr)
  | object (entries : List (Key × Expr))
  | access (base : Name) (first : Access) (others : List Access)

inductive Access where
  | property (name : Name)
  | index (position : Expr)

end

section

variable (catalog : Catalog)

mutual

def Expr.meaning : Expr → Action Fault Value
  | .sum first [] => first.meaning
  | .sum first (second :: others) => do
    let value ← first.meaning
    let values ← Term.meanings (second :: others)
    sumOrJoin (value :: values)

def Term.meanings : List Term → Action Fault (List Value)
  | [] => return []
  | term :: rest => do
    let value ← term.meaning
    let values ← Term.meanings rest
    return value :: values

def Term.meaning : Term → Action Fault Value
  | .chain first [] => first.meaning
  | .chain first (second :: others) => do
    let value ← first.meaning
    return .boolean (← Term.joined value.isTruthy (second :: others))

/-- Joins further comparisons to a result from left to right; all are evaluated. -/
def Term.joined (result : Bool) : List (Connective × Comparison) → Action Fault Bool
  | [] => return result
  | (connective, comparison) :: rest => do
    let value ← comparison.meaning
    Term.joined (connective.join result value.isTruthy) rest

def Comparison.meaning : Comparison → Action Fault Value
  | .atom atom => atom.meaning
  | .related left relation right => do
    let leftValue ← left.meaning
    let rightValue ← right.meaning
    return .boolean (← Action.ofExcept (relation.holds leftValue rightValue))

def Atom.meaning : Atom → Action Fault Value
  | .string content => return .text (String.ofList content)
  | .number numeral _ => return .number numeral.value
  | .name word => catalog.lookup word.label
  | .call name arguments =>
    if catalog.isFunction name.label then do catalog.invoke name.label (← Expr.meanings arguments)
    else .fail (.undefinedFunction name.label)
  | .array items => do Action.newArray (← Expr.meanings items)
  | .object entries => do Action.newObject (← Expr.entered [] entries)
  | .access base first others => do
    let value ← catalog.lookup base.label
    let value ← first.applied value
    Access.walked value others

def Expr.meanings : List Expr → Action Fault (List Value)
  | [] => return []
  | expr :: rest => do
    let value ← expr.meaning
    let values ← Expr.meanings rest
    return value :: values

def Expr.entered (table : Table Value) : List (Key × Expr) → Action Fault (Table Value)
  | [] => return table
  | (key, expr) :: rest => do
    let value ← expr.meaning
    Expr.entered (table.insert key.label value) rest

def Access.applied (value : Value) : Access → Action Fault Value
  | .property name => do
    Action.ofExcept (Expression.property (← Action.heap) value name.label)
  | .index position => do
    let index ← position.meaning
    Action.ofExcept (Expression.element (← Action.heap) value index)

def Access.walked (value : Value) : List Access → Action Fault Value
  | [] => return value
  | access :: rest => do
    let value ← access.applied value
    Access.walked value rest

end

end

inductive Key.Written : Key → Text → Prop where
  | string (content : Text) : Written (.string content) (Expression.quote content)
  | name (name : Name) : Written (.name name) name.text
  | number (numeral : Numeral) : Written (.number numeral) (Text.trim numeral.text)

mutual

/-- The texts of an expression. Blanks may stand around every atom, so they may
stand around every operator and just inside every bracket. -/
inductive Expr.Written : Expr → Text → Prop where
  | one {term : Term} {text : Text} : term.Written text → Expr.Written (.sum term []) text
  | plus {first second : Term} {others : List Term} {text rest : Text} :
      first.Written text → Expr.Written (.sum second others) rest →
        Expr.Written (.sum first (second :: others)) (text ++ '+' :: rest)

inductive Term.Written : Term → Text → Prop where
  | one {comparison : Comparison} {text : Text} :
      comparison.Written text → Term.Written (.chain comparison []) text
  | join {first second : Comparison} {others : List (Connective × Comparison)}
      {text rest : Text} (connective : Connective) :
      first.Written text → Term.Written (.chain second others) rest →
        Term.Written (.chain first ((connective, second) :: others))
          (text ++ connective.word ++ rest)

inductive Comparison.Written : Comparison → Text → Prop where
  | atom {atom : Atom} {before text after : Text} :
      Text.isAllBlank before → atom.Written text → Text.isAllBlank after →
        Comparison.Written (.atom atom) (before ++ text ++ after)
  | related {left : Atom} {right : Comparison} {before text after rest : Text}
      (relation : Relation) :
      Text.isAllBlank before → left.Written text → Text.isAllBlank after → right.Written rest →
        Comparison.Written (.related left relation right)
          (before ++ text ++ after ++ relation.symbol ++ rest)

inductive Atom.Written : Atom → Text → Prop where
  | string (content : Text) : Atom.Written (.string content) (Expression.quote content)
  | number (numeral : Numeral) (unsigned : '+' ∉ numeral.text) :
      Atom.Written (.number numeral unsigned) (Text.trim numeral.text)
  | name (name : Variable) : Atom.Written (.name name) name.text
  | call {arguments : List Expr} {body : Text} (name : Name) : Expr.Listed arguments body →
      Atom.Written (.call name arguments) (name.text ++ ('(' :: body ++ [')']))
  | array {items : List Expr} {body : Text} : Expr.Listed items body →
      Atom.Written (.array items) ('[' :: body ++ [']'])
  | object {entries : List (Key × Expr)} {body : Text} : Expr.Paired entries body →
      Atom.Written (.object entries) ('\x7b' :: body ++ ['\x7d'])
  | access {first : Access} {others : List Access} {text rest : Text} (base : Name) :
      first.Written text → Access.Chained others rest →
        Atom.Written (.access base first others) (base.text ++ (text ++ rest))

inductive Expr.Listed : List Expr → Text → Prop where
  | none {gap : Text} : Text.isAllBlank gap → Expr.Listed [] gap
  | one {expr : Expr} {text : Text} : expr.Written text → Expr.Listed [expr] text
  | more {first second : Expr} {others : List Expr} {text rest : Text} :
      first.Written text → Expr.Listed (second :: others) rest →
        Expr.Listed (first :: second :: others) (text ++ ',' :: rest)

inductive Expr.Keyed : Key × Expr → Text → Prop where
  | pair {key : Key} {expr : Expr} {before label after text : Text} :
      Text.isAllBlank before → key.Written label → Text.isAllBlank after → expr.Written text →
        Expr.Keyed (key, expr) (before ++ label ++ after ++ ':' :: text)

inductive Expr.Paired : List (Key × Expr) → Text → Prop where
  | none {gap : Text} : Text.isAllBlank gap → Expr.Paired [] gap
  | one {entry : Key × Expr} {text : Text} : Expr.Keyed entry text → Expr.Paired [entry] text
  | more {first second : Key × Expr} {others : List (Key × Expr)} {text rest : Text} :
      Expr.Keyed first text → Expr.Paired (second :: others) rest →
        Expr.Paired (first :: second :: others) (text ++ ',' :: rest)

inductive Access.Written : Access → Text → Prop where
  | property (name : Name) : Access.Written (.property name) ('.' :: name.text)
  | index {position : Expr} {body : Text} : position.Written body →
      Access.Written (.index position) ('[' :: body ++ [']'])

inductive Access.Chained : List Access → Text → Prop where
  | nil : Access.Chained [] []
  | cons {access : Access} {others : List Access} {text rest : Text} :
      access.Written text → Access.Chained others rest →
        Access.Chained (access :: others) (text ++ rest)

end

theorem Key.exists_written (key : Key) : ∃ text, key.Written text := by
  cases key with
  | string content => exact ⟨_, .string content⟩
  | name name => exact ⟨_, .name name⟩
  | number numeral => exact ⟨_, .number numeral⟩

mutual

/-- Every expression can be written. -/
theorem Expr.exists_written : ∀ expr : Expr, ∃ text, expr.Written text
  | .sum first others => by
    obtain ⟨text, written⟩ := Term.exists_written first
    exact Term.exists_sum others written

theorem Term.exists_sum {first : Term} {text : Text} :
    ∀ others : List Term, first.Written text → ∃ whole, Expr.Written (.sum first others) whole
  | [], written => ⟨text, .one written⟩
  | second :: others, written => by
    obtain ⟨next, writtenNext⟩ := Term.exists_written second
    obtain ⟨rest, writtenRest⟩ := Term.exists_sum others writtenNext
    exact ⟨_, .plus written writtenRest⟩

theorem Term.exists_written : ∀ term : Term, ∃ text, term.Written text
  | .chain first others => by
    obtain ⟨text, written⟩ := Comparison.exists_written first
    exact Comparison.exists_chain others written

theorem Comparison.exists_chain {first : Comparison} {text : Text} :
    ∀ others : List (Connective × Comparison), first.Written text →
      ∃ whole, Term.Written (.chain first others) whole
  | [], written => ⟨text, .one written⟩
  | (connective, second) :: others, written => by
    obtain ⟨next, writtenNext⟩ := Comparison.exists_written second
    obtain ⟨rest, writtenRest⟩ := Comparison.exists_chain others writtenNext
    exact ⟨_, .join connective written writtenRest⟩

theorem Comparison.exists_written : ∀ comparison : Comparison, ∃ text, comparison.Written text
  | .atom atom => by
    obtain ⟨text, written⟩ := Atom.exists_written atom
    exact ⟨_, .atom Text.isAllBlank_nil written Text.isAllBlank_nil⟩
  | .related left relation right => by
    obtain ⟨text, written⟩ := Atom.exists_written left
    obtain ⟨rest, writtenRest⟩ := Comparison.exists_written right
    exact ⟨_, .related relation Text.isAllBlank_nil written Text.isAllBlank_nil writtenRest⟩

theorem Atom.exists_written : ∀ atom : Atom, ∃ text, atom.Written text
  | .string content => ⟨_, .string content⟩
  | .number numeral unsigned => ⟨_, .number numeral unsigned⟩
  | .name name => ⟨_, .name name⟩
  | .call name arguments => by
    obtain ⟨body, listed⟩ := Expr.exists_listed arguments
    exact ⟨_, .call name listed⟩
  | .array items => by
    obtain ⟨body, listed⟩ := Expr.exists_listed items
    exact ⟨_, .array listed⟩
  | .object entries => by
    obtain ⟨body, paired⟩ := Expr.exists_paired entries
    exact ⟨_, .object paired⟩
  | .access base first others => by
    obtain ⟨text, written⟩ := Access.exists_written first
    obtain ⟨rest, chained⟩ := Access.exists_chained others
    exact ⟨_, .access base written chained⟩

theorem Expr.exists_listed : ∀ exprs : List Expr, ∃ text, Expr.Listed exprs text
  | [] => ⟨[], .none rfl⟩
  | first :: others => by
    obtain ⟨text, written⟩ := Expr.exists_written first
    obtain ⟨rest, listed⟩ := Expr.exists_listed others
    cases others with
    | nil => exact ⟨_, .one written⟩
    | cons second others => exact ⟨_, .more written listed⟩

theorem Expr.exists_paired : ∀ entries : List (Key × Expr), ∃ text, Expr.Paired entries text
  | [] => ⟨[], .none rfl⟩
  | (key, expr) :: others => by
    obtain ⟨label, writtenKey⟩ := key.exists_written
    obtain ⟨text, written⟩ := Expr.exists_written expr
    obtain ⟨rest, paired⟩ := Expr.exists_paired others
    have keyed := Expr.Keyed.pair Text.isAllBlank_nil writtenKey Text.isAllBlank_nil written
    cases others with
    | nil => exact ⟨_, .one keyed⟩
    | cons second others => exact ⟨_, .more keyed paired⟩

theorem Access.exists_written : ∀ access : Access, ∃ text, access.Written text
  | .property name => ⟨_, .property name⟩
  | .index position => by
    obtain ⟨body, written⟩ := Expr.exists_written position
    exact ⟨_, .index written⟩

theorem Access.exists_chained : ∀ accesses : List Access, ∃ text, Access.Chained accesses text
  | [] => ⟨[], .nil⟩
  | first :: others => by
    obtain ⟨text, written⟩ := Access.exists_written first
    obtain ⟨rest, chained⟩ := Access.exists_chained others
    exact ⟨_, .cons written chained⟩

end

end LineScript.Grammar
