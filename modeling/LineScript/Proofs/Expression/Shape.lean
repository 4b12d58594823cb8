import LineScript.Proofs.Decimal.Literal
import LineScript.Proofs.Expression.Grammar
import LineScript.Proofs.Scan.Identifier
import LineScript.Proofs.Scan.Search

/-! The shape of written expressions. They are properly nested, each kind of text keeps
certain characters inside its groups and string literals, atoms have no blanks at their
ends, and an expression stays written when the blanks around it are trimmed. -/
namespace LineScript.Grammar

open Expression (Connective Relation)
open Scan (Nested Units nested_gap)
open Text (isAllBlank isBlank Tight)

def separators : Text := ['+', ',', ':', '=', '!', '<', '>', ' ']

theorem units_escape (content : Text) : Units (content.flatMap Expression.escapeChar) := by
  induction content with
  | nil => exact .nil
  | cons c rest ih =>
    rw [List.flatMap_cons, Expression.escapeChar]
    split
    next => exact .escape c ih
    next plain =>
      rw [not_or] at plain
      exact .plain plain.1 plain.2 ih

theorem nested_quote {avoid : Text} (content : Text) : Nested avoid (Expression.quote content) :=
  .quote (units_escape content)

namespace Name

theorem exists_cons (name : Name) :
    ∃ c rest, name.text = c :: rest ∧ Scan.isIdentifierStart c = true := by
  obtain ⟨text, valid⟩ := name
  cases text with
  | nil => cases valid
  | cons c rest => exact ⟨c, rest, rfl, (Bool.and_eq_true_iff.1 valid).1⟩

theorem isIdentifierChar (name : Name) : ∀ c ∈ name.text, Scan.isIdentifierChar c = true :=
  Scan.isIdentifierChar_of_isIdentifier name.valid

theorem nested (name : Name) : Nested separators name.text :=
  .of_class (by decide) name.isIdentifierChar

end Name

theorem nested_of_isNumeric {text : Text} (numeric : ∀ c ∈ text, Decimal.isNumeric c = true)
    (unsigned : '+' ∉ text) : Nested separators text := by
  refine .of_class (p := fun c => Decimal.isNumeric c && c != '+') (by decide) fun c member => ?_
  rw [numeric c member, Bool.true_and, bne_iff_ne]
  rintro rfl
  exact unsigned member

namespace Numeral

theorem exists_read (numeral : Numeral) :
    ∃ literal, Decimal.Literal.read? (Text.trim numeral.text) = some literal := by
  have valid := numeral.valid
  rw [Decimal.parseNumber?, Option.isSome_map] at valid
  exact Option.isSome_iff_exists.1 valid

theorem isNumeric (numeral : Numeral) :
    ∀ c ∈ Text.trim numeral.text, Decimal.isNumeric c = true := by
  obtain ⟨literal, read⟩ := numeral.exists_read
  exact Decimal.isNumeric_of_read? read

theorem tight (numeral : Numeral) : Tight (Text.trim numeral.text) := by
  apply Text.tight_trim
  by_contra blank
  obtain ⟨literal, read⟩ := numeral.exists_read
  rw [Text.trim_eq_nil_iff.2 (by simpa using blank)] at read
  cases read

theorem nested_key (numeral : Numeral) : Nested [',', ':'] (Text.trim numeral.text) :=
  .of_class (by decide) numeral.isNumeric

theorem nested (numeral : Numeral) (unsigned : '+' ∉ numeral.text) :
    Nested separators (Text.trim numeral.text) :=
  nested_of_isNumeric numeral.isNumeric fun member =>
    unsigned ((Text.mem_trim_iff (by decide)).1 member)

end Numeral

theorem Key.Written.nested {key : Key} {text : Text} (written : key.Written text) :
    Nested [',', ':'] text := by
  cases written with
  | string content => exact nested_quote content
  | name name => exact name.nested.mono (by decide)
  | number numeral => exact numeral.nested_key

theorem nested_word (connective : Connective) : Nested ['+', ',', ':'] connective.word :=
  .of_class (p := fun c => Scan.isIdentifierChar c || c == ' ') (by decide)
    (List.all_eq_true.1 (by cases connective <;> decide))

theorem nested_symbol {avoid : Text} (relation : Relation)
    (apart : (Scan.marks ++ avoid).all fun c => !decide (c ∈ ['=', '!', '<', '>'])) :
    Nested avoid relation.symbol :=
  .of_class apart (List.all_eq_true.1 (by cases relation <;> decide))

mutual

theorem Expr.Written.nested {expr : Expr} {text : Text} :
    expr.Written text → Nested [',', ':'] text
  | .one term => term.nested.mono (by decide)
  | .plus first others =>
    (first.nested.mono (by decide)).append (.plain (by decide) (by decide) others.nested)

theorem Term.Written.nested {term : Term} {text : Text} :
    term.Written text → Nested ['+', ',', ':'] text
  | .one comparison => comparison.nested
  | .join connective first others =>
    (first.nested.append (nested_word connective)).append others.nested

theorem Comparison.Written.nested {comparison : Comparison} {text : Text} :
    comparison.Written text → Nested ['+', ',', ':'] text
  | .atom before body after =>
    ((nested_gap (by decide) before).append (body.nested.mono (by decide))).append
      (nested_gap (by decide) after)
  | .related relation before left after right =>
    ((((nested_gap (by decide) before).append (left.nested.mono (by decide))).append
      (nested_gap (by decide) after)).append (nested_symbol relation (by decide))).append
        right.nested

theorem Atom.Written.nested {atom : Atom} {text : Text} :
    atom.Written text → Nested separators text
  | .string content => nested_quote content
  | .number numeral unsigned => numeral.nested unsigned
  | .name word => word.nested
  | .call name listed => name.nested.append (.enclose .paren listed.nested)
  | .array listed => .enclose .square listed.nested
  | .object paired => .enclose .curly paired.nested
  | .access base first others => base.nested.append (first.nested.append others.nested)

theorem Expr.Listed.nested {exprs : List Expr} {text : Text} :
    Expr.Listed exprs text → Nested [] text
  | .none blank => nested_gap (by decide) blank
  | .one expr => expr.nested.loosen
  | .more first others => first.nested.loosen.append (.plain (by decide) (by simp) others.nested)

theorem Expr.Keyed.nested {entry : Key × Expr} {text : Text} :
    Expr.Keyed entry text → Nested [','] text
  | .pair before key after expr =>
    (((nested_gap (by decide) before).append (key.nested.mono (by decide))).append
      (nested_gap (by decide) after)).append
        (.plain (by decide) (by decide) (expr.nested.mono (by decide)))

theorem Expr.Paired.nested {entries : List (Key × Expr)} {text : Text} :
    Expr.Paired entries text → Nested [] text
  | .none blank => nested_gap (by decide) blank
  | .one entry => entry.nested.loosen
  | .more first others => first.nested.loosen.append (.plain (by decide) (by simp) others.nested)

theorem Access.Written.nested {access : Access} {text : Text} :
    access.Written text → Nested separators text
  | .property name => .plain (by decide) (by decide) name.nested
  | .index position => .enclose .square position.nested.loosen

theorem Access.Chained.nested {accesses : List Access} {text : Text} :
    Access.Chained accesses text → Nested separators text
  | .nil => .nil
  | .cons first others => first.nested.append others.nested

end

theorem Name.tight (name : Name) : Tight name.text := by
  obtain ⟨c, rest, whole, _⟩ := name.exists_cons
  exact Text.tight_of_solid (by simp [whole])
    fun d member => Scan.not_isBlank_of_isIdentifierChar (name.isIdentifierChar d member)

theorem tight_enclosed {c d : Char} (first : isBlank c = false) (last : isBlank d = false)
    (body : Text) : Tight (c :: body ++ [d]) := by
  have front : Tight [c] := Text.tight_of_solid (by simp) (by simpa using first)
  have back : Tight [d] := Text.tight_of_solid (by simp) (by simpa using last)
  exact front.surround back body

theorem Access.Written.tight {access : Access} {text : Text} (written : access.Written text) :
    Tight text := by
  cases written with
  | property name =>
    have point : Tight ['.'] :=
      Text.tight_of_solid (by simp) (List.forall_mem_singleton.2 (by decide))
    exact point.append name.tight
  | index position => exact tight_enclosed (by decide) (by decide) _

theorem Access.Chained.tight_append {accesses : List Access} {front text : Text}
    (tight : Tight front) : Access.Chained accesses text → Tight (front ++ text)
  | .nil => by simpa using tight
  | .cons first others => by
    rw [← List.append_assoc]
    exact others.tight_append (tight.append first.tight)

theorem Atom.Written.tight {atom : Atom} {text : Text} (written : atom.Written text) :
    Tight text := by
  cases written with
  | string content => exact tight_enclosed (by decide) (by decide) _
  | number numeral _ => exact numeral.tight
  | name word => exact word.tight
  | call name _ => exact name.tight.append (tight_enclosed (by decide) (by decide) _)
  | array _ => exact tight_enclosed (by decide) (by decide) _
  | object _ => exact tight_enclosed (by decide) (by decide) _
  | access base first others => exact base.tight.append (others.tight_append first.tight)

theorem Comparison.Written.solid {comparison : Comparison} {text : Text}
    (written : comparison.Written text) : isAllBlank text = false := by
  cases written with
  | atom _ atom _ => simp [atom.tight.isAllBlank_eq]
  | related _ _ left _ _ => simp [left.tight.isAllBlank_eq]

theorem Term.Written.solid {term : Term} {text : Text} (written : term.Written text) :
    isAllBlank text = false := by
  cases written with
  | one comparison => exact comparison.solid
  | join _ first _ => simp [first.solid]

theorem Expr.Written.solid {expr : Expr} {text : Text} (written : expr.Written text) :
    isAllBlank text = false := by
  cases written with
  | one term => exact term.solid
  | plus first _ => simp [first.solid]

theorem Comparison.Written.trimStart {comparison : Comparison} {text : Text}
    (written : comparison.Written text) : comparison.Written (Text.trimStart text) := by
  cases written with
  | atom before atom after =>
    rw [List.append_assoc, Text.trimStart_blank_append before,
      Text.trimStart_append atom.tight.isAllBlank_eq, atom.tight.trimStart_eq]
    simpa using Comparison.Written.atom Text.isAllBlank_nil atom after
  | related relation before left after right =>
    simp only [List.append_assoc]
    rw [Text.trimStart_blank_append before, Text.trimStart_append left.tight.isAllBlank_eq,
      left.tight.trimStart_eq]
    simpa using Comparison.Written.related relation Text.isAllBlank_nil left after right

theorem Term.Written.trimStart {term : Term} {text : Text} (written : term.Written text) :
    term.Written (Text.trimStart text) := by
  cases written with
  | one comparison => exact .one comparison.trimStart
  | join connective first others =>
    rw [List.append_assoc, Text.trimStart_append first.solid, ← List.append_assoc]
    exact .join connective first.trimStart others

theorem Expr.Written.trimStart {expr : Expr} {text : Text} (written : expr.Written text) :
    expr.Written (Text.trimStart text) := by
  cases written with
  | one term => exact .one term.trimStart
  | plus first others =>
    rw [Text.trimStart_append first.solid]
    exact .plus first.trimStart others

theorem Comparison.Written.trimEnd {comparison : Comparison} {text : Text} :
    comparison.Written text → comparison.Written (Text.trimEnd text)
  | .atom before body after => by
    rw [Text.trimEnd_append_blank _ after, Text.trimEnd_append _ body.tight.isAllBlank_eq,
      body.tight.trimEnd_eq]
    simpa using Comparison.Written.atom before body Text.isAllBlank_nil
  | .related relation before left after right => by
    rw [Text.trimEnd_append _ right.solid]
    exact .related relation before left after right.trimEnd

theorem Term.Written.trimEnd {term : Term} {text : Text} :
    term.Written text → term.Written (Text.trimEnd text)
  | .one comparison => .one comparison.trimEnd
  | .join connective first others => by
    rw [Text.trimEnd_append _ others.solid]
    exact .join connective first others.trimEnd

theorem Expr.Written.trimEnd {expr : Expr} {text : Text} :
    expr.Written text → expr.Written (Text.trimEnd text)
  | .one term => .one term.trimEnd
  | .plus first others => by
    rw [List.append_cons, Text.trimEnd_append _ others.solid, ← List.append_cons]
    exact .plus first others.trimEnd

theorem Expr.Written.trim {expr : Expr} {text : Text} (written : expr.Written text) :
    expr.Written (Text.trim text) :=
  written.trimStart.trimEnd

end LineScript.Grammar
