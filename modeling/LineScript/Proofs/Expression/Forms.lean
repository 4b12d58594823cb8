import LineScript.Proofs.Expression.Parts
import LineScript.Proofs.Expression.Reading

/-! The forms of written expressions. A bare text has the form of its tree, and the parts
of the form are written as the parts of the tree. -/
namespace LineScript.Grammar

open Expression (Connective Relation Form)
open Scan (Nested Apart nested_gap)
open Text (isAllBlank isBlank Tight)

def Headed (text : Text) : Prop :=
  ∃ (atom : Atom) (front rest : Text), atom.Written front ∧ Loose rest ∧ text = front ++ rest

theorem Headed.compound {text : Text} (headed : Headed text) : Compound text := by
  obtain ⟨atom, front, rest, written, loose, rfl⟩ := headed
  exact written.compound loose

theorem Headed.append {text : Text} (headed : Headed text) (more : Text) :
    Headed (text ++ more) := by
  obtain ⟨atom, front, rest, written, loose, rfl⟩ := headed
  exact ⟨atom, front, rest ++ more, written, loose.append more, List.append_assoc ..⟩

theorem Atom.Written.headed {atom : Atom} {before text after more : Text}
    (blankBefore : isAllBlank before) (written : atom.Written text) (blankAfter : isAllBlank after)
    (start : Text.trimStart (before ++ text ++ after) = before ++ text ++ after)
    (loose : Loose more) : Headed (before ++ text ++ after ++ more) := by
  rw [← start, List.append_assoc before, Text.trimStart_blank_append blankBefore,
    Text.trimStart_append written.tight.isAllBlank_eq, written.tight.trimStart_eq]
  exact ⟨atom, text, after ++ more, written, loose.gap blankAfter, List.append_assoc ..⟩

theorem trimStart_left {text more : Text} (solid : isAllBlank text = false)
    (start : Text.trimStart (text ++ more) = text ++ more) : Text.trimStart text = text := by
  rw [Text.trimStart_append solid] at start
  exact List.append_cancel_right start

theorem Atom.Written.headed_symbol {atom : Atom} {before text after rest : Text}
    (relation : Relation) (blankBefore : isAllBlank before) (written : atom.Written text)
    (blankAfter : isAllBlank after)
    (start : Text.trimStart (before ++ text ++ after ++ relation.symbol ++ rest) =
      before ++ text ++ after ++ relation.symbol ++ rest) :
    Headed (before ++ text ++ after ++ relation.symbol ++ rest) := by
  have solid : isAllBlank (before ++ text ++ after) = false := by
    simp [written.tight.isAllBlank_eq]
  rw [List.append_assoc (before ++ text ++ after)] at start ⊢
  exact written.headed blankBefore blankAfter (trimStart_left solid start)
    ((Loose.symbol relation).append rest)

theorem Comparison.Written.headed {comparison : Comparison} {text more : Text}
    (written : comparison.Written text) (start : Text.trimStart text = text) (loose : Loose more) :
    Headed (text ++ more) := by
  cases written with
  | atom before atom after => exact atom.headed before after start loose
  | related relation before left after _ =>
    exact (left.headed_symbol relation before after start).append more

theorem Comparison.Written.headed_word {comparison : Comparison} {text rest : Text}
    (connective : Connective) (written : comparison.Written text)
    (start : Text.trimStart (text ++ connective.word ++ rest) = text ++ connective.word ++ rest) :
    Headed (text ++ connective.word ++ rest) := by
  rw [List.append_assoc] at start ⊢
  exact written.headed (trimStart_left written.solid start) ((Loose.word connective).append rest)

theorem Term.Written.headed {term : Term} {text more : Text} (written : term.Written text)
    (start : Text.trimStart text = text) (loose : Loose more) : Headed (text ++ more) := by
  cases written with
  | one comparison => exact comparison.headed start loose
  | join connective first _ => exact (first.headed_word connective start).append more

theorem Term.Written.headed_plus {term : Term} {text rest : Text} (written : term.Written text)
    (start : Text.trimStart (text ++ '+' :: rest) = text ++ '+' :: rest) :
    Headed (text ++ '+' :: rest) :=
  written.headed (trimStart_left written.solid start) ⟨'+', rest, rfl, by decide, by decide⟩

structure Part {α : Type} (Written : α → Text → Prop) (size : Nat) (tree : α) (text : Text) :
    Prop where
  written : Written tree text
  short : text.length < size

theorem Part.mono {α : Type} {Written : α → Text → Prop} {size more : Nat} {tree : α} {text : Text}
    (part : Part Written size tree text) (le : size ≤ more) : Part Written more tree text :=
  ⟨part.written, Nat.lt_of_lt_of_le part.short le⟩

section

variable {α : Type} {Written : α → Text → Prop} {tree : α} {text : Text} {delimiter : Char}
  (nested : Nested [delimiter] text) (written : Written tree text)

include nested written

theorem Part.split_one :
    List.Forall₂ (Part Written (text.length + 1)) [tree] (Scan.split delimiter text) := by
  rw [Scan.split_nested nested]
  exact .cons ⟨written, Nat.lt_succ_self _⟩ .nil

theorem Part.split_cons (unmarked : delimiter ∉ Scan.marks) {trees : List α} {rest : Text}
    (parts : List.Forall₂ (Part Written (rest.length + 1)) trees (Scan.split delimiter rest)) :
    List.Forall₂ (Part Written ((text ++ delimiter :: rest).length + 1)) (tree :: trees)
      (Scan.split delimiter (text ++ delimiter :: rest)) := by
  rw [Scan.split_delimiter unmarked nested, List.length_append, List.length_cons]
  exact .cons ⟨written, by omega⟩ (parts.imp fun _ _ part => part.mono (by omega))

end

theorem Expr.Written.split {first : Term} {others : List Term} {text : Text} :
    Expr.Written (.sum first others) text →
      List.Forall₂ (Part Term.Written (text.length + 1)) (first :: others) (Scan.split '+' text)
  | .one term => Part.split_one (term.nested.mono (by decide)) term
  | .plus term rest => Part.split_cons (term.nested.mono (by decide)) term (by decide) rest.split

theorem ofFragment_sum {first second : Term} {others : List Term} {text rest : Text}
    (term : first.Written text) (terms : Expr.Written (.sum second others) rest)
    (start : Text.trimStart (text ++ '+' :: rest) = text ++ '+' :: rest) :
    ∃ parts, Form.ofFragment (text ++ '+' :: rest) = .sum parts ∧
      List.Forall₂ (Part Term.Written (text ++ '+' :: rest).length)
        (first :: second :: others) parts := by
  have compound := (term.headed_plus start).compound
  have whole : Scan.split '+' (text ++ '+' :: rest) = text :: Scan.split '+' rest :=
    Scan.split_delimiter (by decide) (term.nested.mono (by decide)) rest
  have later := terms.split
  refine ⟨text :: Scan.split '+' rest, ?_, .cons ⟨term, by simp⟩ ?_⟩
  · generalize Scan.split '+' rest = parts at whole later
    obtain ⟨_, _⟩ := later
    rw [Form.ofFragment, if_neg (by simp), compound.string, whole]
  · exact later.imp fun _ _ part => part.mono (by simp)

theorem ofFragment_term {term : Term} {text : Text} (written : term.Written text)
    (literal : Expression.stringLiteral? text = none) :
    Form.ofFragment text = .ofOperand text := by
  have nonempty : text ≠ [] := by
    rintro rfl
    cases written.solid
  rw [Form.ofFragment, if_neg nonempty, literal,
    Scan.split_nested (written.nested.mono (by decide))]

theorem Compound.ofOperand_logical {text first : Text} {others : List (Connective × Text)}
    (compound : Compound text) (found : Expression.logical? text = some (first, others)) :
    Form.ofOperand text = .logical first others := by
  simp only [Form.ofOperand, compound.call, compound.array, compound.object, compound.chain, found]

theorem ofFragment_logical {first second : Comparison} {others : List (Connective × Comparison)}
    {text rest : Text} {connective : Connective} (comparison : first.Written text)
    (term : Term.Written (.chain second others) rest)
    (start : Text.trimStart (text ++ connective.word ++ rest) = text ++ connective.word ++ rest) :
    ∃ parts, Form.ofFragment (text ++ connective.word ++ rest) = .logical text parts ∧
      List.Forall₂ (Joined (text ++ connective.word ++ rest).length)
        ((connective, second) :: others) parts := by
  have compound := (comparison.headed_word connective start).compound
  have found := comparison.find?_words_join connective rest
  have solid : 0 < connective.word.length := by cases connective <;> simp [Connective.word]
  refine ⟨_, ?_, (term.operandsAfter connective).imp fun _ _ joined => joined.mono ?_⟩
  · rw [ofFragment_term (.join connective comparison term) compound.string]
    refine compound.ofOperand_logical ?_
    rw [Expression.logical?, found, Option.map_some, ofWord_word]
  · simp
    omega

def relationStarts : Text := ['=', '!', '<', '>']

theorem matchFirst?_symbols_of_head {c : Char} (other : c ∉ relationStarts) (rest : Text) :
    Scan.matchFirst? Relation.symbols (c :: rest) = none := by
  simp only [relationStarts, List.mem_cons, List.not_mem_nil, or_false, not_or] at other
  obtain ⟨equal, different, less, greater⟩ := other
  simp [Scan.matchFirst?, Relation.symbols, Relation.all, Relation.symbol, Text.dropStart?,
    Ne.symm equal, Ne.symm different, Ne.symm less, Ne.symm greater]

theorem find?_symbols_nested {text : Text} (nested : Nested relationStarts text) (rest : Text) :
    Scan.find? Relation.symbols (text ++ rest) =
      (Scan.find? Relation.symbols rest).map (Scan.Occurrence.prepend text) :=
  Scan.find?_nested (fun _ _ other => matchFirst?_symbols_of_head other _) nested rest

theorem nested_relationStarts {atom : Atom} {before text after : Text}
    (blankBefore : isAllBlank before) (written : atom.Written text)
    (blankAfter : isAllBlank after) : Nested relationStarts (before ++ text ++ after) :=
  ((nested_gap (by decide) blankBefore).append (written.nested.mono (by decide))).append
    (nested_gap (by decide) blankAfter)

theorem Comparison.Written.exists_cons {comparison : Comparison} {text : Text}
    (written : comparison.Written text) : ∃ c rest, text = c :: rest ∧ c ≠ '=' := by
  have apart : ∀ {c : Char} {rest : Text}, Nested relationStarts (c :: rest) → c ≠ '=' := by
    rintro c rest nested rfl
    have member := nested.head_not_mem (by decide)
    simp [relationStarts] at member
  cases written with
  | @atom _ _ body _ before atom after =>
    have nested := nested_relationStarts before atom after
    obtain ⟨c, rest, whole⟩ := List.exists_cons_of_ne_nil (l := _ ++ body ++ _)
      (by simp [atom.tight.ne_nil])
    rw [whole] at nested ⊢
    exact ⟨c, rest, rfl, apart nested⟩
  | @related _ _ _ body _ _ relation before left after right =>
    have nested := nested_relationStarts before left after
    obtain ⟨c, rest, whole⟩ := List.exists_cons_of_ne_nil (l := _ ++ body ++ _)
      (by simp [left.tight.ne_nil])
    rw [whole] at nested ⊢
    exact ⟨c, _, rfl, apart nested⟩

theorem matchFirst?_symbol (relation : Relation) {c : Char} (other : c ≠ '=') (rest : Text) :
    Scan.matchFirst? Relation.symbols (relation.symbol ++ c :: rest) =
      some (relation.symbol, c :: rest) := by
  cases relation <;>
    simp [Scan.matchFirst?, Relation.symbols, Relation.all, Relation.symbol, Text.dropStart?,
      Ne.symm other]

theorem ofSymbol_symbol (relation : Relation) : Relation.ofSymbol relation.symbol = relation := by
  cases relation <;> rfl

theorem comparison?_eq_some {left : Atom} {right : Comparison} {before text after rest : Text}
    (relation : Relation) (blankBefore : isAllBlank before) (first : left.Written text)
    (blankAfter : isAllBlank after) (second : right.Written rest) :
    Expression.comparison? (before ++ text ++ after ++ relation.symbol ++ rest) =
      some (before ++ text ++ after, relation, rest) := by
  have found : Scan.find? Relation.symbols (relation.symbol ++ rest) =
      some ⟨[], relation.symbol, rest⟩ := by
    obtain ⟨c, more, rfl, other⟩ := second.exists_cons
    have here := matchFirst?_symbol relation other more
    cases relation <;> exact Scan.find?_here (by decide) here
  rw [Expression.comparison?, List.append_assoc (before ++ text ++ after),
    find?_symbols_nested (nested_relationStarts blankBefore first blankAfter), found]
  simp [Scan.Occurrence.prepend, ofSymbol_symbol]

theorem Compound.ofOperand_comparison {text left right : Text} {relation : Relation}
    (compound : Compound text) (single : Expression.logical? text = none)
    (found : Expression.comparison? text = some (left, relation, right)) :
    Form.ofOperand text = .comparison left relation right := by
  simp only [Form.ofOperand, compound.call, compound.array, compound.object, compound.chain, single,
    found]

theorem Comparison.Written.logical? {comparison : Comparison} {text : Text}
    (written : comparison.Written text) : Expression.logical? text = none := by
  rw [Expression.logical?, written.find?_words_eq_none, Option.map_none]

theorem ofFragment_comparison {left : Atom} {right : Comparison} {before text after rest : Text}
    {relation : Relation} (blankBefore : isAllBlank before) (first : left.Written text)
    (blankAfter : isAllBlank after) (second : right.Written rest)
    (start : Text.trimStart (before ++ text ++ after ++ relation.symbol ++ rest) =
      before ++ text ++ after ++ relation.symbol ++ rest) :
    Form.ofFragment (before ++ text ++ after ++ relation.symbol ++ rest) =
      .comparison (before ++ text ++ after) relation rest := by
  have compound := (first.headed_symbol relation blankBefore blankAfter start).compound
  have written := Comparison.Written.related relation blankBefore first blankAfter second
  rw [ofFragment_term (.one written) compound.string]
  exact compound.ofOperand_comparison written.logical?
    (comparison?_eq_some relation blankBefore first blankAfter second)

theorem Atom.Written.comparison? {atom : Atom} {text : Text} (written : atom.Written text) :
    Expression.comparison? text = none := by
  have found := find?_symbols_nested (written.nested.mono (by decide)) []
  rw [List.append_nil] at found
  rw [Expression.comparison?, found]
  rfl

theorem Atom.Written.comparison {atom : Atom} {text : Text} (written : atom.Written text) :
    Comparison.Written (.atom atom) text := by
  simpa using Comparison.Written.atom Text.isAllBlank_nil written Text.isAllBlank_nil

theorem ofFragment_atom {atom : Atom} {text : Text} (written : atom.Written text)
    (literal : Expression.stringLiteral? text = none) :
    Form.ofFragment text = .ofOperand text :=
  ofFragment_term (.one written.comparison) literal

theorem unescape_escape (content : Text) :
    Expression.unescape (content.flatMap Expression.escapeChar) = content := by
  induction content with
  | nil => rfl
  | cons c rest ih =>
    rw [List.flatMap_cons, Expression.escapeChar]
    split
    next special => simp [Expression.unescape, special, ih]
    next plain =>
      rw [not_or] at plain
      rw [List.singleton_append,
        Expression.unescape.eq_4 _ _ (by simp [plain]) (by simp [plain]), ih]

theorem stringLiteral?_quote (content : Text) :
    Expression.stringLiteral? (Expression.quote content) = some content := by
  have found := Scan.group?_quoted (units_escape content) []
  rw [List.append_nil] at found
  rw [Expression.stringLiteral?, Expression.quote, Scan.enclosed?_eq_some found rfl rfl,
    Option.map_some, unescape_escape]

theorem ofFragment_string (content : Text) :
    Form.ofFragment (Expression.quote content) = .string content := by
  rw [Form.ofFragment, if_neg (by simp [Expression.quote]), stringLiteral?_quote]

theorem Numeral.parseNumber?_trim (numeral : Numeral) :
    Decimal.parseNumber? (Text.trim numeral.text) = some numeral.value := by
  rw [Numeral.value, Option.some_get, Decimal.parseNumber?, numeral.tight.trim_eq,
    Decimal.parseNumber?]

/-- A text of numeric characters without a plus sign comes to the test for a number: it is read
as no other form before it, and not as a name behind it. -/
theorem ofFragment_numeric {c : Char} {rest : Text}
    (numeric : ∀ d ∈ c :: rest, Decimal.isNumeric d = true) (unsigned : '+' ∉ c :: rest)
    (other : Scan.isIdentifierStart c = false) :
    Form.ofFragment (c :: rest) =
      ((Decimal.parseNumber? (c :: rest)).map Form.number).getD (.unreadable (c :: rest)) := by
  have nested := nested_of_isNumeric numeric unsigned
  have compound : Compound (c :: rest) :=
    .of_head other (Text.not_mem_of_all (by decide) (numeric c (by simp))) rest
  have word := find?_words_nested (nested.mono (by decide)) []
  have symbol := find?_symbols_nested (nested.mono (by decide)) []
  rw [List.append_nil] at word symbol
  have single : Expression.logical? (c :: rest) = none := by rw [Expression.logical?, word]; rfl
  have alone : Expression.comparison? (c :: rest) = none := by
    rw [Expression.comparison?, symbol]
    rfl
  have nameless : Scan.isIdentifier (c :: rest) = false := by simp [Scan.isIdentifier, other]
  rw [Form.ofFragment, if_neg (by simp), compound.string,
    Scan.split_nested (nested.mono (by decide))]
  simp only [Form.ofOperand, compound.call, compound.array, compound.object, compound.chain,
    single, alone, nameless]
  cases Decimal.parseNumber? (c :: rest) <;> rfl

theorem ofFragment_number (numeral : Numeral) (unsigned : '+' ∉ numeral.text) :
    Form.ofFragment (Text.trim numeral.text) = .number numeral.value := by
  have numeric := numeral.isNumeric
  have value := numeral.parseNumber?_trim
  have bare : '+' ∉ Text.trim numeral.text := fun member =>
    unsigned ((Text.mem_trim_iff (by decide)).1 member)
  obtain ⟨c, rest, whole, other, _⟩ := numeral.exists_cons
  rw [whole] at numeric value bare ⊢
  rw [ofFragment_numeric numeric bare other, value]
  rfl

theorem Name.parseNumber? (name : Name) : Decimal.parseNumber? name.text = none := by
  rw [Decimal.parseNumber?, name.tight.trim_eq, Option.map_eq_none_iff,
    Option.eq_none_iff_forall_ne_some]
  intro literal read
  obtain ⟨c, rest, whole, start⟩ := name.exists_cons
  rw [whole] at read
  have other := Decimal.not_isIdentifierStart_of_read? read
  rw [start] at other
  cases other

theorem Name.compound (name : Name) : Compound name.text := by
  have split := name.splitIdentifier_append Scan.apart_nil
  rw [List.append_nil] at split
  have whole : Expression.chain? (name.text ++ []) = none := by
    simp [Expression.chain?, split]
  simpa using Compound.of_name name Scan.apart_nil (Scan.enclosed?_nil _) whole

theorem ofFragment_name (name : Variable) :
    Form.ofFragment name.text = .identifier name.label := by
  have written := Atom.Written.name name
  have compound := name.compound
  rw [ofFragment_atom written compound.string]
  simp only [Form.ofOperand, compound.call, compound.array, compound.object, compound.chain,
    written.comparison.logical?, written.comparison?, name.parseNumber?, name.valid, if_true]
  rfl

theorem Name.stringLiteral? (name : Name) (rest : Text) :
    Expression.stringLiteral? (name.text ++ rest) = none :=
  stringLiteral?_eq_none (name.enclosed?_append (by decide) rest)

theorem ofFragment_of_call? {text list : Text} {name : String}
    (found : Expression.call? text = some (name, list)) :
    Form.ofFragment text = .call name list := by
  have operand : Form.ofOperand text = .call name list := by rw [Form.ofOperand, found]
  obtain ⟨group, valid, rfl, enclosed⟩ := Expression.call?_eq_some_iff.1 found
  let command : Name := ⟨name.toList, valid⟩
  have literal : Expression.stringLiteral? (command.text ++ group) = none :=
    command.stringLiteral? group
  have nested : Nested ['+'] command.text :=
    .of_class (by decide) (Scan.isIdentifierChar_of_isIdentifier valid)
  have single : Scan.split '+' (command.text ++ group) = [command.text ++ group] := by
    rw [Scan.split, Scan.splitFrom_nested nested, Scan.splitFrom_of_enclosed? enclosed]
    rfl
  have solid : command.text ++ group ≠ [] := by simp [command.text_ne_nil]
  rw [Form.ofFragment, if_neg solid, literal, single]
  exact operand

theorem enclosed?_bracket (bracket : Scan.Bracket) {body : Text} (nested : Nested [] body) :
    Scan.enclosed? bracket.opener (bracket.opener :: body ++ [bracket.closer]) = some body := by
  have found := Scan.group?_bracket bracket nested []
  rw [List.append_nil] at found
  exact Scan.enclosed?_eq_some found rfl rfl

theorem ofFragment_call {arguments : List Expr} {body : Text} (name : Name)
    (listed : Expr.Listed arguments body) :
    Form.ofFragment (name.text ++ ('(' :: body ++ [')'])) = .call name.label body := by
  have apart : Apart ('(' :: body ++ [')']) := Scan.apart_cons.2 (by decide)
  have found : Scan.enclosed? '(' ('(' :: body ++ [')']) = some body :=
    enclosed?_bracket .paren listed.nested
  rw [ofFragment_atom (.call name listed) (name.stringLiteral? _)]
  simp only [Form.ofOperand, Expression.call?, name.splitIdentifier_append apart, found,
    name.text_ne_nil, if_false, Option.map_some]
  rfl

theorem ofFragment_array {items : List Expr} {body : Text} (listed : Expr.Listed items body) :
    Form.ofFragment ('[' :: body ++ [']']) = .array body := by
  have call : Expression.call? ('[' :: body ++ [']']) = none :=
    call?_of_no_identifier (Scan.splitIdentifier_of_not_start (by decide) _)
  have found : Scan.enclosed? '[' ('[' :: body ++ [']']) = some body :=
    enclosed?_bracket .square listed.nested
  rw [ofFragment_atom (.array listed)
    (stringLiteral?_eq_none (Scan.enclosed?_eq_none_of_head (by decide) _))]
  simp only [Form.ofOperand, call, found]

theorem ofFragment_object {entries : List (Key × Expr)} {body : Text}
    (paired : Expr.Paired entries body) :
    Form.ofFragment ('\x7b' :: body ++ ['\x7d']) = .object body := by
  have call : Expression.call? ('\x7b' :: body ++ ['\x7d']) = none :=
    call?_of_no_identifier (Scan.splitIdentifier_of_not_start (by decide) _)
  have array : Scan.enclosed? '[' ('\x7b' :: body ++ ['\x7d']) = none :=
    Scan.enclosed?_eq_none_of_head (by decide) _
  have found : Scan.enclosed? '\x7b' ('\x7b' :: body ++ ['\x7d']) = some body :=
    enclosed?_bracket .curly paired.nested
  rw [ofFragment_atom (.object paired)
    (stringLiteral?_eq_none (Scan.enclosed?_eq_none_of_head (by decide) _))]
  simp only [Form.ofOperand, call, array, found]

theorem ofFragment_access {first : Access} {others : List Access} {text rest : Text} (base : Name)
    (access : first.Written text) (chained : Access.Chained others rest) :
    ∃ accessors, Form.ofFragment (base.text ++ (text ++ rest)) = .chain base.label accessors ∧
      List.Forall₂ (Access.ReadAs (text ++ rest).length) (first :: others) accessors := by
  obtain ⟨accessors, found, reads⟩ := (Access.Chained.cons access chained).accessors? Scan.apart_nil
  have split := base.splitIdentifier_append (access.apart rest)
  have closed : Scan.enclosed? '(' (text ++ rest) = none := by
    cases access <;> exact Scan.enclosed?_eq_none_of_head (by decide) _
  have call := call?_of_splitIdentifier split closed
  have array : Scan.enclosed? '[' (base.text ++ (text ++ rest)) = none :=
    base.enclosed?_append (by decide) _
  have object : Scan.enclosed? '\x7b' (base.text ++ (text ++ rest)) = none :=
    base.enclosed?_append (by decide) _
  have chain : Expression.chain? (base.text ++ (text ++ rest)) = some (base.label, accessors) := by
    rw [List.append_nil] at found
    simp [Expression.chain?, split, base.text_ne_nil, access.tight.ne_nil, found,
      Expression.accessors?, Name.label]
  refine ⟨accessors, ?_, reads⟩
  rw [ofFragment_atom (.access base access chained) (base.stringLiteral? _)]
  simp only [Form.ofOperand, call, array, object, chain]

theorem Expr.Listed.split {first : Expr} {others : List Expr} {text : Text} :
    Expr.Listed (first :: others) text →
      List.Forall₂ (Part Expr.Written (text.length + 1)) (first :: others) (Scan.split ',' text)
  | .one expr => Part.split_one (expr.nested.mono (by decide)) expr
  | .more expr rest => Part.split_cons (expr.nested.mono (by decide)) expr (by decide) rest.split

theorem Expr.Paired.split {first : Key × Expr} {others : List (Key × Expr)} {text : Text} :
    Expr.Paired (first :: others) text →
      List.Forall₂ (Part Expr.Keyed (text.length + 1)) (first :: others) (Scan.split ',' text)
  | .one entry => Part.split_one entry.nested entry
  | .more entry rest => Part.split_cons entry.nested entry (by decide) rest.split

section

variable {α : Type} {Written : α → Text → Prop} {size : Nat} {trees : List α} {texts : List Text}

theorem Part.map_trim (stays : ∀ {tree text}, Written tree text → Written tree (Text.trim text))
    (parts : List.Forall₂ (Part Written size) trees texts) :
    List.Forall₂ (Part Written size) trees (texts.map Text.trim) := by
  rw [List.forall₂_map_right_iff]
  exact parts.imp fun _ text part =>
    ⟨stays part.written, Nat.lt_of_le_of_lt (Text.length_trim_le text) part.short⟩

theorem Part.solid (solid : ∀ {tree text}, Written tree text → isAllBlank text = false)
    (parts : List.Forall₂ (Part Written size) trees texts) :
    ∀ text ∈ texts, isAllBlank text = false := by
  induction parts with
  | nil => simp
  | cons part _ ih => simpa [solid part.written] using ih

end

theorem any_isEmpty_map_trim {texts : List Text} (solid : ∀ text ∈ texts, isAllBlank text = false) :
    (texts.map Text.trim).any List.isEmpty = false := by
  rw [List.any_eq_false]
  intro text member
  obtain ⟨part, among, rfl⟩ := List.mem_map.1 member
  simp [Text.trim_eq_nil_iff, solid part among]

theorem dropTrailing_of_solid {texts : List Text} (solid : texts.any List.isEmpty = false) :
    Expression.dropTrailing texts = texts := by
  rw [Expression.dropTrailing, if_neg]
  rintro ⟨_, last⟩
  have member := List.mem_of_getLast? last
  exact List.any_eq_false.1 solid _ member rfl

theorem arguments_of_blank {text : Text} (blank : isAllBlank text = true) :
    Expression.arguments text = .ok [] := by
  rw [Expression.arguments, if_pos blank]

theorem items_of_blank {text : Text} (blank : isAllBlank text = true) :
    Expression.items text = .ok [] := by
  rw [Expression.items, if_pos blank]

section

variable {text : Text} (solid : isAllBlank text = false)
  (parts : ∀ part ∈ Scan.split ',' text, isAllBlank part = false)

include solid parts

theorem arguments_of_solid :
    Expression.arguments text = .ok ((Scan.split ',' text).map Text.trim) := by
  simp only [Expression.arguments, solid, any_isEmpty_map_trim parts, Bool.false_eq_true, if_false]

theorem items_of_solid : Expression.items text = .ok ((Scan.split ',' text).map Text.trim) := by
  have full := any_isEmpty_map_trim parts
  simp only [Expression.items, solid, dropTrailing_of_solid full, full, Bool.false_eq_true,
    if_false]

end

theorem arguments_pair {left right : Text} (front : Nested [','] left)
    (solid : isAllBlank left = false) (back : Nested [','] right)
    (other : isAllBlank right = false) :
    Expression.arguments (left ++ [',', ' '] ++ right) =
      .ok [Text.trim left, Text.trim right] := by
  have blank : Nested [','] [' '] := .plain (by decide) (by decide) .nil
  have cut : Scan.split ',' (left ++ [',', ' '] ++ right) = [left, [' '] ++ right] := by
    have whole : left ++ [',', ' '] ++ right = left ++ ',' :: ([' '] ++ right) := by simp
    rw [whole, Scan.split_delimiter (by decide) front, Scan.split_nested (blank.append back)]
  have parts : ∀ part ∈ Scan.split ',' (left ++ [',', ' '] ++ right), isAllBlank part = false := by
    rw [cut]
    simp [solid, other]
  rw [arguments_of_solid (by simp [solid]) parts, cut]
  simp only [List.map_cons, List.map_nil, Text.trim_blank_append (by decide : isAllBlank [' '])]

theorem Expr.Listed.fragments {exprs : List Expr} {text : Text} (listed : Expr.Listed exprs text) :
    ∃ parts, Expression.arguments text = .ok parts ∧ Expression.items text = .ok parts ∧
      List.Forall₂ (Part Expr.Written (text.length + 1)) exprs parts := by
  cases exprs with
  | nil =>
    obtain ⟨blank⟩ := listed
    exact ⟨[], arguments_of_blank blank, items_of_blank blank, .nil⟩
  | cons first others =>
    have solid : isAllBlank text = false := by
      cases listed with
      | one expr => exact expr.solid
      | more expr _ => simp [expr.solid]
    have parts := Part.solid Expr.Written.solid listed.split
    exact ⟨_, arguments_of_solid solid parts, items_of_solid solid parts,
      Part.map_trim Expr.Written.trim listed.split⟩

theorem Expr.Keyed.solid {entry : Key × Expr} {text : Text} (keyed : Expr.Keyed entry text) :
    isAllBlank text = false := by
  obtain ⟨_, _, _, expr⟩ := keyed
  simp [expr.solid]

theorem Key.Written.tight {key : Key} {text : Text} (written : key.Written text) : Tight text := by
  cases written with
  | string content => exact tight_enclosed (by decide) (by decide) _
  | name name => exact name.tight
  | number numeral => exact numeral.tight

theorem Expr.Keyed.trim {entry : Key × Expr} {text : Text} (keyed : Expr.Keyed entry text) :
    Expr.Keyed entry (Text.trim text) := by
  obtain ⟨before, label, after, expr⟩ := keyed
  simp only [List.append_assoc]
  rw [Text.trim, Text.trimStart_blank_append before,
    Text.trimStart_append label.tight.isAllBlank_eq, label.tight.trimStart_eq, List.append_cons,
    ← List.append_assoc, ← List.append_assoc,
    Text.trimEnd_append _ expr.solid]
  simpa using Expr.Keyed.pair Text.isAllBlank_nil label after expr.trimEnd

theorem Expr.Paired.items {entries : List (Key × Expr)} {text : Text}
    (paired : Expr.Paired entries text) :
    ∃ parts, Expression.items text = .ok parts ∧
      List.Forall₂ (Part Expr.Keyed (text.length + 1)) entries parts := by
  cases entries with
  | nil =>
    obtain ⟨blank⟩ := paired
    exact ⟨[], items_of_blank blank, .nil⟩
  | cons first others =>
    have solid : isAllBlank text = false := by
      cases paired with
      | one entry => exact entry.solid
      | more entry _ => simp [entry.solid]
    exact ⟨_, items_of_solid solid (Part.solid Expr.Keyed.solid paired.split),
      Part.map_trim Expr.Keyed.trim paired.split⟩

theorem Key.Written.key {key : Key} {text : Text} (written : key.Written text) :
    Expression.key text = .ok key.label := by
  cases written with
  | string content => rw [Expression.key, stringLiteral?_quote]; rfl
  | name name =>
    rw [Expression.key, name.compound.string, name.valid]
    rfl
  | number numeral =>
    rw [Expression.key, numeral.compound.string, numeral.parseNumber?_trim, Option.isSome_some,
      Bool.or_true]
    rfl

theorem Expr.Keyed.exists_part {key : Key} {expr : Expr} {text : Text}
    (keyed : Expr.Keyed (key, expr) text) :
    ∃ part, Expression.pair text = .ok (key.label, part) ∧
      Part Expr.Written text.length expr part := by
  obtain ⟨before, label, after, expr⟩ := keyed
  refine ⟨_, ?_, expr, by simp only [List.length_append, List.length_cons]; omega⟩
  have nested := ((nested_gap (by decide) before).append label.nested).append
    (nested_gap (by decide) after)
  have starts : ∀ (c : Char) (rest : Text), c ∉ [',', ':'] →
      Scan.matchFirst? [[':']] (c :: rest) = none := by
    intro c rest other
    simp only [List.mem_cons, List.not_mem_nil, or_false, not_or] at other
    simp [Scan.matchFirst?, Text.dropStart?, Ne.symm other.2]
  have here : ∀ rest : Text, Scan.find? [[':']] (':' :: rest) = some ⟨[], [':'], rest⟩ :=
    fun rest => Scan.find?_here (by decide) (by simp [Scan.matchFirst?, Text.dropStart?])
  rw [Expression.pair, Scan.find?_nested starts nested, here, Option.map_some]
  simp only [Scan.Occurrence.prepend, List.append_nil, label.tight.trim_gaps before after,
    label.key]
  rfl

end LineScript.Grammar

namespace LineScript.Expression

theorem evaluate_call (catalog : Catalog) (limit : Nat) {text list : Text} {name : String}
    (read : call? (Text.trim text) = some (name, list)) :
    evaluate catalog (limit + 1) text =
      (Form.call name list).evaluate catalog (evaluate catalog limit) := by
  rw [evaluate, Grammar.ofFragment_of_call? read]

end LineScript.Expression
