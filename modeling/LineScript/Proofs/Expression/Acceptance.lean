import LineScript.Interpreter
import LineScript.Proofs.Action
import LineScript.Proofs.Decimal.Literal
import LineScript.Proofs.Expression.Parts
import LineScript.Proofs.Scan.Identifier
import LineScript.Proofs.Scan.Search
import LineScript.Proofs.Scan.Stack
import LineScript.Proofs.Text.Trim

/-! Only properly nested texts are evaluated without a fault. The scans count brackets of
each kind on their own and so pass over some text that is not nested; but the evaluation of a
form evaluates all of its parts, and when the parts are nested, so is the text that was
cut into them. -/
namespace LineScript.Expression

open Scan (Nested nested_of_split nested_of_trim)
open Text (isAllBlank)

def Form.Needs (good : Text → Prop) : Form → Prop
  | .empty | .unreadable _ => False
  | .string _ | .number _ | .identifier _ => True
  | .sum operands => ∀ operand ∈ operands, good operand
  | .call _ list => ∃ parts, arguments list = .ok parts ∧ ∀ part ∈ parts, good part
  | .array body => ∃ parts, items body = .ok parts ∧ ∀ part ∈ parts, good part
  | .object body => ∃ parts, items body = .ok parts ∧
      ∀ part ∈ parts, ∃ key fragment, pair part = .ok (key, fragment) ∧ good fragment
  | .chain _ accessors => ∀ fragment, .index fragment ∈ accessors → good fragment
  | .logical first others => good first ∧ ∀ other ∈ others, good other.2
  | .comparison left _ right => good left ∧ good right

section

variable {self : Evaluator} {good : Text → Prop}
  (sound : ∀ {text : Text} {value : Value}, (self text).Returns value → good text)

include sound

theorem good_of_addend {text : Text} {value : Value} (returns : (addend self text).Returns value) :
    good text := by
  rw [addend] at returns
  split at returns
  · cases returns
  · exact sound returns

theorem good_of_operand {text : Text} {value : Value}
    (returns : (operand self text).Returns value) : good text := by
  rw [operand] at returns
  split at returns
  · cases returns
  · exact sound returns

theorem good_of_enter {before after : Table Value} {text : Text}
    (returns : (enter self before text).Returns after) :
    ∃ key fragment, pair text = .ok (key, fragment) ∧ good fragment := by
  obtain ⟨⟨key, fragment⟩, found, later⟩ := Action.returns_bind returns
  obtain ⟨value, here, _⟩ := Action.returns_bind later
  exact ⟨key, fragment, Action.eq_of_returns_ofExcept found, sound here⟩

theorem good_of_mapM {texts : List Text} {values : List Value}
    (returns : (texts.mapM self).Returns values) : ∀ text ∈ texts, good text := by
  intro text member
  obtain ⟨value, here⟩ := Action.returns_mapM returns text member
  exact sound here

theorem needs_of_evaluate {catalog : Catalog} {form : Form} {value : Value}
    (returns : (form.evaluate catalog self).Returns value) : form.Needs good := by
  cases form with
  | empty => cases returns
  | unreadable => cases returns
  | string => trivial
  | number => trivial
  | identifier => trivial
  | sum operands =>
    obtain ⟨values, first, _⟩ := Action.returns_bind returns
    intro operand member
    obtain ⟨value, here⟩ := Action.returns_mapM first operand member
    exact good_of_addend sound here
  | call name list =>
    rw [Form.evaluate] at returns
    split at returns
    · obtain ⟨parts, read, later⟩ := Action.returns_bind returns
      obtain ⟨values, first, _⟩ := Action.returns_bind later
      exact ⟨parts, Action.eq_of_returns_ofExcept read, good_of_mapM sound first⟩
    · cases returns
  | array body =>
    obtain ⟨parts, read, later⟩ := Action.returns_bind returns
    obtain ⟨values, first, _⟩ := Action.returns_bind later
    exact ⟨parts, Action.eq_of_returns_ofExcept read, good_of_mapM sound first⟩
  | object body =>
    obtain ⟨parts, read, later⟩ := Action.returns_bind returns
    obtain ⟨values, first, _⟩ := Action.returns_bind later
    refine ⟨parts, Action.eq_of_returns_ofExcept read, fun part member => ?_⟩
    obtain ⟨before, after, here⟩ := Action.returns_foldlM first part member
    exact good_of_enter sound here
  | chain base accessors =>
    obtain ⟨value, _, later⟩ := Action.returns_bind returns
    intro fragment member
    obtain ⟨before, after, walked⟩ := Action.returns_foldlM later _ member
    obtain ⟨index, here, _⟩ := Action.returns_bind walked
    exact sound here
  | logical first others =>
    obtain ⟨value, here, later⟩ := Action.returns_bind returns
    obtain ⟨result, rest, _⟩ := Action.returns_bind later
    refine ⟨good_of_operand sound here, fun other member => ?_⟩
    obtain ⟨before, after, joined⟩ := Action.returns_foldlM rest other member
    obtain ⟨value, there, _⟩ := Action.returns_bind joined
    exact good_of_operand sound there
  | comparison left relation right =>
    obtain ⟨value, here, later⟩ := Action.returns_bind returns
    obtain ⟨other, there, _⟩ := Action.returns_bind later
    exact ⟨good_of_operand sound here, good_of_operand sound there⟩

end

theorem nested_of_trimmed {text : Text}
    (nested : ∀ part ∈ (Scan.split ',' text).map Text.trim, Nested [] part) : Nested [] text :=
  nested_of_split (by decide) fun _ member => nested_of_trim (nested _ (List.mem_map_of_mem member))

theorem nested_of_arguments {list : Text} {parts : List Text} (read : arguments list = .ok parts)
    (nested : ∀ part ∈ parts, Nested [] part) : Nested [] list := by
  rcases arguments_eq_ok read with ⟨blank, _⟩ | ⟨_, rfl, _⟩
  · exact Scan.nested_gap (by decide) blank
  · exact nested_of_trimmed nested

theorem mem_dropTrailing {parts : List Text} {part : Text} (member : part ∈ parts) :
    part ∈ dropTrailing parts ∨ part = [] := by
  rw [dropTrailing]
  split
  next trailing =>
    obtain ⟨others, rfl⟩ := List.getLast?_eq_some_iff.1 trailing.2
    simpa using member
  next => exact .inl member

theorem nested_of_items {body : Text} {parts : List Text} (read : items body = .ok parts)
    (nested : ∀ part ∈ parts, Nested [] part) : Nested [] body := by
  rw [items] at read
  split at read
  next blank => exact Scan.nested_gap (by decide) blank
  next =>
    dsimp only at read
    split at read
    · cases read
    · cases read
      refine nested_of_trimmed fun part member => ?_
      rcases mem_dropTrailing member with kept | rfl
      · exact nested part kept
      · exact .nil

theorem nested_of_stringLiteral? {text content : Text}
    (found : stringLiteral? text = some content) : Nested [] text := by
  obtain ⟨body, enclosed, _⟩ := Option.map_eq_some_iff.1 found
  obtain ⟨closer, opened⟩ := Scan.group?_of_enclosed? enclosed
  obtain ⟨units, closes⟩ := Scan.units_of_group? opened rfl
  have whole := Scan.eq_of_group? opened
  simp only at units closes
  rw [closes] at whole
  rw [whole]
  exact .quote units

theorem nested_of_parseNumber? {text : Text} {value : Float}
    (found : Decimal.parseNumber? text = some value) : Nested [] text := by
  obtain ⟨literal, read, _⟩ := Option.map_eq_some_iff.1 found
  exact nested_of_trim (.of_class (by decide) (Decimal.isNumeric_of_read? read))

theorem nested_of_isIdentifier {text : Text} (valid : Scan.isIdentifier text = true) :
    Nested [] text :=
  .of_class (by decide) (Scan.isIdentifierChar_of_isIdentifier valid)

theorem nested_of_key {text : Text} {label : String} (read : key text = .ok label) :
    Nested [] text := by
  rw [key] at read
  split at read
  next content found => exact nested_of_stringLiteral? found
  next =>
    split at read
    next plain =>
      rcases Bool.or_eq_true_iff.1 plain with valid | number
      · exact nested_of_isIdentifier valid
      · obtain ⟨value, found⟩ := Option.isSome_iff_exists.1 number
        exact nested_of_parseNumber? found
    next => cases read

theorem nested_of_pair {text fragment : Text} {label : String}
    (read : pair text = .ok (label, fragment)) (nested : Nested [] fragment) : Nested [] text := by
  rw [pair] at read
  split at read
  next => cases read
  next found here =>
    cases named : key (Text.trim found.before) with
    | error fault =>
      rw [named] at read
      cases read
    | ok label =>
      rw [named] at read
      cases read
      refine Scan.nested_of_find? here ?_ (nested_of_trim (nested_of_key named)) nested
      simpa using Nested.plain (by decide) (by simp) .nil

theorem eq_of_call? {text list : Text} {name : String} (found : call? text = some (name, list))
    (nested : Nested [] list) :
    ∃ command, Scan.isIdentifier command = true ∧ text = command ++ ('(' :: list ++ [')']) := by
  obtain ⟨group, valid, rfl, enclosed⟩ := call?_eq_some_iff.1 found
  exact ⟨_, valid, by rw [Scan.eq_of_enclosed? .paren enclosed nested]; rfl⟩

theorem nested_of_call? {text list : Text} {name : String}
    (found : call? text = some (name, list)) (nested : Nested [] list) : Nested [] text := by
  obtain ⟨command, valid, whole⟩ := eq_of_call? found nested
  rw [whole]
  exact (nested_of_isIdentifier valid).append (.enclose .paren nested)

theorem nested_of_accessor? {text rest : Text} {accessor : Accessor}
    (found : accessor? text = some (accessor, rest))
    (index : ∀ fragment, accessor = .index fragment → Nested [] fragment)
    (nested : Nested [] rest) : Nested [] text := by
  cases text with
  | nil => cases found
  | cons c tail =>
    rw [accessor?] at found
    split at found
    next point =>
      dsimp only at found
      split at found
      next => cases found
      next named =>
        cases found
        have valid := Scan.isIdentifier_of_splitIdentifier named
        rw [← Scan.splitIdentifier_append tail, point]
        exact .plain (by decide) (by simp) ((nested_of_isIdentifier valid).append nested)
    next =>
      split at found
      next bracket =>
        obtain ⟨group, opened, same⟩ := Option.map_eq_some_iff.1 found
        cases same
        have inner := index _ rfl
        have opens : group.opener = Scan.Bracket.opener .square :=
          (Scan.opener_of_group? opened).trans bracket
        rw [Scan.eq_of_group? opened, opens, Scan.closer_of_group? opened opens inner]
        exact .group .square inner nested
      next => cases found

theorem nested_of_accessors? {text : Text} {accessors : List Accessor}
    (found : accessors? text = some accessors)
    (index : ∀ fragment, .index fragment ∈ accessors → Nested [] fragment) : Nested [] text := by
  fun_induction accessors? text generalizing accessors with
  | case1 => exact .nil
  | case2 => cases found
  | case3 text nonempty accessor tail here ih =>
    obtain ⟨others, later, rfl⟩ := Option.map_eq_some_iff.1 found
    refine nested_of_accessor? here ?_ (ih later fun fragment member => index _ (by simp [member]))
    rintro fragment rfl
    exact index _ (by simp)

theorem nested_of_chain? {text : Text} {base : String} {accessors : List Accessor}
    (found : chain? text = some (base, accessors))
    (index : ∀ fragment, .index fragment ∈ accessors → Nested [] fragment) : Nested [] text := by
  rw [chain?] at found
  dsimp only at found
  split at found
  next => cases found
  next named =>
    obtain ⟨others, later, same⟩ := Option.map_eq_some_iff.1 found
    cases same
    have valid := Scan.isIdentifier_of_splitIdentifier (not_or.1 named).1
    rw [← Scan.splitIdentifier_append text]
    exact (nested_of_isIdentifier valid).append (nested_of_accessors? later index)

theorem nested_of_unmarked {text : Text} (unmarked : text.all fun c => !decide (c ∈ Scan.marks)) :
    Nested [] text :=
  .of_class (by decide) (List.all_eq_true.1 unmarked)

theorem nested_words : ∀ word ∈ Connective.words, Nested [] word :=
  fun word _ => nested_of_unmarked (by revert word; decide)

theorem nested_symbols : ∀ symbol ∈ Relation.symbols, Nested [] symbol :=
  fun symbol _ => nested_of_unmarked (by revert symbol; decide)

theorem nested_of_operandsAfter {connective : Connective} {text : Text}
    (nested : ∀ part ∈ operandsAfter connective text, Nested [] part.2) : Nested [] text := by
  fun_induction operandsAfter connective text with
  | case1 connective text missing => exact nested (connective, text) (by simp)
  | case2 connective text found here ih =>
    rw [List.forall_mem_cons] at nested
    exact Scan.nested_of_find? here nested_words nested.1 (ih nested.2)

/-- A text whose form has nested parts is nested. -/
theorem nested_of_needs_operand {text : Text} (needs : (Form.ofOperand text).Needs (Nested [])) :
    Nested [] text := by
  unfold Form.ofOperand at needs
  split at needs
  next found =>
    obtain ⟨parts, read, nested⟩ := needs
    exact nested_of_call? found (nested_of_arguments read nested)
  split at needs
  next found =>
    obtain ⟨parts, read, nested⟩ := needs
    exact Scan.nested_of_enclosed? .square found (nested_of_items read nested)
  split at needs
  next found =>
    obtain ⟨parts, read, nested⟩ := needs
    refine Scan.nested_of_enclosed? .curly found (nested_of_items read fun part member => ?_)
    obtain ⟨label, fragment, paired, inner⟩ := nested part member
    exact nested_of_pair paired inner
  split at needs
  next found => exact nested_of_chain? found needs
  split at needs
  next found =>
    obtain ⟨occurrence, here, same⟩ := Option.map_eq_some_iff.1 found
    cases same
    exact Scan.nested_of_find? here nested_words needs.1 (nested_of_operandsAfter needs.2)
  split at needs
  next found =>
    obtain ⟨occurrence, here, same⟩ := Option.map_eq_some_iff.1 found
    cases same
    exact Scan.nested_of_find? here nested_symbols needs.1 needs.2
  split at needs
  next found => exact nested_of_parseNumber? found
  split at needs
  next valid => exact nested_of_isIdentifier valid
  next => cases needs

theorem nested_of_needs {text : Text} (needs : (Form.ofFragment text).Needs (Nested [])) :
    Nested [] text := by
  unfold Form.ofFragment at needs
  split at needs
  next => cases needs
  split at needs
  next found => exact nested_of_stringLiteral? found
  split at needs
  next parts =>
    have plus : '+' ∉ Scan.marks := by decide
    exact nested_of_split plus (by rwa [parts])
  next => exact nested_of_needs_operand needs

theorem nested_of_evaluate {catalog : Catalog} {limit : Nat} {text : Text} {value : Value}
    (returns : (evaluate catalog limit text).Returns value) : Nested [] text := by
  induction limit generalizing text value with
  | zero => cases returns
  | succ limit ih =>
    rw [evaluate] at returns
    exact nested_of_trim (nested_of_needs (needs_of_evaluate ih returns))

theorem nested_of_execute {catalog : Catalog} {limit : Nat} {line : Text} {value : Value}
    (returns : (Statement.execute catalog limit line).Returns value) :
    ∃ command body, Scan.isIdentifier command = true ∧ Nested [] body ∧
      Scan.content line = command ++ ('(' :: body ++ [')']) := by
  obtain ⟨statement, parsed, later⟩ := Action.returns_bind returns
  obtain ⟨values, evaluated, _⟩ := Action.returns_bind later
  have read := Action.eq_of_returns_ofExcept parsed
  rw [Statement.parse] at read
  split at read
  next command list found =>
    cases listed : arguments list with
    | error fault =>
      rw [listed] at read
      cases read
    | ok parts =>
      rw [listed] at read
      cases read
      have nested := nested_of_arguments listed (good_of_mapM nested_of_evaluate evaluated)
      obtain ⟨name, valid, whole⟩ := eq_of_call? found nested
      exact ⟨name, list, valid, nested, whole⟩
  next => cases read

theorem exists_of_isOk {α ε : Type} {outcome : Except ε α} (ok : outcome.isOk) :
    ∃ value, outcome = .ok value := by
  cases outcome with
  | ok value => exact ⟨value, rfl⟩
  | error error => cases ok

/-- An evaluation or a statement that ends without a fault has read a properly nested text,
and such a statement is a name with one group in parentheses behind it. -/
theorem isNested_of_isOk {σ : Type} (interpreter : Interpreter σ) (world : World σ) (text : Text) :
    ((interpreter.evaluate text world).1.isOk → Scan.isNested text) ∧
      ((interpreter.execute text world).1.isOk →
        Scan.isNested (Scan.content text) ∧
          ∃ command body, Scan.isIdentifier command ∧ Scan.isNested body ∧
            Scan.content text = command ++ ('(' :: body ++ [')'])) := by
  constructor
  · intro ok
    obtain ⟨value, ends⟩ := exists_of_isOk ok
    exact (nested_of_evaluate (Action.returns_of_run ends)).isNested
  · intro ok
    obtain ⟨value, ends⟩ := exists_of_isOk ok
    obtain ⟨command, body, valid, nested, whole⟩ := nested_of_execute (Action.returns_of_run ends)
    refine ⟨?_, command, body, valid, nested.isNested, whole⟩
    rw [whole]
    exact ((nested_of_isIdentifier valid).append (.enclose .paren nested)).isNested

theorem isNested_of_isOk_quoted :
    Scan.isNested ['[', '"', '(', '"', ']'] ∧
      Scan.isNested ['h', 'o', 'i', 'n', 'a', '(', '"', '[', '"', ')'] := by
  have either := isNested_of_isOk (⟨Transcript.console, .standard, 256⟩ : Interpreter Transcript)
    ⟨{}, {}, {}⟩
  exact ⟨(either _).1 (by decide),
    ((either ['h', 'o', 'i', 'n', 'a', '(', '"', '[', '"', ')']).2 (by decide)).1⟩

end LineScript.Expression
