import LineScript.Proofs.Console
import LineScript.Proofs.Expression.Forms
import LineScript.Proofs.Scan.Stack
import LineScript.Proofs.Script.Structure

/-! String literals. What stands between the quotes is a sequence of glyphs, each a character of
its own or a backslash with the character behind it, and a literal stands for what its glyphs mean,
one after the other. Every text can be written as a literal and is read back from it, also when
the literal is part of a line of a script. -/
namespace LineScript

namespace Expression

open Scan (Units)

inductive Glyph where
  | plain (c : Char) (ordinary : c ≠ '"' ∧ c ≠ '\\')
  | escape (c : Char)

namespace Glyph

def text : Glyph → Text
  | plain c _ => [c]
  | escape c => ['\\', c]

/-- An escaped quote or backslash means that character, every other glyph itself. -/
def meaning : Glyph → Text
  | escape '"' => ['"']
  | escape '\\' => ['\\']
  | glyph => glyph.text

end Glyph

theorem units_iff {body : Text} :
    Units body ↔ ∃ glyphs : List Glyph, body = glyphs.flatMap Glyph.text := by
  constructor
  · intro units
    induction units with
    | nil => exact ⟨[], rfl⟩
    | @plain c _ quote slash _ ih =>
      obtain ⟨glyphs, rfl⟩ := ih
      exact ⟨.plain c ⟨quote, slash⟩ :: glyphs, rfl⟩
    | escape c _ ih =>
      obtain ⟨glyphs, rfl⟩ := ih
      exact ⟨.escape c :: glyphs, rfl⟩
  · rintro ⟨glyphs, rfl⟩
    induction glyphs with
    | nil => exact .nil
    | cons glyph glyphs ih =>
      cases glyph with
      | plain c ordinary => exact .plain ordinary.1 ordinary.2 ih
      | escape c => exact .escape c ih

/-- The reading of a body, with `lone` for a backslash that has nothing behind it. -/
def unescapeWith (lone : Text) : Text → Text
  | [] => []
  | ['\\'] => lone
  | '\\' :: c :: rest =>
    if c = '"' ∨ c = '\\' then c :: unescapeWith lone rest else '\\' :: c :: unescapeWith lone rest
  | c :: rest => c :: unescapeWith lone rest

theorem unescape_eq (body : Text) : unescape body = unescapeWith ['\\'] body := by
  fun_induction unescape body <;> simp_all [unescapeWith]

theorem unescapeWith_glyphs (lone : Text) (glyphs : List Glyph) :
    unescapeWith lone (glyphs.flatMap Glyph.text) = glyphs.flatMap Glyph.meaning := by
  induction glyphs with
  | nil => rfl
  | cons glyph glyphs ih =>
    rw [List.flatMap_cons, List.flatMap_cons, ← ih]
    cases glyph with
    | plain c ordinary =>
      simp [Glyph.text, Glyph.meaning, unescapeWith.eq_4 lone c _ (by simp [ordinary])
        (by simp [ordinary])]
    | escape c =>
      by_cases quote : c = '"'
      · simp [Glyph.text, Glyph.meaning, unescapeWith, quote]
      · by_cases slash : c = '\\'
        · simp [Glyph.text, Glyph.meaning, unescapeWith, slash]
        · have kept : (Glyph.escape c).meaning = ['\\', c] := by
            simp_all [Glyph.meaning, Glyph.text]
          simp [kept, Glyph.text, unescapeWith, quote, slash]

theorem enclosed?_quote_iff {fragment body : Text} :
    Scan.enclosed? '"' fragment = some body ↔
      Units body ∧ fragment = '"' :: body ++ ['"'] := by
  constructor
  · intro enclosed
    obtain ⟨closer, opened⟩ := Scan.group?_of_enclosed? enclosed
    obtain ⟨units, same⟩ := Scan.units_of_group? opened rfl
    have whole := Scan.eq_of_group? opened
    simp only at units same whole
    rw [same] at whole
    exact ⟨units, whole⟩
  · rintro ⟨units, rfl⟩
    have found := Scan.group?_quoted units []
    rw [List.append_nil] at found
    exact Scan.enclosed?_eq_some found rfl rfl

theorem stringLiteral?_eq_some_iff {fragment content : Text} :
    stringLiteral? fragment = some content ↔ ∃ glyphs : List Glyph,
      fragment = '"' :: glyphs.flatMap Glyph.text ++ ['"'] ∧
        content = glyphs.flatMap Glyph.meaning := by
  simp only [stringLiteral?, Option.map_eq_some_iff, enclosed?_quote_iff, units_iff, unescape_eq]
  constructor
  · rintro ⟨body, ⟨⟨glyphs, rfl⟩, whole⟩, rfl⟩
    exact ⟨glyphs, whole, unescapeWith_glyphs _ glyphs⟩
  · rintro ⟨glyphs, whole, rfl⟩
    exact ⟨_, ⟨⟨glyphs, rfl⟩, whole⟩, unescapeWith_glyphs _ glyphs⟩

theorem stringLiteral?_eq_map (lone fragment : Text) :
    stringLiteral? fragment = (Scan.enclosed? '"' fragment).map (unescapeWith lone) := by
  cases enclosed : Scan.enclosed? '"' fragment with
  | none => rw [stringLiteral?, enclosed]; rfl
  | some body =>
    obtain ⟨glyphs, rfl⟩ := units_iff.1 (enclosed?_quote_iff.1 enclosed).1
    rw [stringLiteral?, enclosed, Option.map_some, Option.map_some, unescape_eq,
      unescapeWith_glyphs, unescapeWith_glyphs]

theorem tight_quote (content : Text) : Text.Tight (quote content) :=
  Grammar.tight_enclosed (by decide) (by decide) _

theorem evaluate_quote (catalog : Catalog) (limit : Nat) (content : Text) :
    evaluate catalog (limit + 1) (quote content) = .done (.text (String.ofList content)) := by
  rw [evaluate, (tight_quote content).trim_eq, Grammar.ofFragment_string]
  rfl

theorem newline_notMem_quote {content : Text} (single : '\n' ∉ content) : '\n' ∉ quote content := by
  have escaped : ∀ c ∈ content, '\n' ∉ escapeChar c := by
    intro c member
    have other : '\n' ≠ c := fun same => single (same ▸ member)
    rw [escapeChar]
    split <;> simp [other]
  simpa [quote] using escaped

end Expression

theorem Structure.Sentence.run_alone (line : Sentence .statement) (single : '\n' ∉ line.text)
    (catalog : Catalog) (limit : Nat) :
    Script.run catalog limit line.text = (Block.statement line .nil).meaning catalog limit 1 := by
  have rendered : (Block.statement line .nil).Rendered 0 [⟨[], line.text⟩] :=
    .statement ⟨rfl, rfl⟩ .nil
  have text : Lines ([⟨[], line.text⟩].map Row.raw) line.text := .last single line.tight.ne_nil
  rw [Script.run, text.items, itemsFrom_rows rendered.stands,
    rendered.runItems catalog limit 1 (Nat.zero_le limit)]

namespace Statement

open Expression (quote)

def bindingName : Text := ['r', 'a', 'k', 'h', 'a']

def bindingList (content : Text) : Text := quote ['x'] ++ [',', ' '] ++ quote content

def binding (content : Text) : Text := bindingName ++ ('(' :: bindingList content ++ [')'])

example : binding ['a', '"'] = "rakha(\"x\", \"a\\\"\")".toList := by decide

theorem nested_bindingList (content : Text) : Scan.Nested [] (bindingList content) := by
  have comma : Scan.Nested [] [',', ' '] :=
    .plain (by decide) (by decide) (.plain (by decide) (by decide) .nil)
  exact ((Grammar.nested_quote _).append comma).append (Grammar.nested_quote content)

theorem tight_binding (content : Text) : Text.Tight (binding content) := by
  have name : Text.Tight bindingName := Grammar.Name.tight ⟨bindingName, by decide⟩
  exact name.append (Grammar.tight_enclosed (by decide) (by decide) _)

theorem stripComment_binding (content : Text) :
    Scan.stripComment (binding content) = binding content := by
  let front := bindingName ++ '(' :: (quote ['x'] ++ [',', ' '])
  let body := content.flatMap Expression.escapeChar
  have whole : binding content = front ++ ('"' :: body ++ '"' :: [')']) := by
    simp [binding, bindingList, front, body, quote]
  have kept : Scan.stripCommentFrom {} none front = front := by decide
  have inside : Depth.after {} front = { parens := 1 } := by decide
  have clear : Depth.Clear { parens := 1 } := ⟨rfl, rfl, by decide, by decide, by decide⟩
  have apart : Scan.Apart ('"' :: body ++ '"' :: [')']) := Scan.apart_cons.2 (by decide)
  rw [Scan.stripComment, whole, Scan.stripCommentFrom_append kept apart, inside,
    Scan.stripCommentFrom_literal clear (Grammar.units_escape content)]
  rfl

def bindingLine (content : Text) : Structure.Sentence .statement where
  text := binding content
  tight := tight_binding content
  bare := stripComment_binding content
  complete := by
    have name : Scan.Nested [] bindingName := Scan.nested_of_isNested (by decide)
    have group : Scan.Nested [] ('(' :: bindingList content ++ [')']) :=
      .enclose .paren (nested_bindingList content)
    rw [binding, literalDepth, Depth.after_nested Depth.clear_start (name.append group)]
    exact Int.le_refl 0
  unmarked := rfl
  reads := by
    have last : (binding content).getLast? = some ')' := by
      rw [binding, ← List.append_assoc, List.getLast?_append]
      rfl
    rw [LineKind.of, (tight_binding content).trim_eq, Clause.head?, last]
    rfl

theorem newline_notMem_binding {content : Text} (single : '\n' ∉ content) :
    '\n' ∉ binding content := by
  have name : '\n' ∉ bindingName ++ '(' :: (quote ['x'] ++ [',', ' ']) := by decide
  have value := Expression.newline_notMem_quote single
  simp only [List.mem_append, List.mem_cons, not_or] at name
  simp [binding, bindingList, name, value]

theorem parse_binding (content : Text) :
    parse (binding content) = .ok ⟨"rakha", [quote ['x'], quote content]⟩ := by
  have read : Expression.call? (binding content) = some ("rakha", bindingList content) := by
    rw [binding, Expression.call?_eq_some_iff]
    exact ⟨_, by decide, rfl, Grammar.enclosed?_bracket .paren (nested_bindingList content)⟩
  have listed : Expression.arguments (bindingList content) = .ok [quote ['x'], quote content] := by
    have name := Expression.tight_quote ['x']
    have value := Expression.tight_quote content
    rw [bindingList, Grammar.arguments_pair (Grammar.nested_quote _) name.isAllBlank_eq
      (Grammar.nested_quote _) value.isAllBlank_eq, name.trim_eq, value.trim_eq]
  rw [parse, Scan.content_text (tight_binding content) (stripComment_binding content), read]
  simp only [listed]
  rfl

theorem execute_binding (limit : Nat) (content : Text) :
    execute .standard (limit + 1) (binding content) =
      Catalog.standard.invoke "rakha" [.text "x", .text (String.ofList content)] := by
  have values : [quote ['x'], quote content].mapM (Expression.evaluate .standard (limit + 1)) =
      .done [.text "x", .text (String.ofList content)] := by
    rw [List.mapM_cons, List.mapM_cons, List.mapM_nil, Expression.evaluate_quote,
      Expression.evaluate_quote]
    rfl
  rw [execute, parse_binding]
  change ([quote ['x'], quote content].mapM (Expression.evaluate .standard (limit + 1)) >>= _) = _
  rw [values]
  rfl

end Statement

/-- A fragment is a string literal exactly when it is a sequence of glyphs between two quotes, and
then it stands for what the glyphs mean; a backslash with nothing behind it is never read. Every
text is read back from its literal, on its own, by the evaluator in any world and, if it fits on a
line, by a script that binds it. -/
theorem literal_roundTrip {σ : Type} (console : Console σ) :
    (∀ fragment content, Expression.stringLiteral? fragment = some content ↔
      ∃ glyphs : List Expression.Glyph,
        fragment = '"' :: glyphs.flatMap Expression.Glyph.text ++ ['"'] ∧
          content = glyphs.flatMap Expression.Glyph.meaning) ∧
    (∀ lone fragment, Expression.stringLiteral? fragment =
      (Scan.enclosed? '"' fragment).map (Expression.unescapeWith lone)) ∧
    (∀ content, Expression.stringLiteral? (Expression.quote content) = some content ∧
      ∀ catalog limit world,
        (⟨console, catalog, limit + 1⟩ : Interpreter σ).evaluate (Expression.quote content) world =
          (.ok (.text (String.ofList content)), world)) ∧
    (∀ content, '\n' ∉ content → ∀ state,
      ({ console } : Interpreter σ).run (Statement.binding content) ⟨{}, {}, state⟩ =
        (.ok (), ⟨{ mutable := [("x", .text (String.ofList content))] }, {}, state⟩)) := by
  refine ⟨fun fragment content => Expression.stringLiteral?_eq_some_iff,
    Expression.stringLiteral?_eq_map, fun content => ⟨Grammar.stringLiteral?_quote content, ?_⟩, ?_⟩
  · intro catalog limit world
    rw [Interpreter.evaluate, Expression.evaluate_quote]
    rfl
  · intro content single state
    have line := Statement.newline_notMem_binding single
    have alone := (Statement.bindingLine content).run_alone line .standard 256
    have whole : (Statement.bindingLine content).text = Statement.binding content := rfl
    rw [whole, Structure.Block.meaning, whole, Statement.execute_binding 255 content] at alone
    rw [Interpreter.run, alone]
    rfl

theorem literal_roundTrip_hostile :
    let content := "\\\" # tippani ) ]: + ra \\".toList
    '\n' ∉ content ∧
      ({ console := Transcript.console } : Interpreter Transcript).run (Statement.binding content)
          ⟨{}, {}, {}⟩ =
        (.ok (), ⟨{ mutable := [("x", .text (String.ofList content))] }, {}, {}⟩) := by
  intro content
  have single : '\n' ∉ content := by decide
  exact ⟨single, (literal_roundTrip Transcript.console).2.2.2 content single {}⟩

end LineScript
