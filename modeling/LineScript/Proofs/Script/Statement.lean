import LineScript.Interpreter
import LineScript.Proofs.Console
import LineScript.Proofs.Expression.Forms
import LineScript.Proofs.Scan.Comment
import LineScript.Proofs.Scan.Split
import LineScript.Proofs.Scan.Stack

/-! Statements as calls. A statement is read by the reader of calls, so a call of a function
does the same as a statement and as an expression. What was read can be written out again, with one
blank behind every comma, and is read as before whenever the line ended with the parenthesis. -/
namespace LineScript

open Depth (Passes)
open Scan (Bare Parted)
open Text (Tight isAllBlank)

namespace Statement

theorem parse_of_call? {line list : Text} {command : String}
    (read : Expression.call? (Scan.content line) = some (command, list)) :
    parse line = (Expression.arguments list).map fun arguments => ⟨command, arguments⟩ := by
  rw [parse, read]

theorem execute_eq_evaluate (catalog : Catalog) (limit : Nat) {text list : Text} {command : String}
    (bare : Scan.stripComment text = text)
    (read : Expression.call? (Text.trim text) = some (command, list))
    (function : catalog.isFunction command = true) :
    execute catalog limit text = Expression.evaluate catalog (limit + 1) text := by
  have same : Scan.content text = Text.trim text := by rw [Scan.content, bare]
  rw [execute, parse_of_call? (same ▸ read), Expression.evaluate_call catalog limit read,
    Expression.Form.evaluate, if_pos function]
  cases Expression.arguments list with
  | ok fragments => rfl
  | error fault => rfl

end Statement

/-- A call of a builtin function is the same as a statement and as an expression one level
deeper: it gives the same value or fault and leaves the same bindings, heap and console, whatever
stands between its parentheses. -/
theorem execute_call_eq_evaluate {σ : Type} (console : Console σ) (catalog : Catalog) (limit : Nat)
    (world : World σ) {text name group : Text} (bare : Scan.stripComment text = text)
    (whole : Text.trim text = name ++ group) (valid : Scan.isIdentifier name = true)
    (function : catalog.isFunction (String.ofList name) = true) (opened : group.head? = some '(')
    (enclosed : Scan.isEnclosed group = true) :
    (⟨console, catalog, limit⟩ : Interpreter σ).execute text world =
      (⟨console, catalog, limit + 1⟩ : Interpreter σ).evaluate text world := by
  obtain ⟨list, found⟩ := Scan.exists_enclosed? opened enclosed
  have read : Expression.call? (Text.trim text) = some (String.ofList name, list) := by
    rw [whole, Expression.call?_eq_some_iff]
    exact ⟨group, by rwa [String.toList_ofList], by rw [String.toList_ofList], found⟩
  rw [Interpreter.execute, Interpreter.evaluate,
    Statement.execute_eq_evaluate catalog limit bare read function]

/-- The last bracket closes the parenthesis, though it is of another kind. The first argument
prints a hash sign before the second one turns out to be unreadable. -/
theorem execute_call_eq_evaluate_crossed :
    let text := " jod(bhanai(\"#\"), [)] ".toList
    (Interpreter.inMemory .standard 2).execute text ⟨{}, {}, {}⟩ =
        (Interpreter.inMemory .standard 3).evaluate text ⟨{}, {}, {}⟩ ∧
      ((Interpreter.inMemory .standard 3).evaluate text ⟨{}, {}, {}⟩).2.console.output = #["#"] := by
  intro text
  refine ⟨?_, by decide +kernel⟩
  exact execute_call_eq_evaluate Transcript.console .standard 2 ⟨{}, {}, {}⟩
    (by decide : Scan.stripComment text = text)
    (by decide : Text.trim text = ['j', 'o', 'd'] ++ "(bhanai(\"#\"), [)]".toList)
    (by decide) (by decide +kernel) (by decide) (by decide)

namespace Expression

/-- Lists of arguments that are the same to every scan between the parentheses of a call. -/
structure Alike (list other : Text) : Prop where
  arguments : arguments other = arguments list
  after : (Depth.raise {}).after other = (Depth.raise {}).after list
  passes : Passes (fun depth c => (depth.feed c).isTop) (Depth.raise {}) list →
    Passes (fun depth c => (depth.feed c).isTop) (Depth.raise {}) other
  bare : Bare (Depth.raise {}) none list → Bare (Depth.raise {}) none other

theorem alike_blank {list : Text} (blank : isAllBlank list = true) : Alike list [] where
  arguments := by rw [Grammar.arguments_of_blank blank, Grammar.arguments_of_blank rfl]
  after := (Depth.after_blank blank rfl).symm
  passes _ := trivial
  bare _ := rfl

section

variable {parts : List Text} (parted : Parted ',' parts)
  (ends : (Depth.after {} ([','].intercalate parts)).inQuote = false)

include parted ends

theorem arguments_spaced (solid : ∀ part ∈ parts, isAllBlank part = false) :
    arguments ([',', ' '].intercalate (parts.map Text.trim)) = .ok (parts.map Text.trim) := by
  have trimmed := parted.trim (by decide) ends
  obtain ⟨first, others, rfl⟩ := List.exists_cons_of_ne_nil parted.nonempty
  have tight : ∀ part ∈ first :: others, Tight (Text.trim part) :=
    fun part member => Text.tight_trim (solid part member)
  rw [List.forall_mem_cons] at tight
  rw [List.map_cons] at trimmed ⊢
  have gap : Scan.Nested [','] [' '] := .plain (by decide) (by decide) .nil
  have cut := trimmed.split_intercalate (by decide) gap
  have filled : isAllBlank ([',', ' '].intercalate (Text.trim first :: others.map Text.trim)) =
      false := by
    cases others <;> simp [List.intercalate_cons_cons, tight.1.isAllBlank_eq]
  rw [Grammar.arguments_of_solid filled, cut]
  · have again : ∀ part ∈ others,
        ((Text.trim ∘ ([' '] ++ ·)) ∘ Text.trim) part = Text.trim part := by
      intro part member
      simp only [Function.comp_apply]
      rw [Text.trim_blank_append (by decide), (tight.2 part member).trim_eq]
    rw [List.map_cons, tight.1.trim_eq, List.map_map, List.map_map, List.map_congr_left again]
  · rw [cut, List.forall_mem_cons, List.forall_mem_map, List.forall_mem_map]
    refine ⟨tight.1.isAllBlank_eq, fun part member => ?_⟩
    simp [(tight.2 part member).isAllBlank_eq]

end

theorem alike_spaced {list : Text} {fragments : List Text} (read : arguments list = .ok fragments)
    (ends : (Depth.after {} list).inQuote = false) :
    Alike list ([',', ' '].intercalate fragments) := by
  rcases arguments_eq_ok read with ⟨blank, rfl⟩ | ⟨_, rfl, solid⟩
  · exact alike_blank blank
  have parted : Parted ',' (Scan.split ',' list) := Scan.parted_split (by decide) list
  have whole : [','].intercalate (Scan.split ',' list) = list := Scan.intercalate_split ',' list
  generalize Scan.split ',' list = parts at *
  subst whole
  have trimmed := parted.trim (by decide) ends
  have level : ∀ part ∈ parts.dropLast, (Depth.raise {}).after part = Depth.raise {} :=
    fun part member => by rw [Depth.raise_after, parted.level part member]
  have trimmedLevel : ∀ part ∈ (parts.map Text.trim).dropLast,
      (Depth.raise {}).after part = Depth.raise {} :=
    fun part member => by rw [Depth.raise_after, trimmed.level part member]
  refine ⟨by rw [read, arguments_spaced parted ends solid], ?_, fun passes => ?_, fun bare => ?_⟩
  · have last := parted.unquoted (by decide) ends (List.getLast_mem parted.nonempty)
    rw [Depth.raise_after, Depth.after_intercalate rfl trimmed.level trimmed.nonempty,
      Depth.raise_after, Depth.after_intercalate rfl parted.level parted.nonempty, List.getLast_map,
      Depth.after_trim rfl last]
  · have each := (Depth.passes_intercalate (rfl : (Depth.raise {}).after [','] = _) level
      ⟨rfl, trivial⟩).1 passes
    refine (Depth.passes_intercalate (rfl : (Depth.raise {}).after [',', ' '] = _) trimmedLevel
      ⟨rfl, rfl, trivial⟩).2 ?_
    rw [List.forall_mem_map]
    exact fun part member => (each part member).trim rfl
  · rw [Scan.bare_intercalate rfl rfl level] at bare
    rw [Scan.bare_intercalate rfl rfl trimmedLevel, List.forall_mem_map]
    exact fun part member => (bare part member).trim rfl

end Expression

namespace Scan

structure ClosedBy (list : Text) (closer : Char) : Prop where
  passes : Passes (fun depth c => (depth.feed c).isTop) (Depth.raise {}) list
  top : (((Depth.raise {}).after list).feed closer).isTop = true

theorem enclosed?_paren_iff {text list : Text} : enclosed? '(' text = some list ↔
    ∃ closer, text = '(' :: list ++ [closer] ∧ ClosedBy list closer := by
  rw [enclosed?_eq_some_iff (by decide)]
  constructor
  · rintro ⟨closer, whole, passes, top⟩
    exact ⟨closer, whole, passes, top⟩
  · rintro ⟨closer, whole, closed⟩
    exact ⟨closer, whole, closed.passes, closed.top⟩

namespace ClosedBy

variable {list : Text} {closer : Char} (closed : ClosedBy list closer)

include closed

theorem unquoted_and_mem_marks : (Depth.after {} list).inQuote = false ∧ closer ∈ marks := by
  have within : (Depth.raise {}).Within := .inl (by decide)
  have closing := (within.after closed.passes).closing closed.top
  rwa [Depth.raise_after] at closing

theorem unquoted : (Depth.after {} list).inQuote = false := closed.unquoted_and_mem_marks.1

theorem mem_marks : closer ∈ marks := closed.unquoted_and_mem_marks.2

theorem eq_paren (other : ClosedBy list ')') : closer = ')' := by
  have level : Depth.after {} list = {} := by
    refine (Depth.sane_start.after list).eq_start ?_
    rw [← Depth.raise_feed_paren closed.unquoted, ← Depth.raise_after]
    exact other.top
  have top := closed.top
  rw [Depth.raise_after, level] at top
  exact Bracket.eq_closer_of_isTop .paren top

theorem eq_paren_of_isNested {name : Text} (valid : isIdentifier name = true)
    (nested : isNested (name ++ ('(' :: list ++ [closer])) = true) : closer = ')' := by
  have unmarked : ∀ c ∈ name, c ∉ marks := fun c member =>
    Text.not_mem_of_all (by decide) (isIdentifierChar_of_isIdentifier valid c member)
  have inner := (nested_of_isNested nested).of_unmarked_append unmarked
  obtain ⟨last, opened⟩ := group?_of_enclosed? (enclosed?_paren_iff.2 ⟨closer, rfl, closed⟩)
  have same : closer = last := by simpa using eq_of_group? opened
  rw [same]
  exact closer_of_nested inner opened (rfl : _ = Bracket.paren.opener)

theorem congr {other : Text} (alike : Expression.Alike list other) : ClosedBy other closer :=
  ⟨alike.passes closed.passes, by rw [alike.after, closed.top]⟩

end ClosedBy

end Scan

namespace Statement

/-- A statement written out, with one blank behind every comma. -/
def text (statement : Statement) : Text :=
  statement.command.toList ++ ('(' :: [',', ' '].intercalate statement.arguments ++ [')'])

section

variable {line : Text} {statement : Statement} (read : parse line = .ok statement)

include read

theorem exists_of_parse : ∃ list closer, Expression.arguments list = .ok statement.arguments ∧
    Scan.content line = statement.command.toList ++ ('(' :: list ++ [closer]) ∧
    Scan.isIdentifier statement.command.toList = true ∧ Scan.ClosedBy list closer := by
  rw [parse] at read
  split at read
  next command list found =>
    obtain ⟨arguments, listed, rfl⟩ : ∃ arguments, Expression.arguments list = .ok arguments ∧
        ⟨command, arguments⟩ = statement := by
      cases listed : Expression.arguments list with
      | error fault =>
        rw [listed] at read
        cases read
      | ok arguments =>
        rw [listed] at read
        cases read
        exact ⟨arguments, rfl, rfl⟩
    obtain ⟨group, valid, whole, enclosed⟩ := Expression.call?_eq_some_iff.1 found
    obtain ⟨closer, rfl, closed⟩ := Scan.enclosed?_paren_iff.1 enclosed
    exact ⟨list, closer, listed, whole, valid, closed⟩
  next => cases read

theorem tight_of_parse : ∀ argument ∈ statement.arguments, Tight argument := by
  obtain ⟨list, _, listed, _⟩ := exists_of_parse read
  rcases Expression.arguments_eq_ok listed with ⟨_, empty⟩ | ⟨_, parts, solid⟩
  · simp [empty]
  · rw [parts, List.forall_mem_map]
    exact fun part member => Text.tight_trim (solid part member)

end

section

variable {list : Text} {closer : Char} {statement : Statement}
  (listed : Expression.arguments list = .ok statement.arguments)
  (closed : Scan.ClosedBy list closer)

include listed closed

/-- Between parentheses the arguments of a statement are one group exactly when its list was closed
by a parenthesis. -/
theorem enclosed?_text :
    Scan.enclosed? '(' ('(' :: [',', ' '].intercalate statement.arguments ++ [')']) =
      if closer = ')' then some ([',', ' '].intercalate statement.arguments) else none := by
  have alike := Expression.alike_spaced listed closed.unquoted
  split
  next same =>
    rw [same] at closed
    exact Scan.enclosed?_paren_iff.2 ⟨')', rfl, closed.congr alike⟩
  next other =>
    rw [Option.eq_none_iff_forall_ne_some]
    intro body found
    obtain ⟨last, whole, again⟩ := Scan.enclosed?_paren_iff.1 found
    obtain ⟨rfl, close⟩ := List.append_inj' (List.cons.inj whole).2 rfl
    obtain rfl : ')' = last := by simpa using close
    exact other ((closed.congr alike).eq_paren again)

theorem parse_text (valid : Scan.isIdentifier statement.command.toList = true)
    (bare : Bare {} none (statement.command.toList ++ ('(' :: list ++ [closer]))) :
    parse statement.text =
      if closer = ')' then .ok statement else .error (.malformed (.notStatement statement.text)) := by
  have alike := Expression.alike_spaced listed closed.unquoted
  have stripped : Scan.stripComment statement.text = statement.text := by
    obtain ⟨name, inner⟩ := (Scan.bare_call valid closed.mem_marks).1 bare
    exact (Scan.bare_call valid (by decide)).2 ⟨name, alike.bare inner⟩
  have tight : Tight statement.text := by
    have name : Tight statement.command.toList := Grammar.Name.tight ⟨_, valid⟩
    exact name.append (Grammar.tight_enclosed (by decide) (by decide) _)
  have content := Scan.content_text tight stripped
  have enclosed := enclosed?_text listed closed
  split at enclosed
  next paren =>
    have call : Expression.call? statement.text = some (statement.command, _) :=
      Expression.call?_eq_some_iff.2 ⟨_, valid, rfl, enclosed⟩
    rw [if_pos paren, parse_of_call? (content.symm ▸ call), alike.arguments, listed]
    rfl
  next other =>
    have apart : Scan.Apart ('(' :: [',', ' '].intercalate statement.arguments ++ [')']) :=
      Scan.apart_cons.2 (by decide)
    have call : Expression.call? statement.text = none :=
      Grammar.call?_of_splitIdentifier (Scan.splitIdentifier_eq valid apart) enclosed
    simp only [parse, content, call, other, if_false]

end

end Statement

/-- A line that is read as a statement has an identifier for its command, arguments without outer
blanks and none of them empty. Written out again the statement is read as the same one exactly when
the line ended with a parenthesis, as every properly nested line does; a list that is closed by
another bracket is not accepted in parentheses. -/
theorem parse_text_iff {line : Text} {statement : Statement}
    (read : Statement.parse line = .ok statement) :
    Scan.isIdentifier statement.command.toList = true ∧
      (∀ argument ∈ statement.arguments, argument ≠ [] ∧ Text.trim argument = argument) ∧
      (Statement.parse statement.text = .ok statement ↔
        (Scan.content line).getLast? = some ')') ∧
      (Scan.isNested (Scan.content line) = true → (Scan.content line).getLast? = some ')') := by
  obtain ⟨list, closer, listed, whole, valid, closed⟩ := Statement.exists_of_parse read
  have last : (Scan.content line).getLast? = some closer := by
    rw [whole, ← List.append_assoc, List.getLast?_append]
    rfl
  have bare := Scan.bare_content line
  rw [whole] at bare
  refine ⟨valid, Statement.tight_of_parse read, ?_, fun nested => ?_⟩
  · rw [Statement.parse_text listed closed valid bare, last]
    by_cases paren : closer = ')'
    · simp [paren]
    · simp [paren]
  · rw [whole] at nested
    rw [last, closed.eq_paren_of_isNested valid nested]

theorem parse_text_iff_respaced :
    let line := " f( a ,[b,c]) # d".toList
    let statement : Statement := ⟨"f", ["a".toList, "[b,c]".toList]⟩
    Statement.parse line = .ok statement ∧ statement.text = "f(a, [b,c])".toList ∧
      Statement.parse statement.text = .ok statement := by
  intro line statement
  have read : Statement.parse line = .ok statement := by rfl
  exact ⟨read, by decide, (parse_text_iff read).2.2.1.2 (by decide)⟩

/-- A list that a square bracket closes, though a parenthesis opened it, is accepted; what is read
from it is not accepted again. -/
theorem parse_accepts_crossed :
    let statement : Statement := ⟨"f", ["[)".toList]⟩
    Statement.parse "f([)]".toList = .ok statement ∧
      (Scan.content "f([)]".toList).getLast? = some ']' ∧ statement.text = "f([))".toList ∧
      Statement.parse statement.text = .error (.malformed (.notStatement statement.text)) :=
  ⟨rfl, by decide, by decide, rfl⟩

end LineScript
