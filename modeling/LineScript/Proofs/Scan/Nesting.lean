import LineScript.Proofs.Text.Trim
import LineScript.Scan.Group
import LineScript.Scan.TopLevel
import Mathlib.Data.List.Basic

/-! Properly nested texts. Every opening bracket is closed by the bracket of its own
kind before anything around it is closed, and every string literal ends. The scanners
count brackets kind by kind; on a nested text the counts agree with the nesting, so a
scanner passes over the text and is back where it was. -/
namespace LineScript.Scan

inductive Bracket where
  | paren
  | square
  | curly
deriving DecidableEq, Repr

namespace Bracket

def opener : Bracket → Char
  | paren => '('
  | square => '['
  | curly => '\x7b'

def closer : Bracket → Char
  | paren => ')'
  | square => ']'
  | curly => '\x7d'

end Bracket

/-- Quotes and brackets, the characters that change the state of a scan outside
string literals. -/
def marks : Text := ['"', '(', ')', '[', ']', '\x7b', '\x7d']

theorem mark_cases (c : Char) :
    c ∉ marks ∨ c = '"' ∨ ∃ bracket : Bracket, c = bracket.opener ∨ c = bracket.closer := by
  by_cases member : c ∈ marks
  · simp only [marks, List.mem_cons, List.not_mem_nil, or_false] at member
    rcases member with rfl | rfl | rfl | rfl | rfl | rfl | rfl
    · exact .inr (.inl rfl)
    · exact .inr (.inr ⟨.paren, .inl rfl⟩)
    · exact .inr (.inr ⟨.paren, .inr rfl⟩)
    · exact .inr (.inr ⟨.square, .inl rfl⟩)
    · exact .inr (.inr ⟨.square, .inr rfl⟩)
    · exact .inr (.inr ⟨.curly, .inl rfl⟩)
    · exact .inr (.inr ⟨.curly, .inr rfl⟩)
  · exact .inl member

/-- What may stand between the quotes of a string literal: characters other than
quotes and backslashes, and backslashes with the character that each escapes. -/
inductive Units : Text → Prop where
  | nil : Units []
  | plain {c : Char} {rest : Text} : c ≠ '"' → c ≠ '\\' → Units rest → Units (c :: rest)
  | escape {rest : Text} (c : Char) : Units rest → Units ('\\' :: c :: rest)

/-- A properly nested text with none of the characters `avoid` outside its groups
and string literals. -/
inductive Nested : (avoid : Text) → Text → Prop where
  | nil {avoid : Text} : Nested avoid []
  | plain {avoid : Text} {c : Char} {rest : Text} :
      c ∉ marks → c ∉ avoid → Nested avoid rest → Nested avoid (c :: rest)
  | quoted {avoid body rest : Text} :
      Units body → Nested avoid rest → Nested avoid ('"' :: body ++ '"' :: rest)
  | group {avoid body rest : Text} (bracket : Bracket) :
      Nested [] body → Nested avoid rest →
        Nested avoid (bracket.opener :: body ++ bracket.closer :: rest)

theorem exists_of_append_eq {text more front rest : Text} {mark : Char}
    (whole : text ++ more = front ++ [mark] ++ rest) (outside : mark ∉ more) :
    ∃ tail, text = front ++ [mark] ++ tail ∧ tail ++ more = rest := by
  rcases List.append_eq_append_iff.1 whole with ⟨back, first, second⟩ | ⟨tail, first, second⟩
  · rcases List.eq_nil_or_concat back with rfl | ⟨others, last, rfl⟩
    · exact ⟨[], by simpa using first.symm, by simpa using second⟩
    · rw [List.concat_eq_append, ← List.append_assoc] at first
      have same : mark = last := by simpa using List.append_inj_right' first rfl
      exact absurd (by simp [second, same]) outside
  · exact ⟨tail, first, second.symm⟩

namespace Nested

variable {avoid a b : Text}

theorem append (first : Nested avoid a) (second : Nested avoid b) : Nested avoid (a ++ b) := by
  induction first with
  | nil => exact second
  | plain unmarked free _ ih => exact .plain unmarked free (ih second)
  | quoted units _ ih => simpa using Nested.quoted units (ih second)
  | group bracket inner _ _ ih => simpa using Nested.group bracket inner (ih second)

theorem mono {fewer : Text} (nested : Nested avoid a)
    (subset : fewer.all fun c => decide (c ∈ avoid)) : Nested fewer a := by
  induction nested with
  | nil => exact .nil
  | plain unmarked free _ ih =>
    have kept : _ ∉ fewer := fun member =>
      free (of_decide_eq_true (List.all_eq_true.1 subset _ member))
    exact .plain unmarked kept (ih subset)
  | quoted units _ ih => exact .quoted units (ih subset)
  | group bracket inner _ _ ih => exact .group bracket inner (ih subset)

theorem loosen (nested : Nested avoid a) : Nested [] a := nested.mono rfl

theorem head_not_mem {c : Char} (nested : Nested avoid (c :: a))
    (unmarked : avoid.all fun d => !decide (d ∈ marks)) : c ∉ avoid := by
  cases nested with
  | plain _ free _ => exact free
  | quoted _ _ => exact Text.not_mem_of_all unmarked (by decide)
  | group bracket _ _ => exact Text.not_mem_of_all unmarked (by cases bracket <;> decide)

theorem of_class {p : Char → Bool} (apart : (marks ++ avoid).all fun c => !p c)
    (all : ∀ c ∈ a, p c = true) : Nested avoid a := by
  induction a with
  | nil => exact .nil
  | cons c rest ih =>
    have here := Text.not_mem_of_all apart (all c (by simp))
    rw [List.mem_append, not_or] at here
    exact .plain here.1 here.2 (ih fun d member => all d (by simp [member]))

theorem of_unmarked_append {avoid front text : Text} (nested : Nested avoid (front ++ text))
    (unmarked : ∀ c ∈ front, c ∉ marks) : Nested avoid text := by
  induction front with
  | nil => exact nested
  | cons c front ih =>
    rw [List.forall_mem_cons] at unmarked
    rw [List.cons_append] at nested
    generalize front ++ text = joined at nested ih
    cases nested with
    | plain _ _ later => exact ih later unmarked.2
    | quoted _ _ => exact absurd (by decide) unmarked.1
    | group bracket _ _ => exact absurd (by cases bracket <;> decide) unmarked.1

theorem of_append_unmarked {avoid text more : Text} (nested : Nested avoid (text ++ more))
    (unmarked : ∀ c ∈ more, c ∉ marks) : Nested avoid text := by
  generalize whole : text ++ more = joined at nested
  induction nested generalizing text with
  | nil =>
    obtain ⟨rfl, -⟩ := List.append_eq_nil_iff.1 whole
    exact .nil
  | plain plain free _ ih =>
    cases text with
    | nil => exact .nil
    | cons d text =>
      obtain ⟨rfl, onward⟩ := List.cons.inj whole
      exact .plain plain free (ih onward)
  | quoted units _ ih =>
    rw [List.append_cons] at whole
    obtain ⟨tail, rfl, onward⟩ := exists_of_append_eq whole fun member =>
      unmarked _ member (by decide)
    simpa using Nested.quoted units (ih onward)
  | group bracket inner _ _ ih =>
    rw [List.append_cons] at whole
    obtain ⟨tail, rfl, onward⟩ := exists_of_append_eq whole fun member =>
      unmarked _ member (by cases bracket <;> decide)
    simpa using Nested.group bracket inner (ih onward)

theorem enclose (bracket : Bracket) (inner : Nested [] a) :
    Nested avoid (bracket.opener :: a ++ [bracket.closer]) :=
  .group bracket inner .nil

theorem quote (units : Units a) : Nested avoid ('"' :: a ++ ['"']) := .quoted units .nil

end Nested

theorem nested_gap {avoid gap : Text} (apart : (marks ++ avoid).all fun c => !Text.isBlank c)
    (blank : Text.isAllBlank gap) : Nested avoid gap :=
  .of_class apart (Text.isAllBlank_iff.1 blank)

theorem not_mem_marks_of_isAllBlank {gap : Text} (blank : Text.isAllBlank gap) :
    ∀ c ∈ gap, c ∉ marks :=
  fun c member => Text.not_mem_of_all (by decide) (Text.isAllBlank_iff.1 blank c member)

theorem Nested.trimStart {avoid text : Text} (nested : Nested avoid text) :
    Nested avoid (Text.trimStart text) := by
  obtain ⟨gap, blank, whole⟩ := Text.exists_gap_trimStart text
  rw [whole] at nested
  exact nested.of_unmarked_append (not_mem_marks_of_isAllBlank blank)

theorem Nested.trimEnd {avoid text : Text} (nested : Nested avoid text) :
    Nested avoid (Text.trimEnd text) := by
  obtain ⟨gap, blank, whole⟩ := Text.exists_trimEnd_gap text
  rw [whole] at nested
  exact nested.of_append_unmarked (not_mem_marks_of_isAllBlank blank)

theorem nested_of_trim {text : Text} (nested : Nested [] (Text.trim text)) : Nested [] text := by
  obtain ⟨before, after, blankBefore, blankAfter, whole⟩ := Text.exists_gaps_trim text
  rw [whole]
  exact ((nested_gap (by decide) blankBefore).append nested).append
    (nested_gap (by decide) blankAfter)

end LineScript.Scan

namespace LineScript.Depth

open Scan (Bracket Units Nested marks)

structure Clear (depth : Depth) : Prop where
  unquoted : depth.inQuote = false
  unescaped : depth.escaped = false
  parens : 0 ≤ depth.parens
  brackets : 0 ≤ depth.brackets
  braces : 0 ≤ depth.braces

theorem clear_start : Clear {} := ⟨rfl, rfl, Int.le_refl 0, Int.le_refl 0, Int.le_refl 0⟩

@[simp] theorem after_nil (depth : Depth) : depth.after [] = depth := rfl

@[simp] theorem after_cons (depth : Depth) (c : Char) (rest : Text) :
    depth.after (c :: rest) = (depth.feed c).after rest := rfl

theorem after_append (depth : Depth) (a b : Text) :
    depth.after (a ++ b) = (depth.after a).after b := List.foldl_append

theorem feed_of_not_mem_marks {depth : Depth} (unquoted : depth.inQuote = false) {c : Char}
    (unmarked : c ∉ marks) : depth.feed c = depth := by
  simp only [marks, List.mem_cons, List.not_mem_nil, or_false, not_or] at unmarked
  simp only [feed, unquoted, feedPlain]
  split <;> simp_all

section

variable {depth : Depth} (clear : Clear depth)

include clear

theorem Clear.feed_opener (bracket : Bracket) :
    Clear (depth.feed bracket.opener) ∧ (depth.feed bracket.opener).isTop = false := by
  obtain ⟨unquoted, unescaped, parens, brackets, braces⟩ := clear
  cases bracket <;>
    refine ⟨⟨?_, ?_, ?_, ?_, ?_⟩, ?_⟩ <;>
    simp only [feed, unquoted, feedPlain, Bracket.opener, Bool.false_eq_true, if_false, isTop,
      unescaped, Bool.and_eq_false_iff, beq_eq_false_iff_ne] <;>
    omega

theorem Clear.feed_opener_feed_closer (bracket : Bracket) :
    (depth.feed bracket.opener).feed bracket.closer = depth := by
  obtain ⟨parens, brackets, braces, inQuote, escaped⟩ := depth
  have unquoted : inQuote = false := clear.unquoted
  cases bracket <;> simp [feed, unquoted, feedPlain, Bracket.opener, Bracket.closer]

theorem Clear.feed_quote :
    (depth.feed '"').inQuote = true ∧ (depth.feed '"').escaped = false := by
  simp [feed, clear.unquoted, clear.unescaped, feedPlain]

theorem Clear.feed_quote_feed_quote : (depth.feed '"').feed '"' = depth := by
  obtain ⟨parens, brackets, braces, inQuote, escaped⟩ := depth
  have unquoted : inQuote = false := clear.unquoted
  have unescaped : escaped = false := clear.unescaped
  simp [feed, feedPlain, feedQuoted, unquoted, unescaped]

end

section

variable {depth : Depth} (quoted : depth.inQuote = true) (unescaped : depth.escaped = false)

include quoted unescaped

theorem feed_of_quoted {c : Char} (quote : c ≠ '"') (slash : c ≠ '\\') : depth.feed c = depth := by
  obtain ⟨parens, brackets, braces, inQuote, escaped⟩ := depth
  simp only at quoted unescaped
  simp [feed, feedQuoted, quoted, unescaped, quote, slash]

theorem feed_slash : depth.feed '\\' = { depth with escaped := true } := by
  simp [feed, feedQuoted, quoted, unescaped]

theorem feed_slash_feed (c : Char) : (depth.feed '\\').feed c = depth := by
  rw [feed_slash quoted unescaped]
  obtain ⟨parens, brackets, braces, inQuote, escaped⟩ := depth
  simp only at quoted unescaped
  by_cases slash : c = '\\' <;> simp [feed, feedQuoted, quoted, unescaped, slash]

theorem after_units {body : Text} (units : Units body) : depth.after body = depth := by
  induction units with
  | nil => rfl
  | plain quote slash _ ih => rw [after_cons, feed_of_quoted quoted unescaped quote slash, ih]
  | escape c _ ih => rw [after_cons, after_cons, feed_slash_feed quoted unescaped, ih]

end

/-- Where string literals begin and end does not depend on the brackets. -/
theorem literal_feed_congr {depth other : Depth} (quoted : depth.inQuote = other.inQuote)
    (escaped : depth.escaped = other.escaped) (c : Char) :
    (depth.feed c).inQuote = (other.feed c).inQuote ∧
      (depth.feed c).escaped = (other.feed c).escaped := by
  obtain ⟨_, _, _, inQuote, isEscaped⟩ := depth
  obtain ⟨_, _, _, _, _⟩ := other
  obtain rfl : inQuote = _ := quoted
  obtain rfl : isEscaped = _ := escaped
  cases inQuote with
  | true =>
    simp only [feed, if_true, feedQuoted]
    repeat' split
    all_goals exact ⟨rfl, rfl⟩
  | false =>
    simp only [feed, Bool.false_eq_true, if_false, feedPlain]
    split <;> exact ⟨rfl, rfl⟩

theorem after_nested {depth : Depth} (clear : Clear depth) {avoid text : Text}
    (nested : Nested avoid text) : depth.after text = depth := by
  induction nested generalizing depth with
  | nil => rfl
  | plain unmarked _ _ ih =>
    rw [after_cons, feed_of_not_mem_marks clear.unquoted unmarked, ih clear]
  | quoted units _ ih =>
    obtain ⟨quoted, unescaped⟩ := clear.feed_quote
    rw [List.cons_append, after_cons, after_append, after_units quoted unescaped units, after_cons,
      clear.feed_quote_feed_quote, ih clear]
  | group bracket _ _ inner outer =>
    rw [List.cons_append, after_cons, after_append, inner (clear.feed_opener bracket).1, after_cons,
      clear.feed_opener_feed_closer, outer clear]

/-- Whether a scan from `depth` goes through the whole text without meeting a
character at which it stops. -/
def Passes (stops : Depth → Char → Bool) : Depth → Text → Prop
  | _, [] => True
  | depth, c :: rest => stops depth c = false ∧ Passes stops (depth.feed c) rest

variable {stops : Depth → Char → Bool}

theorem passes_append {depth : Depth} {a b : Text} :
    Passes stops depth (a ++ b) ↔ Passes stops depth a ∧ Passes stops (depth.after a) b := by
  induction a generalizing depth with
  | nil => simp [Passes]
  | cons c rest ih => simp [Passes, ih, and_assoc]

theorem passes_delimited {depth : Depth} {first last : Char} {body rest : Text}
    (opens : stops depth first = false) (through : Passes stops (depth.feed first) body)
    (kept : (depth.feed first).after body = depth.feed first)
    (closes : stops (depth.feed first) last = false)
    (back : (depth.feed first).feed last = depth) (onward : Passes stops depth rest) :
    Passes stops depth (first :: body ++ last :: rest) := by
  refine ⟨opens, passes_append.2 ⟨through, ?_⟩⟩
  rw [kept]
  exact ⟨closes, by rwa [back]⟩

theorem passes_units (quiet : ∀ depth c, (depth.feed c).inQuote = true → stops depth c = false)
    {depth : Depth} (quoted : depth.inQuote = true) (unescaped : depth.escaped = false)
    {body : Text} (units : Units body) : Passes stops depth body := by
  induction units with
  | nil => trivial
  | plain quote slash _ ih =>
    have same := feed_of_quoted quoted unescaped quote slash
    exact ⟨quiet _ _ (by rw [same, quoted]), by rwa [same]⟩
  | escape c _ ih =>
    have same := feed_slash_feed quoted unescaped c
    refine ⟨quiet _ _ ?_, quiet _ _ (by rw [same, quoted]), by rwa [same]⟩
    rw [feed_slash quoted unescaped, quoted]

theorem isTop_of_inQuote {depth : Depth} (quoted : depth.inQuote = true) :
    depth.isTop = false := by
  simp [isTop, quoted]

theorem passes_inside (quiet : ∀ depth c, (depth.feed c).isTop = false → stops depth c = false)
    {depth : Depth} (clear : Clear depth) (inside : depth.isTop = false)
    {avoid text : Text} (nested : Nested avoid text) : Passes stops depth text := by
  induction nested generalizing depth with
  | nil => trivial
  | plain unmarked _ _ ih =>
    have same := feed_of_not_mem_marks clear.unquoted unmarked
    exact ⟨quiet _ _ (by rw [same, inside]), by rw [same]; exact ih clear inside⟩
  | quoted units _ ih =>
    obtain ⟨quoted, unescaped⟩ := clear.feed_quote
    have back := clear.feed_quote_feed_quote
    refine passes_delimited (quiet _ _ (isTop_of_inQuote quoted)) ?_
      (after_units quoted unescaped units) (quiet _ _ (by rw [back, inside])) back (ih clear inside)
    exact passes_units (fun _ _ still => quiet _ _ (isTop_of_inQuote still)) quoted unescaped units
  | group bracket body _ inner outer =>
    obtain ⟨opened, within⟩ := clear.feed_opener bracket
    have back := clear.feed_opener_feed_closer bracket
    exact passes_delimited (quiet _ _ within) (inner opened within) (after_nested opened body)
      (quiet _ _ (by rw [back, inside])) back (outer clear inside)

/-- At top level a scan that stops only at certain characters of that level passes
every nested text that avoids them. -/
theorem passes_top {avoid text : Text}
    (quiet : ∀ depth c, depth.keepsTop c = false ∨ c ∉ avoid → stops depth c = false)
    (nested : Nested avoid text) : Passes stops {} text := by
  have deeper : ∀ depth c, (depth.feed c).isTop = false → stops depth c = false :=
    fun depth c below => quiet depth c (.inl (by rw [keepsTop, below, Bool.and_false]))
  induction nested with
  | nil => trivial
  | plain unmarked free _ ih =>
    exact ⟨quiet _ _ (.inr free), by rw [feed_of_not_mem_marks rfl unmarked]; exact ih quiet⟩
  | quoted units _ ih =>
    obtain ⟨quoted, unescaped⟩ := clear_start.feed_quote
    refine passes_delimited (deeper _ _ (isTop_of_inQuote quoted)) ?_
      (after_units quoted unescaped units) (quiet _ _ (.inl ?_)) clear_start.feed_quote_feed_quote
      (ih quiet)
    · exact passes_units (fun _ _ still => deeper _ _ (isTop_of_inQuote still)) quoted unescaped
        units
    · rw [keepsTop, isTop_of_inQuote quoted, Bool.false_and]
  | group bracket body _ _ outer =>
    obtain ⟨opened, within⟩ := clear_start.feed_opener bracket
    refine passes_delimited (deeper _ _ within) (passes_inside deeper opened within body)
      (after_nested opened body) (quiet _ _ (.inl ?_)) (clear_start.feed_opener_feed_closer bracket)
      (outer quiet)
    rw [keepsTop, within, Bool.false_and]

end LineScript.Depth
