import LineScript.Proofs.Scan.Nesting

/-! Proper nesting as a scan decides it that remembers which brackets are open. A closing
bracket has to match the one that was opened last, and at the end of the text no bracket
and no string literal may be open. The scan accepts the nested texts and no others. -/
namespace LineScript.Scan

namespace Bracket

def ofOpener? (c : Char) : Option Bracket :=
  [paren, square, curly].find? fun bracket => bracket.opener == c

def ofCloser? (c : Char) : Option Bracket :=
  [paren, square, curly].find? fun bracket => bracket.closer == c

end Bracket

/-- The open brackets, the innermost first, and the state of the scan in a string
literal. -/
structure Stack where
  opened : List Bracket := []
  inQuote : Bool := false
  escaped : Bool := false
deriving DecidableEq, Repr

namespace Stack

def feedQuoted (stack : Stack) (c : Char) : Stack :=
  if stack.escaped then { stack with escaped := false }
  else if c = '\\' then { stack with escaped := true }
  else if c = '"' then { stack with inQuote := false }
  else stack

def quote (stack : Stack) : Stack := { stack with inQuote := true }

def push (stack : Stack) (bracket : Bracket) : Stack :=
  { stack with opened := bracket :: stack.opened }

/-- Closes the innermost bracket, which has to be of the given kind. -/
def pop? (stack : Stack) (bracket : Bracket) : Option Stack :=
  match stack.opened with
  | [] => none
  | innermost :: opened => if innermost = bracket then some { stack with opened } else none

def feedPlain? (stack : Stack) (c : Char) : Option Stack :=
  if c = '"' then some stack.quote
  else
    match Bracket.ofOpener? c, Bracket.ofCloser? c with
    | some bracket, _ => some (stack.push bracket)
    | none, some bracket => stack.pop? bracket
    | none, none => some stack

/-- The stack after one more character, unless a bracket is closed out of order. -/
def feed? (stack : Stack) (c : Char) : Option Stack :=
  if stack.inQuote then some (stack.feedQuoted c) else stack.feedPlain? c

def after? (stack : Stack) (text : Text) : Option Stack := text.foldlM feed? stack

theorem after?_cons (stack : Stack) (c : Char) (text : Text) :
    stack.after? (c :: text) = (stack.feed? c).bind fun next => next.after? text := by
  rw [after?, List.foldlM_cons]
  rfl

theorem after?_append (stack : Stack) (a b : Text) :
    stack.after? (a ++ b) = (stack.after? a).bind fun next => next.after? b := by
  rw [after?, List.foldlM_append]
  rfl

theorem feed?_of_not_mem_marks {stack : Stack} (unquoted : stack.inQuote = false) {c : Char}
    (unmarked : c ∉ marks) : stack.feed? c = some stack := by
  simp only [marks, List.mem_cons, List.not_mem_nil, or_false, not_or] at unmarked
  obtain ⟨quote, paren, parenEnd, square, squareEnd, curly, curlyEnd⟩ := unmarked
  have opener : Bracket.ofOpener? c = none := by
    simp [Bracket.ofOpener?, Bracket.opener, Ne.symm paren, Ne.symm square, Ne.symm curly]
  have closer : Bracket.ofCloser? c = none := by
    simp [Bracket.ofCloser?, Bracket.closer, Ne.symm parenEnd, Ne.symm squareEnd, Ne.symm curlyEnd]
  rw [feed?, unquoted, feedPlain?, if_neg quote, opener, closer]
  rfl

theorem feed?_opener {stack : Stack} (unquoted : stack.inQuote = false) (bracket : Bracket) :
    stack.feed? bracket.opener = some (stack.push bracket) := by
  rw [feed?, unquoted]
  cases bracket <;> rfl

theorem feed?_closer {stack : Stack} (unquoted : stack.inQuote = false) (bracket : Bracket) :
    (stack.push bracket).feed? bracket.closer = some stack := by
  obtain ⟨opened, inQuote, escaped⟩ := stack
  simp only at unquoted
  rw [feed?, push, unquoted]
  cases bracket <;> rfl

theorem feed?_quote {stack : Stack} (unquoted : stack.inQuote = false) :
    stack.feed? '"' = some stack.quote := by
  rw [feed?, unquoted]
  rfl

theorem feed?_quote_end {stack : Stack} (unquoted : stack.inQuote = false)
    (unescaped : stack.escaped = false) : stack.quote.feed? '"' = some stack := by
  obtain ⟨opened, inQuote, escaped⟩ := stack
  simp only at unquoted unescaped
  rw [unquoted, unescaped]
  rfl

theorem after?_units {stack : Stack} (quoted : stack.inQuote = true)
    (unescaped : stack.escaped = false) {body : Text} (units : Units body) :
    stack.after? body = some stack := by
  induction units with
  | nil => rfl
  | plain quote slash _ ih =>
    simpa [after?_cons, feed?, feedQuoted, quoted, unescaped, quote, slash]
  | escape c _ ih =>
    obtain ⟨opened, inQuote, escaped⟩ := stack
    simp only at quoted unescaped
    rw [quoted, unescaped] at ih ⊢
    simpa [after?_cons, feed?, feedQuoted] using ih

theorem after?_nested {stack : Stack} (unquoted : stack.inQuote = false)
    (unescaped : stack.escaped = false) {avoid text : Text} (nested : Nested avoid text) :
    stack.after? text = some stack := by
  induction nested generalizing stack with
  | nil => rfl
  | plain unmarked _ _ ih =>
    rw [after?_cons, feed?_of_not_mem_marks unquoted unmarked, Option.bind_some,
      ih unquoted unescaped]
  | quoted units _ ih =>
    have quoted : stack.quote.inQuote = true := rfl
    rw [List.cons_append, after?_cons, feed?_quote unquoted, Option.bind_some, after?_append,
      after?_units quoted unescaped units, Option.bind_some, after?_cons,
      feed?_quote_end unquoted unescaped, Option.bind_some, ih unquoted unescaped]
  | group bracket _ _ inner outer =>
    have within : (stack.push bracket).after? _ = _ := inner unquoted unescaped
    rw [List.cons_append, after?_cons, feed?_opener unquoted, Option.bind_some, after?_append,
      within, Option.bind_some, after?_cons, feed?_closer unquoted,
      Option.bind_some, outer unquoted unescaped]

end Stack

/-- Whether brackets are closed in the reverse order of their opening, each by its own
kind, and string literals are closed. -/
def isNested (text : Text) : Bool := Stack.after? {} text == some {}

theorem Nested.isNested {avoid text : Text} (nested : Nested avoid text) :
    isNested text = true := by
  rw [Scan.isNested, Stack.after?_nested rfl rfl nested]
  rfl

example : isNested ['(', '[', ')', ']'] = false := by decide

inductive Closes : List Bracket → Text → Prop where
  | done {text : Text} : Nested [] text → Closes [] text
  | close {bracket : Bracket} {opened : List Bracket} {body rest : Text} :
      Nested [] body → Closes opened rest →
        Closes (bracket :: opened) (body ++ bracket.closer :: rest)

theorem Closes.prepend {opened : List Bracket} {front text : Text} (nested : Nested [] front)
    (closes : Closes opened text) : Closes opened (front ++ text) := by
  cases closes with
  | done inner => exact .done (nested.append inner)
  | close inner outer =>
    rw [← List.append_assoc]
    exact .close (nested.append inner) outer

namespace Stack

theorem exists_units_of_after? {opened : List Bracket} {text : Text}
    (ends : after? ⟨opened, true, false⟩ text = some {}) :
    ∃ body rest, text = body ++ '"' :: rest ∧ Units body ∧
      after? ⟨opened, false, false⟩ rest = some {} := by
  -- After a backslash the scan is one character away from the state of the statement.
  suffices
      (after? ⟨opened, true, false⟩ text = some {} → ∃ body rest, text = body ++ '"' :: rest ∧
        Units body ∧ after? ⟨opened, false, false⟩ rest = some {}) ∧
      (after? ⟨opened, true, true⟩ text = some {} → ∃ c body rest, text = c :: body ++ '"' :: rest ∧
        Units body ∧ after? ⟨opened, false, false⟩ rest = some {}) from this.1 ends
  clear ends
  induction text with
  | nil => simp [after?]
  | cons c text ih =>
    constructor
    · intro ends
      rw [after?_cons] at ends
      by_cases slash : c = '\\'
      · obtain ⟨d, body, rest, rfl, units, later⟩ :=
          ih.2 (by simpa [slash, feed?, feedQuoted] using ends)
        exact ⟨'\\' :: d :: body, rest, by simp [slash], .escape d units, later⟩
      · by_cases quote : c = '"'
        · exact ⟨[], text, by simp [quote], .nil, by simpa [quote, feed?, feedQuoted] using ends⟩
        · obtain ⟨body, rest, rfl, units, later⟩ :=
            ih.1 (by simpa [slash, quote, feed?, feedQuoted] using ends)
          exact ⟨c :: body, rest, rfl, .plain quote slash units, later⟩
    · intro ends
      rw [after?_cons] at ends
      obtain ⟨body, rest, rfl, units, later⟩ := ih.1 (by simpa [feed?, feedQuoted] using ends)
      exact ⟨c, body, rest, rfl, units, later⟩

theorem eq_of_feed?_closer {opened : List Bracket} {bracket : Bracket} {next : Stack}
    (fed : feed? ⟨opened, false, false⟩ bracket.closer = some next) :
    ∃ outer, opened = bracket :: outer ∧ next = ⟨outer, false, false⟩ := by
  have pops : pop? ⟨opened, false, false⟩ bracket = some next := by
    cases bracket <;> exact fed
  cases opened with
  | nil => cases pops
  | cons innermost outer =>
    simp only [pop?, Option.ite_none_right_eq_some, Option.some.injEq] at pops
    obtain ⟨rfl, rfl⟩ := pops
    exact ⟨outer, rfl, rfl⟩

/-- A scan that ends with nothing open has closed what was open, in order. The recursion is on
the length of the text, since a string literal is passed at once. -/
theorem closes_of_after? {opened : List Bracket} :
    (text : Text) → after? ⟨opened, false, false⟩ text = some {} → Closes opened text
  | [], ends => by
    obtain rfl : opened = [] := by simpa [after?] using ends
    exact .done .nil
  | c :: text, ends => by
    rw [after?_cons] at ends
    rcases mark_cases c with unmarked | rfl | ⟨bracket, rfl | rfl⟩
    · rw [feed?_of_not_mem_marks rfl unmarked] at ends
      exact (closes_of_after? text ends).prepend (.plain unmarked List.not_mem_nil .nil)
    · obtain ⟨body, rest, whole, units, later⟩ := exists_units_of_after? ends
      have literal : Nested [] ('"' :: body ++ ['"']) := .quote units
      have shorter : rest.length < text.length := by
        rw [whole, List.length_append, List.length_cons]
        omega
      simpa [whole] using (closes_of_after? rest later).prepend literal
    · rw [feed?_opener rfl] at ends
      obtain _ | ⟨inner, outer⟩ := closes_of_after? text ends
      simpa using outer.prepend (.enclose bracket inner)
    · obtain ⟨next, fed, later⟩ := Option.bind_eq_some_iff.1 ends
      obtain ⟨outer, rfl, rfl⟩ := eq_of_feed?_closer fed
      exact .close .nil (closes_of_after? text later)
termination_by text => text.length
decreasing_by all_goals simp only [List.length_cons]; omega

end Stack

theorem nested_of_isNested {text : Text} (accepted : isNested text = true) : Nested [] text := by
  obtain ⟨nested⟩ := Stack.closes_of_after? text (eq_of_beq accepted)
  exact nested

end LineScript.Scan
