import LineScript.Proofs.Scan.Identifier
import LineScript.Proofs.Scan.Nesting
import LineScript.Scan.Comment

/-! Where comments begin. Blanks are never part of the comment marker, so blanks around a
text do not change what is stripped from it, and a comment behind a text is stripped when
the text leaves no string literal open. What is stripped is a comment, nothing more is stripped
from a text that has been stripped, and whether a list between commas holds a comment is seen on
its parts. -/
namespace LineScript

open Text (isAllBlank isBlank Tight)

theorem Text.dropStart?_append {start text more : Text} (apart : ∀ c ∈ more.head?, c ∉ start) :
    Text.dropStart? start (text ++ more) = (Text.dropStart? start text).map (· ++ more) := by
  induction start generalizing text with
  | nil => simp [Text.dropStart?]
  | cons s start ih =>
    cases text with
    | nil =>
      cases more with
      | nil => rfl
      | cons c more =>
        have other : s ≠ c := fun same => apart c (by simp) (by simp [same])
        simp [Text.dropStart?, other]
    | cons c text =>
      have later := @ih text fun c member among => apart c member (by simp [among])
      by_cases same : s = c
      · simp [Text.dropStart?, same, later]
      · simp [Text.dropStart?, same]

namespace Scan

/-- Whether the marker word begins at a place is seen without looking past the next
character that cannot belong to a word. -/
theorem startsCommentWord_append {more : Text} (apart : Apart more) (before : Option Char)
    (text : Text) : startsCommentWord before (text ++ more) = startsCommentWord before text := by
  have outside : ∀ c ∈ more.head?, c ∉ commentWord := by
    intro c member among
    have word : commentWord.all isIdentifierChar = true := by decide
    have inside := List.all_eq_true.1 word c among
    rw [apart c member] at inside
    cases inside
  rw [startsCommentWord, startsCommentWord, Text.dropStart?_append outside]
  cases Text.dropStart? commentWord text with
  | none => rfl
  | some after =>
    cases after with
    | nil =>
      cases more with
      | nil => rfl
      | cons c more => simp [apart_cons.1 apart]
    | cons c after => rfl

theorem startsCommentWord_of_isBlank {c : Char} (blank : isBlank c = true) (before : Option Char)
    (text : Text) : startsCommentWord before (c :: text) = false := by
  have other : 't' ≠ c := by
    rintro rfl
    cases blank
  simp [startsCommentWord, commentWord, Text.dropStart?, other]

theorem stripCommentFrom_of_isBlank {c : Char} (blank : isBlank c = true) (depth : Depth)
    (before : Option Char) (text : Text) :
    stripCommentFrom depth before (c :: text) =
      c :: stripCommentFrom (depth.feed c) (some c) text := by
  have hash : (c == '#') = false := beq_false_of_ne (by rintro rfl; cases blank)
  rw [stripCommentFrom, hash, startsCommentWord_of_isBlank blank]
  simp

theorem stripCommentFrom_before {before other : Option Char}
    (same : before.any isIdentifierChar = other.any isIdentifierChar) (depth : Depth)
    (text : Text) : stripCommentFrom depth before text = stripCommentFrom depth other text := by
  cases text with
  | nil => rfl
  | cons c rest =>
    have starts : startsCommentWord before (c :: rest) = startsCommentWord other (c :: rest) := by
      rw [startsCommentWord, startsCommentWord, same]
    rw [stripCommentFrom, starts, stripCommentFrom]

theorem feed_of_isBlank {depth : Depth} (unquoted : depth.inQuote = false) {c : Char}
    (blank : isBlank c = true) : depth.feed c = depth :=
  Depth.feed_of_not_mem_marks unquoted (Text.not_mem_of_all (by decide) blank)

theorem stripCommentFrom_gap {depth : Depth} (unquoted : depth.inQuote = false) {gap : Text}
    (blank : isAllBlank gap) {before : Option Char}
    (apart : gap = [] → before.any isIdentifierChar = false) (text : Text) :
    stripCommentFrom depth before (gap ++ text) = gap ++ stripCommentFrom depth none text := by
  induction gap generalizing before with
  | nil => exact stripCommentFrom_before (apart rfl) depth text
  | cons c rest ih =>
    rw [Text.isAllBlank_cons, Bool.and_eq_true] at blank
    rw [List.cons_append, stripCommentFrom_of_isBlank blank.1, feed_of_isBlank unquoted blank.1,
      ih blank.2 fun _ => by simp [not_isIdentifierChar_of_isBlank blank.1]]
    rfl

theorem stripCommentFrom_append {depth : Depth} {before : Option Char} {text : Text}
    (kept : stripCommentFrom depth before text = text) {more : Text} (apart : Apart more) :
    stripCommentFrom depth before (text ++ more) =
      text ++ stripCommentFrom (depth.after text) (text.getLast?.or before) more := by
  induction text generalizing depth before with
  | nil => simp
  | cons c rest ih =>
    rw [stripCommentFrom] at kept
    split at kept
    next => cases kept
    next here =>
      have later := ih (List.cons.inj kept).2
      rw [List.cons_append, stripCommentFrom, ← List.cons_append,
        startsCommentWord_append apart, if_neg here, later, Depth.after_cons]
      cases rest with
      | nil => simp
      | cons d rest => simp [List.getLast?_cons]

section

variable {depth : Depth}

theorem stripCommentFrom_of_quoted (quoted : depth.inQuote = true) (before : Option Char) (c : Char)
    (text : Text) : stripCommentFrom depth before (c :: text) =
      c :: stripCommentFrom (depth.feed c) (some c) text := by
  rw [stripCommentFrom, quoted]
  rfl

theorem stripCommentFrom_units (quoted : depth.inQuote = true) (unescaped : depth.escaped = false)
    {body : Text} (units : Units body) (before : Option Char) (rest : Text) :
    stripCommentFrom depth before (body ++ '"' :: rest) =
      body ++ '"' :: stripCommentFrom (depth.feed '"') (some '"') rest := by
  induction units generalizing before with
  | nil => exact stripCommentFrom_of_quoted quoted before '"' rest
  | @plain c _ quote slash _ ih =>
    rw [List.cons_append, stripCommentFrom_of_quoted quoted,
      Depth.feed_of_quoted quoted unescaped quote slash, ih]
    rfl
  | escape c _ ih =>
    have still : (depth.feed '\\').inQuote = true := by
      rw [Depth.feed_slash quoted unescaped, quoted]
    rw [List.cons_append, List.cons_append, stripCommentFrom_of_quoted quoted,
      stripCommentFrom_of_quoted still, Depth.feed_slash_feed quoted unescaped, ih]
    rfl

theorem stripCommentFrom_literal (clear : depth.Clear) {body : Text} (units : Units body)
    (before : Option Char) (rest : Text) :
    stripCommentFrom depth before ('"' :: body ++ '"' :: rest) =
      '"' :: body ++ '"' :: stripCommentFrom depth (some '"') rest := by
  obtain ⟨quoted, unescaped⟩ := clear.feed_quote
  have start : startsCommentWord before ('"' :: (body ++ '"' :: rest)) = false := rfl
  rw [List.cons_append, stripCommentFrom, start, stripCommentFrom_units quoted unescaped units,
    clear.feed_quote_feed_quote]
  simp

end

inductive Comment : Text → Prop where
  | hash (rest : Text) : Comment ('#' :: rest)
  | word {rest : Text} : Apart rest → Comment (commentWord ++ rest)

theorem Comment.stripCommentFrom {text : Text} (comment : Comment text) {depth : Depth}
    (unquoted : depth.inQuote = false) : stripCommentFrom depth none text = [] := by
  cases comment with
  | hash rest => simp [Scan.stripCommentFrom, unquoted]
  | @word rest apart =>
    have starts : startsCommentWord none (commentWord ++ rest) = true := by
      rw [startsCommentWord_append apart]
      decide
    rw [commentWord, List.cons_append] at starts ⊢
    rw [Scan.stripCommentFrom, unquoted, starts]
    simp

theorem apart_gap {gap text : Text} (blank : isAllBlank gap) (nonempty : gap ≠ []) :
    Apart (gap ++ text) := by
  obtain ⟨c, rest, rfl⟩ := List.exists_cons_of_ne_nil nonempty
  rw [Text.isAllBlank_cons, Bool.and_eq_true] at blank
  exact apart_cons.2 (not_isIdentifierChar_of_isBlank blank.1)

theorem stripComment_gap {gap : Text} (blank : isAllBlank gap) (text : Text) :
    stripComment (gap ++ text) = gap ++ stripComment text :=
  stripCommentFrom_gap rfl blank (fun _ => rfl) text

theorem content_gap {gap : Text} (blank : isAllBlank gap) (text : Text) :
    content (gap ++ text) = content text := by
  rw [content, stripComment_gap blank, Text.trim_blank_append blank, content]

theorem content_blank {gap : Text} (blank : isAllBlank gap) : content gap = [] := by
  have empty := content_gap blank []
  rwa [List.append_nil] at empty

theorem content_comment {gap comment : Text} (blank : isAllBlank gap) (remark : Comment comment) :
    content (gap ++ comment) = [] := by
  rw [content_gap blank, content, stripComment, remark.stripCommentFrom rfl]
  rfl

section

variable {text : Text} (tight : Tight text) (bare : stripComment text = text)

include tight bare

theorem content_text : content text = text := by
  rw [content, bare, tight.trim_eq]

theorem content_text_comment (closed : (Depth.after {} text).inQuote = false) {gap comment : Text}
    (blank : isAllBlank gap) (nonempty : gap ≠ []) (remark : Comment comment) :
    content (text ++ (gap ++ comment)) = text := by
  rw [content, stripComment, stripCommentFrom_append bare (apart_gap blank nonempty),
    stripCommentFrom_gap closed blank (absurd · nonempty), remark.stripCommentFrom closed,
    List.append_nil, Text.trim_append_blank _ blank, tight.trim_eq]

end

theorem stripCommentFrom_of_isAllBlank {gap : Text} (blank : isAllBlank gap) (depth : Depth)
    (before : Option Char) : stripCommentFrom depth before gap = gap := by
  induction gap generalizing depth before with
  | nil => rfl
  | cons c rest ih =>
    rw [Text.isAllBlank_cons, Bool.and_eq_true] at blank
    rw [stripCommentFrom_of_isBlank blank.1, ih blank.2]

theorem content_append_blank (text : Text) {gap : Text} (blank : isAllBlank gap) :
    content (text ++ gap) = content text := by
  have apart : Apart gap := by simpa using apart_nil.gap blank
  suffices ∀ depth before, ∃ rest, isAllBlank rest ∧
      stripCommentFrom depth before (text ++ gap) = stripCommentFrom depth before text ++ rest by
    obtain ⟨rest, empty, whole⟩ := this {} none
    rw [content, stripComment, whole, Text.trim_append_blank _ empty, content, stripComment]
  induction text with
  | nil => exact fun depth before => ⟨gap, blank, stripCommentFrom_of_isAllBlank blank depth before⟩
  | cons c text ih =>
    intro depth before
    obtain ⟨rest, empty, later⟩ := ih (depth.feed c) (some c)
    rw [List.cons_append, stripCommentFrom, ← List.cons_append, startsCommentWord_append apart,
      stripCommentFrom]
    split
    · exact ⟨[], rfl, rfl⟩
    · exact ⟨rest, empty, by rw [later]; rfl⟩

/-- A text of which a scan from the given state strips nothing. -/
def Bare (depth : Depth) (before : Option Char) (text : Text) : Prop :=
  stripCommentFrom depth before text = text

theorem bare_append {depth : Depth} {before : Option Char} {text more : Text}
    (apart : Apart more) : Bare depth before (text ++ more) ↔
      Bare depth before text ∧ Bare (depth.after text) (text.getLast?.or before) more := by
  constructor
  · intro bare
    suffices kept : Bare depth before text by
      rw [Bare, stripCommentFrom_append kept apart] at bare
      exact ⟨kept, List.append_cancel_left bare⟩
    induction text generalizing depth before with
    | nil => rfl
    | cons c text ih =>
      rw [Bare, List.cons_append, stripCommentFrom, ← List.cons_append,
        startsCommentWord_append apart] at bare
      rw [Bare, stripCommentFrom]
      split at bare
      next => cases bare
      next here =>
        rw [if_neg here, show stripCommentFrom _ _ text = text from ih (List.cons.inj bare).2]
  · rintro ⟨kept, later⟩
    rw [Bare, stripCommentFrom_append kept apart, show stripCommentFrom _ _ more = more from later]

theorem stripCommentFrom_congr {depth other : Depth} (quoted : depth.inQuote = other.inQuote)
    (escaped : depth.escaped = other.escaped) (before : Option Char) (text : Text) :
    stripCommentFrom depth before text = stripCommentFrom other before text := by
  induction text generalizing depth other before with
  | nil => rfl
  | cons c text ih =>
    obtain ⟨still, onward⟩ := Depth.literal_feed_congr quoted escaped c
    rw [stripCommentFrom, stripCommentFrom, quoted, ih still onward]

theorem bare_blank_cons {c : Char} (blank : isBlank c = true) {depth : Depth}
    {before : Option Char} {text : Text} :
    Bare depth before (c :: text) ↔ Bare (depth.feed c) none text := by
  have apart : (some c).any isIdentifierChar = none.any isIdentifierChar := by
    simp [not_isIdentifierChar_of_isBlank blank]
  rw [Bare, stripCommentFrom_of_isBlank blank, stripCommentFrom_before apart, List.cons.injEq,
    Bare, and_iff_right rfl]

/-- The place at which a comment begins: outside string literals, and behind the character
`before`. -/
structure Marks (depth : Depth) (before : Option Char) (text : Text) : Prop where
  unquoted : depth.inQuote = false
  begins : text.head? = some '#' ∨ startsCommentWord before text = true

theorem exists_cut (depth : Depth) (before : Option Char) (text : Text) :
    ∃ cut, text = stripCommentFrom depth before text ++ cut ∧
      (cut = [] ∨ Marks (depth.after (stripCommentFrom depth before text))
        ((stripCommentFrom depth before text).getLast?.or before) cut) := by
  induction text generalizing depth before with
  | nil => exact ⟨[], rfl, .inl rfl⟩
  | cons c text ih =>
    rw [stripCommentFrom]
    split
    next here =>
      rw [Bool.and_eq_true, Bool.or_eq_true] at here
      refine ⟨c :: text, rfl, .inr ⟨by simpa using here.1, here.2.imp_left fun hash => ?_⟩⟩
      rw [eq_of_beq hash]
      rfl
    next =>
      obtain ⟨cut, whole, marked⟩ := ih (depth.feed c) (some c)
      refine ⟨cut, by rw [List.cons_append, ← whole], ?_⟩
      simpa [List.getLast?_cons] using marked

/-- At the place of a comment the marker word either does not go on or has already ended. -/
theorem Marks.apart_or {depth : Depth} {before : Option Char} {text : Text}
    (marks : Marks depth before text) :
    Apart text ∨ before.any isIdentifierChar = false := by
  rcases marks.begins with hash | word
  · refine .inl fun c member => ?_
    rw [hash] at member
    cases member
    decide
  · refine .inr ?_
    rw [startsCommentWord] at word
    split at word
    next => cases word
    next => simpa using (Bool.and_eq_true_iff.1 word).1

theorem startsCommentWord_of_cut {before : Option Char} {text cut : Text}
    (bound : Apart cut ∨ text.getLast?.any isIdentifierChar = false)
    (starts : startsCommentWord before text = true) :
    startsCommentWord before (text ++ cut) = true := by
  rcases bound with apart | ended
  · rwa [startsCommentWord_append apart]
  · rw [startsCommentWord] at starts
    split at starts
    next => cases starts
    next after word =>
      obtain rfl := Text.dropStart?_eq_some.1 word
      cases after with
      | nil => simp [commentWord, show isIdentifierChar 'i' = true by decide] at ended
      | cons c after =>
        have onward : Text.dropStart? commentWord (commentWord ++ c :: after ++ cut) =
            some (c :: after ++ cut) := Text.dropStart?_eq_some.2 (List.append_assoc ..)
        rw [startsCommentWord, onward]
        exact starts

theorem bare_stripCommentFrom (depth : Depth) (before : Option Char) (text : Text) :
    Bare depth before (stripCommentFrom depth before text) := by
  induction text generalizing depth before with
  | nil => rfl
  | cons c text ih =>
    rw [stripCommentFrom]
    split
    next => rfl
    next here =>
      obtain ⟨cut, whole, marked⟩ := exists_cut (depth.feed c) (some c) text
      have bound := marked.elim (fun uncut => .inl (uncut ▸ apart_nil)) Marks.apart_or
      have later := ih (depth.feed c) (some c)
      generalize stripCommentFrom (depth.feed c) (some c) text = kept at whole bound later
      have same : (c :: kept).getLast?.any isIdentifierChar =
          (kept.getLast?.or (some c)).any isIdentifierChar := by
        cases kept <;> simp [List.getLast?_cons]
      rw [Bare, stripCommentFrom, if_neg, later]
      intro starts
      refine here ?_
      rw [Bool.and_eq_true, Bool.or_eq_true] at starts ⊢
      refine ⟨starts.1, starts.2.imp_right fun word => ?_⟩
      rw [whole, ← List.cons_append]
      exact startsCommentWord_of_cut (bound.imp_right (same.trans ·)) word

theorem Bare.trim {depth : Depth} (unquoted : depth.inQuote = false) {text : Text}
    (bare : Bare depth none text) : Bare depth none (Text.trim text) := by
  obtain ⟨before, after, blankBefore, blankAfter, whole⟩ := Text.exists_gaps_trim text
  have apart : Apart after := by simpa using apart_nil.gap blankAfter
  rw [Bare, whole, List.append_assoc,
    stripCommentFrom_gap unquoted blankBefore fun _ => rfl] at bare
  exact ((bare_append apart).1 (List.append_cancel_left bare)).1

theorem tight_content {line : Text} (solid : content line ≠ []) : Tight (content line) := by
  rw [content, ne_eq, Text.trim_eq_nil_iff, Bool.not_eq_true] at solid
  exact Text.tight_trim solid

theorem bare_content (line : Text) : Bare {} none (content line) :=
  (bare_stripCommentFrom {} none line).trim rfl

theorem stripCommentFrom_comma {depth : Depth} (unquoted : depth.inQuote = false) {gap : Text}
    (blank : isAllBlank gap) (before : Option Char) (text : Text) :
    stripCommentFrom depth before (',' :: gap ++ text) =
      ',' :: gap ++ stripCommentFrom depth none text := by
  have starts : startsCommentWord before (',' :: (gap ++ text)) = false := rfl
  rw [List.cons_append, stripCommentFrom, starts, Depth.feed_of_not_mem_marks unquoted (by decide),
    stripCommentFrom_gap unquoted blank fun _ => rfl]
  simp

theorem bare_intercalate {depth : Depth} (unquoted : depth.inQuote = false) {gap : Text}
    (blank : isAllBlank gap) {parts : List Text}
    (level : ∀ part ∈ parts.dropLast, depth.after part = depth) :
    Bare depth none ((',' :: gap).intercalate parts) ↔ ∀ part ∈ parts, Bare depth none part := by
  induction parts with
  | nil => simp [Bare, stripCommentFrom]
  | cons part parts ih =>
    cases parts with
    | nil => simp
    | cons next parts =>
      rw [List.dropLast_cons_cons, List.forall_mem_cons] at level
      have apart : Apart (',' :: gap ++ (',' :: gap).intercalate (next :: parts)) :=
        apart_cons.2 (by decide)
      have later (before : Option Char) :
          Bare depth before (',' :: gap ++ (',' :: gap).intercalate (next :: parts)) ↔
            Bare depth none ((',' :: gap).intercalate (next :: parts)) := by
        rw [Bare, stripCommentFrom_comma unquoted blank, List.append_cancel_left_eq, Bare]
      rw [List.intercalate_cons_cons, List.append_assoc, bare_append apart, level.1, later,
        ih level.2]
      exact List.forall_mem_cons.symm

theorem bare_mark {closer : Char} (mark : closer ∈ marks) (depth : Depth) (before : Option Char) :
    Bare depth before [closer] := by
  have starts : (closer == '#' || startsCommentWord before [closer]) = false := by
    simp only [marks, List.mem_cons, List.not_mem_nil, or_false] at mark
    rcases mark with rfl | rfl | rfl | rfl | rfl | rfl | rfl <;> rfl
  rw [Bare, stripCommentFrom, starts]
  simp [stripCommentFrom]

theorem bare_call {name list : Text} {closer : Char} (valid : isIdentifier name = true)
    (mark : closer ∈ marks) : Bare {} none (name ++ ('(' :: list ++ [closer])) ↔
      Bare {} none name ∧ Bare (Depth.feed {} '(') none list := by
  have level : Depth.after {} name = {} := by
    have nested : Nested [] name := .of_class (by decide) (isIdentifierChar_of_isIdentifier valid)
    exact Depth.after_nested Depth.clear_start nested
  have opens (before : Option Char) : Bare {} before ('(' :: (list ++ [closer])) ↔
      Bare (Depth.feed {} '(') none (list ++ [closer]) := by
    have starts : startsCommentWord before ('(' :: (list ++ [closer])) = false := rfl
    have same : (some '(').any isIdentifierChar = none.any isIdentifierChar := by decide
    rw [Bare, stripCommentFrom, starts, stripCommentFrom_before same]
    simp [Bare]
  have apart : Apart [closer] :=
    apart_cons.2
      (by simpa using List.all_eq_true.1 (by decide : marks.all (!isIdentifierChar ·)) _ mark)
  have front : Apart ('(' :: (list ++ [closer])) := apart_cons.2 (by decide)
  rw [List.cons_append, bare_append front, level, opens, bare_append apart,
    and_iff_left (bare_mark mark _ _)]

theorem stripCommentFrom_append_of_cut {depth : Depth} {before : Option Char} {text : Text}
    (cut : ¬Bare depth before text) {more : Text} (apart : Apart more) :
    stripCommentFrom depth before (text ++ more) = stripCommentFrom depth before text := by
  induction text generalizing depth before with
  | nil => exact absurd rfl cut
  | cons c text ih =>
    rw [List.cons_append, stripCommentFrom, ← List.cons_append, startsCommentWord_append apart,
      stripCommentFrom]
    split
    next => rfl
    next here =>
      have later : ¬Bare (depth.feed c) (some c) text := fun bare =>
        cut (by rw [Bare, stripCommentFrom, if_neg here, bare])
      rw [ih later]

theorem stripComment_append_hash_iff (text comment : Text) :
    stripComment (text ++ '#' :: comment) = stripComment text ↔
      (Depth.after {} text).inQuote = false ∨ stripComment text ≠ text := by
  have apart : Apart ('#' :: comment) := apart_cons.2 (by decide)
  by_cases bare : stripComment text = text
  · have whole : stripComment (text ++ '#' :: comment) = text ++ _ :=
      stripCommentFrom_append bare apart
    rw [whole, bare, or_iff_left (not_not_intro rfl)]
    cases quoted : (Depth.after {} text).inQuote with
    | false => simp [stripCommentFrom, quoted]
    | true => simp [stripCommentFrom_of_quoted quoted]
  · exact iff_of_true (stripCommentFrom_append_of_cut bare apart) (.inr bare)

/-- Stripping keeps a beginning of the text and takes off nothing but a comment. It leaves nothing
to strip, also when the blanks around what is left are taken away. A hash sign with any text behind
it changes nothing, unless it stands in a string literal. -/
theorem stripComment_stable (text : Text) :
    (∃ cut, text = stripComment text ++ cut ∧
      (cut = [] ∨ Marks (Depth.after {} (stripComment text)) (stripComment text).getLast? cut)) ∧
    stripComment (stripComment text) = stripComment text ∧
    stripComment (Text.trim (stripComment text)) = Text.trim (stripComment text) ∧
    ∀ comment, stripComment (text ++ '#' :: comment) = stripComment text ↔
      (Depth.after {} text).inQuote = false ∨ stripComment text ≠ text := by
  obtain ⟨cut, whole, marked⟩ := exists_cut {} none text
  rw [Option.or_none] at marked
  exact ⟨⟨cut, whole, marked⟩, bare_stripCommentFrom {} none text, bare_content text,
    stripComment_append_hash_iff text⟩

end Scan

end LineScript
