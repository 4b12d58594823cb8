import LineScript.Proofs.Scan.Search

/-! Parts of a text between delimiters. Every part but the last leaves the scan where it began, and
no part has a delimiter at top level; such parts, joined by the delimiter, are what splitting gives
back. A scan of the joined text does to each part what it does to the part alone, and blanks around
the parts do not matter to it; inside parentheses it is the same scan one level deeper. -/
namespace LineScript

namespace Depth

/-- Outside string literals nothing is escaped. -/
def Sane (depth : Depth) : Prop := depth.inQuote = false → depth.escaped = false

theorem sane_start : Sane {} := fun _ => rfl

theorem Sane.feed {depth : Depth} (sane : depth.Sane) (c : Char) : (depth.feed c).Sane := by
  cases quoted : depth.inQuote with
  | true =>
    simp only [Depth.feed, quoted, if_true, feedQuoted, Sane]
    split
    next => simp
    next =>
      split
      next closes => simp [closes.2]
      next => simp
  | false =>
    have unescaped := sane quoted
    simp only [Depth.feed, quoted, Bool.false_eq_true, if_false, feedPlain, Sane]
    split <;> simp [unescaped]

theorem Sane.after {depth : Depth} (sane : depth.Sane) (text : Text) : (depth.after text).Sane := by
  induction text generalizing depth with
  | nil => exact sane
  | cons c text ih => exact ih (sane.feed c)

/-- A scan is at top level only where it could have begun. -/
theorem Sane.eq_start {depth : Depth} (sane : depth.Sane) (top : depth.isTop = true) :
    depth = {} := by
  obtain ⟨parens, brackets, braces, inQuote, escaped⟩ := depth
  simp only [isTop, Bool.and_eq_true, Bool.not_eq_true', beq_iff_eq] at top
  obtain ⟨⟨⟨rfl, rfl⟩, rfl⟩, rfl⟩ := top
  rw [show escaped = false from sane rfl]

def raise (depth : Depth) : Depth := { depth with parens := depth.parens + 1 }

theorem raise_feed (depth : Depth) (c : Char) : depth.raise.feed c = (depth.feed c).raise := by
  obtain ⟨parens, brackets, braces, inQuote, escaped⟩ := depth
  cases inQuote with
  | true =>
    by_cases slash : c = '\\'
    · simp [feed, feedQuoted, raise, slash]
    · by_cases closes : c = '"' ∧ escaped = false <;> simp [feed, feedQuoted, raise, slash, closes]
  | false =>
    rcases Scan.mark_cases c with unmarked | rfl | ⟨bracket, rfl | rfl⟩
    · rw [feed_of_not_mem_marks rfl unmarked, feed_of_not_mem_marks rfl unmarked]
    · simp [feed, feedPlain, raise]
    · cases bracket <;> simp [feed, feedPlain, raise, Scan.Bracket.opener]
    · cases bracket <;> simp [feed, feedPlain, raise, Scan.Bracket.closer]

theorem raise_after (depth : Depth) (text : Text) :
    depth.raise.after text = (depth.after text).raise := by
  induction text generalizing depth with
  | nil => rfl
  | cons c text ih => rw [after_cons, raise_feed, ih, after_cons]

theorem raise_feed_paren {depth : Depth} (unquoted : depth.inQuote = false) :
    depth.raise.feed ')' = depth := by
  obtain ⟨parens, brackets, braces, inQuote, escaped⟩ := depth
  simp only at unquoted
  simp [feed, feedPlain, raise, unquoted]

theorem after_of_unmarked {depth : Depth} (unquoted : depth.inQuote = false) {text : Text}
    (unmarked : ∀ c ∈ text, c ∉ Scan.marks) : depth.after text = depth := by
  induction text with
  | nil => rfl
  | cons c text ih =>
    rw [List.forall_mem_cons] at unmarked
    rw [after_cons, feed_of_not_mem_marks unquoted unmarked.1, ih unmarked.2]

section

variable {gap : Text} (blank : Text.isAllBlank gap)

include blank

theorem after_blank {depth : Depth} (unquoted : depth.inQuote = false) : depth.after gap = depth :=
  after_of_unmarked unquoted (Scan.not_mem_marks_of_isAllBlank blank)

theorem inQuote_after_blank (depth : Depth) : (depth.after gap).inQuote = depth.inQuote := by
  induction gap generalizing depth with
  | nil => rfl
  | cons c gap ih =>
    have unmarked := Scan.not_mem_marks_of_isAllBlank blank c (by simp)
    rw [Text.isAllBlank_cons, Bool.and_eq_true] at blank
    rw [after_cons, ih blank.2]
    cases quoted : depth.inQuote with
    | false => rw [feed_of_not_mem_marks quoted unmarked, quoted]
    | true =>
      have quote : c ≠ '"' := by
        rintro rfl
        exact unmarked (by decide)
      simp only [feed, quoted, if_true, feedQuoted, quote, false_and, if_false]
      split <;> rfl

end

section

variable {depth : Depth} (unquoted : depth.inQuote = false) {text : Text}

include unquoted

theorem Passes.trim {stops : Depth → Char → Bool} (passes : Passes stops depth text) :
    Passes stops depth (Text.trim text) := by
  obtain ⟨before, after, blankBefore, _, whole⟩ := Text.exists_gaps_trim text
  rw [whole, List.append_assoc, passes_append, after_blank blankBefore unquoted,
    passes_append] at passes
  exact passes.2.1

theorem after_trim (ends : (depth.after text).inQuote = false) :
    depth.after (Text.trim text) = depth.after text := by
  obtain ⟨before, after, blankBefore, blankAfter, whole⟩ := Text.exists_gaps_trim text
  rw [whole, List.append_assoc, after_append, after_blank blankBefore unquoted, after_append,
    inQuote_after_blank blankAfter] at ends
  conv_rhs => rw [whole, List.append_assoc, after_append, after_blank blankBefore unquoted,
    after_append, after_blank blankAfter ends]

end

/-- A state inside some group, whether in a string literal or not. -/
def Within (depth : Depth) : Prop := depth.parens ≠ 0 ∨ depth.brackets ≠ 0 ∨ depth.braces ≠ 0

theorem counts_feed_of_quoted {depth : Depth} {c : Char}
    (quoted : depth.inQuote = true ∨ (depth.feed c).inQuote = true) :
    (depth.feed c).parens = depth.parens ∧ (depth.feed c).brackets = depth.brackets ∧
      (depth.feed c).braces = depth.braces := by
  obtain ⟨parens, brackets, braces, inQuote, escaped⟩ := depth
  cases inQuote with
  | true =>
    by_cases slash : c = '\\'
    · simp [feed, feedQuoted, slash]
    · by_cases closes : c = '"' ∧ escaped = false <;> simp [feed, feedQuoted, slash, closes]
  | false =>
    rcases Scan.mark_cases c with unmarked | rfl | ⟨bracket, rfl | rfl⟩
    · rw [feed_of_not_mem_marks rfl unmarked]
      exact ⟨rfl, rfl, rfl⟩
    · simp [feed, feedPlain]
    · cases bracket <;> simp [feed, feedPlain, Scan.Bracket.opener] at quoted
    · cases bracket <;> simp [feed, feedPlain, Scan.Bracket.closer] at quoted

section

variable {depth : Depth} (within : depth.Within)

include within

theorem Within.isTop : depth.isTop = false := by
  rcases within with parens | brackets | braces
  · simp [Depth.isTop, parens]
  · simp [Depth.isTop, brackets]
  · simp [Depth.isTop, braces]

theorem Within.feed {c : Char} (below : (depth.feed c).isTop = false) : (depth.feed c).Within := by
  cases quoted : (depth.feed c).inQuote with
  | true =>
    obtain ⟨parens, brackets, braces⟩ := counts_feed_of_quoted (.inr quoted)
    rwa [Within, parens, brackets, braces]
  | false => simpa [Depth.isTop, quoted, or_iff_not_imp_left, Within] using below

theorem Within.after {text : Text}
    (passes : Passes (fun depth c => (depth.feed c).isTop) depth text) :
    (depth.after text).Within := by
  induction text generalizing depth with
  | nil => exact within
  | cons c text ih => exact ih (within.feed passes.1) passes.2

theorem Within.closing {c : Char} (top : (depth.feed c).isTop = true) :
    depth.inQuote = false ∧ c ∈ Scan.marks := by
  have unquoted : depth.inQuote = false := by
    by_contra quoted
    obtain ⟨parens, brackets, braces⟩ :=
      @counts_feed_of_quoted depth c (.inl (by simpa using quoted))
    have still : (depth.feed c).Within := by rwa [Within, parens, brackets, braces]
    simp [still.isTop] at top
  refine ⟨unquoted, ?_⟩
  by_contra unmarked
  rw [feed_of_not_mem_marks unquoted unmarked, within.isTop] at top
  cases top

end

theorem passes_iff {stops : Depth → Char → Bool} {depth : Depth} {text : Text} :
    Passes stops depth text ↔
      ∀ before c after, text = before ++ c :: after → stops (depth.after before) c = false := by
  induction text generalizing depth with
  | nil => simp [Passes]
  | cons d text ih =>
    rw [Passes, ih]
    constructor
    · rintro ⟨here, later⟩ before c after whole
      cases before with
      | nil =>
        obtain ⟨rfl, -⟩ := List.cons.inj whole
        exact here
      | cons e before =>
        obtain ⟨rfl, onward⟩ := List.cons.inj whole
        exact later before c after onward
    · intro each
      refine ⟨each [] d text rfl, fun before c after whole => ?_⟩
      exact each (d :: before) c after (by rw [whole, List.cons_append])

theorem keepsTop_of_not_mem_marks (depth : Depth) {c : Char} (unmarked : c ∉ Scan.marks) :
    depth.keepsTop c = depth.isTop := by
  cases quoted : depth.inQuote with
  | true => rw [keepsTop, isTop_of_inQuote quoted, Bool.false_and]
  | false => rw [keepsTop, feed_of_not_mem_marks quoted unmarked, Bool.and_self]

theorem keepsTop_of_mem_marks (depth : Depth) {c : Char} (mark : c ∈ Scan.marks) :
    depth.keepsTop c = false := by
  cases top : depth.isTop with
  | false => rw [keepsTop, top, Bool.false_and]
  | true =>
    simp only [isTop, Bool.and_eq_true, Bool.not_eq_true', beq_iff_eq] at top
    obtain ⟨⟨⟨unquoted, parens⟩, brackets⟩, braces⟩ := top
    rcases Scan.mark_cases c with unmarked | rfl | ⟨bracket, rfl | rfl⟩
    · exact absurd mark unmarked
    · simp [keepsTop, feed, feedPlain, isTop, unquoted]
    · cases bracket <;>
        simp [keepsTop, feed, feedPlain, isTop, unquoted, parens, brackets, braces,
          Scan.Bracket.opener]
    · cases bracket <;>
        simp [keepsTop, feed, feedPlain, isTop, unquoted, parens, brackets, braces,
          Scan.Bracket.closer]

section

variable {depth : Depth} {gap : Text} (still : depth.after gap = depth) {parts : List Text}
  (level : ∀ part ∈ parts.dropLast, depth.after part = depth)

include still level

theorem after_intercalate (nonempty : parts ≠ []) :
    depth.after (gap.intercalate parts) = depth.after (parts.getLast nonempty) := by
  induction parts with
  | nil => exact absurd rfl nonempty
  | cons part parts ih =>
    cases parts with
    | nil => simp
    | cons next parts =>
      rw [List.dropLast_cons_cons, List.forall_mem_cons] at level
      rw [List.intercalate_cons_cons, after_append, after_append, level.1, still,
        ih level.2 (by simp), List.getLast_cons_cons]

theorem passes_intercalate {stops : Depth → Char → Bool} (quiet : Passes stops depth gap) :
    Passes stops depth (gap.intercalate parts) ↔ ∀ part ∈ parts, Passes stops depth part := by
  induction parts with
  | nil => simp [Passes]
  | cons part parts ih =>
    cases parts with
    | nil => simp
    | cons next parts =>
      rw [List.dropLast_cons_cons, List.forall_mem_cons] at level
      rw [List.intercalate_cons_cons, List.append_assoc, passes_append, passes_append, level.1,
        still, ih level.2, and_iff_right quiet]
      exact List.forall_mem_cons.symm

end

end Depth

namespace Scan

open Depth (Passes Sane)

structure Parted (delimiter : Char) (parts : List Text) : Prop where
  nonempty : parts ≠ []
  free : ∀ part ∈ parts, Passes (fun depth c => depth.keepsTop c && c == delimiter) {} part
  level : ∀ part ∈ parts.dropLast, Depth.after {} part = {}

theorem Parted.cons {delimiter : Char} {part : Text} {parts : List Text}
    (free : Passes (fun depth c => depth.keepsTop c && c == delimiter) {} part)
    (later : parts = [] ∨ Depth.after {} part = {} ∧ Parted delimiter parts) :
    Parted delimiter (part :: parts) := by
  rcases later with rfl | ⟨level, parted⟩
  · exact ⟨by simp, by simpa using free, by simp⟩
  · refine ⟨by simp, List.forall_mem_cons.2 ⟨free, parted.free⟩, ?_⟩
    rw [List.dropLast_cons_of_ne_nil parted.nonempty]
    exact List.forall_mem_cons.2 ⟨level, parted.level⟩

theorem Parted.uncons {delimiter : Char} {part next : Text} {parts : List Text}
    (parted : Parted delimiter (part :: next :: parts)) :
    Passes (fun depth c => depth.keepsTop c && c == delimiter) {} part ∧
      Depth.after {} part = {} ∧ Parted delimiter (next :: parts) := by
  obtain ⟨_, free, level⟩ := parted
  rw [List.forall_mem_cons] at free
  rw [List.dropLast_cons_cons, List.forall_mem_cons] at level
  exact ⟨free.1, level.1, by simp, free.2, level.2⟩

section

variable {delimiter : Char} (unmarked : delimiter ∉ marks)

include unmarked

theorem Parted.unquoted {parts : List Text} (parted : Parted delimiter parts)
    (ends : (Depth.after {} ([delimiter].intercalate parts)).inQuote = false) {part : Text}
    (member : part ∈ parts) : (Depth.after {} part).inQuote = false := by
  have still : Depth.after {} [delimiter] = {} := by
    rw [Depth.after_cons, Depth.feed_of_not_mem_marks rfl unmarked, Depth.after_nil]
  rw [Depth.after_intercalate still parted.level parted.nonempty] at ends
  rw [← List.dropLast_append_getLast parted.nonempty, List.mem_append, List.mem_singleton] at member
  rcases member with early | rfl
  · rw [parted.level part early]
  · exact ends

theorem Parted.trim {parts : List Text} (parted : Parted delimiter parts)
    (ends : (Depth.after {} ([delimiter].intercalate parts)).inQuote = false) :
    Parted delimiter (parts.map Text.trim) := by
  refine ⟨by simpa using parted.nonempty, ?_, ?_⟩
  · rw [List.forall_mem_map]
    exact fun part member => (parted.free part member).trim rfl
  · rw [← List.map_dropLast, List.forall_mem_map]
    intro part member
    have unquoted := parted.unquoted unmarked ends (List.dropLast_subset _ member)
    rw [Depth.after_trim rfl unquoted, parted.level part member]

/-- Splitting gives such parts. The first part is scanned from the state in which the scan of the
text begins, all others from the start. -/
theorem parted_split (text : Text) : Parted delimiter (split delimiter text) := by
  suffices ∀ depth, Sane depth → ∃ first others, splitFrom delimiter depth text = first :: others ∧
      Passes (fun depth c => depth.keepsTop c && c == delimiter) depth first ∧
      (others = [] ∨ depth.after first = {} ∧ Parted delimiter others) by
    obtain ⟨first, others, parts, free, later⟩ := this {} Depth.sane_start
    rw [split, parts]
    exact .cons free later
  induction text with
  | nil => exact fun depth _ => ⟨[], [], rfl, trivial, .inl rfl⟩
  | cons c text ih =>
    intro depth sane
    rw [splitFrom]
    split
    next here =>
      obtain ⟨keeps, same⟩ := Bool.and_eq_true_iff.1 here
      obtain rfl : depth = {} := sane.eq_start (Bool.and_eq_true_iff.1 keeps).1
      rw [eq_of_beq same, Depth.feed_of_not_mem_marks rfl unmarked]
      obtain ⟨first, others, parts, free, later⟩ := ih {} sane
      exact ⟨[], first :: others, by rw [parts], trivial, .inr ⟨rfl, .cons free later⟩⟩
    next other =>
      obtain ⟨first, others, parts, free, later⟩ := ih (depth.feed c) (sane.feed c)
      exact ⟨c :: first, others, by rw [parts]; rfl, ⟨by simpa using other, free⟩, later⟩

theorem splitFrom_delimiter (rest : Text) :
    splitFrom delimiter {} (delimiter :: rest) = [] :: split delimiter rest := by
  rw [splitFrom, keepsTop_start unmarked, Depth.feed_of_not_mem_marks rfl unmarked]
  simp [split]

theorem Parted.split_intercalate {gap : Text} (nested : Nested [delimiter] gap) {first : Text}
    {others : List Text} (parted : Parted delimiter (first :: others)) :
    split delimiter ((delimiter :: gap).intercalate (first :: others)) =
      first :: others.map (gap ++ ·) := by
  induction others generalizing first with
  | nil =>
    have whole := splitFrom_append (parted.free first (by simp)) []
    simpa [split, splitFrom] using whole
  | cons next others ih =>
    obtain ⟨free, level, later⟩ := parted.uncons
    rw [List.intercalate_cons_cons, List.append_assoc, split, splitFrom_append free, level,
      List.cons_append, splitFrom_delimiter unmarked, split, splitFrom_nested nested, ← split,
      ih later]
    simp

theorem parted_iff {parts : List Text} : Parted delimiter parts ↔ parts ≠ [] ∧
    (∀ part ∈ parts.dropLast, (Depth.after {} part).isTop = true) ∧
    ∀ part ∈ parts, ∀ before after, part = before ++ delimiter :: after →
      (Depth.after {} before).isTop = false := by
  have free (part : Text) : Passes (fun depth c => depth.keepsTop c && c == delimiter) {} part ↔
      ∀ before after, part = before ++ delimiter :: after →
        (Depth.after {} before).isTop = false := by
    rw [Depth.passes_iff]
    constructor
    · intro each before after whole
      have here := each before delimiter after whole
      rwa [beq_self_eq_true, Bool.and_true, Depth.keepsTop_of_not_mem_marks _ unmarked] at here
    · intro each before c after whole
      by_cases same : c = delimiter
      · rw [same] at whole ⊢
        rw [Depth.keepsTop_of_not_mem_marks _ unmarked, each before after whole, Bool.false_and]
      · rw [beq_false_of_ne same, Bool.and_false]
  have level (part : Text) : Depth.after {} part = {} ↔ (Depth.after {} part).isTop = true :=
    ⟨fun same => by rw [same]; rfl, (Depth.sane_start.after part).eq_start⟩
  simp only [← free, ← level]
  constructor
  · rintro ⟨nonempty, free, level⟩
    exact ⟨nonempty, level, free⟩
  · rintro ⟨nonempty, level, free⟩
    exact ⟨nonempty, free, level⟩

theorem Parted.split_eq {parts : List Text} (parted : Parted delimiter parts) :
    split delimiter ([delimiter].intercalate parts) = parts := by
  obtain ⟨first, others, rfl⟩ := List.exists_cons_of_ne_nil parted.nonempty
  simpa using parted.split_intercalate unmarked .nil

end

theorem split_of_mem_marks {delimiter : Char} (mark : delimiter ∈ marks) (text : Text) :
    split delimiter text = [text] := by
  have passes : Passes (fun depth c => depth.keepsTop c && c == delimiter) {} text := by
    rw [Depth.passes_iff]
    intro before c after _
    by_cases same : c = delimiter
    · rw [same, Depth.keepsTop_of_mem_marks _ mark, Bool.false_and]
    · rw [beq_false_of_ne same, Bool.and_false]
  have whole := splitFrom_append passes []
  rw [List.append_nil] at whole
  simpa [split, splitFrom] using whole

/-- Splitting is the only way to take a text apart at a delimiter. Its parts, joined by the
delimiter, are the text; every part but the last, scanned by itself, ends at top level; and in no
part, scanned by itself, does the delimiter stand at top level. Any parts of which this is true are
the ones that splitting gives. At a quote or a bracket no text is split. -/
theorem split_eq_iff (delimiter : Char) (text : Text) :
    (delimiter ∉ marks → ∀ parts : List Text, split delimiter text = parts ↔
      parts ≠ [] ∧ [delimiter].intercalate parts = text ∧
      (∀ part ∈ parts.dropLast, (Depth.after {} part).isTop = true) ∧
      ∀ part ∈ parts, ∀ before after, part = before ++ delimiter :: after →
        (Depth.after {} before).isTop = false) ∧
    (delimiter ∈ marks → split delimiter text = [text]) := by
  refine ⟨fun unmarked parts => ?_, fun mark => split_of_mem_marks mark text⟩
  constructor
  · rintro rfl
    obtain ⟨nonempty, level, free⟩ := (parted_iff unmarked).1 (parted_split unmarked text)
    exact ⟨nonempty, intercalate_split delimiter text, level, free⟩
  · rintro ⟨nonempty, rfl, level, free⟩
    exact ((parted_iff unmarked).2 ⟨nonempty, level, free⟩).split_eq unmarked

/-- The commas in a group and in a string literal divide nothing, and a closing bracket too many
keeps the rest in one part. -/
theorem split_eq_iff_nested :
    let text := "f(1,2),\"a,b\",),c".toList
    let parts := ["f(1,2)".toList, "\"a,b\"".toList, "),c".toList]
    split ',' text = parts ∧ [','].intercalate parts = text ∧
      (∀ part ∈ parts.dropLast, (Depth.after {} part).isTop = true) ∧
      split ')' text = [text] := by
  intro text parts
  have cut : split ',' text = parts := by decide
  obtain ⟨_, joined, level, _⟩ := ((split_eq_iff ',' text).1 (by decide) parts).1 cut
  exact ⟨cut, joined, level, (split_eq_iff ')' text).2 (by decide)⟩

end Scan

end LineScript
