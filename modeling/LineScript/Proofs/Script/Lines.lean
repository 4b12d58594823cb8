import LineScript.Proofs.Scan.Comment
import LineScript.Script.Line

/-! The physical lines of a source. A carriage return before a newline is dropped from its
line, and since it is a blank at the end of the line, the logical lines are the same as if
it had been kept. -/
namespace LineScript

open Text (isAllBlank isBlank)

inductive Lines : List Text → Text → Prop where
  | nil : Lines [] []
  | last {line : Text} : '\n' ∉ line → line ≠ [] → Lines [line] line
  | cons {line rest : Text} {lines : List Text} : '\n' ∉ line → Lines lines rest →
      Lines (line :: lines) (line ++ '\n' :: rest)

theorem exists_lines (source : Text) : ∃ lines, Lines lines source := by
  induction source with
  | nil => exact ⟨[], .nil⟩
  | cons c source ih =>
    obtain ⟨lines, text⟩ := ih
    by_cases newline : c = '\n'
    · rw [newline]
      exact ⟨[] :: lines, .cons List.not_mem_nil text⟩
    · have apart : '\n' ≠ c := Ne.symm newline
      cases text with
      | nil => exact ⟨_, .last (by simp [apart]) (by simp)⟩
      | last single nonempty => exact ⟨_, .last (by simp [apart, single]) (by simp)⟩
      | @cons line rest lines single text =>
        exact ⟨(c :: line) :: lines, .cons (by simp [apart, single]) text⟩

def chomp (line : Text) : Text := if line.getLast? = some '\r' then line.dropLast else line

theorem chomp_cons_cons (c d : Char) (line : Text) :
    chomp (c :: d :: line) = c :: chomp (d :: line) := by
  simp only [chomp, List.getLast?_cons_cons, List.dropLast_cons_cons]
  split <;> rfl

theorem physicalLines_newline {line : Text} (single : '\n' ∉ line) (rest : Text) :
    physicalLines (line ++ '\n' :: rest) = chomp line :: physicalLines rest := by
  induction line with
  | nil => rfl
  | cons c line ih =>
    simp only [List.mem_cons, not_or] at single
    cases line with
    | nil =>
      by_cases carriage : c = '\r'
      · rw [carriage]
        rfl
      · rw [List.cons_append,
          physicalLines.eq_4 _ _ (Ne.symm single.1) (by simp [carriage]), ih single.2]
        simp [chomp, carriage]
    | cons d line =>
      have onward : d ≠ '\n' := fun same => single.2 (by simp [same])
      rw [chomp_cons_cons, List.cons_append,
        physicalLines.eq_4 _ _ (Ne.symm single.1) (by simp [onward]), ih single.2]

theorem physicalLines_last {line : Text} (single : '\n' ∉ line) (nonempty : line ≠ []) :
    physicalLines line = [line] := by
  induction line with
  | nil => exact absurd rfl nonempty
  | cons c line ih =>
    simp only [List.mem_cons, not_or] at single
    cases line with
    | nil => rw [physicalLines.eq_4 _ _ (Ne.symm single.1) (by simp), physicalLines]
    | cons d line =>
      have onward : d ≠ '\n' := fun same => single.2 (by simp [same])
      rw [physicalLines.eq_4 _ _ (Ne.symm single.1) (by simp [onward]), ih single.2 (by simp)]

theorem isBlockMarker_append_blank (line : Text) {gap : Text} (blank : isAllBlank gap) :
    isBlockMarker (line ++ gap) = isBlockMarker line := by
  by_cases empty : isAllBlank line
  · have all : isAllBlank (line ++ gap) := by simp [empty, blank]
    rw [isBlockMarker, Text.trimStart_eq_nil_iff.2 all, isBlockMarker,
      Text.trimStart_eq_nil_iff.2 empty]
  · rw [Bool.not_eq_true] at empty
    rw [isBlockMarker, Text.trimStart_append empty, isBlockMarker, Text.startsWith,
      Text.dropStart?_append, Option.isSome_map, Text.startsWith]
    intro c member
    exact Text.not_mem_of_all (by decide)
      (Text.isAllBlank_iff.1 blank c (List.mem_of_mem_head? member))

theorem indentation_append {line : Text} (solid : isAllBlank line = false) (more : Text) :
    Text.indentation (line ++ more) = Text.indentation line := by
  induction line with
  | nil => cases solid
  | cons c line ih =>
    by_cases blank : isBlank c
    · simp only [Text.isAllBlank_cons, blank, Bool.true_and] at solid
      have later := ih solid
      simp only [Text.indentation] at later ⊢
      simp [blank, later]
    · simp [Text.indentation, blank]

def blockMarker : Text := ['"', '"', '"']

theorem step_between_of_content {indent text tail : Text} (empty : isAllBlank indent)
    (tight : Text.Tight text) (follows : ∀ c ∈ tail.head?, isBlank c)
    (unmarked : Text.startsWith blockMarker text = false)
    (content : Scan.content (indent ++ (text ++ tail)) = text) (number : Nat) :
    Assembly.step number .between (indent ++ (text ++ tail)) =
      Assembly.settle ⟨number, indent.length, text⟩ := by
  obtain ⟨c, rest, whole, solid⟩ := tight.exists_cons
  have width : Text.indentation (indent ++ (text ++ tail)) = indent.length := by
    rw [Text.indentation, List.takeWhile_append_of_pos (Text.isAllBlank_iff.1 empty), whole]
    simp [solid]
  have marker : isBlockMarker (indent ++ (text ++ tail)) = false := by
    rw [isBlockMarker, Text.trimStart_blank_append empty,
      Text.trimStart_append tight.isAllBlank_eq, tight.trimStart_eq, Text.startsWith,
      Text.dropStart?_append, Option.isSome_map]
    · exact unmarked
    · intro c member
      exact Text.not_mem_of_all (by decide) (follows c member)
  simp only [Assembly.step, marker, content, width]
  rw [whole]
  rfl

theorem step_append_blank (number : Nat) (mode : Assembly.Mode) (line : Text) {gap : Text}
    (blank : isAllBlank gap) :
    Assembly.step number mode (line ++ gap) = Assembly.step number mode line := by
  have content := Scan.content_append_blank line blank
  have marker := isBlockMarker_append_blank line blank
  cases mode with
  | pending pending => simp only [Assembly.step, Assembly.extend, content]
  | comment => simp only [Assembly.step, marker]
  | between =>
    by_cases empty : isAllBlank line
    · simp only [Assembly.step, marker, content, Scan.content_blank empty]
    · rw [Bool.not_eq_true] at empty
      simp only [Assembly.step, marker, content, indentation_append empty]

theorem step_chomp (number : Nat) (mode : Assembly.Mode) (line : Text) :
    Assembly.step number mode (chomp line) = Assembly.step number mode line := by
  rw [chomp]
  split
  next ends =>
    obtain ⟨front, rfl⟩ := List.getLast?_eq_some_iff.1 ends
    rw [List.dropLast_concat, step_append_blank number mode front (by decide)]
  next => rfl

theorem Lines.itemsFrom {lines : List Text} {source : Text} (text : Lines lines source)
    (number : Nat) (mode : Assembly.Mode) :
    Assembly.itemsFrom number mode (physicalLines source) =
      Assembly.itemsFrom number mode lines := by
  induction text generalizing number mode with
  | nil => rfl
  | last single nonempty => rw [physicalLines_last single nonempty]
  | cons single _ ih =>
    rw [physicalLines_newline single, Assembly.itemsFrom, step_chomp, Assembly.itemsFrom]
    simp only [ih]

theorem Lines.items {lines : List Text} {source : Text} (text : Lines lines source) :
    Assembly.items source = Assembly.itemsFrom 1 .between lines :=
  text.itemsFrom 1 .between

end LineScript
