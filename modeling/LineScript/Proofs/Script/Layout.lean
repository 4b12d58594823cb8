import LineScript.Proofs.Script.Lines

/-! Layout. A logical line may be broken into pieces wherever a bracket is open, and indented,
commented and spaced at will: assembling the physical lines gives the pieces back, joined
by single blanks. -/
namespace LineScript.Layout

open Assembly (Mode Item step settle itemsFrom)
open Text (isAllBlank isBlank Tight)

/-- A part of a logical line that stands on a physical line of its own. It holds no comment,
and it ends outside string literals, so that a comment may follow. -/
structure Piece where
  text : Text
  tight : Tight text
  bare : Scan.stripComment text = text
  closed : (Depth.after {} text).inQuote = false

def joined (pieces : List Piece) : Text := [' '].intercalate (pieces.map Piece.text)

/-- A logical line in pieces. A bracket or brace is open after every piece but the last. -/
structure Logical where
  first : Piece
  others : List Piece
  unmarked : Text.startsWith blockMarker first.text = false
  opened : ∀ count < others.length, 0 < literalDepth (joined (first :: others.take count))
  complete : literalDepth (joined (first :: others)) ≤ 0

inductive Tail : Text → Prop where
  | blank {gap : Text} : isAllBlank gap → Tail gap
  | comment {gap comment : Text} : isAllBlank gap → gap ≠ [] → Scan.Comment comment →
      Tail (gap ++ comment)

inductive Void : Text → Prop where
  | blank {gap : Text} : isAllBlank gap → Void gap
  | comment {gap comment : Text} : isAllBlank gap → Scan.Comment comment → Void (gap ++ comment)

inductive Piece.Placed (piece : Piece) (indent : Text) : Text → Prop where
  | line {tail : Text} : isAllBlank indent → Tail tail →
      piece.Placed indent (indent ++ (piece.text ++ tail))

inductive Continued : List Piece → List Text → Prop where
  | done : Continued [] []
  | void {piece : Piece} {pieces : List Piece} {line : Text} {lines : List Text} :
      Void line → Continued (piece :: pieces) lines → Continued (piece :: pieces) (line :: lines)
  | piece {piece : Piece} {pieces : List Piece} {indent line : Text} {lines : List Text} :
      piece.Placed indent line → Continued pieces lines →
        Continued (piece :: pieces) (line :: lines)

/-- Physical lines, counted from a number on, that hold given logical lines; each logical line
has the number and the indentation of its first piece. -/
inductive Laid : Nat → List Logical → List Text → List Line → Prop where
  | done {number : Nat} : Laid number [] [] []
  | void {number : Nat} {logicals : List Logical} {line : Text} {lines : List Text}
      {result : List Line} : Void line → Laid (number + 1) logicals lines result →
        Laid number logicals (line :: lines) result
  | comment {number : Nat} {logicals : List Logical} {first last : Text} {body lines : List Text}
      {result : List Line} : isBlockMarker first → (∀ line ∈ body, isBlockMarker line = false) →
        isBlockMarker last → Laid (number + 1 + body.length + 1) logicals lines result →
          Laid number logicals (first :: body ++ last :: lines) result
  | logical {number : Nat} (logical : Logical) {logicals : List Logical} {indent line : Text}
      {more lines : List Text} {result : List Line} : logical.first.Placed indent line →
        Continued logical.others more → Laid (number + 1 + more.length) logicals lines result →
          Laid number (logical :: logicals) (line :: more ++ lines)
            (⟨number, indent.length, joined (logical.first :: logical.others)⟩ :: result)

theorem joined_append {pieces : List Piece} (nonempty : pieces ≠ []) (piece : Piece) :
    joined (pieces ++ [piece]) = joined pieces ++ ' ' :: piece.text := by
  rw [joined, List.map_append, List.map_singleton,
    Text.intercalate_concat (by simpa using nonempty), joined]
  rfl

theorem Tail.head_isBlank {tail : Text} (follows : Tail tail) : ∀ c ∈ tail.head?, isBlank c := by
  cases follows with
  | blank empty =>
    intro c member
    exact Text.isAllBlank_iff.1 empty c (List.mem_of_mem_head? member)
  | comment empty nonempty _ =>
    obtain ⟨c, rest, rfl⟩ := List.exists_cons_of_ne_nil nonempty
    simpa using Text.isAllBlank_iff.1 empty c

theorem Void.content {line : Text} (void : Void line) : Scan.content line = [] := by
  cases void with
  | blank empty => exact Scan.content_blank empty
  | comment empty remark => exact Scan.content_comment empty remark

theorem Void.isBlockMarker {line : Text} (void : Void line) : isBlockMarker line = false := by
  cases void with
  | blank empty =>
    rw [LineScript.isBlockMarker, Text.trimStart_eq_nil_iff.2 empty]
    rfl
  | comment empty remark =>
    rw [LineScript.isBlockMarker, Text.trimStart_blank_append empty]
    cases remark <;> rfl

theorem Piece.Placed.content {piece : Piece} {indent line : Text}
    (placed : piece.Placed indent line) : Scan.content line = piece.text := by
  obtain ⟨empty, tail⟩ := placed
  rw [Scan.content_gap empty]
  cases tail with
  | blank ending =>
    rw [Scan.content_append_blank _ ending, Scan.content_text piece.tight piece.bare]
  | comment ending nonempty remark =>
    exact Scan.content_text_comment piece.tight piece.bare piece.closed ending nonempty remark

def resume (number : Nat) (next : Mode × Option Line) (lines : List Text) : List Item :=
  (next.2.map .ok).toList ++ itemsFrom number next.1 lines

theorem itemsFrom_cons (number : Nat) (mode : Mode) (line : Text) (lines : List Text) :
    itemsFrom number mode (line :: lines) = resume (number + 1) (step number mode line) lines := by
  rw [itemsFrom]
  split
  next mode line stepped => rw [stepped]; rfl
  next mode stepped => rw [stepped]; rfl

theorem settle_opened {line : Line} (opened : 0 < literalDepth line.text) :
    settle line = (.pending line, none) := by
  simp [settle, Assembly.isOpen, opened]

theorem settle_complete {line : Line} (complete : literalDepth line.text ≤ 0) :
    settle line = (.between, some line) := by
  rw [settle, Assembly.isOpen, decide_eq_false (by omega)]
  rfl

theorem Void.step_between {line : Text} (void : Void line) (number : Nat) :
    step number .between line = (.between, none) := by
  simp [step, void.isBlockMarker, void.content]

theorem Void.step_pending {raw : Text} (void : Void raw) (number : Nat) (line : Line) :
    step number (.pending line) raw = settle line := by
  simp [step, Assembly.extend, void.content]

theorem Piece.Placed.step_pending {piece : Piece} {indent raw : Text}
    (placed : piece.Placed indent raw) (number : Nat) (line : Line) :
    step number (.pending line) raw =
      settle { line with text := line.text ++ ' ' :: piece.text } := by
  obtain ⟨c, rest, whole⟩ := List.exists_cons_of_ne_nil piece.tight.ne_nil
  simp [step, Assembly.extend, placed.content, whole]

theorem Piece.Placed.step_between {piece : Piece} {indent raw : Text}
    (placed : piece.Placed indent raw) (unmarked : Text.startsWith blockMarker piece.text = false)
    (number : Nat) :
    step number .between raw = settle ⟨number, indent.length, piece.text⟩ := by
  have content := placed.content
  obtain ⟨empty, tail⟩ := placed
  exact step_between_of_content empty piece.tight tail.head_isBlank unmarked content number

/-- The pieces that follow complete a line. The induction is on the physical lines; the pieces
read so far are `front`. -/
theorem Continued.resume {pieces : List Piece} {lines : List Text}
    (continued : Continued pieces lines) {front : List Piece} (nonempty : front ≠ [])
    (opened : ∀ count < pieces.length, 0 < literalDepth (joined (front ++ pieces.take count)))
    (complete : literalDepth (joined (front ++ pieces)) ≤ 0) (number start indent : Nat)
    (rest : List Text) :
    Layout.resume number (settle ⟨start, indent, joined front⟩) (lines ++ rest) =
      .ok ⟨start, indent, joined (front ++ pieces)⟩ ::
        itemsFrom (number + lines.length) .between rest := by
  induction continued generalizing front number with
  | done =>
    rw [List.append_nil] at complete
    rw [settle_complete complete, List.append_nil]
    rfl
  | void void _ ih =>
    have here := opened 0 (by simp)
    rw [List.take_zero, List.append_nil] at here
    rw [settle_opened here, Layout.resume, List.cons_append, itemsFrom_cons, void.step_pending,
      ih nonempty opened complete, Nat.add_right_comm]
    rfl
  | @piece piece pieces _ _ _ placed _ ih =>
    have here := opened 0 (by simp)
    rw [List.take_zero, List.append_nil] at here
    have assoc : ∀ more, front ++ piece :: more = front ++ [piece] ++ more := by simp
    rw [settle_opened here, Layout.resume, List.cons_append, itemsFrom_cons, placed.step_pending,
      ← joined_append nonempty, ih (by simp), assoc pieces, Nat.add_right_comm]
    · rfl
    · intro count below
      have later := opened (count + 1) (by simpa using below)
      rwa [List.take_succ_cons, assoc] at later
    · rwa [← assoc]

theorem itemsFrom_comment {body : List Text} (inside : ∀ line ∈ body, isBlockMarker line = false)
    {last : Text} (ends : isBlockMarker last) (number : Nat) (lines : List Text) :
    itemsFrom number .comment (body ++ last :: lines) =
      itemsFrom (number + body.length + 1) .between lines := by
  induction body generalizing number with
  | nil =>
    rw [List.nil_append, itemsFrom_cons, step, ends]
    rfl
  | cons line body ih =>
    rw [List.forall_mem_cons] at inside
    have counted : number + (line :: body).length + 1 = number + 1 + body.length + 1 := by
      rw [List.length_cons]
      omega
    rw [List.cons_append, itemsFrom_cons, step, inside.1, counted, ← ih inside.2]
    rfl

theorem Laid.itemsFrom {number : Nat} {logicals : List Logical} {lines : List Text}
    {result : List Line} (laid : Laid number logicals lines result) :
    itemsFrom number .between lines = result.map .ok := by
  induction laid with
  | done => rfl
  | void void _ ih =>
    rw [itemsFrom_cons, void.step_between, ← ih]
    rfl
  | comment begins inside ends _ ih =>
    rw [List.cons_append, itemsFrom_cons, step, begins, ← ih,
      ← itemsFrom_comment inside ends]
    rfl
  | logical logical placed continued _ ih =>
    have nonempty : [logical.first] ≠ [] := by simp
    have whole := continued.resume nonempty logical.opened logical.complete
    rw [List.cons_append, itemsFrom_cons, placed.step_between logical.unmarked, List.map_cons, ← ih]
    simpa [joined] using whole _ _ _ _

/-- Layout does not matter. Assembling a source gives the logical lines that were laid out in
it, in order and nothing else: each with the text of its pieces, the number of the physical
line of its first piece and the width of the blanks before it. -/
theorem items_of_laid {logicals : List Logical} {lines : List Text} {result : List Line}
    (laid : Laid 1 logicals lines result) {source : Text} (text : Lines lines source) :
    Assembly.items source = result.map .ok := by
  rw [text.items, laid.itemsFrom]

theorem items_of_laid_pieces :
    Assembly.items ['#', 'a', '\n', '"', '"', '"', '\n', '[', '\n', '"', '"', '"', '\n',
      ' ', '[', '1', ',', ' ', '#', '\n', '\n', '2', ']'] =
      [.ok ⟨5, 1, ['[', '1', ',', ' ', '2', ']']⟩] := by
  have laid : Laid 1
      [⟨⟨['[', '1', ','], ⟨by decide, by decide⟩, by decide, by decide⟩,
        [⟨['2', ']'], ⟨by decide, by decide⟩, by decide, by decide⟩],
        by decide, by decide, by decide⟩]
      [['#', 'a'], ['"', '"', '"'], ['['], ['"', '"', '"'], [' ', '[', '1', ',', ' ', '#'], [],
        ['2', ']']]
      [⟨5, 1, ['[', '1', ',', ' ', '2', ']']⟩] := by
    refine .void (@Void.comment [] _ rfl (.hash ['a'])) ?_
    refine @Laid.comment _ _ _ _ [['[']] _ _ (by decide) (by decide) (by decide) ?_
    refine @Laid.logical _ _ _ [' '] _ [[], ['2', ']']] _ _ ?_ ?_ .done
    · exact .line rfl (@Tail.comment [' '] _ rfl (by decide) (.hash []))
    · exact .void (.blank rfl) (.piece (@Piece.Placed.line _ [] [] rfl (.blank rfl)) .done)
  refine items_of_laid laid ?_
  refine @Lines.cons ['#', 'a'] _ _ (by decide) (@Lines.cons ['"', '"', '"'] _ _ (by decide) ?_)
  refine @Lines.cons ['['] _ _ (by decide) (@Lines.cons ['"', '"', '"'] _ _ (by decide) ?_)
  refine @Lines.cons [' ', '[', '1', ',', ' ', '#'] _ _ (by decide) ?_
  exact @Lines.cons [] _ _ (by decide) (.last (by decide) (by decide))

end LineScript.Layout
