import LineScript.Proofs.Scan.Split
import LineScript.Proofs.Script.Layout

/-! What becomes of the physical lines of a source. They are taken apart, in order and without a
rest, into the blocks of logical lines, block comments and lines that say nothing. The items of the
assembly are what the blocks say: a logical line each, or an error for a last block that never
closes. -/
namespace LineScript

open Text (Tight)

namespace Assembly

/-- What some physical lines say, without those that say nothing. -/
def pieces (lines : List Text) : List Text := (lines.map Scan.content).filter (!·.isEmpty)

def merged (lines : List Text) : Text := [' '].intercalate (pieces lines)

theorem pieces_concat (lines : List Text) (raw : Text) :
    pieces (lines ++ [raw]) = pieces lines ++ pieces [raw] := by
  simp [pieces]

theorem pieces_of_solid {raw : Text} (solid : Scan.content raw ≠ []) (lines : List Text) :
    pieces (raw :: lines) = Scan.content raw :: pieces lines := by
  simp [pieces, solid]

theorem tight_of_mem_pieces {lines : List Text} : ∀ piece ∈ pieces lines, Tight piece := by
  intro piece member
  rw [pieces, List.mem_filter] at member
  obtain ⟨raw, _, rfl⟩ := List.mem_map.1 member.1
  exact Scan.tight_content (by simpa using member.2)

theorem bare_of_mem_pieces {lines : List Text} :
    ∀ piece ∈ pieces lines, Scan.Bare {} none piece := by
  intro piece member
  obtain ⟨raw, _, rfl⟩ := List.mem_map.1 (List.mem_of_mem_filter member)
  exact Scan.bare_content raw

/-- The physical lines of a logical line. The first says something and begins no comment, and a
bracket or brace is open before each of the others. -/
structure Block where
  number : Nat
  first : Text
  others : List Text
  unmarked : isBlockMarker first = false
  solid : Scan.content first ≠ []
  opened : ∀ count < others.length, 0 < literalDepth (merged (first :: others.take count))

namespace Block

def lines (block : Block) : List Text := block.first :: block.others

def text (block : Block) : Text := merged block.lines

/-- The logical line, with the number and the indentation of the first physical line. -/
def line (block : Block) : Line := ⟨block.number, Text.indentation block.first, block.text⟩

/-- A block that is still open stands for an error. -/
def item (block : Block) : Item :=
  if 0 < literalDepth block.text then .error (unclosed block.line) else .ok block.line

def single (number : Nat) {raw : Text} (unmarked : isBlockMarker raw = false)
    (solid : Scan.content raw ≠ []) : Block :=
  ⟨number, raw, [], unmarked, solid, by simp⟩

def extend (block : Block) (opened : 0 < literalDepth block.text) (raw : Text) : Block where
  number := block.number
  first := block.first
  others := block.others ++ [raw]
  unmarked := block.unmarked
  solid := block.solid
  opened := by
    intro count below
    rw [List.length_append, List.length_singleton] at below
    rw [List.take_append_of_le_length (by omega)]
    by_cases last : count = block.others.length
    · rw [last, List.take_length]
      exact opened
    · exact block.opened count (by omega)

theorem pieces_ne_nil (block : Block) : pieces block.lines ≠ [] := by
  rw [lines, pieces_of_solid block.solid]
  simp

theorem tight_text (block : Block) : Tight block.text :=
  Text.tight_intercalate block.pieces_ne_nil tight_of_mem_pieces

theorem line_single (number : Nat) {raw : Text} (unmarked : isBlockMarker raw = false)
    (solid : Scan.content raw ≠ []) :
    (single number unmarked solid).line = ⟨number, Text.indentation raw, Scan.content raw⟩ := by
  simp only [line, text, lines, single, merged, pieces_of_solid solid]
  simp [pieces]

theorem line_extend (block : Block) (opened : 0 < literalDepth block.text) (raw : Text) :
    (block.extend opened raw).line = Assembly.extend block.line raw := by
  have whole : (block.extend opened raw).text =
      [' '].intercalate (pieces block.lines ++ pieces [raw]) := by
    rw [← pieces_concat]
    rfl
  rw [Assembly.extend]
  split
  next empty =>
    have unwritten : pieces [raw] = [] := by simp [pieces, empty]
    rw [unwritten, List.append_nil] at whole
    rw [line, whole]
    rfl
  next more =>
    have one : pieces [raw] = [Scan.content raw] := by rw [pieces_of_solid more]; rfl
    rw [one, Text.intercalate_concat block.pieces_ne_nil] at whole
    rw [line, whole]
    rfl

theorem item_of_open {block : Block} (opened : 0 < literalDepth block.text) :
    block.item = .error (unclosed block.line) := if_pos opened

theorem item_of_complete {block : Block} (complete : literalDepth block.text ≤ 0) :
    block.item = .ok block.line := if_neg (by omega)

end Block

/-- Physical lines, counted from a number on, taken apart into given blocks and lines between them.
Outside the blocks there are lines that say nothing and comments; a comment begins and ends with a
marker and has none inside. Only the end of the lines leaves a comment or a block open. -/
inductive Covered : Nat → List Text → List Block → Prop where
  | done {number : Nat} : Covered number [] []
  | void {number : Nat} {raw : Text} {lines : List Text} {blocks : List Block} :
      isBlockMarker raw = false → Scan.content raw = [] → Covered (number + 1) lines blocks →
        Covered number (raw :: lines) blocks
  | comment {number : Nat} {first last : Text} {body lines : List Text} {blocks : List Block} :
      isBlockMarker first = true → (∀ raw ∈ body, isBlockMarker raw = false) →
        isBlockMarker last = true → Covered (number + (first :: body).length + 1) lines blocks →
          Covered number (first :: body ++ last :: lines) blocks
  | openComment {number : Nat} {first : Text} {body : List Text} :
      isBlockMarker first = true → (∀ raw ∈ body, isBlockMarker raw = false) →
        Covered number (first :: body) []
  | block (block : Block) {lines : List Text} {blocks : List Block} :
      literalDepth block.text ≤ 0 → Covered (block.number + block.lines.length) lines blocks →
        Covered block.number (block.lines ++ lines) (block :: blocks)
  | openBlock (block : Block) : 0 < literalDepth block.text →
      Covered block.number block.lines [block]

inductive Begun (start : Nat) : Mode → List Text → Prop where
  | between : Begun start .between []
  | comment {first : Text} {body : List Text} : isBlockMarker first = true →
      (∀ raw ∈ body, isBlockMarker raw = false) → Begun start .comment (first :: body)
  | pending (block : Block) : block.number = start → 0 < literalDepth block.text →
      Begun start (.pending block.line) block.lines

theorem settle_line (block : Block) :
    settle block.line =
      if 0 < literalDepth block.text then (.pending block.line, none)
      else (.between, some block.line) := by
  simp only [settle, isOpen, decide_eq_true_eq]
  rfl

inductive Advances (start : Nat) (front : List Text) (raw : Text) : Mode × Option Line → Prop where
  | goesOn {mode : Mode} : Begun start mode (front ++ [raw]) →
      Advances start front raw (mode, none)
  | completes {line : Option Line} (complete : List Block) :
      (line.map .ok).toList = complete.map Block.item →
      (∀ {lines : List Text} {blocks : List Block},
        Covered (start + front.length + 1) lines blocks →
          Covered start (front ++ raw :: lines) (complete ++ blocks)) →
      Advances start front raw (.between, line)

theorem Block.advances (block : Block) {start : Nat} {front : List Text} {raw : Text}
    (here : block.number = start) (ends : block.lines = front ++ [raw]) :
    Advances start front raw (settle block.line) := by
  rw [settle_line]
  split
  next opened =>
    refine .goesOn ?_
    rw [← ends]
    exact .pending block here opened
  next closed =>
    have complete : literalDepth block.text ≤ 0 := by omega
    refine .completes [block] ?_ ?_
    · rw [List.map_singleton, item_of_complete complete]
      rfl
    · intro lines blocks covered
      have size : block.lines.length = front.length + 1 := by rw [ends]; simp
      rw [List.append_cons, ← ends, ← here]
      refine .block block complete ?_
      rwa [size, here, ← Nat.add_assoc]

theorem Begun.step {start : Nat} {mode : Mode} {front : List Text} (begun : Begun start mode front)
    (raw : Text) :
    Advances start front raw (step (start + front.length) mode raw) := by
  cases begun with
  | between =>
    rw [Assembly.step]
    split
    next marked => exact .goesOn (.comment marked (by simp))
    next unmarked =>
      rw [Bool.not_eq_true] at unmarked
      split
      next empty => exact .completes [] rfl (.void unmarked empty)
      next solid =>
        have single : Advances start [] raw _ :=
          (Block.single start unmarked solid).advances rfl rfl
        rwa [Block.line_single] at single
  | @comment first body begins inside =>
    rw [Assembly.step]
    split
    next marked => exact .completes [] rfl (.comment begins inside marked)
    next unmarked =>
      rw [Bool.not_eq_true] at unmarked
      refine .goesOn (.comment begins ?_)
      simpa [or_imp, forall_and, unmarked] using inside
  | pending block here opened =>
    have extended : Advances start block.lines raw _ :=
      (block.extend opened raw).advances here rfl
    rwa [Block.line_extend] at extended

/-- Whatever has been begun, the physical lines read so far and the rest are taken apart together,
and the items of the rest are those of the blocks. -/
theorem Begun.exists_blocks {start : Nat} {mode : Mode} {front : List Text}
    (begun : Begun start mode front) (lines : List Text) :
    ∃ blocks, itemsFrom (start + front.length) mode lines = blocks.map Block.item ∧
      Covered start (front ++ lines) blocks := by
  induction lines generalizing start mode front with
  | nil =>
    rw [List.append_nil]
    cases begun with
    | between => exact ⟨[], rfl, .done⟩
    | comment begins inside => exact ⟨[], rfl, .openComment begins inside⟩
    | pending block here opened =>
      subst here
      exact ⟨[block], by rw [List.map_singleton, Block.item_of_open opened]; rfl,
        .openBlock block opened⟩
  | cons raw rest ih =>
    have advances := begun.step raw
    rw [Layout.itemsFrom_cons, Layout.resume]
    generalize Assembly.step (start + front.length) mode raw = next at advances ⊢
    cases advances with
    | goesOn onward =>
      obtain ⟨blocks, items, covered⟩ := ih onward
      rw [List.length_append, List.length_singleton, ← Nat.add_assoc] at items
      rw [List.append_assoc] at covered
      exact ⟨blocks, items, covered⟩
    | completes complete items onward =>
      obtain ⟨blocks, later, covered⟩ := ih (@Begun.between (start + front.length + 1))
      refine ⟨complete ++ blocks, ?_, onward covered⟩
      rw [items, List.map_append, ← later]
      rfl

namespace Covered

variable {number : Nat} {lines : List Text} {blocks : List Block}
  (covered : Covered number lines blocks)

include covered

theorem exists_append {block : Block} (member : block ∈ blocks) :
    ∃ before after, lines = before ++ block.lines ++ after ∧
      block.number = number + before.length ∧ (0 < literalDepth block.text → after = []) := by
  induction covered with
  | done | openComment => cases member
  | @void _ raw _ _ _ _ _ ih =>
    obtain ⟨before, after, rfl, counted, ends⟩ := ih member
    exact ⟨raw :: before, after, rfl, by rw [counted, List.length_cons]; omega, ends⟩
  | @comment _ first last body _ _ _ _ _ _ ih =>
    obtain ⟨before, after, rfl, counted, ends⟩ := ih member
    refine ⟨first :: body ++ last :: before, after, by simp, ?_, ends⟩
    simp only [counted, List.length_append, List.length_cons]
    omega
  | block first complete _ ih =>
    rcases List.mem_cons.1 member with rfl | later
    · exact ⟨[], _, rfl, rfl, fun opened => absurd complete (by omega)⟩
    · obtain ⟨before, after, rfl, counted, ends⟩ := ih later
      refine ⟨first.lines ++ before, after, by simp, ?_, ends⟩
      rw [counted, List.length_append]
      omega
  | openBlock only opened =>
    obtain rfl := List.mem_singleton.1 member
    exact ⟨[], [], by simp, rfl, fun _ => rfl⟩

theorem pairwise : blocks.Pairwise fun block later =>
    block.number + block.others.length < later.number := by
  induction covered with
  | done | openComment => exact .nil
  | void _ _ _ ih => exact ih
  | comment _ _ _ _ ih => exact ih
  | block first _ rest ih =>
    refine .cons (fun later member => ?_) ih
    obtain ⟨before, _, _, counted, _⟩ := rest.exists_append member
    rw [counted, Block.lines, List.length_cons]
    omega
  | openBlock => exact List.pairwise_singleton _ _

theorem complete_of_mem_dropLast {block : Block} (member : block ∈ blocks.dropLast) :
    literalDepth block.text ≤ 0 := by
  induction covered with
  | done | openComment | openBlock => cases member
  | void _ _ _ ih => exact ih member
  | comment _ _ _ _ ih => exact ih member
  | @block first _ blocks complete _ ih =>
    cases blocks with
    | nil => cases member
    | cons second blocks =>
      rw [List.dropLast_cons_cons, List.mem_cons] at member
      rcases member with rfl | later
      · exact complete
      · exact ih later

end Covered

theorem exists_blocks (source : Text) :
    ∃ blocks, items source = blocks.map Block.item ∧ Covered 1 (physicalLines source) blocks :=
  (@Begun.between 1).exists_blocks (physicalLines source)

end Assembly

/-- Assembling a source loses and repeats nothing. Its physical lines are taken apart, in order,
into blocks and the comments and empty lines between them; the items are what the blocks say, one
each.
A block is a run of physical lines from its number on, and blocks do not overlap. What a block says
has no outer blanks; only the last one can be left with an open bracket, and then it goes on to the
end of the source. -/
theorem items_covered (source : Text) :
    ∃ blocks : List Assembly.Block,
      Assembly.items source = blocks.map Assembly.Block.item ∧
      Assembly.Covered 1 (physicalLines source) blocks ∧
      (∀ block ∈ blocks, Text.trim block.text = block.text ∧ block.text ≠ [] ∧
        ∃ before after, physicalLines source = before ++ block.lines ++ after ∧
          block.number = before.length + 1 ∧ (0 < literalDepth block.text → after = [])) ∧
      (∀ block ∈ blocks.dropLast, literalDepth block.text ≤ 0) ∧
      blocks.Pairwise fun block later => block.number + block.others.length < later.number := by
  obtain ⟨blocks, items, covered⟩ := Assembly.exists_blocks source
  refine ⟨blocks, items, covered, fun block member => ?_, ?_, covered.pairwise⟩
  · obtain ⟨before, after, whole, counted, ends⟩ := covered.exists_append member
    exact ⟨block.tight_text.trim_eq, block.tight_text.ne_nil, before, after, whole, by omega, ends⟩
  · exact fun block => covered.complete_of_mem_dropLast

namespace Scan

/-- A text that holds no comment by itself holds none behind a blank either, unless the blank stands
in a string literal; then it is read as the inside of one. -/
theorem bare_resumed_iff {depth : Depth} (sane : depth.Sane) {text : Text}
    (bare : Bare {} none text) :
    Bare (depth.feed ' ') none text ↔
      (depth.inQuote = true → Bare { inQuote := true } none text) := by
  cases quoted : depth.inQuote with
  | false =>
    have same : stripCommentFrom depth none text = stripCommentFrom {} none text :=
      stripCommentFrom_congr quoted (sane quoted) none text
    rw [feed_of_isBlank quoted (by decide), Bare, same]
    exact iff_of_true bare (fun inside => by cases inside)
  | true =>
    have inside : (depth.feed ' ').inQuote = true := by
      rw [← quoted]
      exact @Depth.inQuote_after_blank [' '] (by decide) depth
    have unescaped : (depth.feed ' ').escaped = false := by
      simp [Depth.feed, Depth.feedQuoted, quoted]
    have same : stripCommentFrom (depth.feed ' ') none text =
        stripCommentFrom { inQuote := true } none text :=
      stripCommentFrom_congr inside unescaped none text
    rw [Bare, same, Bare, imp_iff_right rfl]

theorem forall_split_concat_iff {α : Type} {holds : List α → α → Prop} {init : List α}
    {last : α} :
    (∀ front item back, init ++ [last] = front ++ item :: back → holds front item) ↔
      (∀ front item back, init = front ++ item :: back → holds front item) ∧ holds init last := by
  constructor
  · intro each
    refine ⟨fun front item back whole => ?_, each init last [] rfl⟩
    exact each front item (back ++ [last]) (by rw [whole]; simp)
  · rintro ⟨early, here⟩ front item back whole
    rcases List.eq_nil_or_concat back with rfl | ⟨others, final, rfl⟩
    · obtain ⟨rfl, same⟩ := List.append_inj' whole rfl
      obtain rfl : last = item := by simpa using same
      exact here
    · rw [List.concat_eq_append, ← List.cons_append, ← List.append_assoc] at whole
      exact early front item others (List.append_inj' whole rfl).1

/-- Texts without comments, joined by blanks, make up a text without a comment unless one of them
begins in a string literal that an earlier one left open, and holds a comment when it is read from
there. -/
theorem bare_spaced_iff {texts : List Text} (bare : ∀ text ∈ texts, Bare {} none text) :
    Bare {} none ([' '].intercalate texts) ↔
      ∀ front text back, texts = front ++ text :: back →
        (Depth.after {} ([' '].intercalate front)).inQuote = true →
          Bare { inQuote := true } none text := by
  induction texts using List.reverseRecOn with
  | nil => simp [Bare, stripCommentFrom]
  | append_singleton texts last ih =>
    have early := ih fun text member => bare text (by simp [member])
    have alone : Bare {} none last := bare last (by simp)
    rw [forall_split_concat_iff, ← early]
    by_cases empty : texts = []
    · subst empty
      rw [List.nil_append, List.intercalate_singleton]
      exact iff_of_true alone ⟨rfl, fun inside => by cases inside⟩
    · rw [Text.intercalate_concat empty, List.singleton_append,
        bare_append (apart_cons.2 (by decide)), bare_blank_cons (by decide),
        bare_resumed_iff (Depth.sane_start.after _) alone]

end Scan

/-- Whether a logical line holds a comment. It consists of what the physical lines of a block say,
none of which holds a comment by itself; so it holds one exactly if one of these lines begins in a
string literal that was left open before it, and a comment begins in it when it is read from
there. -/
theorem line_bare_iff {source : Text} {line : Line} (member : .ok line ∈ Assembly.items source) :
    ∃ block : Assembly.Block, block.line = line ∧
      (∃ before after, physicalLines source = before ++ block.lines ++ after ∧
        line.number = before.length + 1) ∧
      (Scan.stripComment line.text = line.text ↔
        ∀ front piece back, Assembly.pieces block.lines = front ++ piece :: back →
          (Depth.after {} ([' '].intercalate front)).inQuote = true →
            Scan.Bare { inQuote := true } none piece) := by
  obtain ⟨blocks, items, covered⟩ := Assembly.exists_blocks source
  rw [items] at member
  obtain ⟨block, among, stated⟩ := List.mem_map.1 member
  obtain ⟨before, after, whole, counted, _⟩ := covered.exists_append among
  have same : block.line = line := by
    rw [Assembly.Block.item] at stated
    split at stated
    next => cases stated
    next => exact Except.ok.inj stated
  subst same
  rw [Nat.add_comm] at counted
  exact ⟨block, rfl, ⟨before, after, whole, counted⟩,
    Scan.bare_spaced_iff Assembly.bare_of_mem_pieces⟩

theorem line_bare_iff_literal :
    let source := "bhanai([\"a # b\nc\"])".toList
    let line : Line := ⟨1, 0, "bhanai([\"a # b c\"])".toList⟩
    .ok line ∈ Assembly.items source ∧
      ∃ block : Assembly.Block, block.line = line ∧
        (Scan.stripComment line.text = line.text ↔
          ∀ front piece back, Assembly.pieces block.lines = front ++ piece :: back →
            (Depth.after {} ([' '].intercalate front)).inQuote = true →
              Scan.Bare { inQuote := true } none piece) := by
  intro source line
  have member : .ok line ∈ Assembly.items source := by decide
  obtain ⟨block, same, _, bare⟩ := line_bare_iff member
  exact ⟨member, block, same, bare⟩

/-- On the second line the hash sign stands in a string literal if the line is read by itself, and
outside of any if it is read behind the first. So it is left in the logical line, where it begins a
comment. -/
theorem line_holds_comment :
    let source := "rakha(\"x\", [\"a\nb\", \"c\"]) # d".toList
    let line : Line := ⟨1, 0, "rakha(\"x\", [\"a b\", \"c\"]) # d".toList⟩
    Assembly.items source = [.ok line] ∧
      Scan.stripComment line.text = "rakha(\"x\", [\"a b\", \"c\"]) ".toList ∧
      Scan.stripComment line.text ≠ line.text := by
  decide

end LineScript
