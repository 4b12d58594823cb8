import LineScript.Proofs.Scan.Nesting
import LineScript.Proofs.Text.Bytes
import LineScript.Scan.Comment

/-! Scanning in place: the scanners on the byte positions of a text, where every part that they
take is cut out of the text between two positions. A cut that the text does not admit would leave
them without a result. They always have one, and it is that of the scanners on characters. -/
namespace LineScript.InPlace

open Scan (marks isIdentifierChar isIdentifierStart)
open Text (At IsBoundary byteSize slice? sliceFrom?)

/-- The characters of a text with their byte positions, counted from `offset`. -/
def positions (offset : Nat) : Text → List (Nat × Char)
  | [] => []
  | c :: rest => (offset, c) :: positions (offset + c.utf8Size) rest

def identifierSize (text : Text) : Nat :=
  if text.head?.any isIdentifierStart then
    ((positions 0 text).find? fun place => !isIdentifierChar place.2).elim (byteSize text) Prod.fst
  else 0

theorem find?_positions (p : Char → Bool) (offset : Nat) (text : Text) :
    ((positions offset text).find? fun place => !p place.2).elim (offset + byteSize text) Prod.fst =
      offset + byteSize (text.takeWhile p) := by
  induction text generalizing offset with
  | nil => rfl
  | cons c rest ih =>
    cases inside : p c with
    | true => simpa [positions, inside, Nat.add_assoc] using ih (offset + c.utf8Size)
    | false => simp [positions, inside]

theorem identifierSize_eq (text : Text) :
    identifierSize text = byteSize (Scan.splitIdentifier text).1 := by
  have size := find?_positions isIdentifierChar 0 text
  rw [Nat.zero_add, Nat.zero_add] at size
  cases text with
  | nil => rfl
  | cons c rest =>
    cases start : isIdentifierStart c with
    | true => simpa [identifierSize, Scan.splitIdentifier, start] using size
    | false => simp [identifierSize, Scan.splitIdentifier, start]

theorem at_of_mem_topLevelFrom {depth : Depth} {before text : Text} {place : Nat × Char}
    (member : place ∈ Scan.topLevelFrom depth (byteSize before) text) :
    At (before ++ text) place.1 place.2 := by
  induction text generalizing depth before with
  | nil => cases member
  | cons c rest ih =>
    have later (inside : place ∈
          Scan.topLevelFrom (depth.feed c) (byteSize before + c.utf8Size) rest) :
        At (before ++ c :: rest) place.1 place.2 := by
      have shifted := @ih (depth.feed c) (before ++ [c])
      simp only [Text.byteSize_append, Text.byteSize_cons, Text.byteSize_nil, Nat.add_zero,
        List.append_assoc, List.singleton_append] at shifted
      exact shifted inside
    rw [Scan.topLevelFrom] at member
    split at member
    · rcases List.mem_cons.1 member with rfl | inside
      · exact ⟨before, rest, rfl, rfl⟩
      · exact later inside
    · exact later member

theorem at_of_mem_topLevel {text : Text} {index : Nat} {c : Char}
    (member : (index, c) ∈ Scan.topLevel text) : At text index c :=
  @at_of_mem_topLevelFrom {} [] text (index, c) member

/-- The position at which the scan is first back at top level, unless it is the start. -/
def closeAt (depth : Depth) : List (Nat × Char) → Option Nat
  | [] => none
  | (index, c) :: others =>
    if (depth.feed c).isTop then if index = 0 then none else some index
    else closeAt (depth.feed c) others

def matchingClose (text : Text) : Option Nat := closeAt {} (positions 0 text)

theorem closeAt_positions (depth : Depth) {offset : Nat} (later : offset ≠ 0) (text : Text) :
    closeAt depth (positions offset text) =
      (Scan.closeFrom depth text).map fun found => offset + byteSize found.1 := by
  induction text generalizing depth offset with
  | nil => rfl
  | cons c rest ih =>
    cases top : (depth.feed c).isTop with
    | true => simp [positions, closeAt, Scan.closeFrom, top, later]
    | false =>
      have further := @ih (depth.feed c) (offset + c.utf8Size) (by omega)
      simp [positions, closeAt, Scan.closeFrom, top, further, Function.comp_def, Nat.add_assoc]

theorem matchingClose_eq (text : Text) : matchingClose text = Scan.matchingClose? text := by
  cases text with
  | nil => rfl
  | cons c rest =>
    cases top : (Depth.feed {} c).isTop with
    | true => simp [matchingClose, positions, closeAt, Scan.matchingClose?, Scan.group?, top]
    | false =>
      have wide : c.utf8Size ≠ 0 := Nat.pos_iff_ne_zero.1 c.utf8Size_pos
      simp [matchingClose, positions, closeAt, Scan.matchingClose?, Scan.group?, top,
        closeAt_positions _ wide, Function.comp_def]

theorem utf8Size_of_mem_marks (c : Char) (mark : c ∈ marks) : c.utf8Size = 1 := by
  have all : (marks.all fun c => c.utf8Size == 1) = true := by decide
  exact beq_iff_eq.1 (List.all_eq_true.1 all c mark)

theorem mem_marks_of_isTop {depth : Depth} {c : Char} (deep : depth.isTop = false)
    (top : (depth.feed c).isTop = true) : c ∈ marks := by
  by_contra unmarked
  -- a literal goes on after anything but a quote, and outside of one only marks change the state
  cases quoted : depth.inQuote with
  | true =>
    have other : c ≠ '"' := by
      rintro rfl
      exact unmarked (by decide)
    have still : (depth.feed c).inQuote = true := by
      by_cases slash : c = '\\' <;> simp [Depth.feed, Depth.feedQuoted, quoted, other, slash]
    rw [Depth.isTop_of_inQuote still] at top
    cases top
  | false =>
    rw [Depth.feed_of_not_mem_marks quoted unmarked, deep] at top
    cases top

theorem closer_mem_marks {depth : Depth} (deep : depth.isTop = false) {text body tail : Text}
    {closer : Char} (found : Scan.closeFrom depth text = some (body, closer, tail)) :
    closer ∈ marks := by
  induction text generalizing depth body with
  | nil => cases found
  | cons c rest ih =>
    rw [Scan.closeFrom] at found
    split at found
    next top =>
      cases found
      exact mem_marks_of_isTop deep top
    next further =>
      obtain ⟨⟨inside, _, _⟩, later, same⟩ := Option.map_eq_some_iff.1 found
      cases same
      exact ih (by simpa using further) later

theorem mem_marks_of_group? {text : Text} {group : Scan.Group}
    (found : Scan.group? text = some group) : group.opener ∈ marks ∧ group.closer ∈ marks := by
  cases text with
  | nil => cases found
  | cons c rest =>
    rw [Scan.group?] at found
    split at found
    next => cases found
    next deep =>
      obtain ⟨⟨body, closer, tail⟩, closed, rfl⟩ := Option.map_eq_some_iff.1 found
      refine ⟨?_, closer_mem_marks (by simpa using deep) closed⟩
      by_contra unmarked
      exact deep (by rw [Depth.feed_of_not_mem_marks rfl unmarked]; rfl)

theorem at_of_matchingClose? {text : Text} {index : Nat}
    (found : Scan.matchingClose? text = some index) :
    ∃ c, At text index c ∧ c.utf8Size = 1 := by
  obtain ⟨group, opened, rfl⟩ := Option.map_eq_some_iff.1 found
  refine ⟨group.closer, ⟨group.opener :: group.body, group.rest, Scan.eq_of_group? opened, rfl⟩, ?_⟩
  exact utf8Size_of_mem_marks _ (mem_marks_of_group? opened).2

def isEnclosed (text : Text) : Bool := (matchingClose text).any (· + 1 == byteSize text)

def inner (text : Text) : Option Text := slice? text 1 (byteSize text - 1)

def enclosed (opener : Char) (text : Text) : Option (Option Text) :=
  if text.head? = some opener ∧ isEnclosed text then (inner text).map some else some none

section

variable {text : Text} {group : Scan.Group} (found : Scan.group? text = some group)

include found

theorem byteSize_of_group? : byteSize text = 1 + byteSize group.body + 1 + byteSize group.rest := by
  obtain ⟨opener, closer⟩ := mem_marks_of_group? found
  rw [Scan.eq_of_group? found]
  simp only [Text.byteSize_append, Text.byteSize_cons, List.cons_append,
    utf8Size_of_mem_marks _ opener, utf8Size_of_mem_marks _ closer]
  omega

theorem matchingClose?_of_group? : Scan.matchingClose? text = some (1 + byteSize group.body) := by
  rw [Scan.matchingClose?, found, Option.map_some,
    utf8Size_of_mem_marks _ (mem_marks_of_group? found).1]

theorem slice?_body : slice? text 1 (1 + byteSize group.body) = some group.body := by
  have whole : text = [group.opener] ++ group.body ++ group.closer :: group.rest :=
    Scan.eq_of_group? found
  exact Text.slice?_eq_some whole (utf8Size_of_mem_marks _ (mem_marks_of_group? found).1) rfl

theorem sliceFrom?_rest : sliceFrom? text (1 + byteSize group.body + 1) = some group.rest := by
  obtain ⟨opener, closer⟩ := mem_marks_of_group? found
  have whole : text = (group.opener :: group.body ++ [group.closer]) ++ group.rest := by
    simp [Scan.eq_of_group? found]
  refine Text.sliceFrom?_eq_some whole ?_
  simp [utf8Size_of_mem_marks _ opener, utf8Size_of_mem_marks _ closer, Nat.add_assoc]

end

theorem isEnclosed_eq (text : Text) : isEnclosed text = Scan.isEnclosed text := by
  rw [isEnclosed, matchingClose_eq, Scan.isEnclosed]
  cases found : Scan.group? text with
  | none => rw [Scan.matchingClose?, found]; rfl
  | some group =>
    have size := byteSize_of_group? found
    rw [matchingClose?_of_group? found, Bool.eq_iff_iff]
    simp only [Option.any_some, beq_iff_eq, List.isEmpty_iff, ← Text.byteSize_eq_zero_iff]
    omega

theorem enclosed_eq (opener : Char) (text : Text) :
    enclosed opener text = some (Scan.enclosed? opener text) := by
  rw [enclosed, isEnclosed_eq, Scan.isEnclosed, Scan.enclosed?]
  cases found : Scan.group? text with
  | none => simp
  | some group =>
    have first : text.head? = some group.opener := by rw [Scan.eq_of_group? found]; rfl
    by_cases fits : group.opener = opener ∧ group.rest = []
    · have last : byteSize text - 1 = 1 + byteSize group.body := by
        rw [byteSize_of_group? found, fits.2]
        rfl
      simp [first, fits, inner, last, slice?_body found]
    · simp only [first, Option.some.injEq, Option.any_some, List.isEmpty_iff, fits, if_false]

/-- Cuts the text at the positions of a delimiter; the next part begins at `start`. -/
def splitAt (text : Text) (delimiter : Char) (start : Nat) : List (Nat × Char) → Option (List Text)
  | [] => do return [← sliceFrom? text start]
  | (index, c) :: others =>
    if c = delimiter then do
      let part ← slice? text start index
      return part :: (← splitAt text delimiter (index + c.utf8Size) others)
    else splitAt text delimiter start others

def split (delimiter : Char) (text : Text) : Option (List Text) :=
  splitAt text delimiter 0 (Scan.topLevel text)

/-- The scan has passed `before` with its last delimiter, and then `part`. -/
theorem splitAt_topLevelFrom {text before part rest : Text} (whole : text = before ++ part ++ rest)
    (delimiter : Char) (depth : Depth) :
    splitAt text delimiter (byteSize before)
        (Scan.topLevelFrom depth (byteSize (before ++ part)) rest) =
      some ((Scan.splitFrom delimiter depth rest).modifyHead (part ++ ·)) := by
  induction rest generalizing before part depth with
  | nil =>
    rw [List.append_nil] at whole
    simp [Scan.topLevelFrom, splitAt, Scan.splitFrom, Text.sliceFrom?_eq_some whole rfl]
  | cons c rest ih =>
    have longer := @ih before (part ++ [c]) (by simp [whole]) (depth.feed c)
    have next := @ih (before ++ part ++ [c]) [] (by simp [whole]) (depth.feed c)
    have here : slice? text (byteSize before) (byteSize (before ++ part)) = some part :=
      Text.slice?_eq_some whole rfl (by simp)
    have size : byteSize (before ++ part ++ [c]) = byteSize (before ++ part) + c.utf8Size := by
      simp [Nat.add_assoc]
    have joined : List.modifyHead (part ++ ·)
        (List.modifyHead (c :: ·) (Scan.splitFrom delimiter (depth.feed c) rest)) =
        List.modifyHead (part ++ [c] ++ ·) (Scan.splitFrom delimiter (depth.feed c) rest) := by
      rw [List.modifyHead_modifyHead]
      congr 1
      funext others
      simp
    rw [← List.append_assoc, size] at longer
    rw [List.append_nil, size] at next
    rw [Scan.topLevelFrom, Scan.splitFrom]
    cases keeps : depth.keepsTop c with
    | false => simpa [joined] using longer
    | true =>
      by_cases cuts : c = delimiter
      · subst cuts
        simp only [if_true, splitAt, here, next, Option.bind_eq_bind, Option.bind_some]
        simp [List.modifyHead_id, ← Function.id_def]
      · simpa [cuts, splitAt, joined] using longer

theorem split_eq (delimiter : Char) (text : Text) :
    split delimiter text = some (Scan.split delimiter text) := by
  have whole := splitAt_topLevelFrom (show text = [] ++ [] ++ text from rfl) delimiter {}
  exact whole.trans (congrArg some (congrFun List.modifyHead_id _))

/-- The first of the positions from which the text goes on with a pattern, and the pattern. -/
def findAt (patterns : List Text) (text : Text) : List (Nat × Char) → Option (Option (Nat × Text))
  | [] => some none
  | (index, _) :: others => do
    let rest ← sliceFrom? text index
    match patterns.find? (Text.startsWith · rest) with
    | some pattern => return some (index, pattern)
    | none => findAt patterns text others

def find (patterns : List Text) (text : Text) : Option (Option (Nat × Text)) :=
  findAt patterns text (Scan.topLevel text)

theorem find?_startsWith (patterns : List Text) (text : Text) :
    patterns.find? (Text.startsWith · text) = (Scan.matchFirst? patterns text).map Prod.fst := by
  induction patterns with
  | nil => rfl
  | cons pattern others ih =>
    cases here : Text.dropStart? pattern text with
    | none => simpa [Text.startsWith, Scan.matchFirst?, here] using ih
    | some after => simp [Text.startsWith, Scan.matchFirst?, here]

theorem findAt_topLevelFrom (patterns : List Text) (before rest : Text) (depth : Depth) :
    findAt patterns (before ++ rest) (Scan.topLevelFrom depth (byteSize before) rest) =
      some ((Scan.findFrom patterns depth rest).map fun found =>
        (byteSize (before ++ found.before), found.pattern)) := by
  induction rest generalizing before depth with
  | nil => rfl
  | cons c rest ih =>
    have next := ih (before ++ [c]) (depth.feed c)
    have here : sliceFrom? (before ++ c :: rest) (byteSize before) = some (c :: rest) :=
      Text.sliceFrom?_eq_some rfl rfl
    simp only [List.append_assoc, List.singleton_append, Text.byteSize_append, Text.byteSize_cons,
      Text.byteSize_nil, Nat.add_zero] at next
    rw [Scan.topLevelFrom, Scan.findFrom]
    cases keeps : depth.keepsTop c with
    | false => simpa [Function.comp_def] using next
    | true =>
      simp only [if_true, findAt, here, Option.bind_eq_bind, Option.bind_some, find?_startsWith]
      cases first : Scan.matchFirst? patterns (c :: rest) with
      | none => simpa [Function.comp_def] using next
      | some found => simp

theorem find_eq (patterns : List Text) (text : Text) :
    find patterns text =
      some ((Scan.find? patterns text).map fun found => (byteSize found.before, found.pattern)) :=
  findAt_topLevelFrom patterns [] text {}

def occurrence (patterns : List Text) (text : Text) : Option (Option Scan.Occurrence) := do
  match ← find patterns text with
  | none => return none
  | some (index, pattern) =>
    return some ⟨← slice? text 0 index, pattern, ← sliceFrom? text (index + byteSize pattern)⟩

theorem occurrence_eq (patterns : List Text) (text : Text) :
    occurrence patterns text = some (Scan.find? patterns text) := by
  rw [occurrence, find_eq]
  cases found : Scan.find? patterns text with
  | none => rfl
  | some here =>
    have whole := (Scan.eq_of_find? found).2
    have front : slice? text 0 (byteSize here.before) = some here.before :=
      Text.slice?_front (by rw [whole, List.append_assoc]) rfl
    have back : sliceFrom? text (byteSize here.before + byteSize here.pattern) = some here.after :=
      Text.sliceFrom?_eq_some whole (by simp)
    simp [front, back]

def startsCommentWord (line : Text) (index : Nat) : Option Bool := do
  if Text.startsWith Scan.commentWord (← sliceFrom? line index) then
    let before := (← slice? line 0 index).getLast?
    let after := (← sliceFrom? line (index + byteSize Scan.commentWord)).head?
    return !before.any isIdentifierChar && !after.any isIdentifierChar
  else return false

def stripCommentAt (line : Text) (depth : Depth) : List (Nat × Char) → Option Text
  | [] => some line
  | (index, c) :: others => do
    if depth.inQuote then stripCommentAt line (depth.feed c) others
    else if c = '#' then slice? line 0 index
    else if ← startsCommentWord line index then slice? line 0 index
    else stripCommentAt line (depth.feed c) others

def stripComment (line : Text) : Option Text := stripCommentAt line {} (positions 0 line)

theorem startsCommentWord_eq (before rest : Text) :
    startsCommentWord (before ++ rest) (byteSize before) =
      some (Scan.startsCommentWord before.getLast? rest) := by
  have here : sliceFrom? (before ++ rest) (byteSize before) = some rest :=
    Text.sliceFrom?_eq_some rfl rfl
  have front : slice? (before ++ rest) 0 (byteSize before) = some before :=
    Text.slice?_front rfl rfl
  rw [startsCommentWord, Scan.startsCommentWord, here]
  cases word : Text.dropStart? Scan.commentWord rest with
  | none => simp [Text.startsWith, word]
  | some after =>
    have whole : before ++ rest = before ++ Scan.commentWord ++ after := by
      rw [Text.dropStart?_eq_some.1 word, List.append_assoc]
    have back : sliceFrom? (before ++ rest) (byteSize before + byteSize Scan.commentWord) =
        some after := Text.sliceFrom?_eq_some whole (by simp)
    simp [Text.startsWith, word, front, back]

theorem stripCommentAt_positions (before rest : Text) (depth : Depth) :
    stripCommentAt (before ++ rest) depth (positions (byteSize before) rest) =
      some (before ++ Scan.stripCommentFrom depth before.getLast? rest) := by
  induction rest generalizing before depth with
  | nil => rfl
  | cons c rest ih =>
    have front : slice? (before ++ c :: rest) 0 (byteSize before) = some before :=
      Text.slice?_front rfl rfl
    have next := ih (before ++ [c]) (depth.feed c)
    simp only [List.append_assoc, List.singleton_append, Text.byteSize_append, Text.byteSize_cons,
      Text.byteSize_nil, Nat.add_zero, List.getLast?_concat] at next
    rw [positions, stripCommentAt, startsCommentWord_eq, front, Scan.stripCommentFrom]
    cases quoted : depth.inQuote with
    | true => simpa using next
    | false =>
      by_cases hash : c = '#'
      · simp [hash]
      · cases word : Scan.startsCommentWord before.getLast? (c :: rest) with
        | true => simp [hash]
        | false => simpa [hash] using next

theorem stripComment_eq (line : Text) : stripComment line = some (Scan.stripComment line) :=
  stripCommentAt_positions [] line {}

end LineScript.InPlace
