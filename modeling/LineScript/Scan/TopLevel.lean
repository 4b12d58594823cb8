import LineScript.Scan.Depth
import LineScript.Text.Search

/-! Scanning at top level: the characters outside every group and string literal,
splitting at a delimiter among them and finding an operator among them. -/
namespace LineScript.Scan

/-- The top-level characters of `text` with their byte positions, counted from
`offset`. -/
def topLevelFrom (depth : Depth) (offset : Nat) : Text → List (Nat × Char)
  | [] => []
  | c :: rest =>
    let others := topLevelFrom (depth.feed c) (offset + c.utf8Size) rest
    if depth.keepsTop c then (offset, c) :: others else others

def topLevel (text : Text) : List (Nat × Char) := topLevelFrom {} 0 text

def splitFrom (delimiter : Char) (depth : Depth) : Text → List Text
  | [] => [[]]
  | c :: rest =>
    let parts := splitFrom delimiter (depth.feed c) rest
    if depth.keepsTop c && c == delimiter then [] :: parts else parts.modifyHead (c :: ·)

/-- The parts of a text between its top-level delimiters; there is always at
least one. -/
def split (delimiter : Char) (text : Text) : List Text := splitFrom delimiter {} text

structure Occurrence where
  before : Text
  pattern : Text
  after : Text
deriving DecidableEq, Repr

/-- The first of the patterns that the text starts with, and what follows it. -/
def matchFirst? (patterns : List Text) (text : Text) : Option (Text × Text) :=
  patterns.findSome? fun pattern => (Text.dropStart? pattern text).map (pattern, ·)

def findFrom (patterns : List Text) (depth : Depth) : Text → Option Occurrence
  | [] => none
  | c :: rest =>
    let here := if depth.keepsTop c then matchFirst? patterns (c :: rest) else none
    match here with
    | some (pattern, after) => some ⟨[], pattern, after⟩
    | none => (findFrom patterns (depth.feed c) rest).map fun found =>
        { found with before := c :: found.before }

/-- The earliest top-level occurrence of any pattern. Where several begin, the
one listed first is taken. -/
def find? (patterns : List Text) (text : Text) : Option Occurrence := findFrom patterns {} text

theorem eq_of_matchFirst? {patterns : List Text} {text pattern after : Text}
    (found : matchFirst? patterns text = some (pattern, after)) :
    pattern ∈ patterns ∧ text = pattern ++ after := by
  obtain ⟨candidate, member, start⟩ := List.exists_of_findSome?_eq_some found
  simp only [Option.map_eq_some_iff, Prod.mk.injEq] at start
  obtain ⟨_, start, rfl, rfl⟩ := start
  exact ⟨member, Text.dropStart?_eq_some.1 start⟩

theorem eq_of_findFrom {patterns : List Text} {depth : Depth} {text : Text} {found : Occurrence}
    (here : findFrom patterns depth text = some found) :
    found.pattern ∈ patterns ∧ text = found.before ++ found.pattern ++ found.after := by
  induction text generalizing depth found with
  | nil => simp [findFrom] at here
  | cons c rest ih =>
    rw [findFrom] at here
    split at here
    next pattern after start =>
      cases here
      split at start
      · simpa using eq_of_matchFirst? start
      · cases start
    next =>
      simp only [Option.map_eq_some_iff] at here
      obtain ⟨_, later, rfl⟩ := here
      obtain ⟨member, whole⟩ := ih later
      exact ⟨member, by simp [whole]⟩

/-- What is found is one of the patterns, and nothing of the text is lost. -/
theorem eq_of_find? {patterns : List Text} {text : Text} {found : Occurrence}
    (here : find? patterns text = some found) :
    found.pattern ∈ patterns ∧ text = found.before ++ found.pattern ++ found.after :=
  eq_of_findFrom here

end LineScript.Scan
