import LineScript.Text.Blank

/-! Literal search in a text: removing a given start, cutting at the leftmost
occurrence, splitting at every non-overlapping occurrence and replacing them. -/
namespace LineScript.Text

/-- What follows `start` when the text begins with it. -/
def dropStart? : Text → Text → Option Text
  | [], text => some text
  | _ :: _, [] => none
  | s :: start, c :: text => if s = c then dropStart? start text else none

def startsWith (start text : Text) : Bool := (dropStart? start text).isSome

/-- The texts before and after the leftmost occurrence of `needle`. -/
def cut? (needle : Text) : Text → Option (Text × Text)
  | [] => (dropStart? needle []).map fun after => ([], after)
  | c :: rest =>
    match dropStart? needle (c :: rest) with
    | some after => some ([], after)
    | none => (cut? needle rest).map fun (before, after) => (c :: before, after)

/-- The number of characters before the leftmost occurrence of `needle`. -/
def position? (needle text : Text) : Option Nat :=
  (cut? needle text).map fun (before, _) => before.length

def contains (needle text : Text) : Bool := (cut? needle text).isSome

theorem dropStart?_eq_some {start text after : Text} :
    dropStart? start text = some after ↔ text = start ++ after := by
  induction start generalizing text with
  | nil => simp [dropStart?, eq_comm]
  | cons s start ih =>
    cases text with
    | nil => simp [dropStart?]
    | cons c text =>
      by_cases same : s = c
      · subst same
        simp [dropStart?, ih]
      · simp [dropStart?, same, Ne.symm same]

theorem eq_of_cut? {needle text before after : Text}
    (found : cut? needle text = some (before, after)) : text = before ++ needle ++ after := by
  induction text generalizing before with
  | nil =>
    simp only [cut?, Option.map_eq_some_iff, Prod.mk.injEq] at found
    obtain ⟨_, start, rfl, rfl⟩ := found
    simpa using dropStart?_eq_some.1 start
  | cons c rest ih =>
    rw [cut?] at found
    split at found
    next start =>
      obtain ⟨rfl, rfl⟩ := found
      simpa using dropStart?_eq_some.1 start
    next =>
      simp only [Option.map_eq_some_iff, Prod.exists, Prod.mk.injEq] at found
      obtain ⟨_, _, inner, rfl, rfl⟩ := found
      simp [ih inner]

theorem length_lt_of_cut? {needle text before after : Text} (solid : needle ≠ [])
    (found : cut? needle text = some (before, after)) : after.length < text.length := by
  have size := congrArg List.length (eq_of_cut? found)
  have positive := List.length_pos_iff.2 solid
  simp only [List.length_append] at size
  omega

/-- The pieces between the occurrences of `delimiter`, taken from the left
without overlap. An empty delimiter separates nothing. -/
def split (delimiter text : Text) : List Text :=
  if delimiter = [] then [text]
  else
    match _ : cut? delimiter text with
    | none => [text]
    | some (before, after) => before :: split delimiter after
termination_by text.length
decreasing_by exact length_lt_of_cut? ‹_› ‹_›

/-- Puts `filler` before every character and once at the end. -/
def interleave (filler : Text) : Text → Text
  | [] => filler
  | c :: rest => filler ++ c :: interleave filler rest

/-- The occurrences of `needle`, found from the left without overlap, give way to
`replacement`; an empty needle occurs before every character and at the end. -/
def replace (needle replacement text : Text) : Text :=
  if needle = [] then interleave replacement text
  else
    match _ : cut? needle text with
    | none => text
    | some (before, after) => before ++ replacement ++ replace needle replacement after
termination_by text.length
decreasing_by exact length_lt_of_cut? ‹_› ‹_›

end LineScript.Text
