import LineScript.Text.Blank
import Mathlib.Data.List.Basic

/-! Byte positions in a text. A text can be cut between two characters and nowhere else, and a
slice of it exists when its ends are two such places in order. -/
namespace LineScript.Text

@[simp] theorem byteSize_nil : byteSize [] = 0 := rfl

@[simp] theorem byteSize_cons (c : Char) (rest : Text) :
    byteSize (c :: rest) = c.utf8Size + byteSize rest := rfl

@[simp] theorem byteSize_append (a b : Text) : byteSize (a ++ b) = byteSize a + byteSize b := by
  induction a with
  | nil => simp
  | cons c a ih => simp [ih, Nat.add_assoc]

theorem byteSize_eq_zero_iff {text : Text} : byteSize text = 0 ↔ text = [] := by
  cases text with
  | nil => simp
  | cons c rest =>
    have positive := c.utf8Size_pos
    simp only [byteSize_cons, reduceCtorEq, iff_false]
    omega

/-- A byte position between two characters, or at one end of the text. -/
def IsBoundary (text : Text) (offset : Nat) : Prop :=
  ∃ before after, text = before ++ after ∧ byteSize before = offset

/-- The character at a byte position. -/
def At (text : Text) (offset : Nat) (c : Char) : Prop :=
  ∃ before after, text = before ++ c :: after ∧ byteSize before = offset

section

variable {text : Text} {offset : Nat}

theorem IsBoundary.le (boundary : IsBoundary text offset) : offset ≤ byteSize text := by
  obtain ⟨before, after, rfl, rfl⟩ := boundary
  simp

theorem At.isBoundary {c : Char} (stands : At text offset c) : IsBoundary text offset := by
  obtain ⟨before, after, whole, size⟩ := stands
  exact ⟨before, c :: after, whole, size⟩

theorem At.isBoundary_next {c : Char} (stands : At text offset c) :
    IsBoundary text (offset + c.utf8Size) := by
  obtain ⟨before, after, rfl, rfl⟩ := stands
  exact ⟨before ++ [c], after, by simp, by simp⟩

end

/-- The texts before and after a byte position. There are none when it lies beyond the end of the
text or inside a character. -/
def cutAt? : Nat → Text → Option (Text × Text)
  | 0, text => some ([], text)
  | _ + 1, [] => none
  | offset + 1, c :: rest =>
    if c.utf8Size ≤ offset + 1 then
      (cutAt? (offset + 1 - c.utf8Size) rest).map fun (before, after) => (c :: before, after)
    else none

theorem cutAt?_append (before after : Text) :
    cutAt? (byteSize before) (before ++ after) = some (before, after) := by
  induction before with
  | nil => simp [cutAt?]
  | cons c before ih =>
    obtain ⟨offset, size⟩ : ∃ offset, byteSize (c :: before) = offset + 1 :=
      Nat.exists_eq_add_one.2 (Nat.add_pos_left c.utf8Size_pos _)
    have rest : offset + 1 - c.utf8Size = byteSize before := by
      rw [← size, byteSize_cons, Nat.add_sub_cancel_left]
    have fits : c.utf8Size ≤ offset + 1 := by
      rw [← size, byteSize_cons]
      exact Nat.le_add_right _ _
    rw [size, List.cons_append, cutAt?, if_pos fits, rest, ih]
    rfl

theorem eq_of_cutAt? {offset : Nat} {text before after : Text}
    (cut : cutAt? offset text = some (before, after)) :
    text = before ++ after ∧ byteSize before = offset := by
  induction text generalizing offset before with
  | nil =>
    cases offset with
    | zero =>
      cases cut
      exact ⟨rfl, rfl⟩
    | succ offset => cases cut
  | cons c rest ih =>
    cases offset with
    | zero =>
      cases cut
      exact ⟨rfl, rfl⟩
    | succ offset =>
      rw [cutAt?] at cut
      split at cut
      next fits =>
        obtain ⟨⟨front, back⟩, later, same⟩ := Option.map_eq_some_iff.1 cut
        cases same
        obtain ⟨rfl, size⟩ := ih later
        refine ⟨rfl, ?_⟩
        rw [byteSize_cons, size]
        omega
      next => cases cut

/-- The part of a text from one byte position to another. -/
def slice? (text : Text) (start stop : Nat) : Option Text := do
  let (front, _) ← cutAt? stop text
  let (_, part) ← cutAt? start front
  return part

def sliceFrom? (text : Text) (start : Nat) : Option Text := slice? text start (byteSize text)

section

variable {text before part after : Text} {start stop : Nat}

theorem slice?_eq_some_iff : slice? text start stop = some part ↔
    ∃ before after, text = before ++ part ++ after ∧ byteSize before = start ∧
      byteSize (before ++ part) = stop := by
  constructor
  · intro sliced
    simp only [slice?, Option.bind_eq_bind, Option.bind_eq_some_iff, Option.pure_def,
      Option.some.injEq] at sliced
    obtain ⟨⟨front, after⟩, first, ⟨before, _⟩, second, rfl⟩ := sliced
    obtain ⟨rfl, stops⟩ := eq_of_cutAt? first
    obtain ⟨rfl, starts⟩ := eq_of_cutAt? second
    exact ⟨before, after, rfl, starts, stops⟩
  · rintro ⟨before, after, rfl, rfl, rfl⟩
    simp only [slice?, cutAt?_append, Option.bind_eq_bind, Option.bind_some, Option.pure_def]

theorem isSome_slice?_iff : (slice? text start stop).isSome ↔
    (start ≤ stop ∧ stop ≤ byteSize text) ∧ IsBoundary text start ∧ IsBoundary text stop := by
  constructor
  · intro found
    obtain ⟨part, sliced⟩ := Option.isSome_iff_exists.1 found
    obtain ⟨before, after, rfl, rfl, rfl⟩ := slice?_eq_some_iff.1 sliced
    refine ⟨by simp, ⟨before, part ++ after, by simp, rfl⟩, before ++ part, after, rfl, rfl⟩
  · rintro ⟨⟨ordered, _⟩, ⟨before, rest, whole, rfl⟩, front, after, rfl, rfl⟩
    rcases List.append_eq_append_iff.1 whole with ⟨extra, rfl, _⟩ | ⟨part, rfl, _⟩
    · rw [byteSize_append] at ordered
      obtain rfl : extra = [] := byteSize_eq_zero_iff.1 (by omega)
      exact Option.isSome_iff_exists.2 ⟨[], slice?_eq_some_iff.2 ⟨front, after, by simp⟩⟩
    · exact Option.isSome_iff_exists.2 ⟨part, slice?_eq_some_iff.2 ⟨before, after, rfl, rfl, rfl⟩⟩

example : slice? ['a', 'é'] 0 2 = none ∧ slice? ['a', 'é'] 1 3 = some ['é'] := by decide

theorem slice?_eq_some (whole : text = before ++ part ++ after) (starts : byteSize before = start)
    (stops : start + byteSize part = stop) : slice? text start stop = some part :=
  slice?_eq_some_iff.2 ⟨before, after, whole, starts, by rw [byteSize_append, starts, stops]⟩

theorem slice?_front (whole : text = part ++ after) (stops : byteSize part = stop) :
    slice? text 0 stop = some part :=
  slice?_eq_some (by rw [whole, List.nil_append]) byteSize_nil (by rw [stops, Nat.zero_add])

theorem sliceFrom?_eq_some (whole : text = before ++ part) (starts : byteSize before = start) :
    sliceFrom? text start = some part := by
  refine slice?_eq_some (by rw [whole, List.append_nil]) starts ?_
  rw [whole, byteSize_append, starts]

end

end LineScript.Text
