import LineScript.Scan.Depth

/-! The group at the start of a text: an opening bracket or quote, a body, and the
character that brings the scan back to top level. -/
namespace LineScript.Scan

structure Group where
  opener : Char
  body : Text
  closer : Char
  rest : Text
deriving DecidableEq, Repr

/-- The body, the closing character and the rest of a group that has been
opened. -/
def closeFrom (depth : Depth) : Text → Option (Text × Char × Text)
  | [] => none
  | c :: rest =>
    if (depth.feed c).isTop then some ([], c, rest)
    else (closeFrom (depth.feed c) rest).map fun (body, closer, tail) => (c :: body, closer, tail)

/-- The group that the first character opens. A first character that leaves the
scan at top level opens none. -/
def group? : Text → Option Group
  | [] => none
  | c :: rest =>
    let depth := Depth.feed {} c
    if depth.isTop then none
    else (closeFrom depth rest).map fun (body, closer, tail) => ⟨c, body, closer, tail⟩

/-- The byte position of the character that closes the group. -/
def matchingClose? (text : Text) : Option Nat :=
  (group? text).map fun group => group.opener.utf8Size + Text.byteSize group.body

def isEnclosed (text : Text) : Bool := (group? text).any fun group => group.rest.isEmpty

/-- The body of a text that is one group with the given opening character. -/
def enclosed? (opener : Char) (text : Text) : Option Text :=
  match group? text with
  | some group => if group.opener = opener ∧ group.rest = [] then some group.body else none
  | none => none

theorem eq_of_closeFrom {depth : Depth} {text body tail : Text} {closer : Char}
    (found : closeFrom depth text = some (body, closer, tail)) :
    text = body ++ closer :: tail := by
  induction text generalizing depth body with
  | nil => simp [closeFrom] at found
  | cons c rest ih =>
    rw [closeFrom] at found
    split at found
    · simp only [Option.some.injEq, Prod.mk.injEq] at found
      obtain ⟨rfl, rfl, rfl⟩ := found
      rfl
    · simp only [Option.map_eq_some_iff, Prod.exists, Prod.mk.injEq] at found
      obtain ⟨_, _, _, inner, rfl, rfl, rfl⟩ := found
      simp [← ih inner]

theorem eq_of_group? {text : Text} {group : Group} (found : group? text = some group) :
    text = group.opener :: group.body ++ group.closer :: group.rest := by
  cases text with
  | nil => simp [group?] at found
  | cons c rest =>
    rw [group?] at found
    split at found
    · simp at found
    · simp only [Option.map_eq_some_iff, Prod.exists] at found
      obtain ⟨_, _, _, closed, rfl⟩ := found
      simp [← eq_of_closeFrom closed]

end LineScript.Scan
