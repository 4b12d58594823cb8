import LineScript.Proofs.Scan.Search
import LineScript.Proofs.Scan.Stack
import LineScript.Proofs.Text.Bytes

/-! The group at the start of a text. What a group is, a stack of open brackets tells: it is empty
at the end of the group and at no place inside. The scanners have no stack and count each kind of
bracket by itself, and still they stop at the last character of the group. -/
namespace LineScript.Scan

open Text (byteSize)

inductive IsGroup : Text → Prop where
  | bracket (bracket : Bracket) {body : Text} :
      Nested [] body → IsGroup (bracket.opener :: body ++ [bracket.closer])
  | literal {body : Text} : Units body → IsGroup ('"' :: body ++ ['"'])

namespace IsGroup

variable {group : Text} (formed : IsGroup group)

include formed

theorem nested : Nested [] group := by
  cases formed with
  | bracket bracket inner => exact .enclose bracket inner
  | literal units => exact .quote units

theorem one_lt_length : 1 < group.length := by
  cases formed <;> simp

theorem exists_group? (rest : Text) : ∃ opener body closer,
    group = opener :: body ++ [closer] ∧
      group? (group ++ rest) = some ⟨opener, body, closer, rest⟩ := by
  cases formed with
  | bracket bracket inner => exact ⟨_, _, _, rfl, group?_bracket bracket inner rest⟩
  | literal units => exact ⟨_, _, _, rfl, group?_quoted units rest⟩

end IsGroup

theorem Nested.exists_group {avoid : Text} {c : Char} {text : Text}
    (nested : Nested avoid (c :: text)) :
    c ∉ marks ∨ ∃ group rest, c :: text = group ++ rest ∧ IsGroup group := by
  cases nested with
  | plain unmarked _ _ => exact .inl unmarked
  | @quoted _ body rest units _ =>
    exact .inr ⟨'"' :: body ++ ['"'], rest, by simp, .literal units⟩
  | @group _ body rest bracket inner _ =>
    exact .inr ⟨bracket.opener :: body ++ [bracket.closer], rest, by simp, .bracket bracket inner⟩

theorem IsGroup.not_nested {front back : Text} (formed : IsGroup (front ++ back))
    (nonempty : front ≠ []) (more : back ≠ []) : ¬Nested [] front := by
  intro nested
  obtain ⟨opener, body, closer, whole, found⟩ := formed.exists_group? []
  obtain ⟨c, text, rfl⟩ := List.exists_cons_of_ne_nil nonempty
  rcases nested.exists_group with unmarked | ⟨group, rest, start, inner⟩
  · rw [List.cons_append, List.cons_append, group?_of_not_mem_marks unmarked] at found
    cases found
  · obtain ⟨_, _, _, _, earlier⟩ := inner.exists_group? (rest ++ back)
    rw [List.append_nil, start, List.append_assoc, earlier] at found
    simp only [Option.some.injEq, Group.mk.injEq, List.append_eq_nil_iff] at found
    exact more found.2.2.2.2

/-- A group is a nested text of which no beginning is nested. -/
theorem isGroup_iff {group : Text} : IsGroup group ↔
    1 < group.length ∧ isNested group = true ∧
      ∀ front back, group = front ++ back → front ≠ [] → back ≠ [] → isNested front = false := by
  constructor
  · intro formed
    refine ⟨formed.one_lt_length, formed.nested.isNested, ?_⟩
    rintro front back rfl nonempty more
    exact Bool.eq_false_iff.2 fun accepted =>
      formed.not_nested nonempty more (nested_of_isNested accepted)
  · rintro ⟨long, accepted, first⟩
    obtain ⟨c, text, rfl⟩ := List.exists_cons_of_length_pos (Nat.zero_lt_of_lt long)
    rcases (nested_of_isNested accepted).exists_group with unmarked | ⟨group, rest, start, formed⟩
    · have more : text ≠ [] := by
        rintro rfl
        exact Nat.lt_irrefl _ long
      have single : Nested [] [c] := .plain unmarked List.not_mem_nil .nil
      have plain := first [c] text rfl (List.cons_ne_nil _ _) more
      rw [single.isNested] at plain
      cases plain
    · rcases eq_or_ne rest [] with rfl | more
      · rw [start, List.append_nil]
        exact formed
      · have nonempty : group ≠ [] :=
          List.ne_nil_of_length_pos (Nat.zero_lt_of_lt formed.one_lt_length)
        have inside := first group rest start nonempty more
        rw [formed.nested.isNested] at inside
        cases inside

/-- The closing character of a group is found at the end of the group, and the text is enclosed
when it has nothing behind the group. -/
theorem matchingClose?_group {group : Text} (formed : IsGroup group) (rest : Text) :
    matchingClose? (group ++ rest) = some (byteSize group.dropLast) ∧
      (isEnclosed (group ++ rest) = true ↔ rest = []) := by
  obtain ⟨opener, body, closer, whole, found⟩ := formed.exists_group? rest
  constructor
  · rw [matchingClose?, found, whole, List.dropLast_concat]
    rfl
  · rw [isEnclosed, found]
    exact List.isEmpty_iff

theorem matchingClose?_group_quoted :
    let group := ['(', '"', 'é', ')', '"', ',', '[', 'x', ']', ')']
    IsGroup group ∧ matchingClose? (group ++ [']', ')']) = some 10 ∧
      isEnclosed (group ++ [']', ')']) = false := by
  intro group
  have inner : Nested [] ['"', 'é', ')', '"', ',', '[', 'x', ']'] :=
    nested_of_isNested (by decide)
  have formed : IsGroup group := .bracket .paren inner
  obtain ⟨found, alone⟩ := matchingClose?_group formed [']', ')']
  exact ⟨formed, found, Bool.eq_false_iff.2 (mt alone.1 (List.cons_ne_nil _ _))⟩

end LineScript.Scan
