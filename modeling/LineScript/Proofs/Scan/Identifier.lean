import LineScript.Proofs.Text.Trim
import LineScript.Scan.Identifier

/-! Identifiers at the start of a text. An identifier ends where the first character
that cannot belong to it stands. -/
namespace LineScript.Scan

/-- A text that does not lengthen an identifier in front of it. -/
def Apart (rest : Text) : Prop := ∀ c ∈ rest.head?, isIdentifierChar c = false

theorem apart_nil : Apart [] := by simp [Apart]

theorem apart_cons {c : Char} {rest : Text} : Apart (c :: rest) ↔ isIdentifierChar c = false := by
  simp [Apart]

theorem isIdentifierStart_iff {c : Char} : isIdentifierStart c = true ↔
    ((0x41 ≤ c.toNat ∧ c.toNat ≤ 0x5A) ∨ (0x61 ≤ c.toNat ∧ c.toNat ≤ 0x7A)) ∨ c = '_' := by
  have upper : c.isUpper = true ↔ 0x41 ≤ c.toNat ∧ c.toNat ≤ 0x5A := decide_eq_true_iff
  have lower : c.isLower = true ↔ 0x61 ≤ c.toNat ∧ c.toNat ≤ 0x7A :=
    Bool.and_eq_true_iff.trans (and_congr decide_eq_true_iff decide_eq_true_iff)
  have letter : c.isAlpha = true ↔ c.isUpper = true ∨ c.isLower = true := Bool.or_eq_true_iff
  rw [isIdentifierStart, Bool.or_eq_true, letter, upper, lower, beq_iff_eq]

theorem isIdentifierChar_iff {c : Char} :
    isIdentifierChar c = true ↔ isIdentifierStart c = true ∨ c.isDigit = true := by
  simp only [isIdentifierChar, isIdentifierStart, Char.isAlphanum, Bool.or_eq_true]
  exact or_right_comm

theorem not_isDigit_of_isIdentifierStart {c : Char} (start : isIdentifierStart c = true) :
    c.isDigit = false := by
  by_contra digit
  rw [Bool.not_eq_false, Char.isDigit_iff_toNat] at digit
  rcases isIdentifierStart_iff.1 start with letter | rfl
  · have upper : c.toNat ≤ 0x39 := digit.2
    omega
  · exact absurd digit (by decide)

theorem splitIdentifier_eq {name : Text} (valid : isIdentifier name = true) {rest : Text}
    (apart : Apart rest) : splitIdentifier (name ++ rest) = (name, rest) := by
  cases name with
  | nil => cases valid
  | cons c others =>
    obtain ⟨start, all⟩ := Bool.and_eq_true_iff.1 valid
    have inside : ∀ d ∈ c :: others, isIdentifierChar d = true := List.all_eq_true.1 all
    have outside : rest.takeWhile isIdentifierChar = [] ∧
        rest.dropWhile isIdentifierChar = rest := by
      cases rest with
      | nil => simp
      | cons d rest => simp [apart_cons.1 apart]
    rw [List.cons_append, splitIdentifier, if_pos start, ← List.cons_append,
      List.takeWhile_append_of_pos inside, List.dropWhile_append_of_pos inside, outside.1,
      outside.2, List.append_nil]

theorem isIdentifier_of_splitIdentifier {text : Text} (nonempty : (splitIdentifier text).1 ≠ []) :
    isIdentifier (splitIdentifier text).1 = true := by
  cases text with
  | nil => exact absurd rfl nonempty
  | cons c rest =>
    rw [splitIdentifier] at nonempty ⊢
    by_cases start : isIdentifierStart c
    · have inside : isIdentifierChar c = true := isIdentifierChar_iff.2 (.inl start)
      simp [isIdentifier, inside, start]
    · rw [if_neg start] at nonempty
      exact absurd rfl nonempty

theorem isIdentifierChar_of_isIdentifier {name : Text} (valid : isIdentifier name = true) :
    ∀ c ∈ name, isIdentifierChar c = true := by
  cases name with
  | nil => cases valid
  | cons c rest => exact List.all_eq_true.1 (Bool.and_eq_true_iff.1 valid).2

theorem splitIdentifier_of_not_start {c : Char} (other : isIdentifierStart c = false)
    (rest : Text) : splitIdentifier (c :: rest) = ([], c :: rest) := by
  simp [splitIdentifier, other]

theorem toNat_of_isIdentifierChar {c : Char} (member : isIdentifierChar c = true) :
    0x30 ≤ c.toNat ∧ c.toNat < 0x80 := by
  rw [isIdentifierChar_iff, isIdentifierStart_iff, Char.isDigit_iff_toNat] at member
  rcases member with (letter | rfl) | digit
  · omega
  · decide
  · exact ⟨digit.1, Nat.lt_of_le_of_lt digit.2 (by decide)⟩

theorem not_isBlank_of_isIdentifierChar {c : Char} (member : isIdentifierChar c = true) :
    Text.isBlank c = false := by
  obtain ⟨lower, upper⟩ := toNat_of_isIdentifierChar member
  by_contra blank
  simp only [Text.isBlank, Bool.or_eq_true, Bool.and_eq_true, decide_eq_true_eq, beq_iff_eq,
    Bool.not_eq_false] at blank
  omega

theorem not_isIdentifierChar_of_isBlank {c : Char} (blank : Text.isBlank c = true) :
    isIdentifierChar c = false := by
  by_contra member
  rw [not_isBlank_of_isIdentifierChar (by simpa using member)] at blank
  cases blank

theorem Apart.gap {gap text : Text} (blank : Text.isAllBlank gap) (apart : Apart text) :
    Apart (gap ++ text) := by
  cases gap with
  | nil => exact apart
  | cons c rest =>
    rw [Text.isAllBlank_cons, Bool.and_eq_true] at blank
    exact apart_cons.2 (not_isIdentifierChar_of_isBlank blank.1)

end LineScript.Scan
