import LineScript.Decimal.Literal
import LineScript.Proofs.Scan.Identifier

/-! How decimal literals are spelled: a sign, digits, a fraction and an exponent. So a text
that reads as a number has digits, points, signs and exponent marks only, it does not begin as
an identifier does, and it does not end with a mark; a plus sign begins it or follows the mark
of its exponent. -/
namespace LineScript.Decimal

def isNumeric (c : Char) : Bool :=
  c.isDigit || c == '.' || c == '-' || c == '+' || c == 'e' || c == 'E'

/-- What may stand before the digits of a number or of an exponent. -/
def signs : List Text := [[], ['-'], ['+']]

theorem mem_signs {sign : Text} : sign ∈ signs ↔ sign = [] ∨ sign = ['-'] ∨ sign = ['+'] := by
  simp [signs]

def Digits (text : Text) : Prop := ∀ c ∈ text, c.isDigit = true

inductive Fraction : Text → Prop where
  | none : Fraction []
  | point {digits : Text} : Digits digits → Fraction ('.' :: digits)

inductive Exponent : Text → Prop where
  | none : Exponent []
  | marked {mark : Char} {sign digits : Text} : mark = 'e' ∨ mark = 'E' → sign ∈ signs →
      digits ≠ [] → Digits digits → Exponent (mark :: (sign ++ digits))

/-- The texts of literals. A digit stands before the point or behind it. -/
inductive Spelled : Text → Prop where
  | intro {sign whole fraction exponent : Text} : sign ∈ signs → Digits whole →
      Fraction fraction → whole ≠ [] ∨ fraction.tail ≠ [] → Exponent exponent →
        Spelled (sign ++ (whole ++ (fraction ++ exponent)))

theorem exists_sign (text : Text) : ∃ sign ∈ signs, text = sign ++ (splitSign text).2 := by
  unfold splitSign
  split
  · exact ⟨['-'], by decide, rfl⟩
  · exact ⟨['+'], by decide, rfl⟩
  · exact ⟨[], by decide, rfl⟩

theorem digits_splitDigits (text : Text) : Digits (splitDigits text).1 :=
  fun _ member => List.mem_takeWhile_imp member

theorem splitDigits_append (text : Text) : (splitDigits text).1 ++ (splitDigits text).2 = text :=
  List.takeWhile_append_dropWhile

theorem exists_fraction (text : Text) : ∃ fraction, Fraction fraction ∧
    fraction.tail = (splitFraction text).1 ∧ text = fraction ++ (splitFraction text).2 := by
  unfold splitFraction
  split
  next rest =>
    refine ⟨'.' :: (splitDigits rest).1, .point (digits_splitDigits rest), rfl, ?_⟩
    rw [List.cons_append, splitDigits_append]
  next => exact ⟨[], .none, rfl, rfl⟩

theorem exponent_of_readExponent? {text : Text} {exponent : Int}
    (found : readExponent? text = some exponent) : Exponent text := by
  cases text with
  | nil => exact .none
  | cons mark rest =>
    simp only [readExponent?] at found
    split at found
    next marked =>
      split at found
      next digits =>
        obtain ⟨sign, member, whole⟩ := exists_sign rest
        rw [whole]
        exact .marked marked member digits.1 (List.all_eq_true.1 digits.2)
      next => cases found
    next => cases found

theorem spelled_of_read? {text : Text} {literal : Literal}
    (found : Literal.read? text = some literal) : Spelled text := by
  simp only [Literal.read?] at found
  split at found
  · cases found
  next digit =>
    obtain ⟨exponent, read, -⟩ := Option.map_eq_some_iff.1 found
    obtain ⟨sign, member, whole⟩ := exists_sign text
    obtain ⟨fraction, shape, behind, rest⟩ := exists_fraction (splitDigits (splitSign text).2).2
    rw [← behind] at digit
    rw [whole, ← splitDigits_append (splitSign text).2, rest]
    exact .intro member (digits_splitDigits _) shape (not_and_or.1 digit)
      (exponent_of_readExponent? read)

theorem Fraction.isDigit_or {fraction : Text} (shape : Fraction fraction) :
    ∀ c ∈ fraction, c.isDigit = true ∨ c = '.' := by
  cases shape with
  | none => simp
  | point digits => exact List.forall_mem_cons.2 ⟨.inr rfl, fun c member => .inl (digits c member)⟩

theorem Spelled.exists_mantissa {text : Text} (spelled : Spelled text) :
    ∃ sign mantissa exponent, sign ∈ signs ∧ mantissa ≠ [] ∧
      (∀ c ∈ mantissa, c.isDigit = true ∨ c = '.') ∧ Exponent exponent ∧
      text = sign ++ (mantissa ++ exponent) := by
  obtain @⟨sign, whole, fraction, exponent, member, digits, shape, digit, ends⟩ := spelled
  refine ⟨sign, whole ++ fraction, exponent, member, ?_, ?_, ends, by rw [List.append_assoc]⟩
  · intro empty
    obtain ⟨rfl, rfl⟩ := List.append_eq_nil_iff.1 empty
    simp at digit
  · exact List.forall_mem_append.2 ⟨fun c member => .inl (digits c member), shape.isDigit_or⟩

theorem isNumeric_of_isDigit {c : Char} (digit : c.isDigit = true) : isNumeric c = true := by
  simp [isNumeric, digit]

theorem not_isBlank_of_isNumeric {c : Char} (numeric : isNumeric c = true) :
    Text.isBlank c = false := by
  simp only [isNumeric, Bool.or_eq_true, beq_iff_eq] at numeric
  rcases numeric with ((((digit | rfl) | rfl) | rfl) | rfl) | rfl
  · exact Scan.not_isBlank_of_isIdentifierChar (Scan.isIdentifierChar_iff.2 (.inr digit))
  all_goals decide

theorem isNumeric_of_mem_signs {sign : Text} (member : sign ∈ signs) : ∀ c ∈ sign, isNumeric c := by
  rcases mem_signs.1 member with rfl | rfl | rfl <;> simp [isNumeric]

theorem Exponent.isNumeric {exponent : Text} (shape : Exponent exponent) :
    ∀ c ∈ exponent, isNumeric c := by
  cases shape with
  | none => simp
  | marked mark sign _ digits =>
    refine List.forall_mem_cons.2 ⟨by rcases mark with rfl | rfl <;> decide, ?_⟩
    exact List.forall_mem_append.2
      ⟨isNumeric_of_mem_signs sign, fun c member => isNumeric_of_isDigit (digits c member)⟩

theorem isNumeric_of_read? {text : Text} {literal : Literal}
    (found : Literal.read? text = some literal) : ∀ c ∈ text, isNumeric c := by
  obtain ⟨sign, mantissa, exponent, signed, _, digits, ends, rfl⟩ :=
    (spelled_of_read? found).exists_mantissa
  simp only [List.forall_mem_append]
  refine ⟨isNumeric_of_mem_signs signed, fun c member => ?_, ends.isNumeric⟩
  rcases digits c member with digit | rfl
  · exact isNumeric_of_isDigit digit
  · decide

theorem not_isIdentifierStart_of_isDigit_or {c : Char} (inner : c.isDigit = true ∨ c = '.') :
    Scan.isIdentifierStart c = false := by
  rcases inner with digit | rfl
  · by_contra start
    rw [Scan.not_isDigit_of_isIdentifierStart (by simpa using start)] at digit
    cases digit
  · decide

theorem not_isIdentifierStart_of_read? {c : Char} {rest : Text} {literal : Literal}
    (found : Literal.read? (c :: rest) = some literal) : Scan.isIdentifierStart c = false := by
  obtain ⟨sign, mantissa, exponent, signed, nonempty, digits, _, whole⟩ :=
    (spelled_of_read? found).exists_mantissa
  obtain ⟨first, more, rfl⟩ := List.exists_cons_of_ne_nil nonempty
  rcases mem_signs.1 signed with rfl | rfl | rfl
  · rw [(List.cons.inj whole).1]
    exact not_isIdentifierStart_of_isDigit_or (digits first (by simp))
  · rw [(List.cons.inj whole).1]
    decide
  · rw [(List.cons.inj whole).1]
    decide

theorem Spelled.exists_end {text : Text} (spelled : Spelled text) :
    ∃ front back, text = front ++ back ∧ back ≠ [] ∧ ∀ c ∈ back, c.isDigit = true ∨ c = '.' := by
  obtain ⟨sign, mantissa, exponent, _, nonempty, inner, ends, rfl⟩ := spelled.exists_mantissa
  cases ends with
  | none => exact ⟨sign, mantissa, by simp, nonempty, inner⟩
  | @marked mark sign' digits _ _ nonempty all =>
    exact ⟨sign ++ (mantissa ++ mark :: sign'), digits, by simp, nonempty,
      fun c member => .inl (all c member)⟩

theorem read?_concat_mark {mark : Char} (marked : mark = 'e' ∨ mark = 'E') (text : Text) :
    Literal.read? (text ++ [mark]) = none := by
  rw [Option.eq_none_iff_forall_ne_some]
  intro literal found
  obtain ⟨front, back, whole, nonempty, inner⟩ := (spelled_of_read? found).exists_end
  obtain ⟨more, last, rfl⟩ := (List.eq_nil_or_concat back).resolve_left nonempty
  rw [List.concat_eq_append, ← List.append_assoc] at whole
  obtain rfl : mark = last := List.cons.inj (List.append_inj' whole rfl).2 |>.1
  have final := inner mark (by simp)
  rcases marked with rfl | rfl <;> exact absurd final (by decide)

theorem Exponent.eq_of_plus {exponent : Text} (shape : Exponent exponent) (plus : '+' ∈ exponent) :
    ∃ mark rest, exponent = mark :: '+' :: rest ∧ (mark = 'e' ∨ mark = 'E') ∧ '+' ≠ mark := by
  cases shape with
  | none => cases plus
  | @marked mark sign digits marked signed _ all =>
    have outside : '+' ∉ digits := fun member => absurd (all _ member) (by decide)
    have apart : '+' ≠ mark := by
      rintro rfl
      exact absurd marked (by decide)
    have inside : '+' ∈ sign := by simpa [apart, outside] using plus
    rcases mem_signs.1 signed with rfl | rfl | rfl
    · cases inside
    · exact absurd inside (by decide)
    · exact ⟨mark, digits, rfl, marked, apart⟩

/-- A plus sign begins a literal or follows the mark of its exponent. Either way there is no
number before it. -/
theorem exists_before_plus {text : Text} {literal : Literal}
    (found : Literal.read? text = some literal) (plus : '+' ∈ text) :
    ∃ front rest, text = front ++ '+' :: rest ∧ '+' ∉ front ∧ Literal.read? front = none := by
  obtain ⟨sign, mantissa, exponent, signed, nonempty, inner, ends, rfl⟩ :=
    (spelled_of_read? found).exists_mantissa
  by_cases first : sign = ['+']
  · exact ⟨[], mantissa ++ exponent, by rw [first]; rfl, by simp, by decide⟩
  · have before : '+' ∉ sign ++ mantissa := by
      have unsigned : '+' ∉ sign := by
        rcases mem_signs.1 signed with rfl | rfl | rfl
        · simp
        · decide
        · exact absurd rfl first
      exact List.not_mem_append unsigned fun member => absurd (inner _ member) (by decide)
    rw [← List.append_assoc] at plus
    obtain ⟨mark, rest, rfl, marked, apart⟩ :=
      ends.eq_of_plus ((List.mem_append.1 plus).resolve_left before)
    exact ⟨sign ++ mantissa ++ [mark], rest, by simp,
      List.not_mem_append before (by simpa using apart), read?_concat_mark marked _⟩

end LineScript.Decimal
