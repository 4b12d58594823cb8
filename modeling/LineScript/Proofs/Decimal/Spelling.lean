import LineScript.Proofs.Decimal.Literal
import Mathlib

/-! Which texts are numbers. Every text that is spelled as a literal is read, part by part, and no
other text is. So a filter on characters, with a reader that also takes words for infinity and NaN
behind it, lets through the same texts. -/
namespace LineScript.Decimal

def Ends (rest : Text) : Prop := ∀ c ∈ rest.head?, c.isDigit = false ∧ c ≠ '.'

section

variable {sign whole fraction exponent rest : Text}

theorem splitSign_append (member : sign ∈ signs) (plain : ∀ c ∈ rest.head?, c ≠ '-' ∧ c ≠ '+') :
    splitSign (sign ++ rest) = (decide (sign = ['-']), rest) := by
  rcases mem_signs.1 member with rfl | rfl | rfl
  · rw [List.nil_append]
    unfold splitSign
    split
    · exact absurd rfl (plain '-' rfl).1
    · exact absurd rfl (plain '+' rfl).2
    · rfl
  · rfl
  · rfl

theorem splitDigits_append_of_head (digits : Digits whole)
    (stop : ∀ c ∈ rest.head?, c.isDigit = false) : splitDigits (whole ++ rest) = (whole, rest) := by
  have stops : rest.takeWhile Char.isDigit = [] ∧ rest.dropWhile Char.isDigit = rest := by
    cases rest with
    | nil => exact ⟨rfl, rfl⟩
    | cons c rest => simp [stop c rfl]
  rw [splitDigits, List.takeWhile_append_of_pos digits, List.dropWhile_append_of_pos digits,
    stops.1, stops.2, List.append_nil]

theorem splitFraction_append (shape : Fraction fraction) (stop : Ends rest) :
    splitFraction (fraction ++ rest) = (fraction.tail, rest) := by
  cases shape with
  | none =>
    rw [List.nil_append]
    unfold splitFraction
    split
    · exact absurd rfl (stop '.' rfl).2
    · rfl
  | point digits => exact splitDigits_append_of_head digits fun c head => (stop c head).1

theorem readExponent?_marked {mark : Char} (marked : mark = 'e' ∨ mark = 'E')
    (member : sign ∈ signs) {digits : Text} (nonempty : digits ≠ []) (all : Digits digits) :
    readExponent? (mark :: (sign ++ digits)) =
      some (if sign = ['-'] then -(digitsValue digits : Int) else digitsValue digits) := by
  have plain : ∀ c ∈ digits.head?, c ≠ '-' ∧ c ≠ '+' := by
    intro c head
    have digit := all c (List.mem_of_mem_head? head)
    constructor <;> rintro rfl <;> exact absurd digit (by decide)
  simp [readExponent?, marked, splitSign_append member plain, nonempty, List.all_eq_true.2 all]

theorem Exponent.exists_read (shape : Exponent exponent) :
    ∃ size, readExponent? exponent = some size := by
  cases shape with
  | none => exact ⟨0, rfl⟩
  | marked mark sign digit digits => exact ⟨_, readExponent?_marked mark sign digit digits⟩

theorem Exponent.ends (shape : Exponent exponent) : Ends exponent := by
  cases shape with
  | none => simp [Ends]
  | marked mark =>
    rintro c ⟨⟩
    rcases mark with rfl | rfl <;> decide

theorem read?_parts {size : Int} (member : sign ∈ signs) (digits : Digits whole)
    (shape : Fraction fraction) (digit : whole ≠ [] ∨ fraction.tail ≠ [])
    (ends : Exponent exponent) (read : readExponent? exponent = some size) :
    Literal.read? (sign ++ (whole ++ (fraction ++ exponent))) =
      some ⟨decide (sign = ['-']), digitsValue (whole ++ fraction.tail),
        size - fraction.tail.length⟩ := by
  have stop : ∀ c ∈ (fraction ++ exponent).head?, c.isDigit = false := by
    intro c head
    cases shape with
    | none => exact (ends.ends c head).1
    | point =>
      cases head
      decide
  have plain : ∀ c ∈ (whole ++ (fraction ++ exponent)).head?, c ≠ '-' ∧ c ≠ '+' := by
    intro c head
    have inner : c.isDigit = true ∨ c = '.' := by
      cases whole with
      | cons =>
        cases head
        exact .inl (digits c (by simp))
      | nil =>
        cases shape with
        | none => simp at digit
        | point =>
          cases head
          exact .inr rfl
    constructor <;> rintro rfl <;> exact absurd inner (by decide)
  have solid : ¬(whole = [] ∧ fraction.tail = []) := not_and_or.2 digit
  simp [Literal.read?, splitSign_append member plain, splitDigits_append_of_head digits stop,
    splitFraction_append shape ends.ends, solid, read]

end

theorem isSome_read?_iff {text : Text} : (Literal.read? text).isSome ↔ Spelled text := by
  rw [Option.isSome_iff_exists]
  constructor
  · rintro ⟨literal, found⟩
    exact spelled_of_read? found
  · rintro ⟨member, digits, shape, digit, ends⟩
    obtain ⟨size, read⟩ := ends.exists_read
    exact ⟨_, read?_parts member digits shape digit ends read⟩

/-- What a general reader of floating-point texts takes: literals, and the words for what is no
number, in any case and with a sign. -/
inductive Floating : Text → Prop where
  | literal {text : Text} : Spelled text → Floating text
  | word {sign word : Text} : sign ∈ signs →
      word.map Char.toLower ∈ ["inf".toList, "infinity".toList, "nan".toList] →
        Floating (sign ++ word)

theorem exists_letter {word : Text}
    (named : word.map Char.toLower ∈ ["inf".toList, "infinity".toList, "nan".toList]) :
    ∃ c ∈ word, isNumeric c = false := by
  have inner : 'n' ∈ word.map Char.toLower := by
    simp only [List.mem_cons, List.not_mem_nil, or_false] at named
    rcases named with same | same | same <;> rw [same] <;> decide
  obtain ⟨c, member, lower⟩ := List.mem_map.1 inner
  refine ⟨c, member, ?_⟩
  by_contra numeric
  simp only [isNumeric, Bool.not_eq_false, Bool.or_eq_true, beq_iff_eq] at numeric
  rcases numeric with ((((digit | rfl) | rfl) | rfl) | rfl) | rfl
  · have letter : c.isAlpha = true := by
      rw [← Char.isAlpha_toLower_eq_isAlpha, lower]
      rfl
    rw [Scan.not_isDigit_of_isIdentifierStart (by simp [Scan.isIdentifierStart, letter])] at digit
    cases digit
  all_goals exact absurd lower (by decide)

theorem Spelled.isNumeric {text : Text} (spelled : Spelled text) : ∀ c ∈ text, isNumeric c := by
  obtain ⟨literal, found⟩ := Option.isSome_iff_exists.1 (isSome_read?_iff.2 spelled)
  exact isNumeric_of_read? found

theorem Spelled.exists_digit {text : Text} (spelled : Spelled text) : ∃ c ∈ text, c.isDigit := by
  obtain @⟨sign, whole, fraction, exponent, _, digits, shape, digit, _⟩ := spelled
  rcases digit with nonempty | nonempty
  · obtain ⟨c, rest, rfl⟩ := List.exists_cons_of_ne_nil nonempty
    exact ⟨c, by simp, digits c (by simp)⟩
  · cases shape with
    | none => exact absurd rfl nonempty
    | point behind =>
      obtain ⟨c, rest, rfl⟩ := List.exists_cons_of_ne_nil nonempty
      exact ⟨c, by simp, behind c (by simp)⟩

/-- Behind the filter, the general reader takes literals only. -/
theorem spelled_iff_filtered {text : Text} : Spelled text ↔
    (∀ c ∈ text, isNumeric c) ∧ (∃ c ∈ text, c.isDigit) ∧ Floating text := by
  constructor
  · intro spelled
    exact ⟨spelled.isNumeric, spelled.exists_digit, .literal spelled⟩
  · rintro ⟨numeric, -, literal | ⟨_, named⟩⟩
    · exact literal
    · obtain ⟨c, member, other⟩ := exists_letter named
      rw [numeric c (by simp [member])] at other
      cases other

theorem isSome_parseNumber?_iff {text : Text} :
    (parseNumber? text).isSome ↔ Spelled (Text.trim text) := by
  rw [parseNumber?, Option.isSome_map, isSome_read?_iff]

/-- A text is a number if and only if it is a literal between blanks. The check by characters, by
the presence of a digit and by the general reader comes to the same, and a word is no number. -/
theorem reads_exactly_literals (text : Text) :
    ((parseNumber? text).isSome ↔ Spelled (Text.trim text)) ∧
      ((parseNumber? text).isSome ↔ (∀ c ∈ Text.trim text, isNumeric c) ∧
        (∃ c ∈ Text.trim text, c.isDigit) ∧ Floating (Text.trim text)) ∧
      ∀ sign ∈ signs, ∀ word : Text,
        word.map Char.toLower ∈ ["inf".toList, "infinity".toList, "nan".toList] →
          Text.trim text = sign ++ word → parseNumber? text = none := by
  refine ⟨isSome_parseNumber?_iff, isSome_parseNumber?_iff.trans spelled_iff_filtered, ?_⟩
  intro sign _ word named whole
  rw [← Option.not_isSome_iff_eq_none, isSome_parseNumber?_iff, whole]
  intro spelled
  obtain ⟨c, member, other⟩ := exists_letter named
  rw [spelled.isNumeric c (by simp [member])] at other
  cases other

end LineScript.Decimal
