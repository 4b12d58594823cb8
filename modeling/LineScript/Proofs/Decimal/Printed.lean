import LineScript.Value.Number
import LineScript.Proofs.Decimal.Shortest
import LineScript.Proofs.Decimal.Spelling

/-! What the text of a number denotes. Both layouts place the digits of a decimal so that the text
is a literal with the value of the decimal, and the decimal is the shortest one of the double. So
the text of a double tells it from all others. -/
namespace LineScript.Decimal

open Double (Around RoundsTo magnitude value? withSign)

def Literal.value (literal : Literal) : ℚ :=
  withSign literal.negative (literal.coefficient * 10 ^ literal.power)

/-- The number `± d₁.d₂…dₖ * 10 ^ exponent`. -/
def decimalValue (negative : Bool) (digits : Text) (exponent : Int) : ℚ :=
  withSign negative (digitsValue digits / 10 ^ (digits.length - 1) * 10 ^ exponent)

section Digits

variable {digits : Text} {exponent : Int}

theorem head?_toDigits {n : Nat} (positive : 0 < n) : (Nat.toDigits 10 n).head? ≠ some '0' := by
  induction n using Nat.strongRecOn with
  | ind n ih =>
    rw [Nat.toDigits_eq_if (by decide)]
    split
    next small => simpa [Nat.digitChar_eq_zero] using positive.ne'
    next large =>
      rw [List.head?_append_of_ne_nil _ Nat.toDigits_ne_nil]
      exact ih (n / 10) (by omega) (by omega)

theorem getLast?_toDigits {n : Nat} (trimmed : n % 10 ≠ 0) :
    (Nat.toDigits 10 n).getLast? ≠ some '0' := by
  rw [Nat.toDigits_eq_if (by decide)]
  split
  next small =>
    rw [Nat.mod_eq_of_lt small] at trimmed
    simpa [Nat.digitChar_eq_zero] using trimmed
  next large => simpa [Nat.digitChar_eq_zero] using trimmed

theorem digitsValue_zeros_append (count : Nat) (digits : Text) :
    digitsValue (zeros count ++ digits) = digitsValue digits := by
  simp [digitsValue, zeros, Nat.ofDigitChars_append, Nat.ofDigitChars_replicate_zero]

theorem digitsValue_append_zeros (digits : Text) (count : Nat) :
    digitsValue (digits ++ zeros count) = digitsValue digits * 10 ^ count := by
  simp [digitsValue, zeros, Nat.ofDigitChars_append, Nat.ofDigitChars_replicate_zero, mul_comm]

theorem digits_zeros (count : Nat) : Digits (zeros count) := by
  intro c member
  rw [List.eq_of_mem_replicate member]
  rfl

theorem decimalValue_eq (negative : Bool) (digits : Text) (exponent : Int) :
    decimalValue negative digits exponent =
      withSign negative (digitsValue digits * 10 ^ (exponent - (digits.length - 1 : Nat))) := by
  rw [decimalValue, zpow_sub₀ (by decide), zpow_natCast, div_mul_eq_mul_div, mul_div_assoc]

theorem decimalValue_digits (negative : Bool) (decimal : Scaled) :
    decimalValue negative decimal.digits decimal.exponent = withSign negative decimal.value := by
  rw [decimalValue_eq, Scaled.exponent, add_sub_cancel_right, digitsValue, Scaled.digits,
    Nat.ofDigitChars_ten_toDigits, Scaled.value]

end Digits

section Layout

variable {digits : Text}

theorem exists_plain_parts (nonempty : digits ≠ []) (all : Digits digits) (exponent : Int) :
    ∃ whole fraction, plain digits exponent = whole ++ fraction ∧ whole ≠ [] ∧ Digits whole ∧
      Fraction fraction ∧ (digitsValue (whole ++ fraction.tail) : ℚ) = digitsValue digits *
        10 ^ (exponent - (digits.length - 1 : Nat) + fraction.tail.length) := by
  have size := List.length_pos_of_ne_nil nonempty
  simp only [plain]
  split
  next small =>
    refine ⟨['0'], '.' :: (zeros (-exponent - 1).toNat ++ digits), rfl, by simp, by simp [Digits],
      .point ?_, ?_⟩
    · exact fun c member => (List.mem_append.1 member).elim (digits_zeros _ c) (all c)
    · have level : exponent - (digits.length - 1 : Nat) +
          ((zeros (-exponent - 1).toNat ++ digits).length : Nat) = 0 := by
        simp only [zeros, List.length_append, List.length_replicate]
        omega
      have value := digitsValue_zeros_append ((-exponent - 1).toNat + 1) digits
      rw [List.tail_cons, level, zpow_zero, mul_one]
      exact_mod_cast value
  next large =>
    split
    next short =>
      refine ⟨digits ++ zeros (exponent.toNat + 1 - digits.length), [], by simp,
        by simp [nonempty], ?_, .none, ?_⟩
      · exact fun c member => (List.mem_append.1 member).elim (all c) (digits_zeros _ c)
      · have places : exponent - (digits.length - 1 : Nat) + (([] : Text).tail.length : Nat) =
            ((exponent.toNat + 1 - digits.length : Nat) : Int) := by
          simp only [List.tail_nil, List.length_nil]
          omega
        rw [places, zpow_natCast, List.tail_nil, List.append_nil, digitsValue_append_zeros]
        push_cast
        rfl
    next long =>
      refine ⟨digits.take (exponent.toNat + 1), '.' :: digits.drop (exponent.toNat + 1), rfl,
        by simp [nonempty], fun c member => all c (List.mem_of_mem_take member),
        .point fun c member => all c (List.mem_of_mem_drop member), ?_⟩
      have level : exponent - (digits.length - 1 : Nat) +
          ((digits.drop (exponent.toNat + 1)).length : Nat) = 0 := by
        rw [List.length_drop]
        omega
      rw [List.tail_cons, level, zpow_zero, mul_one, List.take_append_drop]

theorem signed_eq_append (negative : Bool) (text : Text) :
    ∃ sign ∈ signs, signed negative text = sign ++ text ∧ decide (sign = ['-']) = negative := by
  cases negative
  · exact ⟨[], by decide, rfl, rfl⟩
  · exact ⟨['-'], by decide, rfl, rfl⟩

/-- A plain text with an exponent behind it is a literal, and denotes what the digits do. -/
theorem exists_read?_plain (negative : Bool) (nonempty : digits ≠ []) (all : Digits digits)
    (exponent : Int) {mark : Text} {size : Int} (ends : Exponent mark)
    (read : readExponent? mark = some size) :
    ∃ literal, Literal.read? (signed negative (plain digits exponent ++ mark)) =
      some literal ∧ literal.value = decimalValue negative digits (exponent + size) := by
  obtain ⟨whole, fraction, parts, digit, inner, shape, value⟩ :=
    exists_plain_parts nonempty all exponent
  obtain ⟨sign, member, text, minus⟩ := signed_eq_append negative (plain digits exponent ++ mark)
  have found := read?_parts member inner shape (.inl digit) ends read
  rw [← List.append_assoc whole, ← parts, ← text, minus] at found
  refine ⟨_, found, ?_⟩
  rw [Literal.value, decimalValue_eq, value, mul_assoc, ← zpow_add₀ (by decide)]
  congr 3
  ring

theorem scientific_eq (nonempty : digits ≠ []) (exponent : Int) :
    scientific digits exponent = plain digits 0 ++
      'e' :: (if exponent < 0 then '-' else '+') :: Nat.toDigits 10 exponent.natAbs := by
  obtain ⟨c, rest, rfl⟩ := List.exists_cons_of_ne_nil nonempty
  cases rest <;> simp [scientific, plain, zeros]

theorem not_mem_signed_plain (negative : Bool) (nonempty : digits ≠ []) (all : Digits digits)
    (exponent : Int) {c : Char} (other : c.isDigit = false) (point : c ≠ '.') (minus : c ≠ '-') :
    c ∉ signed negative (plain digits exponent) := by
  obtain ⟨whole, fraction, parts, -, inner, shape, -⟩ := exists_plain_parts nonempty all exponent
  have outside : c ∉ plain digits exponent := by
    rw [parts]
    intro member
    have allowed : c.isDigit = true ∨ c = '.' :=
      (List.mem_append.1 member).elim (fun member => .inl (inner c member)) (shape.isDigit_or c)
    simp [other, point] at allowed
  cases negative
  · exact outside
  · exact List.not_mem_cons_of_ne_of_not_mem minus outside

theorem readExponent?_signed (exponent : Int) :
    readExponent? ('e' :: (if exponent < 0 then '-' else '+') :: Nat.toDigits 10 exponent.natAbs) =
      some exponent := by
  have member : [if exponent < 0 then '-' else '+'] ∈ signs := by
    split <;> decide
  have digits : Digits (Nat.toDigits 10 exponent.natAbs) :=
    fun _ => Nat.isDigit_of_mem_toDigits (by decide) (by decide)
  have read := readExponent?_marked (.inl rfl) member Nat.toDigits_ne_nil digits
  rw [List.singleton_append, digitsValue, Nat.ofDigitChars_ten_toDigits] at read
  rw [read]
  congr 1
  by_cases below : exponent < 0
  · simp only [below, if_true]
    omega
  · simp only [below, if_false, List.cons.injEq, and_true]
    rw [if_neg (by decide)]
    omega

theorem exponent_signed (exponent : Int) :
    Exponent ('e' :: (if exponent < 0 then '-' else '+') :: Nat.toDigits 10 exponent.natAbs) :=
  exponent_of_readExponent? (readExponent?_signed exponent)

theorem Spelled.accepted {text : Text} (spelled : Spelled text) : (parseNumber? text).isSome := by
  obtain ⟨c, member, -⟩ := spelled.exists_digit
  have solid : Text.Tight text := Text.tight_of_solid (List.ne_nil_of_mem member) fun c member =>
    not_isBlank_of_isNumeric (spelled.isNumeric c member)
  rwa [isSome_parseNumber?_iff, solid.trim_eq]

structure Writes (text : Text) (negative : Bool) (digits : Text) (exponent : Int) : Prop where
  spelled : Spelled text
  accepted : (parseNumber? text).isSome
  value : ∃ literal, Literal.read? text = some literal ∧
    literal.value = decimalValue negative digits exponent
  plain : -6 ≤ exponent → exponent ≤ 20 → 'e' ∉ text ∧ 'E' ∉ text
  scientific : exponent < -6 ∨ 20 < exponent → ∃ mantissa, 'e' ∉ mantissa ∧ 'E' ∉ mantissa ∧
    text = mantissa ++
      'e' :: (if exponent < 0 then '-' else '+') :: Nat.toDigits 10 exponent.natAbs ∧
    ∃ literal, Literal.read? mantissa = some literal ∧
      literal.value = decimalValue negative digits 0

theorem writes_printed (negative : Bool) (nonempty : digits ≠ []) (all : Digits digits)
    (exponent : Int) :
    Writes (signed negative (Number.printed.write digits exponent)) negative digits exponent := by
  have mark (exponent : Int) : 'e' ∉ signed negative (plain digits exponent) ∧
      'E' ∉ signed negative (plain digits exponent) :=
    ⟨not_mem_signed_plain negative nonempty all exponent rfl (by decide) (by decide),
      not_mem_signed_plain negative nonempty all exponent rfl (by decide) (by decide)⟩
  by_cases middle : -6 ≤ exponent ∧ exponent ≤ 20
  · have layout : Number.printed.write digits exponent = plain digits exponent ++ [] :=
      if_pos middle
    obtain ⟨literal, found, value⟩ := exists_read?_plain negative nonempty all exponent .none rfl
    have spelled := spelled_of_read? found
    rw [add_zero] at value
    rw [layout]
    refine ⟨spelled, spelled.accepted, ⟨literal, found, value⟩, fun _ _ => ?_,
      fun outside => by omega⟩
    rw [List.append_nil]
    exact mark exponent
  · have layout : Number.printed.write digits exponent = scientific digits exponent :=
      if_neg middle
    obtain ⟨literal, found, value⟩ := exists_read?_plain negative nonempty all 0
      (exponent_signed exponent) (readExponent?_signed exponent)
    have spelled := spelled_of_read? found
    have mantissa := exists_read?_plain negative nonempty all 0 .none rfl
    rw [zero_add] at value
    rw [add_zero, List.append_nil] at mantissa
    rw [layout, scientific_eq nonempty]
    refine ⟨spelled, spelled.accepted, ⟨literal, found, value⟩,
      fun low high => absurd ⟨low, high⟩ middle,
      fun _ => ⟨signed negative (plain digits 0), (mark 0).1, (mark 0).2, ?_, mantissa⟩⟩
    cases negative <;> rfl

end Layout

section Doubles

variable {mantissa : Nat} {power : Int}

/-- The decimal to print for a double other than zero. It is read as the double. No other decimal
that is has fewer digits, and of those with as many it is the nearest, or the larger of two. -/
structure IsShortest (x : Float) (v : ℚ) (digits : Text) (exponent : Int) : Prop where
  nonempty : digits ≠ []
  all : Digits digits
  first : digits.head? ≠ some '0'
  last : digits.getLast? ≠ some '0'
  rounds : RoundsTo (decimalValue (v < 0) digits exponent) x
  shortest : ∀ other power : Int, RoundsTo (other * 10 ^ power) x →
    digits.length ≤ (Nat.toDigits 10 other.natAbs).length
  nearest : ∀ other power : Int, RoundsTo (other * 10 ^ power) x →
    (Nat.toDigits 10 other.natAbs).length ≤ digits.length →
      |decimalValue (v < 0) digits exponent - v| ≤ |other * 10 ^ power - v| ∧
        (|decimalValue (v < 0) digits exponent - v| = |other * 10 ^ power - v| →
          |(other : ℚ) * 10 ^ power| ≤ |decimalValue (v < 0) digits exponent|)

theorem abs_int_mul_zpow (other power : Int) :
    |(other : ℚ) * 10 ^ power| = (other.natAbs : ℚ) * 10 ^ power := by
  have scale : (0 : ℚ) < 10 ^ power := zpow_pos (by decide) power
  rw [abs_mul, abs_of_pos scale, Nat.cast_natAbs, Int.cast_abs]

theorem isShortest_of_best {x : Float} {negative : Bool} {decimal : Scaled}
    (finite : Double.parts x = .finite negative mantissa power) (positive : 0 < mantissa)
    (best : Best .up mantissa power decimal) :
    IsShortest x (withSign negative (magnitude mantissa power)) decimal.digits
      decimal.exponent := by
  have size := Double.magnitude_pos power positive
  have sign := Double.withSign_lt_zero negative size
  have solid : 0 < decimal.coefficient :=
    Nat.pos_of_ne_zero fun zero => best.trimmed (by rw [zero])
  have more := best.around.pos positive
  -- a decimal that is read as the double has its sign
  have unsigned {other scale : Int} (rounds : RoundsTo (other * 10 ^ scale) x) :
      (other : ℚ) * 10 ^ scale = withSign negative (other.natAbs * 10 ^ scale) ∧
        Around mantissa power (other.natAbs * 10 ^ scale) := by
    rw [← abs_int_mul_zpow]
    exact rounds.signed finite positive
  refine ⟨Nat.toDigits_ne_nil, fun _ => Nat.isDigit_of_mem_toDigits (by decide) (by decide),
    head?_toDigits solid, getLast?_toDigits best.trimmed, ?_, fun other scale rounds => ?_,
    fun other scale rounds shorter => ?_⟩
  · rw [sign, decimalValue_digits]
    exact (Double.roundsTo_iff finite positive).2 best.around
  · exact best.shortest _ scale (unsigned rounds).2
  · obtain ⟨same, around⟩ := unsigned rounds
    obtain ⟨near, tied⟩ := best.nearest _ scale around shorter
    rw [sign, decimalValue_digits, same, Double.abs_withSign_sub, Double.abs_withSign_sub,
      Double.abs_withSign, Double.abs_withSign, abs_of_pos more, abs_of_pos (around.pos positive)]
    exact ⟨near, tied rfl⟩

theorem exists_parts_of_ne_zero {x : Float} {v : ℚ} (value : value? x = some v) (nonzero : v ≠ 0) :
    ∃ negative mantissa power, Double.parts x = .finite negative mantissa power ∧ 0 < mantissa ∧
      v = withSign negative (magnitude mantissa power) := by
  obtain ⟨negative, mantissa, power, finite, -, size⟩ := Double.exists_parts_of_value? value
  refine ⟨negative, mantissa, power, finite, Nat.pos_of_ne_zero fun zero => nonzero ?_, size⟩
  rw [size, zero, Double.magnitude_zero, Double.withSign_zero]

theorem text_zero {x : Float} (value : value? x = some 0) : Number.text x = ['0'] := by
  obtain ⟨negative, mantissa, power, finite, -, size⟩ := Double.exists_parts_of_value? value
  have zero : mantissa = 0 := by
    by_contra nonzero
    have positive := Double.magnitude_pos power (Nat.pos_of_ne_zero nonzero)
    cases negative
    · exact positive.ne size
    · exact positive.ne' (neg_eq_zero.1 size.symm)
  rw [Number.text, finite]
  exact if_pos zero

theorem exists_printed {x : Float} {v : ℚ} (value : value? x = some v) (nonzero : v ≠ 0) :
    ∃ digits exponent, IsShortest x v digits exponent ∧
      Writes (Number.text x) (v < 0) digits exponent := by
  obtain ⟨negative, mantissa, power, finite, positive, rfl⟩ :=
    exists_parts_of_ne_zero value nonzero
  have best := best_shortest .up (Double.canonical_of_parts finite) positive
  have least := isShortest_of_best finite positive best
  have layout : Number.text x = signed negative (Number.printed.write
      (shortest .up mantissa power).digits (shortest .up mantissa power).exponent) := by
    rw [Number.text, finite]
    exact if_neg positive.ne'
  refine ⟨_, _, least, ?_⟩
  rw [layout, Double.withSign_lt_zero negative (Double.magnitude_pos _ positive)]
  exact writes_printed negative least.nonempty least.all _

theorem eq_of_roundsTo {x y : Float} {v w r : ℚ} (left : value? x = some v)
    (right : value? y = some w) (nonzero : v ≠ 0) (other : w ≠ 0) (first : RoundsTo r x)
    (second : RoundsTo r y) : v = w := by
  obtain ⟨negative, mantissa, power, finite, positive, rfl⟩ :=
    exists_parts_of_ne_zero left nonzero
  obtain ⟨opposite, factor, exponent, double, more, rfl⟩ := exists_parts_of_ne_zero right other
  obtain ⟨sign, around⟩ := first.signed finite positive
  obtain ⟨same, next⟩ := second.signed double more
  obtain ⟨rfl, -⟩ := Double.withSign_inj (around.pos positive) (next.pos more)
    (sign.symm.trans same)
  obtain ⟨rfl, rfl⟩ := around.unique (Double.canonical_of_parts finite)
    (Double.canonical_of_parts double) next
  rfl

theorem text_ne_zero {x : Float} {v : ℚ} (value : value? x = some v) (nonzero : v ≠ 0) :
    Number.text x ≠ ['0'] := by
  obtain ⟨digits, exponent, least, writes⟩ := exists_printed value nonzero
  obtain ⟨literal, found, denotes⟩ := writes.value
  obtain ⟨negative, mantissa, power, finite, positive, rfl⟩ :=
    exists_parts_of_ne_zero value nonzero
  intro zero
  have isZero : literal = ⟨false, 0, 0⟩ := by
    rw [zero] at found
    exact (Option.some.inj found).symm
  have rounds := least.rounds
  rw [← denotes, isZero, Literal.value, Nat.cast_zero, zero_mul, Double.withSign_zero] at rounds
  exact ((rounds.signed finite positive).2.pos positive).ne' abs_zero

section Equal

variable {x y : Float} {v w : ℚ} (left : value? x = some v)

include left

theorem eq_of_text_eq (right : value? y = some w) (same : Number.text x = Number.text y) :
    v = w := by
  by_cases zero : v = 0 <;> by_cases vanishes : w = 0
  · rw [zero, vanishes]
  · rw [text_zero (zero ▸ left)] at same
    exact absurd same.symm (text_ne_zero right vanishes)
  · rw [text_zero (x := y) (vanishes ▸ right)] at same
    exact absurd same (text_ne_zero left zero)
  · obtain ⟨digits, exponent, least, writes⟩ := exists_printed left zero
    obtain ⟨others, power, best, written⟩ := exists_printed right vanishes
    obtain ⟨literal, found, denotes⟩ := writes.value
    obtain ⟨number, read, means⟩ := written.value
    -- the one text is read as one literal, and that is rounded to one double
    rw [← same, found, Option.some.injEq] at read
    subst read
    exact eq_of_roundsTo left right zero vanishes (denotes ▸ least.rounds) (means ▸ best.rounds)

theorem text_congr (right : value? y = some v) : Number.text x = Number.text y := by
  by_cases zero : v = 0
  · rw [text_zero (zero ▸ left), text_zero (zero ▸ right)]
  · obtain ⟨negative, mantissa, power, finite, positive, rfl⟩ := exists_parts_of_ne_zero left zero
    obtain ⟨opposite, factor, exponent, double, more, same⟩ := exists_parts_of_ne_zero right zero
    obtain ⟨rfl, size⟩ := Double.withSign_inj (Double.magnitude_pos _ positive)
      (Double.magnitude_pos _ more) same
    obtain ⟨rfl, rfl⟩ := Double.magnitude_inj (Double.canonical_of_parts finite)
      (Double.canonical_of_parts double) size
    rw [Number.text, Number.text, finite, double]

theorem text_eq_iff (right : value? y = some w) :
    Number.text x = Number.text y ↔ (x == y) = true := by
  rw [Double.beq_iff left right]
  constructor
  · exact eq_of_text_eq left right
  · rintro rfl
    exact text_congr left right

end Equal

/-- The text of a finite double denotes its shortest decimal exactly, and tells it from all doubles
that are not equal to it. Both zeros are written as zero. -/
theorem text_denotes_shortest (x : Float) (v : ℚ) (value : value? x = some v) :
    (v = 0 → Number.text x = ['0']) ∧
      (v ≠ 0 → ∃ digits exponent, IsShortest x v digits exponent ∧
        Writes (Number.text x) (v < 0) digits exponent) ∧
      ∀ y w, value? y = some w → (Number.text x = Number.text y ↔ (x == y) = true) :=
  ⟨fun zero => text_zero (zero ▸ value), exists_printed value,
    fun _ _ other => text_eq_iff value other⟩

theorem text_denotes_least : value? (Float.ofBits 1) = some (magnitude 1 (-1074)) ∧
    Number.text (Float.ofBits 1) = "5e-324".toList ∧
    ∃ digits exponent, IsShortest (Float.ofBits 1) (magnitude 1 (-1074)) digits exponent ∧
      Writes (Number.text (Float.ofBits 1)) (magnitude 1 (-1074) < 0) digits exponent :=
  ⟨rfl, by decide +kernel, (text_denotes_shortest (Float.ofBits 1) (magnitude 1 (-1074)) rfl).2.1
    (Double.magnitude_pos _ (by decide)).ne'⟩

end Doubles

end LineScript.Decimal
