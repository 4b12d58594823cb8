import LineScript.Decimal.Literal
import LineScript.Proofs.Scan.Identifier
import LineScript.Value.Number
import Mathlib

/-! Whole numbers below `2 ^ 53` are doubles, and the text of such a number reads back as the
number. Arithmetic on doubles works on an unpacked form, which is the exact value that
`Double.parts` reads off the bits; a mantissa of fifty-three bits passes through packing and
rounding unchanged. -/
namespace LineScript.Double

open Float.Model (Format UnpackedFloat)
open Float.Model.UnpackedFloat (Sign)

def sign (negative : Bool) : Sign := if negative then .negative else .positive

def Parts.unpacked : Parts → UnpackedFloat
  | .nan => .notANumber
  | .infinite negative => .infinity (sign negative)
  | .finite negative mantissa power =>
    if solid : 0 < mantissa then .finite (sign negative) mantissa power solid
    else .zero (sign negative)

section Bits

theorem toNat_implicit (fraction : BitVec 52) :
    (1#1 ++ fraction).toNat = 2 ^ 52 + fraction.toNat := by
  rw [BitVec.toNat_append, ← Nat.shiftLeft_add_eq_or_of_lt fraction.isLt]
  simp [Nat.shiftLeft_eq]

theorem toNat_unpackMantissa (bits : BitVec 64) :
    (@UnpackedFloat.unpackMantissa Format.binary64 bits).toNat = bits.toNat % 2 ^ 52 := by
  simp [UnpackedFloat.unpackMantissa]

theorem toNat_unpackExponent (bits : BitVec 64) :
    (@UnpackedFloat.unpackExponent Format.binary64 bits).toNat =
      bits.toNat / 2 ^ 52 % 2 ^ 11 := by
  simp [UnpackedFloat.unpackExponent, Nat.shiftRight_eq_div_pow]

theorem toNat_unpackSign (bits : BitVec 64) :
    (@UnpackedFloat.unpackSign Format.binary64 bits).toNat = bits.toNat / 2 ^ 63 := by
  have bound := bits.isLt
  simp only [UnpackedFloat.unpackSign, BitVec.toNat_cast, BitVec.extractLsb_toNat,
    Nat.shiftRight_eq_div_pow]
  omega

theorem ofBitVec_unpackSign (x : Float) :
    Sign.ofBitVec (@UnpackedFloat.unpackSign Format.binary64 x.toBits.toBitVec) =
      sign (x.toBits.toNat / two 63 == 1) := by
  have value := toNat_unpackSign x.toBits.toBitVec
  have bound := x.toBits.toBitVec.isLt
  rw [UInt64.toNat_toBitVec] at value bound
  have power : two 63 = 2 ^ 63 := rfl
  rw [Sign.ofBitVec, sign, power]
  simp only [← BitVec.toNat_inj, value, beq_iff_eq, BitVec.toNat_ofNat, Nat.zero_mod]
  have bit : x.toBits.toNat / 2 ^ 63 = 0 ∨ x.toBits.toNat / 2 ^ 63 = 1 := by omega
  rcases bit with clear | set
  · rw [clear]
    rfl
  · rw [set]
    rfl

theorem unpack_eq (x : Float) : x.toModel.unpack = (parts x).unpacked := by
  change UnpackedFloat.unpack Format.binary64 x.toBits.toBitVec = _
  rw [UnpackedFloat.unpack]
  simp only [ofBitVec_unpackSign, ← BitVec.toNat_inj, toNat_unpackMantissa, toNat_unpackExponent,
    toNat_implicit, UInt64.toNat_toBitVec]
  rw [parts]
  split
  next top =>
    rw [if_pos (show x.toBits.toNat / two 52 % two 11 = 2047 from top)]
    split
    next empty => rw [if_pos (show x.toBits.toNat % two 52 = 0 from empty)]; rfl
    next full => rw [if_neg (show ¬x.toBits.toNat % two 52 = 0 from full)]; rfl
  next lower =>
    rw [if_neg (show ¬x.toBits.toNat / two 52 % two 11 = 2047 from lower)]
    split
    next bottom =>
      rw [if_pos (show x.toBits.toNat / two 52 % two 11 = 0 from bottom), Parts.unpacked]
      split
      next empty =>
        rw [dif_neg (show ¬0 < x.toBits.toNat % two 52 from Nat.not_lt.2 (Nat.le_of_eq empty))]
      next full =>
        rw [dif_pos (show 0 < x.toBits.toNat % two 52 from Nat.pos_of_ne_zero full)]
        congr 1
        rw [show x.toBits.toNat / 2 ^ 52 % 2 ^ 11 = 0 from bottom]
        rfl
    next inner =>
      have solid : 0 < two 52 + x.toBits.toNat % two 52 :=
        Nat.add_pos_left (Nat.two_pow_pos 52) _
      rw [if_neg (show ¬x.toBits.toNat / two 52 % two 11 = 0 from inner), Parts.unpacked,
        dif_pos solid]
      rfl

theorem shiftRight_exact (count mantissa : Nat) :
    (⟨mantissa * 2 ^ count, false, false⟩ : UnpackedFloat.ExtendedMantissa) >>> count =
      ⟨mantissa, false, false⟩ := by
  change Nat.repeat _ count _ = _
  induction count generalizing mantissa with
  | zero => simp [Nat.repeat]
  | succ count ih =>
    rw [Nat.pow_succ, Nat.mul_comm (2 ^ count), ← Nat.mul_assoc, Nat.repeat, ih]
    simp [UnpackedFloat.ExtendedMantissa.shiftRightOne]

end Bits

structure Normal (mantissa : Nat) (power : Int) : Prop where
  low : 2 ^ 52 ≤ mantissa
  high : mantissa < 2 ^ 53
  least : -1074 ≤ power
  most : power ≤ 971

namespace Normal

variable {mantissa : Nat} {power : Int} (normal : Normal mantissa power)

include normal

theorem pos : 0 < mantissa := Nat.lt_of_lt_of_le (Nat.two_pow_pos 52) normal.low

theorem log2_shifted (shift : Nat) : (mantissa * 2 ^ shift).log2 = 52 + shift := by
  have solid : mantissa * 2 ^ shift ≠ 0 :=
    Nat.ne_of_gt (Nat.mul_pos normal.pos (Nat.two_pow_pos shift))
  rw [Nat.log2_eq_iff solid, Nat.pow_add, show 52 + shift + 1 = 53 + shift by omega, Nat.pow_add]
  exact ⟨Nat.mul_le_mul_right _ normal.low,
    Nat.mul_lt_mul_of_pos_right normal.high (Nat.two_pow_pos shift)⟩

/-- Packing keeps the value, so that the next operation sees it as it was. -/
theorem unpack_pack (sign : Sign) :
    (Float.Model.pack (.finite sign mantissa power normal.pos)).unpack =
      .finite sign mantissa power normal.pos := by
  obtain ⟨low, high, least, most⟩ := normal
  have width : mantissa.log2 = 52 := (Nat.log2_eq_iff (by omega)).2 ⟨low, high⟩
  have bias : power + (Format.binary64.exponentBias : Int) +
      (Format.binary64.mantissaBitsWithoutImplicit : Int) = power + 1075 := by
    simp only [Format.exponentBias]
    omega
  have packed : UnpackedFloat.pack Format.binary64 (.finite sign mantissa power (by omega)) =
      UnpackedFloat.packComponents Format.binary64 sign (BitVec.ofNat _ (power + 1075).toNat)
        (BitVec.ofNat _ mantissa) := by
    simp only [UnpackedFloat.pack, bias, width]
    rw [if_neg (by omega), if_pos (by decide)]
  have exponent : (BitVec.ofNat 11 (power + 1075).toNat).toNat = (power + 1075).toNat := by
    rw [BitVec.toNat_ofNat]
    omega
  change UnpackedFloat.unpack Format.binary64 (UnpackedFloat.pack Format.binary64 _) = _
  rw [packed, UnpackedFloat.unpack]
  simp only [UnpackedFloat.unpackExponent_packComponents,
    UnpackedFloat.unpackMantissa_packComponents, UnpackedFloat.unpackSign_packComponents,
    Sign.ofBitVec_toBitVec, ← BitVec.toNat_inj, exponent]
  rw [if_neg (show (power + 1075).toNat ≠ (-1#11).toNat by simp; omega),
    if_neg (show (power + 1075).toNat ≠ (0#11).toNat by simp; omega)]
  congr 1
  · rw [toNat_implicit, BitVec.toNat_ofNat]
    omega
  · simp only [Format.exponentBias]
    omega

theorem targetExponent_shifted (shift : Nat) :
    Format.binary64.targetExponent (Float.Model.totalExponent (mantissa * 2 ^ shift)
      (power - shift)) = power := by
  have least := normal.least
  simp only [Format.targetExponent, Float.Model.totalExponent, normal.log2_shifted,
    Format.mantissaBits, Format.minExponent]
  omega

theorem shiftToTargetExponent (shift : Nat) :
    UnpackedFloat.shiftToTargetExponent Format.binary64 (mantissa * 2 ^ shift) (power - shift)
      .exact = (⟨mantissa, false, false⟩, power) := by
  have amount : (power - (power - (shift : Int))).toNat = shift := by omega
  rw [UnpackedFloat.shiftToTargetExponent, normal.targetExponent_shifted]
  simp only [UnpackedFloat.shiftToExponent, amount,
    UnpackedFloat.ExtendedMantissa.ofMantissaAndAccuracy, shiftRight_exact, Int.sub_add_cancel]

theorem round_shifted (sign : Sign) (shift : Nat) :
    UnpackedFloat.roundWithAccuracy Format.binary64 sign (mantissa * 2 ^ shift) (power - shift)
      .exact = .finite sign mantissa power normal.pos := by
  have again := normal.shiftToTargetExponent 0
  simp only [Nat.pow_zero, Nat.mul_one, Int.natCast_zero, Int.sub_zero] at again
  simp only [UnpackedFloat.roundWithAccuracy, normal.shiftToTargetExponent,
    UnpackedFloat.ExtendedMantissa.roundedMantissa, UnpackedFloat.ExtendedMantissa.accuracy,
    UnpackedFloat.Accuracy.roundToNearestEven, again]
  rw [dif_neg (Nat.ne_of_gt normal.pos)]

theorem round_exact (sign : Sign) :
    UnpackedFloat.roundWithAccuracy Format.binary64 sign mantissa power .exact =
      .finite sign mantissa power normal.pos := by
  simpa using normal.round_shifted sign 0

theorem unpack_neg {x : Float} {sign : Sign}
    (value : x.toModel.unpack = .finite sign mantissa power normal.pos) :
    (-x).toModel.unpack = .finite (-sign) mantissa power normal.pos := by
  change (Float.Model.pack x.toModel.unpack.neg).unpack = _
  rw [value, UnpackedFloat.neg, normal.unpack_pack]

end Normal

def widened (size : Nat) : Nat := size * 2 ^ (52 - size.log2)

section Whole

variable {size : Nat} (solid : 0 < size) (small : size < 2 ^ 53)

include solid small

theorem log2_le : size.log2 ≤ 52 :=
  Nat.lt_succ_iff.1 ((Nat.log2_lt (Nat.ne_of_gt solid)).2 small)

theorem normal_widened : Normal (widened size) (size.log2 - 52) := by
  have width := log2_le solid small
  obtain ⟨low, high⟩ := (Nat.log2_eq_iff (Nat.ne_of_gt solid)).1 (rfl : size.log2 = _)
  have whole : 2 ^ size.log2 * 2 ^ (52 - size.log2) = 2 ^ 52 := by
    rw [← Nat.pow_add, Nat.add_sub_cancel' width]
  refine ⟨?_, ?_, by omega, by omega⟩
  · calc 2 ^ 52 = 2 ^ size.log2 * 2 ^ (52 - size.log2) := whole.symm
      _ ≤ widened size := Nat.mul_le_mul_right _ low
  · calc widened size < 2 ^ (size.log2 + 1) * 2 ^ (52 - size.log2) :=
        Nat.mul_lt_mul_of_pos_right high (Nat.two_pow_pos _)
      _ = 2 ^ 52 * 2 := by rw [Nat.pow_succ, Nat.mul_right_comm, whole]
      _ = 2 ^ 53 := (Nat.pow_succ ..).symm

theorem ofNat_eq : UnpackedFloat.ofNat Format.binary64 size =
    .finite .positive (widened size) (size.log2 - 52) (normal_widened solid small).pos := by
  have width := log2_le solid small
  have target : Format.binary64.targetExponent (Float.Model.totalExponent size 0) =
      size.log2 - 52 := by
    simp only [Format.targetExponent, Float.Model.totalExponent, Format.mantissaBits,
      Format.minExponent]
    omega
  have amount : (0 - ((size.log2 : Int) - 52)).toNat = 52 - size.log2 := by omega
  have power : (0 : Int) - ((52 - size.log2 : Nat) : Int) = size.log2 - 52 := by omega
  have positive : compare (size : Int) 0 = .gt := Int.compare_eq_gt.2 (by omega)
  rw [UnpackedFloat.ofNat, UnpackedFloat.ofInt, UnpackedFloat.normalize, positive]
  simp only [UnpackedFloat.round, Int.toNat_natCast, target, UnpackedFloat.decreaseExponent, amount,
    Nat.shiftLeft_eq, power]
  exact (normal_widened solid small).round_exact .positive

theorem unpack_toFloat : size.toUInt64.toFloat.toModel.unpack =
    .finite .positive (widened size) (size.log2 - 52) (normal_widened solid small).pos := by
  have same : size.toUInt64.toNat = size := by
    rw [Nat.toUInt64_eq, UInt64.toNat_ofNat_of_lt']
    exact Nat.lt_trans small (by decide)
  change (Float.Model.pack (UnpackedFloat.ofNat Format.binary64 size.toUInt64.toNat)).unpack = _
  rw [same, ofNat_eq solid small, (normal_widened solid small).unpack_pack]

theorem unpack_ofScientific : (Float.ofScientific size false 0).toModel.unpack =
    .finite .positive (widened size) (size.log2 - 52) (normal_widened solid small).pos := by
  have normal := normal_widened solid small
  have product : Float.ofScientific size false 0 =
      size.toUInt64.toFloat * Float.ofBits 0x3FF0000000000000 := by
    rw [Float.ofScientific, dif_pos ⟨small, by decide⟩]
    rfl
  have one : (Float.ofBits 0x3FF0000000000000).toModel.unpack =
      .finite .positive (2 ^ 52) (-52) (by decide) := rfl
  rw [product]
  change (Float.Model.pack (UnpackedFloat.mul Format.binary64 size.toUInt64.toFloat.toModel.unpack
    (Float.ofBits 0x3FF0000000000000).toModel.unpack)).unpack = _
  rw [unpack_toFloat solid small, one]
  have rounded := normal.round_shifted .positive 52
  simp only [UnpackedFloat.mul]
  exact (congrArg (fun value => (Float.Model.pack value).unpack) rounded).trans
    (normal.unpack_pack .positive)

end Whole

theorem normal_or_small {x : Float} {negative : Bool} {mantissa : Nat} {power : Int}
    (value : parts x = .finite negative mantissa power) :
    Normal mantissa power ∨ (mantissa < 2 ^ 52 ∧ power = -1074) := by
  have fraction : x.toBits.toNat % two 52 < 2 ^ 52 := Nat.mod_lt _ (Nat.two_pow_pos 52)
  have biased : x.toBits.toNat / two 52 % two 11 < 2 ^ 11 := Nat.mod_lt _ (Nat.two_pow_pos 11)
  have implicit : two 52 = 2 ^ 52 := rfl
  simp only [parts] at value
  split at value
  · split at value <;> cases value
  · split at value
    · cases value
      exact .inr ⟨fraction, rfl⟩
    · cases value
      exact .inl ⟨by omega, by omega, by omega, by omega⟩

/-- A whole number other than zero determines its mantissa: it is the number itself, brought up
to fifty-three bits. -/
theorem eq_widened {mantissa size : Nat} {power : Int} (normal : Normal mantissa power)
    (whole : isWhole mantissa power) (value : floor mantissa power = size) (solid : 0 < size)
    (small : size < 2 ^ 53) : mantissa = widened size ∧ power = size.log2 - 52 := by
  obtain ⟨low, high, -, -⟩ := normal
  -- Fifty-three bits with a positive power are too large, so the power is zero or divides.
  by_cases integral : 0 ≤ power
  · rw [floor, if_pos integral] at value
    obtain ⟨shift, rfl⟩ := Int.eq_ofNat_of_zero_le integral
    have scaled : mantissa * 2 ^ shift = size := value
    have unshifted : shift = 0 := by
      by_contra more
      have doubled : 2 ^ 1 ≤ 2 ^ shift := Nat.pow_le_pow_right (by decide) (by omega)
      have large := Nat.mul_le_mul low doubled
      omega
    subst unshifted
    simp only [Nat.pow_zero, Nat.mul_one] at scaled
    subst scaled
    have width : mantissa.log2 = 52 := (Nat.log2_eq_iff (by omega)).2 ⟨low, high⟩
    simp [widened, width]
  · rw [floor, if_neg integral] at value
    simp only [isWhole, integral, decide_false, Bool.false_or, beq_iff_eq] at whole
    have exact := Nat.div_add_mod mantissa (two (-power).toNat)
    rw [whole, value, Nat.add_zero, Nat.mul_comm] at exact
    obtain ⟨shift, rfl⟩ : ∃ shift : Nat, power = -shift := ⟨(-power).toNat, by omega⟩
    have scaled : size * 2 ^ shift = mantissa := by simpa [two] using exact
    have fits : shift ≤ 52 := by
      by_contra more
      have doubled : 2 ^ 53 ≤ 2 ^ shift := Nat.pow_le_pow_right (by decide) (by omega)
      have large := Nat.mul_le_mul (show 1 ≤ size from solid) doubled
      omega
    have width : size.log2 = 52 - shift := by
      have split : 2 ^ (52 - shift) * 2 ^ shift = 2 ^ 52 := by
        rw [← Nat.pow_add, Nat.sub_add_cancel fits]
      have positive := Nat.two_pow_pos shift
      rw [Nat.log2_eq_iff (Nat.ne_of_gt solid), Nat.pow_succ]
      constructor
      · exact Nat.le_of_mul_le_mul_right (by omega) positive
      · exact Nat.lt_of_mul_lt_mul_right (a := 2 ^ shift) (by rw [Nat.mul_right_comm, split]; omega)
    rw [widened, width, Nat.sub_sub_self fits, scaled]
    exact ⟨rfl, by omega⟩

theorem floor_small {mantissa : Nat} (below : mantissa < 2 ^ 52) : floor mantissa (-1074) = 0 := by
  have wide (count : Nat) (enough : 52 ≤ count) : mantissa / two count = 0 :=
    Nat.div_eq_of_lt (Nat.lt_of_lt_of_le below (Nat.pow_le_pow_right (by decide) enough))
  rw [floor, if_neg (by decide)]
  exact wide _ (by decide)

theorem eq_zero_of_floor {mantissa : Nat} {power : Int} (whole : isWhole mantissa power)
    (value : floor mantissa power = 0) : mantissa = 0 := by
  by_cases integral : 0 ≤ power
  · rw [floor, if_pos integral] at value
    exact (Nat.mul_eq_zero.1 value).resolve_right (Nat.ne_of_gt (Nat.two_pow_pos _))
  · rw [floor, if_neg integral] at value
    simp only [isWhole, integral, decide_false, Bool.false_or, beq_iff_eq] at whole
    have exact := Nat.div_add_mod mantissa (two (-power).toNat)
    rw [whole, value] at exact
    exact exact.symm

theorem exists_parts_of_toInt? {x : Float} {n : Int} (value : toInt? x = some n) :
    ∃ negative mantissa power, parts x = .finite negative mantissa power ∧
      isWhole mantissa power ∧ floor mantissa power = n.natAbs ∧
        (n ≠ 0 → negative = decide (n < 0)) := by
  rw [toInt?] at value
  split at value
  next negative mantissa power finite =>
    split at value
    next whole =>
      simp only [Option.some.injEq] at value
      refine ⟨negative, mantissa, power, finite, whole, ?_, ?_⟩
      · split at value <;> omega
      · intro nonzero
        cases negative <;> simp at value ⊢ <;> omega
    next => cases value
  next => cases value

theorem unpack_of_toInt? {x : Float} {n : Int} (value : toInt? x = some n) (solid : 0 < n.natAbs)
    (small : n.natAbs < 2 ^ 53) : x.toModel.unpack =
      .finite (sign (n < 0)) (widened n.natAbs) (n.natAbs.log2 - 52)
        (normal_widened solid small).pos := by
  obtain ⟨negative, mantissa, power, finite, whole, size, negated⟩ := exists_parts_of_toInt? value
  have normal : Normal mantissa power := by
    rcases normal_or_small finite with normal | ⟨below, rfl⟩
    · exact normal
    · rw [floor_small below] at size
      omega
  obtain ⟨rfl, rfl⟩ := eq_widened normal whole size solid small
  rw [unpack_eq, finite, Parts.unpacked, dif_pos normal.pos, negated (by omega)]

theorem unpack_of_toInt?_zero {x : Float} (value : toInt? x = some 0) :
    ∃ negative, x.toModel.unpack = .zero (sign negative) := by
  obtain ⟨negative, mantissa, power, finite, whole, size, -⟩ := exists_parts_of_toInt? value
  obtain rfl := eq_zero_of_floor whole size
  exact ⟨negative, by rw [unpack_eq, finite]; rfl⟩

theorem beq_of_unpack_eq {x y : Float} {sign : Sign} {mantissa : Nat} {power : Int}
    {solid : 0 < mantissa} (left : x.toModel.unpack = .finite sign mantissa power solid)
    (right : y.toModel.unpack = .finite sign mantissa power solid) : (x == y) = true := by
  change (x.toModel.unpack.compare y.toModel.unpack == some .eq) = true
  rw [left, right]
  cases sign <;> simp [UnpackedFloat.compare, Ordering.then]

end LineScript.Double

namespace LineScript.Decimal

open Double (sign widened)

theorem splitSign_digits {digits : Text} (all : ∀ c ∈ digits, c.isDigit) :
    splitSign digits = (false, digits) := by
  unfold splitSign
  split
  · exact absurd (all '-' (by simp)) (by decide)
  · exact absurd (all '+' (by simp)) (by decide)
  · rfl

theorem read?_signed (negative : Bool) (size : Nat) :
    Literal.read? (signed negative (Nat.toDigits 10 size)) = some ⟨negative, size, 0⟩ := by
  have all : ∀ c ∈ Nat.toDigits 10 size, c.isDigit :=
    fun _ => Nat.isDigit_of_mem_toDigits (by decide) (by decide)
  have parted : splitSign (signed negative (Nat.toDigits 10 size)) =
      (negative, Nat.toDigits 10 size) := by
    cases negative with
    | false => exact splitSign_digits all
    | true => rfl
  have whole : splitDigits (Nat.toDigits 10 size) = (Nat.toDigits 10 size, []) := by
    simp [splitDigits, List.takeWhile_eq_self_iff.2 all, List.dropWhile_eq_nil_iff.2 all]
  simp [Literal.read?, parted, whole, splitFraction, readExponent?, Nat.toDigits_ne_nil,
    digitsValue, Nat.ofDigitChars_ten_toDigits]

theorem tight_signed (negative : Bool) (size : Nat) :
    Text.Tight (signed negative (Nat.toDigits 10 size)) := by
  have solid : ∀ c ∈ Nat.toDigits 10 size, Text.isBlank c = false := by
    intro c member
    have digit : c.isDigit := Nat.isDigit_of_mem_toDigits (by decide) (by decide) member
    exact Scan.not_isBlank_of_isIdentifierChar
      (by simp [Scan.isIdentifierChar, Char.isAlphanum, digit])
  cases negative with
  | false => exact Text.tight_of_solid Nat.toDigits_ne_nil solid
  | true => exact Text.tight_of_solid (by simp [signed]) (List.forall_mem_cons.2 ⟨by decide, solid⟩)

theorem toFloat_beq {x : Float} {n : Int} (value : Double.toInt? x = some n)
    (small : n.natAbs ≤ Number.maxSafeInteger) :
    ((⟨n < 0, n.natAbs, 0⟩ : Literal).toFloat == x) = true := by
  have bound : n.natAbs < 2 ^ 53 := Nat.lt_succ_of_le small
  have digits : (Nat.toDigits 10 n.natAbs).length ≤ 16 :=
    (Nat.length_toDigits_le_iff (by decide) (by decide)).2 (Nat.lt_trans bound (by decide))
  by_cases zero : n = 0
  · subst zero
    obtain ⟨negative, zero⟩ := Double.unpack_of_toInt?_zero value
    change ((0.0 : Float).toModel.unpack.compare x.toModel.unpack == some .eq) = true
    rw [zero]
    cases negative <;> rfl
  · have solid : 0 < n.natAbs := Int.natAbs_pos.2 zero
    have read := Double.unpack_ofScientific solid bound
    have size : (⟨n < 0, n.natAbs, 0⟩ : Literal).toFloat =
        if n < 0 then -Float.ofScientific n.natAbs false 0
        else Float.ofScientific n.natAbs false 0 := by
      have near : ¬(n.natAbs = 0 ∨ ((Nat.toDigits 10 n.natAbs).length : Int) < -400) := by omega
      have far : ¬400 < ((Nat.toDigits 10 n.natAbs).length : Int) := by omega
      simp only [Literal.toFloat, Int.add_zero, if_neg near, if_neg far, decide_eq_true_eq]
      rfl
    rw [size]
    refine Double.beq_of_unpack_eq ?_ (Double.unpack_of_toInt? value solid bound)
    by_cases negative : n < 0
    · simp only [negative, if_true]
      exact (Double.normal_widened solid bound).unpack_neg read
    · simp only [negative, if_false]
      exact read

theorem parseNumber?_integerText {x : Float} {n : Int} (value : Double.toInt? x = some n)
    (small : n.natAbs ≤ Number.maxSafeInteger) :
    ∃ y, parseNumber? (Number.integerText n) = some y ∧ (y == x) = true := by
  refine ⟨_, ?_, toFloat_beq value small⟩
  rw [parseNumber?, Number.integerText, (tight_signed _ _).trim_eq, read?_signed, Option.map_some]

end LineScript.Decimal
