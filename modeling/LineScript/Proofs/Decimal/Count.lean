import LineScript.Proofs.Decimal.Whole

/-! Natural numbers below `2 ^ 53` as doubles. A length or a position that a script computes is
such a number: the double that stands for it is exact, sums are exact as long as they stay below
the bound, and clamping a position compares natural numbers. -/
namespace LineScript.Double

open Float.Model (Format UnpackedFloat)
open Float.Model.UnpackedFloat (Sign)

/-- A double that equals a natural number. Zero may have either sign. -/
def Counts (x : Float) (n : Nat) : Prop := toInt? x = some (n : Int)

theorem sign_inj {first second : Bool} (same : sign first = sign second) : first = second := by
  cases first <;> cases second <;> first | rfl | cases same

theorem parts_of_unpack {x : Float} {negative : Bool} {mantissa : Nat} {power : Int}
    {solid : 0 < mantissa}
    (value : x.toModel.unpack = .finite (sign negative) mantissa power solid) :
    parts x = .finite negative mantissa power := by
  rw [unpack_eq] at value
  cases found : parts x with
  | nan | infinite => rw [found] at value; cases value
  | finite other size exponent =>
    rw [found, Parts.unpacked] at value
    split at value
    · injection value with signs sizes exponents
      rw [sign_inj signs, sizes, exponents]
    · cases value

theorem counts_of_unpack_zero {x : Float} (negative : Bool)
    (value : x.toModel.unpack = .zero (sign negative)) : Counts x 0 := by
  rw [unpack_eq] at value
  cases found : parts x with
  | nan | infinite => rw [found] at value; cases value
  | finite other mantissa power =>
    rw [found, Parts.unpacked] at value
    split at value
    next => cases value
    next empty =>
      obtain rfl : mantissa = 0 := Nat.eq_zero_of_not_pos empty
      rw [Counts, toInt?, found]
      simp [isWhole, floor, two]

section

variable {size : Nat} (solid : 0 < size) (small : size < 2 ^ 53)

include solid small

theorem whole_widened : isWhole (widened size) (size.log2 - 52) = true ∧
    floor (widened size) (size.log2 - 52) = size := by
  have width := log2_le solid small
  obtain ⟨shift, narrow⟩ : ∃ shift : Nat, 52 = size.log2 + shift := ⟨52 - size.log2, by omega⟩
  have power : ((size.log2 : Int) - 52) = -(shift : Int) := by omega
  have wide : widened size = size * 2 ^ shift := by rw [widened, narrow, Nat.add_sub_cancel_left]
  rw [power, wide]
  by_cases unshifted : shift = 0
  · simp [isWhole, floor, two, unshifted]
  · simp [isWhole, floor, two, unshifted]

theorem counts_of_unpack {x : Float} (value : x.toModel.unpack =
    .finite .positive (widened size) (size.log2 - 52) (normal_widened solid small).pos) :
    Counts x size := by
  obtain ⟨whole, same⟩ := whole_widened solid small
  have found : parts x = .finite false (widened size) (size.log2 - 52) := parts_of_unpack value
  rw [Counts, toInt?, found]
  simp [whole, same]

theorem unpack_of_counts {x : Float} (counts : Counts x size) : x.toModel.unpack =
    .finite .positive (widened size) (size.log2 - 52) (normal_widened solid small).pos := by
  have value := unpack_of_toInt? counts (by omega) (by omega)
  simpa [sign, show ¬(size : Int) < 0 by omega] using value

theorem shiftLeft_widened {shift : Nat} (enough : 52 - size.log2 ≤ shift) :
    widened size <<< ((size.log2 : Int) - 52 - -(shift : Int)).toNat = size * 2 ^ shift := by
  have width := log2_le solid small
  have amount : 52 - size.log2 + ((size.log2 : Int) - 52 - -(shift : Int)).toNat = shift := by
    omega
  rw [Nat.shiftLeft_eq, widened, Nat.mul_assoc, ← Nat.pow_add, amount]

end

theorem counts_ofNat {n : Nat} (small : n < 2 ^ 53) : Counts (Float.ofNat n) n := by
  rcases Nat.eq_zero_or_pos n with rfl | solid
  · exact counts_of_unpack_zero false rfl
  · exact counts_of_unpack solid small (unpack_ofScientific solid small)

theorem Normal.round_wide {mantissa : Nat} {power : Int} (normal : Normal mantissa power)
    (sign : Sign) (shift : Nat) :
    UnpackedFloat.round Format.binary64 sign (mantissa * 2 ^ shift) (power - shift) =
      .finite sign mantissa power normal.pos := by
  have amount : (power - (shift : Int) - power).toNat = 0 := by omega
  simp only [UnpackedFloat.round, normal.targetExponent_shifted, UnpackedFloat.decreaseExponent,
    amount, Nat.shiftLeft_zero, Int.natCast_zero, Int.sub_zero, normal.round_shifted]

theorem unpack_sum (x y : Float) : (x + y).toModel.unpack = (Float.Model.pack
    (UnpackedFloat.add Format.binary64 x.toModel.unpack y.toModel.unpack)).unpack :=
  rfl

section

variable {x y : Float} {a b : Nat} (left : Counts x a) (right : Counts y b) (small : a + b < 2 ^ 53)

include left right small

theorem unpack_add (here : 0 < a) (there : 0 < b) : (x + y).toModel.unpack =
    .finite .positive (widened (a + b)) ((a + b).log2 - 52)
      (normal_widened (Nat.add_pos_left here b) small).pos := by
  have solid := Nat.add_pos_left here b
  have normal := normal_widened solid small
  have width := log2_le solid small
  have larger : a.log2 ≤ (a + b).log2 :=
    (Nat.le_log2 (by omega)).2 (Nat.le_trans (Nat.log2_self_le (by omega)) (Nat.le_add_right a b))
  -- both mantissas are brought to the smaller exponent, so that they count the same units
  obtain ⟨units, least⟩ : ∃ units : Nat,
      min ((a.log2 : Int) - 52) (b.log2 - 52) = -(units : Int) :=
    ⟨52 - min a.log2 b.log2, by omega⟩
  obtain ⟨shift, wide⟩ : ∃ shift : Nat, units = 52 - (a + b).log2 + shift :=
    ⟨units - (52 - (a + b).log2), by omega⟩
  have sum : ((a * 2 ^ units : Nat) : Int) + ((b * 2 ^ units : Nat) : Int) =
      ((widened (a + b) * 2 ^ shift : Nat) : Int) := by
    rw [← Int.natCast_add, ← Nat.add_mul, widened, Nat.mul_assoc, ← Nat.pow_add, wide]
  have power : -(units : Int) = (a + b).log2 - 52 - (shift : Int) := by omega
  have positive : compare ((widened (a + b) * 2 ^ shift : Nat) : Int) 0 = .gt :=
    Int.compare_eq_gt.2 (Int.natCast_pos.2 (Nat.mul_pos normal.pos (Nat.two_pow_pos shift)))
  have rounded : UnpackedFloat.add Format.binary64 x.toModel.unpack y.toModel.unpack =
      .finite .positive (widened (a + b)) ((a + b).log2 - 52) normal.pos := by
    rw [unpack_of_counts here (by omega) left, unpack_of_counts there (by omega) right]
    simp only [UnpackedFloat.add, UnpackedFloat.decreaseExponent, least]
    rw [shiftLeft_widened here (by omega) (by omega),
      shiftLeft_widened there (by omega) (by omega)]
    simp only [Sign.apply, sum, UnpackedFloat.normalize, positive, Int.toNat_natCast, power,
      normal.round_wide]
  rw [unpack_sum, rounded, normal.unpack_pack]

theorem counts_add : Counts (x + y) (a + b) := by
  rcases Nat.eq_zero_or_pos a with rfl | positive
  · obtain ⟨negative, zero⟩ := unpack_of_toInt?_zero left
    rcases Nat.eq_zero_or_pos b with rfl | other
    · obtain ⟨opposite, cleared⟩ := unpack_of_toInt?_zero right
      refine counts_of_unpack_zero (negative && opposite) ?_
      rw [unpack_sum, zero, cleared]
      cases negative <;> cases opposite <;> rfl
    · rw [Nat.zero_add] at small ⊢
      refine counts_of_unpack other small ?_
      rw [unpack_sum, zero, unpack_of_counts other small right]
      exact (normal_widened other small).unpack_pack .positive
  · rcases Nat.eq_zero_or_pos b with rfl | other
    · obtain ⟨opposite, cleared⟩ := unpack_of_toInt?_zero right
      refine counts_of_unpack positive small ?_
      rw [unpack_sum, cleared, unpack_of_counts positive small left]
      exact (normal_widened positive small).unpack_pack .positive
    · exact counts_of_unpack (Nat.add_pos_left positive b) small
        (unpack_add left right small positive other)

end

theorem clamp_of_counts {x : Float} {n : Nat} (counts : Counts x n) (limit : Nat) :
    clamp limit x = min n limit := by
  obtain ⟨negative, mantissa, power, found, -, size, negated⟩ := exists_parts_of_toInt? counts
  rw [clamp, found]
  cases negative with
  | false => simp [size]
  | true =>
    have zero : n = 0 := by
      by_contra more
      have wrong := negated (by omega)
      simp at wrong
      omega
    simp [zero]

theorem clamp_le (limit : Nat) (x : Float) : clamp limit x ≤ limit := by
  rw [clamp]
  split
  · exact Nat.zero_le _
  · split <;> omega
  · split
    · exact Nat.zero_le _
    · exact Nat.min_le_right _ _

theorem ofNat_ne_minus_one {n : Nat} (small : n < 2 ^ 53) : Float.ofNat n ≠ -1.0 := by
  intro same
  have counts := counts_ofNat small
  have minus : toInt? (-1.0) = some (-1) := by decide +kernel
  rw [same, Counts, minus] at counts
  injection counts with negative
  omega

end LineScript.Double
