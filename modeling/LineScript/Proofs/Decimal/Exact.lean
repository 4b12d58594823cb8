import LineScript.Proofs.Decimal.Count

/-! The exact value of a double as a rational number. Finite doubles are compared as their values
are, equality is an equivalence on all doubles but the NaNs, truncation takes the whole part of the
value, and between a double and its neighbours there is a gap in which no double lies. -/
namespace LineScript.Double

open Float.Model (UnpackedFloat)

def magnitude (mantissa : Nat) (power : Int) : ℚ := mantissa * 2 ^ power

def withSign (negative : Bool) (size : ℚ) : ℚ := if negative then -size else size

/-- The number that a finite double is. -/
def value? (x : Float) : Option ℚ :=
  match parts x with
  | .finite negative mantissa power => some (withSign negative (magnitude mantissa power))
  | _ => none

structure Canonical (mantissa : Nat) (power : Int) : Prop where
  high : mantissa < 2 ^ 53
  least : -1074 ≤ power
  most : power ≤ 971
  low : -1074 < power → 2 ^ 52 ≤ mantissa

theorem canonical_of_parts {x : Float} {negative : Bool} {mantissa : Nat} {power : Int}
    (value : parts x = .finite negative mantissa power) : Canonical mantissa power := by
  rcases normal_or_small value with ⟨low, high, least, most⟩ | ⟨small, rfl⟩
  · exact ⟨high, least, most, fun _ => low⟩
  · exact ⟨by omega, by omega, by omega, by omega⟩

theorem exists_parts_of_value? {x : Float} {v : ℚ} (value : value? x = some v) :
    ∃ negative mantissa power, parts x = .finite negative mantissa power ∧
      Canonical mantissa power ∧ v = withSign negative (magnitude mantissa power) := by
  rw [value?] at value
  split at value
  next negative mantissa power finite =>
    exact ⟨negative, mantissa, power, finite, canonical_of_parts finite,
      (Option.some.inj value).symm⟩
  next => cases value

section Magnitude

variable {mantissa other : Nat} {power exponent : Int}

theorem magnitude_nonneg : 0 ≤ magnitude mantissa power :=
  mul_nonneg (Nat.cast_nonneg mantissa) (zpow_pos two_pos power).le

theorem magnitude_zero (power : Int) : magnitude 0 power = 0 := by simp [magnitude]

theorem magnitude_pos (power : Int) (positive : 0 < mantissa) : 0 < magnitude mantissa power :=
  mul_pos (Nat.cast_pos.2 positive) (zpow_pos two_pos power)

theorem magnitude_lt_iff :
    magnitude mantissa power < magnitude other power ↔ mantissa < other := by
  rw [magnitude, magnitude, mul_lt_mul_iff_left₀ (zpow_pos two_pos power), Nat.cast_lt]

theorem magnitude_lt_of_power_lt (first : Canonical mantissa power)
    (second : Canonical other exponent) (less : power < exponent) :
    magnitude mantissa power < magnitude other exponent := by
  have least := first.least
  have low : (2 ^ 52 : ℚ) ≤ other := by exact_mod_cast second.low (by omega)
  have high : (mantissa : ℚ) < 2 ^ 53 := by exact_mod_cast first.high
  calc magnitude mantissa power < 2 ^ 53 * 2 ^ power :=
        mul_lt_mul_of_pos_right high (zpow_pos two_pos power)
    _ = 2 ^ 52 * 2 ^ (power + 1) := by rw [zpow_add_one₀ (by decide)]; ring
    _ ≤ magnitude other exponent := mul_le_mul low
        (zpow_le_zpow_right₀ (by decide) (by omega)) (zpow_pos two_pos _).le (by positivity)

theorem compare_magnitude (first : Canonical mantissa power) (second : Canonical other exponent) :
    (compare power exponent).then (compare mantissa other) =
      compare (magnitude mantissa power) (magnitude other exponent) := by
  rcases lt_trichotomy power exponent with less | rfl | more
  · rw [compare_lt_iff_lt.2 less,
      compare_lt_iff_lt.2 (magnitude_lt_of_power_lt first second less), Ordering.lt_then]
  · rw [compare_eq_iff_eq.2 rfl, Ordering.eq_then]
    rcases lt_trichotomy mantissa other with less | rfl | more
    · rw [compare_lt_iff_lt.2 less, compare_lt_iff_lt.2 (magnitude_lt_iff.2 less)]
    · rw [compare_eq_iff_eq.2 rfl, compare_eq_iff_eq.2 rfl]
    · rw [compare_gt_iff_gt.2 more, compare_gt_iff_gt.2 (magnitude_lt_iff.2 more)]
  · rw [compare_gt_iff_gt.2 more,
      compare_gt_iff_gt.2 (magnitude_lt_of_power_lt second first more), Ordering.gt_then]

end Magnitude

section Comparison

variable {mantissa other : Nat} {power exponent : Int}

theorem withSign_zero (negative : Bool) : withSign negative 0 = 0 := by
  cases negative <;> simp [withSign]

theorem compare_neg (a b : ℚ) : compare (-a) (-b) = (compare a b).swap := by
  rcases lt_trichotomy a b with less | rfl | more
  · rw [compare_gt_iff_gt.2 (neg_lt_neg less), compare_lt_iff_lt.2 less]
    rfl
  · rw [compare_eq_iff_eq.2 rfl, compare_eq_iff_eq.2 rfl]
    rfl
  · rw [compare_lt_iff_lt.2 (neg_lt_neg more), compare_gt_iff_gt.2 more]
    rfl

/-- Finite doubles are compared as their values are. Zeros are equal whatever their signs. -/
theorem compare_unpacked (negative opposite : Bool) (first : Canonical mantissa power)
    (second : Canonical other exponent) :
    (Parts.finite negative mantissa power).unpacked.compare
        (Parts.finite opposite other exponent).unpacked =
      some (compare (withSign negative (magnitude mantissa power))
        (withSign opposite (magnitude other exponent))) := by
  have order := compare_magnitude first second
  rcases Nat.eq_zero_or_pos mantissa with rfl | solid <;>
    rcases Nat.eq_zero_or_pos other with rfl | more
  · simp [Parts.unpacked, UnpackedFloat.compare, magnitude_zero, withSign_zero]
  · have positive := magnitude_pos exponent more
    rw [magnitude_zero, withSign_zero]
    cases opposite
    · simp [Parts.unpacked, more, sign, UnpackedFloat.compare, withSign, compare_lt_iff_lt.2,
        positive]
    · simp [Parts.unpacked, more, sign, UnpackedFloat.compare, withSign, compare_gt_iff_gt.2,
        positive]
  · have positive := magnitude_pos power solid
    rw [magnitude_zero, withSign_zero]
    cases negative
    · simp [Parts.unpacked, solid, sign, UnpackedFloat.compare, withSign, compare_gt_iff_gt.2,
        positive]
    · simp [Parts.unpacked, solid, sign, UnpackedFloat.compare, withSign, compare_lt_iff_lt.2,
        positive]
  · have positive := magnitude_pos power solid
    have greater := magnitude_pos exponent more
    cases negative <;> cases opposite
    · simp [Parts.unpacked, solid, more, sign, UnpackedFloat.compare, withSign, order]
    · have below : -magnitude other exponent < magnitude mantissa power := by linarith
      simp [Parts.unpacked, solid, more, sign, UnpackedFloat.compare, withSign,
        compare_gt_iff_gt.2 below]
    · have below : -magnitude mantissa power < magnitude other exponent := by linarith
      simp [Parts.unpacked, solid, more, sign, UnpackedFloat.compare, withSign,
        compare_lt_iff_lt.2 below]
    · simp [Parts.unpacked, solid, more, sign, UnpackedFloat.compare, withSign, order, compare_neg]

variable {x y : Float} {v w : ℚ} (left : value? x = some v) (right : value? y = some w)

include left right

theorem compare_unpack : x.toModel.unpack.compare y.toModel.unpack = some (compare v w) := by
  obtain ⟨negative, mantissa, power, first, canonical, rfl⟩ := exists_parts_of_value? left
  obtain ⟨opposite, other, exponent, second, allowed, rfl⟩ := exists_parts_of_value? right
  rw [unpack_eq, unpack_eq, first, second, compare_unpacked negative opposite canonical allowed]

theorem lt_iff : x < y ↔ v < w := by
  rw [← compare_lt_iff_lt (a := v)]
  change decide ((x.toModel.unpack.compare y.toModel.unpack == some .lt) = true) = true ↔ _
  simp [compare_unpack left right]

theorem beq_iff : (x == y) = true ↔ v = w := by
  rw [← compare_eq_iff_eq (a := v)]
  change (x.toModel.unpack.compare y.toModel.unpack == some .eq) = true ↔ _
  simp [compare_unpack left right]

end Comparison

section Equality

def unsignedZero : UnpackedFloat → UnpackedFloat
  | .zero _ => .zero .positive
  | form => form

theorem compare_sign_eq_iff (first second : UnpackedFloat.Sign) :
    compare first second = .eq ↔ first = second := by
  cases first <;> cases second
  · exact iff_of_true rfl rfl
  · exact iff_of_false nofun nofun
  · exact iff_of_false nofun nofun
  · exact iff_of_true rfl rfl

theorem compare_eq_iff (left right : UnpackedFloat) : left.compare right = some .eq ↔
    left.isNaN = false ∧ unsignedZero left = unsignedZero right := by
  cases left with
  | notANumber => simp [UnpackedFloat.compare, UnpackedFloat.isNaN]
  | infinity sign =>
    cases right with
    | infinity opposite =>
      simp [UnpackedFloat.compare, unsignedZero, UnpackedFloat.isNaN, compare_sign_eq_iff]
    | _ => cases sign <;> simp [UnpackedFloat.compare, unsignedZero]
  | zero sign =>
    cases right with
    | zero | notANumber => simp [UnpackedFloat.compare, unsignedZero, UnpackedFloat.isNaN]
    | infinity opposite | finite opposite =>
      cases opposite <;> simp [UnpackedFloat.compare, unsignedZero]
  | finite sign mantissa power =>
    cases right with
    | finite opposite =>
      cases sign <;> cases opposite <;>
        simp [UnpackedFloat.compare, unsignedZero, UnpackedFloat.isNaN, Ordering.then_eq_eq,
          Ordering.swap_eq_eq, and_comm]
    | infinity opposite => cases opposite <;> simp [UnpackedFloat.compare, unsignedZero]
    | _ => cases sign <;> simp [UnpackedFloat.compare, unsignedZero]

variable {x y z : Float}

theorem beq_iff_unpack : (x == y) = true ↔
    x.isNaN = false ∧ unsignedZero x.toModel.unpack = unsignedZero y.toModel.unpack := by
  change (x.toModel.unpack.compare y.toModel.unpack == some .eq) = true ↔
    x.toModel.unpack.isNaN = false ∧ _
  rw [beq_iff_eq, compare_eq_iff]

theorem isNaN_iff_unpack : x.isNaN = true ↔ unsignedZero x.toModel.unpack = .notANumber := by
  change x.toModel.unpack.isNaN = true ↔ _
  cases x.toModel.unpack <;> simp [unsignedZero, UnpackedFloat.isNaN]

theorem beq_self (number : x.isNaN = false) : (x == x) = true := beq_iff_unpack.2 ⟨number, rfl⟩

theorem beq_symm (same : (x == y) = true) : (y == x) = true := by
  obtain ⟨number, forms⟩ := beq_iff_unpack.1 same
  refine beq_iff_unpack.2 ⟨?_, forms.symm⟩
  rw [← Bool.not_eq_true, isNaN_iff_unpack] at number ⊢
  rwa [← forms]

theorem beq_trans (first : (x == y) = true) (second : (y == z) = true) : (x == z) = true :=
  beq_iff_unpack.2 ⟨(beq_iff_unpack.1 first).1,
    (beq_iff_unpack.1 first).2.trans (beq_iff_unpack.1 second).2⟩

end Equality

section Truncation

variable {mantissa : Nat} {power : Int}

theorem floor_eq (mantissa : Nat) (power : Int) :
    floor mantissa power = ⌊magnitude mantissa power⌋₊ := by
  rw [floor, magnitude]
  split
  next integral =>
    obtain ⟨shift, rfl⟩ := Int.eq_ofNat_of_zero_le integral
    have whole : (mantissa : ℚ) * 2 ^ (shift : Int) = ((mantissa * 2 ^ shift : Nat) : ℚ) := by simp
    rw [whole, Nat.floor_natCast]
    rfl
  next fractional =>
    obtain ⟨shift, rfl⟩ : ∃ shift : Nat, power = -shift := ⟨(-power).toNat, by omega⟩
    have quotient : (mantissa : ℚ) * 2 ^ (-shift : Int) = mantissa / ((2 ^ shift : Nat) : ℚ) := by
      simp [zpow_neg, div_eq_mul_inv]
    rw [quotient, Nat.floor_div_natCast, Nat.floor_natCast, Int.neg_neg, Int.toNat_natCast]
    rfl

theorem magnitude_of_isWhole (whole : isWhole mantissa power = true) :
    magnitude mantissa power = floor mantissa power := by
  rw [magnitude, floor]
  split
  next integral =>
    obtain ⟨shift, rfl⟩ := Int.eq_ofNat_of_zero_le integral
    simp [two]
  next fractional =>
    obtain ⟨shift, rfl⟩ : ∃ shift : Nat, power = -shift := ⟨(-power).toNat, by omega⟩
    have remainder : shift = 0 ∨ mantissa % 2 ^ shift = 0 := by simpa [isWhole, two] using whole
    have divides : 2 ^ shift ∣ mantissa := by
      rcases remainder with rfl | vanishes
      · exact one_dvd mantissa
      · exact Nat.dvd_of_mod_eq_zero vanishes
    have quotient : ((mantissa / 2 ^ shift : Nat) : ℚ) = mantissa / ((2 ^ shift : Nat) : ℚ) :=
      Nat.cast_div divides (by positivity)
    simp only [two, Nat.pow_eq, Int.neg_neg, Int.toNat_natCast, quotient]
    simp [zpow_neg, div_eq_mul_inv]

theorem value?_of_toInt? {x : Float} {n : Int} (value : toInt? x = some n) :
    value? x = some (n : ℚ) := by
  obtain ⟨negative, mantissa, power, finite, whole, size, signed⟩ := exists_parts_of_toInt? value
  rw [value?, finite]
  simp only [magnitude_of_isWhole whole, size, Option.some.injEq]
  by_cases zero : n = 0
  · simp [zero, withSign_zero]
  · rw [signed zero, withSign, Nat.cast_natAbs]
    split
    next below => rw [abs_of_neg (by simpa using below), Int.cast_neg, neg_neg]
    next above => rw [abs_of_nonneg (by simpa using above)]

theorem value?_ofNat {n : Nat} (small : n < 2 ^ 53) : value? (Float.ofNat n) = some (n : ℚ) :=
  value?_of_toInt? (counts_ofNat small)

/-- The whole part of a finite double. Negative numbers and NaN are truncated to zero. -/
def truncated (x : Float) : Nat := ((value? x).map Nat.floor).getD 0

theorem lt_of_infinite {x y : Float} {v : ℚ} (value : value? x = some v)
    (infinite : parts y = .infinite false) : x < y := by
  obtain ⟨negative, mantissa, power, finite, -, -⟩ := exists_parts_of_value? value
  change decide ((x.toModel.unpack.compare y.toModel.unpack == some .lt) = true) = true
  rw [unpack_eq, unpack_eq, finite, infinite, Parts.unpacked, Parts.unpacked]
  split <;> rfl

theorem clamp_eq_truncated {limit : Nat} (small : limit < 2 ^ 53) {x : Float}
    (inside : ¬Float.ofNat limit < x) : clamp limit x = truncated x := by
  rw [clamp, truncated]
  cases found : parts x with
  | nan => simp [value?, found]
  | infinite negative =>
    cases negative with
    | true => simp [value?, found]
    | false => exact absurd (lt_of_infinite (value?_ofNat small) found) inside
  | finite negative mantissa power =>
    have value : value? x = some (withSign negative (magnitude mantissa power)) := by
      rw [value?, found]
    rw [lt_iff (value?_ofNat small) value, not_lt] at inside
    rw [value, Option.map_some, Option.getD_some]
    cases negative with
    | true =>
      have below : withSign true (magnitude mantissa power) ≤ 0 :=
        neg_nonpos.2 magnitude_nonneg
      simp [Nat.floor_of_nonpos below]
    | false =>
      have bound : ⌊magnitude mantissa power⌋₊ ≤ limit := Nat.floor_le_of_le inside
      simp [withSign, floor_eq, bound]

end Truncation

end LineScript.Double
