import LineScript.Decimal.Shortest
import LineScript.Proofs.Decimal.Rounding

/-! The search for the shortest decimal is right: the natural numbers it compares are those of the
rounding interval, a grid without a hit has no decimal in the interval, and seventeen grids always
hold one. What is found has as few digits as can be and is the nearest of its length. -/
namespace LineScript.Decimal

open Double (Around Canonical gapBelow magnitude)

def Scaled.value (decimal : Scaled) : ℚ := decimal.coefficient * 10 ^ decimal.power

section Powers

theorem zpow_mul_pow_toNat {base : ℚ} (nonzero : base ≠ 0) (power : Int) :
    base ^ power * base ^ (-power).toNat = base ^ power.toNat := by
  rw [← zpow_natCast, ← zpow_natCast, ← zpow_add₀ nonzero]
  congr 1
  omega

variable {base other : ℚ} {i j k h : Nat}

theorem zpow_le_zpow_of_pow_le (more : 1 ≤ base) (greater : 1 < other) (nonzero : i ≠ 0)
    (step : base ^ i ≤ other ^ j) {n l : Int} (nonneg : 0 ≤ n) (bound : j * n ≤ i * l) :
    base ^ n ≤ other ^ l := by
  have first : (0 : ℚ) ≤ base := zero_le_one.trans more
  have second : (0 : ℚ) < other := zero_lt_one.trans greater
  rw [← pow_le_pow_iff_left₀ (zpow_nonneg first n) (zpow_nonneg second.le l) nonzero]
  calc (base ^ n) ^ i = (base ^ i) ^ n := by
        rw [← zpow_natCast, ← zpow_natCast, ← zpow_mul, ← zpow_mul, mul_comm]
    _ ≤ (other ^ j) ^ n := zpow_le_zpow_left₀ nonneg (pow_nonneg first i) step
    _ = other ^ (j * n) := by rw [← zpow_natCast, ← zpow_mul]
    _ ≤ other ^ (i * l) := zpow_le_zpow_right₀ greater.le bound
    _ = (other ^ l) ^ i := by rw [← zpow_natCast, ← zpow_mul, mul_comm]

theorem zpow_le_zpow_of_bounds (more : 1 < base) (greater : 1 < other) (first : i ≠ 0)
    (second : k ≠ 0) (step : base ^ i ≤ other ^ j) (back : other ^ k ≤ base ^ h) {n l : Int}
    (above : j * n ≤ i * l) (below : k * n ≤ h * l) : base ^ n ≤ other ^ l := by
  rcases Int.lt_or_le n 0 with negative | nonneg
  · rcases Int.lt_or_le 0 l with positive | nonpos
    · exact (zpow_le_one_of_nonpos₀ more.le negative.le).trans
        (one_le_zpow₀ greater.le positive.le)
    · have inverse : other ^ (-l) ≤ base ^ (-n) :=
        zpow_le_zpow_of_pow_le greater.le more second back (by omega) (by linarith)
      rw [zpow_neg, zpow_neg] at inverse
      exact (inv_le_inv₀ (zpow_pos (zero_lt_one.trans greater) l)
        (zpow_pos (zero_lt_one.trans more) n)).1 inverse
  · exact zpow_le_zpow_of_pow_le more.le greater first step nonneg above

theorem ten_zpow_le_two_zpow {n l : Int} (above : 196 * n ≤ 59 * l) (below : 93 * n ≤ 28 * l) :
    (10 : ℚ) ^ n ≤ 2 ^ l :=
  zpow_le_zpow_of_bounds (i := 59) (j := 196) (k := 93) (h := 28) (by norm_num) (by norm_num)
    (by decide) (by decide) (by norm_num) (by norm_num) above below

theorem two_zpow_le_ten_zpow {l n : Int} (above : 28 * l ≤ 93 * n) (below : 59 * l ≤ 196 * n) :
    (2 : ℚ) ^ l ≤ 10 ^ n :=
  zpow_le_zpow_of_bounds (i := 93) (j := 28) (k := 59) (h := 196) (by norm_num) (by norm_num)
    (by decide) (by decide) (by norm_num) (by norm_num) above below

end Powers

section Interval

variable {mantissa : Nat} {power : Int}

theorem compare_natCast {a b : Nat} {x y : ℚ} (scale : ℚ) (positive : 0 < scale)
    (first : (a : ℚ) = x * scale) (second : (b : ℚ) = y * scale) :
    Ord.compare a b = Ord.compare x y := by
  rcases lt_trichotomy x y with less | rfl | more
  · have scaled := mul_lt_mul_of_pos_right less positive
    rw [← first, ← second, Nat.cast_lt] at scaled
    rw [compare_lt_iff_lt.2 less, compare_lt_iff_lt.2 scaled]
  · have same : a = b := Nat.cast_injective (first.trans second.symm)
    rw [compare_eq_iff_eq.2 rfl, compare_eq_iff_eq.2 same]
  · have scaled := mul_lt_mul_of_pos_right more positive
    rw [← first, ← second, Nat.cast_lt] at scaled
    rw [compare_gt_iff_gt.2 more, compare_gt_iff_gt.2 scaled]

theorem unit_mul (power : Int) : (2 : ℚ) ^ (power - 2) * 2 ^ (2 - power).toNat =
    2 ^ (power - 2).toNat := by
  rw [← zpow_mul_pow_toNat (by decide) (power - 2), Int.neg_sub]

theorem ofParts_compare (mantissa : Nat) (power : Int) (decimal : Scaled) (size : Nat) :
    (Interval.ofParts mantissa power).compare decimal size =
      Ord.compare decimal.value (size * 2 ^ (power - 2)) := by
  have unit := unit_mul power
  have scale := zpow_mul_pow_toNat (by decide : (10 : ℚ) ≠ 0) decimal.power
  refine compare_natCast (2 ^ (2 - power).toNat * 10 ^ (-decimal.power).toNat)
    (by positivity) ?_ ?_
  · simp only [Interval.ofParts, ten, Double.two, Nat.pow_eq, Scaled.value]
    push_cast
    rw [← scale]
    ring
  · simp only [Interval.ofParts, ten, Double.two, Nat.pow_eq]
    push_cast
    rw [← unit]
    ring

theorem quarters (power : Int) : (2 : ℚ) ^ power = 2 ^ (power - 2) * 4 := by
  rw [Double.two_zpow_pred power, Double.two_zpow_pred (power - 1), sub_sub, one_add_one_eq_two]
  ring

theorem ofParts_value : ((Interval.ofParts mantissa power).value : ℚ) * 2 ^ (power - 2) =
    magnitude mantissa power := by
  simp only [Interval.ofParts, magnitude, quarters power]
  push_cast
  ring

theorem ofParts_high : ((Interval.ofParts mantissa power).high : ℚ) * 2 ^ (power - 2) =
    magnitude mantissa power + 2 ^ power / 2 := by
  simp only [Interval.ofParts, magnitude, quarters power]
  push_cast
  ring

theorem ofParts_low (positive : 0 < mantissa) :
    ((Interval.ofParts mantissa power).low : ℚ) * 2 ^ (power - 2) =
      magnitude mantissa power - gapBelow mantissa power / 2 := by
  have implicit : Double.two 52 = 2 ^ 52 := rfl
  simp only [Interval.ofParts, magnitude, gapBelow, implicit]
  split
  · rw [Nat.cast_sub (by omega), quarters power, Double.two_zpow_pred (power - 1), sub_sub,
      one_add_one_eq_two]
    push_cast
    ring
  · rw [Nat.cast_sub (by omega), quarters power]
    push_cast
    ring

theorem contains_iff {range : Interval} {decimal : Scaled} {value low high : ℚ} (order : low < high)
    (first : range.compare decimal range.low = Ord.compare value low)
    (second : range.compare decimal range.high = Ord.compare value high) :
    range.contains decimal = true ↔
      low ≤ value ∧ value ≤ high ∧ (value = low ∨ value = high → range.closed = true) := by
  rw [Interval.contains, first, second]
  rcases lt_trichotomy value low with below | rfl | above
  · simp [compare_lt_iff_lt.2 below, below.not_ge, below.le.trans_lt order |>.ne]
  · simp [order.le]
  · rcases lt_trichotomy value high with less | rfl | more
    · simp [compare_gt_iff_gt.2 above, compare_lt_iff_lt.2 less, above.le, less.le, above.ne',
        less.ne]
    · simp [compare_gt_iff_gt.2 above, above.le]
    · simp [compare_gt_iff_gt.2 above, compare_gt_iff_gt.2 more, more.not_ge]

/-- The test on natural numbers is the test for the rounding interval. -/
theorem ofParts_contains (positive : 0 < mantissa) (decimal : Scaled) :
    (Interval.ofParts mantissa power).contains decimal = true ↔
      Around mantissa power decimal.value := by
  have closed : (Interval.ofParts mantissa power).closed = true ↔ mantissa % 2 = 0 := beq_iff_eq
  have unit : (0 : ℚ) < 2 ^ power := zpow_pos two_pos power
  have gap := Double.gapBelow_pos mantissa power
  have low := ofParts_compare mantissa power decimal (Interval.ofParts mantissa power).low
  have high := ofParts_compare mantissa power decimal (Interval.ofParts mantissa power).high
  rw [ofParts_low positive] at low
  rw [ofParts_high] at high
  rw [contains_iff (by linarith) low high, closed]
  exact ⟨fun ⟨low, high, even⟩ => ⟨low, high, even⟩, fun ⟨low, high, even⟩ => ⟨low, high, even⟩⟩

theorem ofParts_quotient (mantissa : Nat) (power grid : Int) :
    (Interval.ofParts mantissa power).quotient grid = ⌊magnitude mantissa power / 10 ^ grid⌋₊ := by
  have unit := unit_mul power
  have scale := zpow_mul_pow_toNat (by decide : (10 : ℚ) ≠ 0) grid
  rw [Interval.quotient, ← Nat.floor_div_eq_div (K := ℚ), ← ofParts_value]
  congr 1
  rw [div_eq_div_iff (by simp [Interval.ofParts, ten, Double.two]) (zpow_pos (by decide) grid).ne']
  simp only [Interval.ofParts, ten, Double.two, Nat.pow_eq]
  push_cast
  rw [← unit, ← scale]
  ring

theorem quotient_mul_le (mantissa : Nat) (power grid : Int) :
    (Interval.ofParts mantissa power).quotient grid * (10 : ℚ) ^ grid ≤
      magnitude mantissa power := by
  have unit : (0 : ℚ) < 10 ^ grid := zpow_pos (by decide) grid
  rw [ofParts_quotient, ← le_div_iff₀ unit]
  exact Nat.floor_le (div_nonneg Double.magnitude_nonneg unit.le)

theorem lt_succ_quotient_mul (mantissa : Nat) (power grid : Int) :
    magnitude mantissa power <
      ((Interval.ofParts mantissa power).quotient grid + 1) * (10 : ℚ) ^ grid := by
  rw [ofParts_quotient, ← div_lt_iff₀ (zpow_pos (by decide) grid)]
  exact Nat.lt_floor_add_one _

theorem ofParts_nearer (mantissa : Nat) (power : Int) (below : Nat) (grid : Int) :
    (Interval.ofParts mantissa power).nearer below grid =
      Ord.compare ((2 * below + 1) * (10 : ℚ) ^ grid) (2 * magnitude mantissa power) := by
  rw [Interval.nearer, ofParts_compare, ← ofParts_value, Scaled.value]
  push_cast
  rw [mul_assoc]

end Interval

section Exponent

variable {mantissa : Nat} {power : Int}

theorem compare_one_eq_gt (exponent : Int) :
    ((Interval.ofParts mantissa power).compare ⟨1, exponent⟩
        (Interval.ofParts mantissa power).value == .gt) = true ↔
      magnitude mantissa power < 10 ^ exponent := by
  rw [ofParts_compare, ofParts_value, Scaled.value, Nat.cast_one, one_mul, beq_iff_eq,
    compare_gt_iff_gt]

theorem exponent_spec (canonical : Canonical mantissa power) (positive : 0 < mantissa) :
    (10 : ℚ) ^ (Interval.ofParts mantissa power).exponent mantissa power ≤
        magnitude mantissa power ∧
      magnitude mantissa power <
        10 ^ ((Interval.ofParts mantissa power).exponent mantissa power + 1) := by
  obtain ⟨high, least, most, -⟩ := canonical
  have short : mantissa.log2 < 53 := (Nat.log2_lt positive.ne').2 high
  have atLeast : (2 : ℚ) ^ (mantissa.log2 + power) ≤ magnitude mantissa power := by
    have bits : (2 : ℚ) ^ mantissa.log2 ≤ mantissa := by
      exact_mod_cast Nat.log2_self_le positive.ne'
    rw [zpow_add₀ (by decide), zpow_natCast]
    exact mul_le_mul_of_nonneg_right bits (zpow_pos two_pos power).le
  have below : magnitude mantissa power < (2 : ℚ) ^ (mantissa.log2 + power + 1) := by
    have bits : (mantissa : ℚ) < 2 ^ (mantissa.log2 + 1) := by exact_mod_cast Nat.lt_log2_self
    rw [add_right_comm, zpow_add₀ (by decide), ← Nat.cast_succ, zpow_natCast]
    exact mul_lt_mul_of_pos_right bits (zpow_pos two_pos power)
  simp only [Interval.exponent, compare_one_eq_gt]
  generalize estimated : (mantissa.log2 + power) * 30103 / 100000 = estimate
  have lower : (10 : ℚ) ^ (estimate - 1) ≤ 2 ^ (mantissa.log2 + power) :=
    ten_zpow_le_two_zpow (by omega) (by omega)
  have upper : (2 : ℚ) ^ (mantissa.log2 + power + 1) ≤ 10 ^ (estimate + 1 + 1) :=
    two_zpow_le_ten_zpow (by omega) (by omega)
  split
  next less =>
    rw [Int.sub_add_cancel]
    exact ⟨lower.trans atLeast, less⟩
  next atMost =>
    split
    next less => exact ⟨not_lt.1 atMost, less⟩
    next more => exact ⟨not_lt.1 more, below.trans_le upper⟩

end Exponent

section Grid

variable {tie : Tie} {mantissa : Nat} {power grid : Int}

/-- What the search takes from a grid: a decimal of the interval, next to the value, and of all
those on the grid the nearest. -/
structure Hit (tie : Tie) (mantissa : Nat) (power grid : Int) (decimal : Scaled) : Prop where
  onGrid : decimal.power = grid
  low : magnitude mantissa power < decimal.value + 10 ^ grid
  high : decimal.value ≤ magnitude mantissa power + 10 ^ grid
  around : Around mantissa power decimal.value
  nearest : ∀ other : Nat, Around mantissa power (other * 10 ^ grid) →
    |decimal.value - magnitude mantissa power| ≤ |other * 10 ^ grid - magnitude mantissa power| ∧
      (tie = .up → |decimal.value - magnitude mantissa power| =
        |other * 10 ^ grid - magnitude mantissa power| → other ≤ decimal.coefficient)

def Misses (mantissa : Nat) (power grid : Int) : Prop :=
  ∀ other : Nat, ¬Around mantissa power (other * 10 ^ grid)

variable {below other : Nat} (low : below * (10 : ℚ) ^ grid ≤ magnitude mantissa power)
  (high : magnitude mantissa power < (below + 1 : Nat) * 10 ^ grid)

include low in
theorem around_of_le (less : other ≤ below) (inside : Around mantissa power (other * 10 ^ grid)) :
    Around mantissa power (below * 10 ^ grid) :=
  inside.convex (Double.around_magnitude mantissa power)
    (mul_le_mul_of_nonneg_right (Nat.cast_le.2 less) (zpow_pos (by decide) grid).le) low

include high in
theorem around_of_lt (more : below < other) (inside : Around mantissa power (other * 10 ^ grid)) :
    Around mantissa power ((below + 1 : Nat) * 10 ^ grid) :=
  (Double.around_magnitude mantissa power).convex inside high.le
    (mul_le_mul_of_nonneg_right (Nat.cast_le.2 more) (zpow_pos (by decide) grid).le)

include low high

theorem Hit.of_below (inside : Around mantissa power (below * 10 ^ grid))
    (closer : Around mantissa power ((below + 1 : Nat) * 10 ^ grid) →
      2 * magnitude mantissa power ≤ (2 * below + 1) * 10 ^ grid ∧
        (tie = .up → 2 * magnitude mantissa power ≠ (2 * below + 1) * 10 ^ grid)) :
    Hit tie mantissa power grid ⟨below, grid⟩ := by
  have unit : (0 : ℚ) < 10 ^ grid := zpow_pos (by decide) grid
  have next : ((below + 1 : Nat) : ℚ) * 10 ^ grid = below * 10 ^ grid + 10 ^ grid := by
    push_cast
    ring
  refine ⟨rfl, high.trans_eq next, low.trans (le_add_of_nonneg_right unit.le), inside,
    fun other found => ?_⟩
  rw [Scaled.value, abs_of_nonpos (sub_nonpos.2 low)]
  rcases Nat.lt_or_ge below other with more | less
  · have scaled : ((below + 1 : Nat) : ℚ) * 10 ^ grid ≤ other * 10 ^ grid :=
      mul_le_mul_of_nonneg_right (Nat.cast_le.2 more) unit.le
    obtain ⟨near, tied⟩ := closer (around_of_lt high more found)
    rw [abs_of_nonneg (by linarith)]
    exact ⟨by linarith, fun up same => absurd (by linarith) (tied up)⟩
  · have scaled : (other : ℚ) * 10 ^ grid ≤ below * 10 ^ grid :=
      mul_le_mul_of_nonneg_right (Nat.cast_le.2 less) unit.le
    rw [abs_of_nonpos (by linarith)]
    exact ⟨by linarith, fun _ _ => less⟩

theorem Hit.of_above (inside : Around mantissa power ((below + 1 : Nat) * 10 ^ grid))
    (closer : Around mantissa power (below * 10 ^ grid) →
      (2 * below + 1) * 10 ^ grid ≤ 2 * magnitude mantissa power) :
    Hit tie mantissa power grid ⟨below + 1, grid⟩ := by
  have unit : (0 : ℚ) < 10 ^ grid := zpow_pos (by decide) grid
  have next : ((below + 1 : Nat) : ℚ) * 10 ^ grid = below * 10 ^ grid + 10 ^ grid := by
    push_cast
    ring
  refine ⟨rfl, high.trans (lt_add_of_pos_right _ unit),
    next.trans_le (add_le_add_left low _), inside, fun other found => ?_⟩
  rw [Scaled.value, abs_of_nonneg (sub_nonneg.2 high.le)]
  rcases Nat.lt_or_ge below other with more | less
  · have scaled : ((below + 1 : Nat) : ℚ) * 10 ^ grid ≤ other * 10 ^ grid :=
      mul_le_mul_of_nonneg_right (Nat.cast_le.2 more) unit.le
    rw [abs_of_nonneg (by linarith)]
    refine ⟨by linarith, fun _ same => ?_⟩
    have equal : (other : ℚ) ≤ (below + 1 : Nat) := le_of_mul_le_mul_right (by linarith) unit
    exact Nat.cast_le.1 equal
  · have scaled : (other : ℚ) * 10 ^ grid ≤ below * 10 ^ grid :=
      mul_le_mul_of_nonneg_right (Nat.cast_le.2 less) unit.le
    have near := closer (around_of_le low less found)
    rw [abs_of_nonpos (by linarith)]
    exact ⟨by linarith, fun _ _ => less.trans (Nat.le_succ below)⟩

omit low high

theorem hit_of_onGrid? (positive : 0 < mantissa) {decimal : Scaled}
    (found : (Interval.ofParts mantissa power).onGrid? tie grid = some decimal) :
    Hit tie mantissa power grid decimal := by
  have inside (coefficient : Nat) :
      (Interval.ofParts mantissa power).contains ⟨coefficient, grid⟩ = true ↔
        Around mantissa power (coefficient * 10 ^ grid) := ofParts_contains positive _
  have low := quotient_mul_le mantissa power grid
  have high := lt_succ_quotient_mul mantissa power grid
  simp only [Interval.onGrid?, ofParts_nearer] at found
  generalize (Interval.ofParts mantissa power).quotient grid = below at *
  rw [← Nat.cast_succ] at high
  split at found
  next both =>
    obtain ⟨down, up⟩ := Bool.and_eq_true_iff.1 both
    rw [inside] at down up
    split at found <;> obtain rfl := Option.some.inj found
    next nearer =>
      have nearer := compare_gt_iff_gt.1 nearer
      exact .of_below low high down fun _ => ⟨nearer.le, fun _ => nearer.ne⟩
    next nearer => exact .of_above low high up fun _ => (compare_lt_iff_lt.1 nearer).le
    next nearer => exact .of_above low high up fun _ => (compare_eq_iff_eq.1 nearer).le
    next nearer =>
      have same := compare_eq_iff_eq.1 nearer
      rcases Nat.mod_two_eq_zero_or_one below with even | odd
      · rw [even]
        exact .of_below low high down fun _ => ⟨same.ge, fun up => nomatch up⟩
      · rw [odd]
        exact .of_above low high up fun _ => same.le
  next notBoth =>
    rw [Bool.and_eq_true, inside, inside] at notBoth
    split at found
    next down =>
      obtain rfl := Option.some.inj found
      rw [inside] at down
      exact .of_below low high down fun up => absurd ⟨down, up⟩ notBoth
    next notDown =>
      rw [inside] at notDown
      split at found
      next up =>
        obtain rfl := Option.some.inj found
        exact .of_above low high ((inside _).1 up) fun down => absurd down notDown
      next => cases found

theorem misses_of_onGrid? (positive : 0 < mantissa)
    (missed : (Interval.ofParts mantissa power).onGrid? tie grid = none) :
    Misses mantissa power grid := by
  have inside (coefficient : Nat) :
      (Interval.ofParts mantissa power).contains ⟨coefficient, grid⟩ = true ↔
        Around mantissa power (coefficient * 10 ^ grid) := ofParts_contains positive _
  have low := quotient_mul_le mantissa power grid
  have high := lt_succ_quotient_mul mantissa power grid
  simp only [Interval.onGrid?] at missed
  generalize (Interval.ofParts mantissa power).quotient grid = below at *
  rw [← Nat.cast_succ] at high
  have outside : ¬(Interval.ofParts mantissa power).contains ⟨below, grid⟩ = true ∧
      ¬(Interval.ofParts mantissa power).contains ⟨below + 1, grid⟩ = true := by
    split at missed
    next => split at missed <;> cases missed
    next =>
      split at missed
      next => cases missed
      next notDown =>
        split at missed
        next => cases missed
        next notUp => exact ⟨notDown, notUp⟩
  intro other found
  rcases Nat.lt_or_ge below other with more | less
  · exact outside.2 ((inside _).2 (around_of_lt high more found))
  · exact outside.1 ((inside _).2 (around_of_le low less found))

theorem exists_hit_of_search (tie : Tie) (positive : 0 < mantissa) (count : Nat)
    (finest : ¬Misses mantissa power (grid - count)) :
    ∃ steps ≤ count, Hit tie mantissa power (grid - steps)
        ((Interval.ofParts mantissa power).search tie grid (count + 1)) ∧
      ∀ coarser < steps, Misses mantissa power (grid - coarser) := by
  induction count generalizing grid with
  | zero =>
    rw [Interval.search]
    cases found : (Interval.ofParts mantissa power).onGrid? tie grid with
    | some decimal =>
      exact ⟨0, le_rfl, by simpa using hit_of_onGrid? positive found, by simp⟩
    | none => exact absurd (misses_of_onGrid? positive found) (by simpa using finest)
  | succ count ih =>
    rw [Interval.search]
    cases found : (Interval.ofParts mantissa power).onGrid? tie grid with
    | some decimal =>
      exact ⟨0, Nat.zero_le _, by simpa using hit_of_onGrid? positive found, by simp⟩
    | none =>
      rw [Nat.cast_succ, add_comm, ← sub_sub] at finest
      obtain ⟨steps, bound, hit, coarse⟩ := ih finest
      refine ⟨steps + 1, by omega, ?_, fun coarser less => ?_⟩
      · rw [Nat.cast_succ, add_comm, ← sub_sub]
        exact hit
      · cases coarser with
        | zero => simpa using misses_of_onGrid? positive found
        | succ coarser =>
          rw [Nat.cast_succ, add_comm, ← sub_sub]
          exact coarse coarser (by omega)

end Grid

section Normalize

variable (decimal : Scaled)

theorem normalize_spec : ∃ removed : Nat, decimal.normalize.power = decimal.power + removed ∧
    decimal.coefficient = decimal.normalize.coefficient * 10 ^ removed := by
  fun_induction Scaled.normalize decimal with
  | case1 decimal divides ih =>
    obtain ⟨removed, power, coefficient⟩ := ih
    dsimp only at coefficient
    refine ⟨removed + 1, by rw [power]; push_cast; ring, ?_⟩
    rw [pow_succ, ← mul_assoc, ← coefficient]
    omega
  | case2 decimal => exact ⟨0, by simp, by simp⟩

theorem normalize_mod_ten (nonzero : decimal.coefficient ≠ 0) :
    decimal.normalize.coefficient % 10 ≠ 0 := by
  fun_induction Scaled.normalize decimal with
  | case1 decimal divides ih => exact ih (by simp only; omega)
  | case2 decimal stop => omega

theorem normalize_value : decimal.normalize.value = decimal.value := by
  obtain ⟨removed, power, coefficient⟩ := normalize_spec decimal
  rw [Scaled.value, Scaled.value, power, coefficient, zpow_add₀ (by decide), zpow_natCast]
  push_cast
  ring

end Normalize

section Search

variable {tie : Tie} {mantissa : Nat} {power : Int}

theorem ten_zpow_sub (exponent : Int) (steps : Nat) :
    (10 : ℚ) ^ exponent = (10 ^ steps : Nat) * 10 ^ (exponent - steps) := by
  rw [Nat.cast_pow, Nat.cast_ofNat, ← zpow_natCast, ← zpow_add₀ (by decide)]
  congr 1
  omega

theorem not_misses_seventeenth (canonical : Canonical mantissa power) {exponent : Int}
    (low : (10 : ℚ) ^ exponent ≤ magnitude mantissa power) :
    ¬Misses mantissa power (exponent - 16) := by
  intro misses
  have unit : (0 : ℚ) < 2 ^ power := zpow_pos two_pos power
  have gap := Double.gapBelow_pos mantissa power
  have below := quotient_mul_le mantissa power (exponent - 16)
  have above := lt_succ_quotient_mul mantissa power (exponent - 16)
  generalize (Interval.ofParts mantissa power).quotient (exponent - 16) = quotient at *
  have under : quotient * (10 : ℚ) ^ (exponent - 16) ≤
      magnitude mantissa power - gapBelow mantissa power / 2 := by
    by_contra inside
    exact misses quotient (.of_lt (by linarith) (by linarith))
  have beyond : magnitude mantissa power + 2 ^ power / 2 ≤
      (quotient + 1) * (10 : ℚ) ^ (exponent - 16) := by
    by_contra inside
    exact misses (quotient + 1) (.of_lt (by push_cast; linarith) (by push_cast; linarith))
  have step : gapBelow mantissa power / 2 + 2 ^ power / 2 ≤ (10 : ℚ) ^ (exponent - 16) := by
    linarith
  rw [ten_zpow_sub exponent 16] at low
  push_cast at low
  rw [magnitude] at low
  rw [gapBelow] at step
  split at step
  next border =>
    rw [border.1] at low
    rw [Double.two_zpow_pred power] at step low unit
    push_cast at low
    linarith
  next inner =>
    have high : (mantissa : ℚ) ≤ 2 ^ 53 := by exact_mod_cast canonical.high.le
    have scaled := mul_le_mul_of_nonneg_right high unit.le
    linarith

theorem Hit.bounds {exponent : Int} {steps : Nat} {decimal : Scaled}
    (hit : Hit tie mantissa power (exponent - steps) decimal)
    (low : (10 : ℚ) ^ exponent ≤ magnitude mantissa power)
    (high : magnitude mantissa power < (10 : ℚ) ^ (exponent + 1)) :
    0 < decimal.coefficient ∧ decimal.coefficient ≤ 10 ^ (steps + 1) := by
  have unit : (0 : ℚ) < 10 ^ (exponent - steps) := zpow_pos (by decide) (exponent - steps)
  have above := hit.low
  have below := hit.high
  rw [Scaled.value, hit.onGrid] at above below
  rw [ten_zpow_sub exponent steps] at low
  rw [zpow_add_one₀ (by decide), ten_zpow_sub exponent steps] at high
  constructor
  · have scaled : ((10 ^ steps : Nat) : ℚ) < (decimal.coefficient + 1 : Nat) := by
      refine lt_of_mul_lt_mul_right ?_ unit.le
      push_cast at low ⊢
      linarith
    have one := Nat.one_le_pow steps 10 (by decide)
    have less := Nat.cast_lt.1 scaled
    omega
  · have scaled : (decimal.coefficient : ℚ) < (10 ^ (steps + 1) + 1 : Nat) := by
      refine lt_of_mul_lt_mul_right ?_ unit.le
      push_cast at high ⊢
      rw [pow_succ]
      linarith
    exact Nat.lt_succ_iff.1 (Nat.cast_lt.1 scaled)

/-- A decimal with few digits lies on a coarse grid, or it is below a power of ten that lies in the
interval too. -/
theorem onGrid_or_power {exponent scale : Int} {other steps : Nat}
    (low : (10 : ℚ) ^ exponent ≤ magnitude mantissa power) (small : other < 10 ^ (steps + 1))
    (found : Around mantissa power (other * 10 ^ scale)) :
    (∃ coefficient : Nat, (other : ℚ) * 10 ^ scale = coefficient * 10 ^ (exponent - steps)) ∨
      (other : ℚ) * 10 ^ scale < 10 ^ exponent ∧ Around mantissa power (10 ^ exponent) := by
  rcases Int.lt_or_le scale (exponent - steps) with fine | coarse
  · have less : (other : ℚ) * 10 ^ scale < 10 ^ exponent := by
      calc (other : ℚ) * 10 ^ scale < (10 ^ (steps + 1) : Nat) * 10 ^ scale :=
            mul_lt_mul_of_pos_right (Nat.cast_lt.2 small) (zpow_pos (by decide) scale)
        _ = 10 ^ (scale + (steps + 1 : Nat)) := by
            rw [ten_zpow_sub (scale + (steps + 1 : Nat)) (steps + 1), add_sub_cancel_right]
        _ ≤ 10 ^ exponent := zpow_le_zpow_right₀ (by norm_num) (by push_cast; omega)
    exact .inr ⟨less, found.convex (Double.around_magnitude mantissa power) less.le low⟩
  · refine .inl ⟨other * 10 ^ (scale - (exponent - steps)).toNat, ?_⟩
    rw [ten_zpow_sub scale (scale - (exponent - steps)).toNat]
    have rest : scale - ((scale - (exponent - steps)).toNat : Int) = exponent - steps := by omega
    rw [rest]
    push_cast
    ring

structure Best (tie : Tie) (mantissa : Nat) (power : Int) (decimal : Scaled) : Prop where
  trimmed : decimal.coefficient % 10 ≠ 0
  around : Around mantissa power decimal.value
  shortest : ∀ (other : Nat) (scale : Int), Around mantissa power (other * 10 ^ scale) →
    decimal.digits.length ≤ (Nat.toDigits 10 other).length
  nearest : ∀ (other : Nat) (scale : Int), Around mantissa power (other * 10 ^ scale) →
    (Nat.toDigits 10 other).length ≤ decimal.digits.length →
      |decimal.value - magnitude mantissa power| ≤ |other * 10 ^ scale - magnitude mantissa power| ∧
        (tie = .up → |decimal.value - magnitude mantissa power| =
          |other * 10 ^ scale - magnitude mantissa power| → other * 10 ^ scale ≤ decimal.value)

theorem lt_ten_pow_length (n : Nat) : n < 10 ^ (Nat.toDigits 10 n).length :=
  (Nat.length_toDigits_le_iff (by decide) Nat.length_toDigits_pos).1 le_rfl

/-- If the grids before missed, all decimals of the interval have more digits than there were. -/
theorem lt_length_of_misses {exponent scale : Int} {steps other : Nat}
    (low : (10 : ℚ) ^ exponent ≤ magnitude mantissa power)
    (misses : ∀ coarser < steps, Misses mantissa power (exponent - coarser))
    (found : Around mantissa power (other * 10 ^ scale)) :
    steps < (Nat.toDigits 10 other).length := by
  have size := lt_ten_pow_length other
  obtain ⟨digits, length⟩ :=
    Nat.exists_eq_add_of_le' (Nat.length_toDigits_pos (b := 10) (n := other))
  rw [length] at size ⊢
  by_contra! longer
  rcases onGrid_or_power low size found with ⟨coefficient, point⟩ | ⟨-, power⟩
  · exact misses digits (by omega) coefficient (point ▸ found)
  · refine misses 0 (by omega) 1 ?_
    simpa using power

theorem Hit.length_normalize_le {exponent : Int} {steps : Nat} {decimal : Scaled}
    (hit : Hit tie mantissa power (exponent - steps) decimal) (positive : 0 < decimal.coefficient)
    (bound : decimal.coefficient ≤ 10 ^ (steps + 1))
    (misses : ∀ coarser < steps, Misses mantissa power (exponent - coarser)) :
    decimal.normalize.digits.length ≤ steps + 1 := by
  rw [Scaled.digits, Nat.length_toDigits_le_iff (by decide) (Nat.succ_pos steps)]
  obtain ⟨removed, scale, whole⟩ := normalize_spec decimal
  cases removed with
  | zero =>
    rw [pow_zero, mul_one] at whole
    refine lt_of_le_of_ne (whole ▸ bound) fun full => ?_
    refine normalize_mod_ten decimal positive.ne' ?_
    rw [full, pow_succ, Nat.mul_mod_left]
  | succ removed =>
    cases steps with
    | succ steps =>
      have around := hit.around
      have before : exponent - (steps + 1 : Nat) + (removed + 1 : Nat) =
        exponent - steps + removed := by omega
      rw [← normalize_value, Scaled.value, scale, hit.onGrid, before, zpow_add₀ (by decide),
        zpow_natCast] at around
      have point := misses steps (by omega) (decimal.normalize.coefficient * 10 ^ removed)
      push_cast at point
      rw [mul_assoc, mul_comm (10 ^ removed)] at point
      exact absurd around point
    | zero =>
      have grows := Nat.le_mul_of_pos_right decimal.normalize.coefficient
        (Nat.pow_pos (n := removed) (show 0 < 10 by decide))
      rw [whole, pow_succ, ← mul_assoc] at bound
      omega

theorem Hit.near {exponent scale : Int} {steps other : Nat} {decimal : Scaled}
    (hit : Hit tie mantissa power (exponent - steps) decimal)
    (low : (10 : ℚ) ^ exponent ≤ magnitude mantissa power) (small : other < 10 ^ (steps + 1))
    (found : Around mantissa power (other * 10 ^ scale)) :
    |decimal.value - magnitude mantissa power| ≤ |other * 10 ^ scale - magnitude mantissa power| ∧
      (tie = .up → |decimal.value - magnitude mantissa power| =
        |other * 10 ^ scale - magnitude mantissa power| → other * 10 ^ scale ≤ decimal.value) := by
  rcases onGrid_or_power low small found with ⟨coefficient, point⟩ | ⟨less, power⟩
  · rw [point] at found ⊢
    obtain ⟨near, tied⟩ := hit.nearest coefficient found
    refine ⟨near, fun up same => ?_⟩
    rw [Scaled.value, hit.onGrid]
    exact mul_le_mul_of_nonneg_right (Nat.cast_le.2 (tied up same)) (zpow_pos (by decide) _).le
  · -- the power of ten is nearer, and on the grid
    rw [ten_zpow_sub exponent steps] at power less low
    obtain ⟨near, -⟩ := hit.nearest _ power
    rw [abs_of_nonpos (sub_nonpos.2 low)] at near
    rw [abs_of_nonpos (sub_nonpos.2 (less.le.trans low))]
    exact ⟨by linarith, fun _ _ => by linarith⟩

theorem best_of_hit {exponent : Int} {steps : Nat} {decimal : Scaled}
    (low : (10 : ℚ) ^ exponent ≤ magnitude mantissa power)
    (high : magnitude mantissa power < (10 : ℚ) ^ (exponent + 1))
    (hit : Hit tie mantissa power (exponent - steps) decimal)
    (misses : ∀ coarser < steps, Misses mantissa power (exponent - coarser)) :
    Best tie mantissa power decimal.normalize := by
  obtain ⟨positive, bound⟩ := hit.bounds low high
  have short := hit.length_normalize_le positive bound misses
  refine ⟨normalize_mod_ten decimal positive.ne', ?_, fun other scale found => ?_,
    fun other scale found shorter => ?_⟩
  · rw [normalize_value]
    exact hit.around
  · exact short.trans (lt_length_of_misses low misses found)
  · rw [normalize_value]
    exact hit.near low ((lt_ten_pow_length other).trans_le
      (Nat.pow_le_pow_right (by decide) (shorter.trans short))) found

/-- The search finds the shortest decimal. -/
theorem best_shortest (tie : Tie) (canonical : Canonical mantissa power) (positive : 0 < mantissa) :
    Best tie mantissa power (shortest tie mantissa power) := by
  obtain ⟨low, high⟩ := exponent_spec canonical positive
  obtain ⟨steps, -, hit, misses⟩ := exists_hit_of_search tie positive 16
    (not_misses_seventeenth canonical low)
  rw [shortest, if_neg positive.ne']
  exact best_of_hit low high hit misses

end Search

end LineScript.Decimal
