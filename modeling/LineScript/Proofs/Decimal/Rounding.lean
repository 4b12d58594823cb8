import LineScript.Proofs.Decimal.Exact

/-! Rounding to the nearest double. The numbers that round to a double form an interval, which
reaches half the way to the doubles next to it and holds its ends if the last bit is even. The
intervals of different doubles are apart. -/
namespace LineScript.Double

/-- `r` is read as the finite double `x`: no double is nearer, and where another one is as near,
the last bit of `x` is zero. Numbers from half a unit above the greatest double on are infinite. -/
structure RoundsTo (r : ℚ) (x : Float) : Prop where
  bounded : |r| < magnitude (2 ^ 54 - 1) 970
  nearest : ∃ v, value? x = some v ∧ ∀ y w, value? y = some w →
    |r - v| ≤ |r - w| ∧ (|r - v| = |r - w| → w = v ∨ x.toBits.toNat % 2 = 0)

/-- The distance from a double down to the one below it. Below a power of two the doubles are twice
as dense, except near zero. -/
def gapBelow (mantissa : Nat) (power : Int) : ℚ :=
  if mantissa = 2 ^ 52 ∧ -1074 < power then 2 ^ (power - 1) else 2 ^ power

structure Around (mantissa : Nat) (power : Int) (r : ℚ) : Prop where
  low : magnitude mantissa power - gapBelow mantissa power / 2 ≤ r
  high : r ≤ magnitude mantissa power + 2 ^ power / 2
  even : r = magnitude mantissa power - gapBelow mantissa power / 2 ∨
    r = magnitude mantissa power + 2 ^ power / 2 → mantissa % 2 = 0

section Gaps

variable {mantissa other : Nat} {power exponent : Int}

theorem two_zpow_pred (power : Int) : (2 : ℚ) ^ power = 2 ^ (power - 1) * 2 := by
  rw [← zpow_add_one₀ (by decide), Int.sub_add_cancel]

theorem gapBelow_pos (mantissa : Nat) (power : Int) : 0 < gapBelow mantissa power := by
  rw [gapBelow]
  split <;> exact zpow_pos two_pos _

theorem gapBelow_le (mantissa : Nat) (power : Int) : gapBelow mantissa power ≤ 2 ^ power := by
  rw [gapBelow]
  split
  · exact zpow_le_zpow_right₀ (by decide) (by omega)
  · exact le_rfl

theorem magnitude_inj (first : Canonical mantissa power) (second : Canonical other exponent)
    (same : magnitude mantissa power = magnitude other exponent) :
    mantissa = other ∧ power = exponent := by
  have order := compare_magnitude first second
  rw [same, compare_eq_iff_eq.2 rfl, Ordering.then_eq_eq, compare_eq_iff_eq,
    compare_eq_iff_eq] at order
  exact order.symm

theorem exists_above (canonical : Canonical mantissa power) : ∃ other exponent,
    magnitude other exponent = magnitude mantissa power + 2 ^ power ∧
      (Canonical other exponent ∨ mantissa = 2 ^ 53 - 1 ∧ power = 971) ∧
        (mantissa % 2 = 0 → other % 2 = 1) := by
  obtain ⟨high, least, most, low⟩ := canonical
  by_cases full : mantissa = 2 ^ 53 - 1
  · refine ⟨2 ^ 52, power + 1, ?_, ?_, by omega⟩
    · rw [full, magnitude, magnitude, zpow_add_one₀ (by decide)]
      norm_num
      ring
    · by_cases last : power = 971
      · exact .inr ⟨full, last⟩
      · exact .inl ⟨by decide, by omega, by omega, fun _ => le_rfl⟩
  · refine ⟨mantissa + 1, power, ?_, .inl ⟨by omega, least, most, fun above => ?_⟩, by omega⟩
    · rw [magnitude, magnitude]
      push_cast
      ring
    · exact (low above).trans (Nat.le_succ mantissa)

theorem exists_below (canonical : Canonical mantissa power) (positive : 0 < mantissa) :
    ∃ other exponent, Canonical other exponent ∧
      magnitude other exponent = magnitude mantissa power - gapBelow mantissa power := by
  obtain ⟨high, least, most, low⟩ := canonical
  rw [gapBelow]
  split
  next border =>
    refine ⟨2 ^ 53 - 1, power - 1, ⟨by decide, by omega, by omega, fun _ => by decide⟩, ?_⟩
    rw [border.1, magnitude, magnitude, two_zpow_pred power]
    norm_num
    ring
  next inner =>
    refine ⟨mantissa - 1, power, ⟨by omega, least, most, fun above => ?_⟩, ?_⟩
    · have large := low above
      omega
    · rw [magnitude, magnitude, Nat.cast_pred positive]
      ring

theorem le_below_of_power_lt (first : Canonical mantissa power) (second : Canonical other exponent)
    (less : exponent < power) :
    magnitude other exponent ≤ magnitude mantissa power - gapBelow mantissa power := by
  have least := second.least
  have large : 2 ^ 52 ≤ mantissa := first.low (by omega)
  have half : (0 : ℚ) < 2 ^ (power - 1) := zpow_pos two_pos (power - 1)
  have bound : (other : ℚ) ≤ 2 ^ 53 - 1 := by
    have below : (other : ℚ) + 1 ≤ 2 ^ 53 := by exact_mod_cast second.high
    linarith
  have top : magnitude other exponent ≤ (2 ^ 53 - 1) * 2 ^ (power - 1) :=
    mul_le_mul bound (zpow_le_zpow_right₀ (by decide) (by omega)) (zpow_pos two_pos _).le
      (by norm_num)
  refine top.trans ?_
  rw [gapBelow, magnitude]
  split
  next border =>
    rw [border.1, two_zpow_pred power]
    norm_num
    linarith
  next inner =>
    have above : (2 ^ 52 + 1 : ℚ) ≤ mantissa := by
      exact_mod_cast (show 2 ^ 52 + 1 ≤ mantissa by omega)
    have scaled := mul_le_mul_of_nonneg_right above (zpow_pos two_pos power).le
    rw [two_zpow_pred power] at scaled ⊢
    linarith

theorem magnitude_add_le (less : mantissa < other) :
    magnitude mantissa power + 2 ^ power ≤ magnitude other power := by
  have step : (mantissa : ℚ) + 1 ≤ other := by exact_mod_cast less
  have scaled := mul_le_mul_of_nonneg_right step (zpow_pos two_pos power).le
  rw [magnitude, magnitude]
  linarith

/-- No double lies between a double and the ones next to it. -/
theorem separated (first : Canonical mantissa power) (second : Canonical other exponent)
    (apart : magnitude other exponent ≠ magnitude mantissa power) :
    magnitude other exponent ≤ magnitude mantissa power - gapBelow mantissa power ∨
      magnitude mantissa power + 2 ^ power ≤ magnitude other exponent := by
  rcases Int.lt_or_le exponent power with less | more
  · exact .inl (le_below_of_power_lt first second less)
  · -- both are whole multiples of the smaller unit
    obtain ⟨shift, rfl⟩ : ∃ shift : Nat, exponent = power + shift :=
      ⟨(exponent - power).toNat, by omega⟩
    have multiple : magnitude other (power + shift) = magnitude (other * 2 ^ shift) power := by
      rw [magnitude, magnitude, zpow_add₀ (by decide), zpow_natCast]
      push_cast
      ring
    rw [multiple] at apart ⊢
    rcases Nat.lt_trichotomy (other * 2 ^ shift) mantissa with less | same | more
    · have step : magnitude (other * 2 ^ shift) power + 2 ^ power ≤ magnitude mantissa power :=
        magnitude_add_le less
      have gap := gapBelow_le mantissa power
      exact .inl (by linarith)
    · exact absurd (by rw [same]) apart
    · exact .inr (magnitude_add_le more)

end Gaps

section Around

variable {mantissa other : Nat} {power exponent : Int} {r : ℚ}

theorem Around.pos (around : Around mantissa power r) (positive : 0 < mantissa) : 0 < r := by
  have unit : (0 : ℚ) < 2 ^ power := zpow_pos two_pos power
  have gap := gapBelow_le mantissa power
  have whole : (1 : ℚ) ≤ mantissa := by exact_mod_cast positive
  have scaled := mul_le_mul_of_nonneg_right whole unit.le
  have low := around.low
  rw [magnitude] at low
  linarith

theorem Around.of_lt (low : magnitude mantissa power - gapBelow mantissa power / 2 < r)
    (high : r < magnitude mantissa power + 2 ^ power / 2) : Around mantissa power r := by
  refine ⟨low.le, high.le, fun ends => ?_⟩
  rcases ends with bottom | top
  · exact absurd bottom low.ne'
  · exact absurd top high.ne

theorem around_magnitude (mantissa : Nat) (power : Int) :
    Around mantissa power (magnitude mantissa power) := by
  have unit : (0 : ℚ) < 2 ^ power := zpow_pos two_pos power
  have gap := gapBelow_pos mantissa power
  exact .of_lt (by linarith) (by linarith)

theorem Around.convex {a b : ℚ} (first : Around mantissa power a) (second : Around mantissa power b)
    (low : a ≤ r) (high : r ≤ b) : Around mantissa power r := by
  refine ⟨first.low.trans low, high.trans second.high, fun ends => ?_⟩
  rcases ends with bottom | top
  · exact first.even (.inl (le_antisymm (low.trans bottom.le) first.low))
  · exact second.even (.inr (le_antisymm second.high (top.symm.le.trans high)))

theorem Around.eq_of_lt (canonical : Canonical mantissa power) (allowed : Canonical other exponent)
    (first : Around mantissa power r) (second : Around other exponent r) :
    ¬magnitude mantissa power < magnitude other exponent := by
  intro less
  have above := (separated canonical allowed less.ne').resolve_left (by
    have gap := gapBelow_pos mantissa power
    intro below
    linarith)
  have below := (separated allowed canonical less.ne).resolve_right (by
    have unit : (0 : ℚ) < 2 ^ exponent := zpow_pos two_pos exponent
    intro above
    linarith)
  -- so the number is the end of both intervals, but not both last bits can be even
  have high := first.high
  have low := second.low
  have top : r = magnitude mantissa power + 2 ^ power / 2 := by linarith
  have bottom : r = magnitude other exponent - gapBelow other exponent / 2 := by linarith
  have next : magnitude other exponent = magnitude mantissa power + 2 ^ power := by linarith
  have even := first.even (.inr top)
  obtain ⟨number, scale, value, double | last, odd⟩ := exists_above canonical
  · obtain ⟨rfl, rfl⟩ := magnitude_inj double allowed (value.trans next.symm)
    have other := second.even (.inl bottom)
    have one := odd even
    omega
  · omega

theorem Around.unique (canonical : Canonical mantissa power) (allowed : Canonical other exponent)
    (first : Around mantissa power r) (second : Around other exponent r) :
    mantissa = other ∧ power = exponent :=
  magnitude_inj canonical allowed (le_antisymm
    (not_lt.1 (second.eq_of_lt allowed canonical first))
    (not_lt.1 (first.eq_of_lt canonical allowed second)))

end Around

section Doubles

variable {mantissa : Nat} {power : Int}

theorem mantissa_mod_two {x : Float} {negative : Bool}
    (value : parts x = .finite negative mantissa power) : mantissa % 2 = x.toBits.toNat % 2 := by
  have implicit : two 52 = 2 ^ 52 := rfl
  simp only [parts] at value
  split at value
  · split at value <;> cases value
  · split at value <;> cases value <;> simp only [implicit] <;> omega

theorem exists_fields {sign biased fraction : Nat} (bit : sign < 2) (finite : biased < 2047)
    (bound : fraction < 2 ^ 52) : ∃ x : Float, x.toBits.toNat / two 63 = sign ∧
      x.toBits.toNat / two 52 % two 11 = biased ∧ x.toBits.toNat % two 52 = fraction := by
  have wide : two 63 = 2 ^ 63 ∧ two 52 = 2 ^ 52 ∧ two 11 = 2 ^ 11 := ⟨rfl, rfl, rfl⟩
  let bits : Nat := sign * 2 ^ 63 + biased * 2 ^ 52 + fraction
  have same : (UInt64.ofNat bits).toNat = bits := UInt64.toNat_ofNat_of_lt' (by
    have size : UInt64.size = 2 ^ 64 := rfl
    omega)
  refine ⟨.ofModel ⟨UInt64.ofNat bits, ⟨fun top => ?_⟩⟩, ?_⟩
  · have exponent := toNat_unpackExponent (UInt64.ofNat bits).toBitVec
    rw [top, UInt64.toNat_toBitVec, same] at exponent
    have ones : (-1#11 : BitVec 11).toNat = 2047 := rfl
    exfalso
    have field : bits / 2 ^ 52 % 2 ^ 11 = 2047 := exponent.symm.trans ones
    omega
  · change (UInt64.ofNat bits).toNat / _ = _ ∧ (UInt64.ofNat bits).toNat / _ % _ = _ ∧
      (UInt64.ofNat bits).toNat % _ = _
    rw [same, wide.1, wide.2.1, wide.2.2]
    omega

/-- All parts that are allowed are those of a double. -/
theorem exists_double (canonical : Canonical mantissa power) (negative : Bool) :
    ∃ x, parts x = .finite negative mantissa power := by
  obtain ⟨high, least, most, low⟩ := canonical
  have implicit : two 52 = 2 ^ 52 := rfl
  have bit : (if negative then 1 else 0) < 2 := by cases negative <;> decide
  by_cases small : mantissa < 2 ^ 52
  · obtain ⟨x, signed, exponent, fraction⟩ := exists_fields bit (show 0 < 2047 by decide) small
    have lowest : power = -1074 := by omega
    refine ⟨x, ?_⟩
    simp only [parts]
    rw [signed, exponent, fraction, lowest, if_neg (by decide), if_pos rfl]
    cases negative <;> rfl
  · obtain ⟨x, signed, exponent, fraction⟩ := exists_fields bit
      (show (power + 1075).toNat < 2047 by omega) (show mantissa - 2 ^ 52 < 2 ^ 52 by omega)
    refine ⟨x, ?_⟩
    simp only [parts]
    have whole : two 52 + (mantissa - 2 ^ 52) = mantissa := by
      rw [implicit]
      omega
    have scale : ((power + 1075).toNat : Int) - 1075 = power := by omega
    rw [signed, exponent, fraction, if_neg (by omega), if_neg (by omega), whole, scale]
    cases negative <;> rfl

end Doubles

section Nearest

variable {mantissa other : Nat} {power exponent : Int} {r : ℚ}

theorem abs_withSign (negative : Bool) (size : ℚ) : |withSign negative size| = |size| := by
  cases negative
  · rfl
  · exact abs_neg size

theorem abs_withSign_sub (negative : Bool) (a b : ℚ) :
    |withSign negative a - withSign negative b| = |a - b| := by
  cases negative
  · rfl
  · simp only [withSign, if_true]
    rw [← abs_neg (a - b), neg_sub, neg_sub_neg]

theorem abs_withSign_sub_not (negative : Bool) {a b : ℚ} (first : 0 ≤ a) (second : 0 ≤ b) :
    |withSign negative a - withSign (!negative) b| = a + b := by
  have sum := add_nonneg first second
  cases negative
  · simp only [withSign, Bool.not_false, if_true, Bool.false_eq_true, if_false, sub_neg_eq_add]
    exact abs_of_nonneg sum
  · simp only [withSign, Bool.not_true, if_true, Bool.false_eq_true, if_false]
    rw [← neg_add', abs_neg, abs_of_nonneg sum]

theorem withSign_lt_zero (negative : Bool) {size : ℚ} (positive : 0 < size) :
    decide (withSign negative size < 0) = negative := by
  cases negative
  · exact decide_eq_false (not_lt.2 positive.le)
  · exact decide_eq_true (neg_lt_zero.2 positive)

theorem withSign_inj {negative opposite : Bool} {size other : ℚ} (positive : 0 < size)
    (more : 0 < other) (same : withSign negative size = withSign opposite other) :
    negative = opposite ∧ size = other := by
  have sign : negative = opposite := by
    rw [← withSign_lt_zero negative positive, ← withSign_lt_zero opposite more, same]
  subst sign
  cases negative
  · exact ⟨rfl, same⟩
  · exact ⟨rfl, neg_inj.1 same⟩

theorem value?_of_parts {x : Float} {negative : Bool}
    (finite : parts x = .finite negative mantissa power) :
    value? x = some (withSign negative (magnitude mantissa power)) := by
  rw [value?, finite]

theorem canonical_greatest : Canonical (2 ^ 53 - 1) 971 :=
  ⟨by decide, by decide, by decide, fun _ => by decide⟩

theorem threshold_eq :
    magnitude (2 ^ 54 - 1) 970 = magnitude (2 ^ 53 - 1) 971 + 2 ^ (971 : Int) / 2 := by
  have half : (2 : ℚ) ^ (971 : Int) = 2 ^ (970 : Int) * 2 := two_zpow_pred 971
  rw [magnitude, magnitude, half]
  generalize (2 : ℚ) ^ (970 : Int) = unit
  norm_num
  ring

theorem magnitude_le_greatest (canonical : Canonical mantissa power) :
    magnitude mantissa power ≤ magnitude (2 ^ 53 - 1) 971 := by
  rcases lt_or_eq_of_le canonical.most with less | rfl
  · exact (magnitude_lt_of_power_lt canonical canonical_greatest less).le
  · have high := canonical.high
    exact mul_le_mul_of_nonneg_right (Nat.cast_le.2 (by omega)) (zpow_pos two_pos _).le

theorem Around.lt_threshold (canonical : Canonical mantissa power)
    (around : Around mantissa power r) : r < magnitude (2 ^ 54 - 1) 970 := by
  have high := around.high
  have unit : (0 : ℚ) < 2 ^ power := zpow_pos two_pos power
  have top : magnitude (2 ^ 53 - 1) 971 < magnitude (2 ^ 54 - 1) 970 :=
    threshold_eq ▸ lt_add_of_pos_right _ (half_pos (zpow_pos two_pos 971))
  by_cases greatest : magnitude (2 ^ 53 - 1) 971 = magnitude mantissa power
  · obtain ⟨rfl, rfl⟩ := magnitude_inj canonical_greatest canonical greatest
    rw [threshold_eq]
    refine lt_of_le_of_ne high fun ends => ?_
    exact absurd (around.even (.inr ends)) (by decide)
  · have gap := gapBelow_pos mantissa power
    have most := magnitude_le_greatest canonical
    rcases separated canonical canonical_greatest greatest with below | above <;> linarith

theorem Around.near (canonical : Canonical mantissa power) (allowed : Canonical other exponent)
    (around : Around mantissa power r) :
    |r - magnitude mantissa power| ≤ |r - magnitude other exponent| ∧
      (|r - magnitude mantissa power| = |r - magnitude other exponent| →
        magnitude other exponent = magnitude mantissa power ∨ mantissa % 2 = 0) := by
  by_cases same : magnitude other exponent = magnitude mantissa power
  · rw [same]
    exact ⟨le_rfl, fun _ => .inl rfl⟩
  have low := around.low
  have high := around.high
  have gap := gapBelow_pos mantissa power
  have unit : (0 : ℚ) < 2 ^ power := zpow_pos two_pos power
  rcases separated canonical allowed same with below | above
  · rw [abs_of_nonneg (show 0 ≤ r - magnitude other exponent by linarith)]
    refine ⟨abs_le.2 ⟨by linarith, by linarith⟩, fun tie => .inr (around.even (.inl ?_))⟩
    rcases abs_cases (r - magnitude mantissa power) with ⟨size, _⟩ | ⟨size, _⟩ <;> linarith
  · rw [abs_of_nonpos (show r - magnitude other exponent ≤ 0 by linarith)]
    refine ⟨abs_le.2 ⟨by linarith, by linarith⟩, fun tie => .inr (around.even (.inr ?_))⟩
    rcases abs_cases (r - magnitude mantissa power) with ⟨size, _⟩ | ⟨size, _⟩ <;> linarith

/-- A number that is not nearer to another double lies in the interval. The doubles next to its own
decide it, and above the greatest one the bound of what is finite. -/
theorem around_of_near (canonical : Canonical mantissa power) (positive : 0 < mantissa)
    (bounded : r < magnitude (2 ^ 54 - 1) 970)
    (near : ∀ other exponent, Canonical other exponent →
      |r - magnitude mantissa power| ≤ |r - magnitude other exponent| ∧
        (|r - magnitude mantissa power| = |r - magnitude other exponent| →
          magnitude other exponent = magnitude mantissa power ∨ mantissa % 2 = 0)) :
    Around mantissa power r := by
  have unit : (0 : ℚ) < 2 ^ power := zpow_pos two_pos power
  have gap := gapBelow_pos mantissa power
  have low : magnitude mantissa power - gapBelow mantissa power / 2 ≤ r ∧
      (r = magnitude mantissa power - gapBelow mantissa power / 2 → mantissa % 2 = 0) := by
    obtain ⟨other, exponent, allowed, below⟩ := exists_below canonical positive
    obtain ⟨less, even⟩ := near other exponent allowed
    rw [below] at less even
    refine ⟨by nlinarith [sq_le_sq.2 less], fun ends => (even ?_).resolve_left (by linarith)⟩
    rw [ends, abs_of_neg (by linarith), abs_of_pos (by linarith)]
    ring
  have high : r ≤ magnitude mantissa power + 2 ^ power / 2 ∧
      (r = magnitude mantissa power + 2 ^ power / 2 → mantissa % 2 = 0) := by
    obtain ⟨other, exponent, above, double | ⟨rfl, rfl⟩, -⟩ := exists_above canonical
    · obtain ⟨less, even⟩ := near other exponent double
      rw [above] at less even
      refine ⟨by nlinarith [sq_le_sq.2 less], fun ends => (even ?_).resolve_left (by linarith)⟩
      rw [ends, abs_of_pos (by linarith), abs_of_neg (by linarith)]
      ring
    · rw [threshold_eq] at bounded
      exact ⟨bounded.le, fun ends => absurd ends bounded.ne⟩
  exact ⟨low.1, high.1, fun ends => ends.elim low.2 high.2⟩

section

variable {x : Float} {negative : Bool} (finite : parts x = .finite negative mantissa power)
  (positive : 0 < mantissa)

include finite positive

theorem Around.roundsTo (around : Around mantissa power r) :
    RoundsTo (withSign negative r) x := by
  have canonical := canonical_of_parts finite
  have more := around.pos positive
  refine ⟨?_, _, value?_of_parts finite, fun y w value => ?_⟩
  · rw [abs_withSign, abs_of_pos more]
    exact around.lt_threshold canonical
  · obtain ⟨opposite, other, exponent, -, allowed, rfl⟩ := exists_parts_of_value? value
    obtain ⟨near, tie⟩ := around.near canonical allowed
    rw [abs_withSign_sub, ← mantissa_mod_two finite]
    by_cases signs : opposite = negative
    · rw [signs, abs_withSign_sub]
      exact ⟨near, fun same => (tie same).imp_left fun equal => by rw [equal]⟩
    · -- a double of the other sign is farther away, and zero has both signs
      obtain rfl : opposite = !negative := Bool.eq_not.2 signs
      have size : 0 ≤ magnitude other exponent := magnitude_nonneg
      rw [abs_withSign_sub_not negative more.le size]
      have farther := abs_sub_le_of_nonneg_of_le more.le (le_add_of_nonneg_right size) size
        (le_add_of_nonneg_left more.le)
      refine ⟨near.trans farther, fun same => ?_⟩
      have tied := le_antisymm near (farther.trans same.symm.le)
      refine (tie tied).imp_left fun equal => ?_
      have positive := magnitude_pos power positive
      rw [equal] at same
      rcases abs_cases (r - magnitude mantissa power) with ⟨size, _⟩ | ⟨size, _⟩ <;> linarith

omit positive in
theorem RoundsTo.near (rounds : RoundsTo (withSign negative r) x)
    (allowed : Canonical other exponent) :
    |r - magnitude mantissa power| ≤ |r - magnitude other exponent| ∧
      (|r - magnitude mantissa power| = |r - magnitude other exponent| →
        magnitude other exponent = magnitude mantissa power ∨ mantissa % 2 = 0) := by
  obtain ⟨v, value, nearest⟩ := rounds.nearest
  obtain rfl := Option.some.inj ((value?_of_parts finite).symm.trans value)
  obtain ⟨y, double⟩ := exists_double allowed negative
  obtain ⟨less, tie⟩ := nearest y _ (value?_of_parts double)
  rw [abs_withSign_sub, abs_withSign_sub] at less tie
  rw [mantissa_mod_two finite]
  refine ⟨less, fun same => (tie same).imp_left fun equal => ?_⟩
  cases negative
  · exact equal
  · exact neg_inj.1 equal

theorem RoundsTo.around (rounds : RoundsTo (withSign negative r) x) :
    Around mantissa power r := by
  have bounded := rounds.bounded
  rw [abs_withSign] at bounded
  exact around_of_near (canonical_of_parts finite) positive ((le_abs_self r).trans_lt bounded)
    fun _ _ => rounds.near finite

theorem RoundsTo.eq_withSign (rounds : RoundsTo r x) : r = withSign negative |r| := by
  have size := magnitude_pos power positive
  have zero : Canonical 0 (-1074) := ⟨by decide, by decide, by decide, by decide⟩
  obtain ⟨y, double⟩ := exists_double zero negative
  obtain ⟨v, value, nearest⟩ := rounds.nearest
  obtain rfl := Option.some.inj ((value?_of_parts finite).symm.trans value)
  obtain ⟨near, -⟩ := nearest y _ (value?_of_parts double)
  rw [magnitude_zero, withSign_zero, sub_zero] at near
  cases negative
  · refine (abs_of_nonneg (not_lt.1 fun below => ?_)).symm
    change |r - magnitude mantissa power| ≤ |r| at near
    rw [abs_of_neg below, abs_of_neg (by linarith)] at near
    linarith
  · refine (neg_eq_iff_eq_neg.2 (abs_of_nonpos (not_lt.1 fun above => ?_))).symm
    change |r - -magnitude mantissa power| ≤ |r| at near
    rw [abs_of_pos above, abs_of_pos (by linarith)] at near
    linarith

theorem roundsTo_iff : RoundsTo (withSign negative r) x ↔ Around mantissa power r :=
  ⟨fun rounds => rounds.around finite positive, fun around => around.roundsTo finite positive⟩

theorem RoundsTo.signed (rounds : RoundsTo r x) :
    r = withSign negative |r| ∧ Around mantissa power |r| := by
  have sign := rounds.eq_withSign finite positive
  exact ⟨sign, (roundsTo_iff finite positive).1 (sign ▸ rounds)⟩

end

end Nearest

end LineScript.Double
