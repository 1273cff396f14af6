import InputBinding.Decimal.Shortest
import InputBinding.Proofs.FloatBits

/-!
Rounding to the nearest binary64 number. Everything in the interval around a finite number rounds to it:
the unit of the last place is that of the number, or half of it just below a power of two.
-/

namespace InputBinding.Decimal

namespace Ratio

def value (ratio : Ratio) : ℚ :=
  ratio.numerator / ratio.denominator

variable {ratio : Ratio}

theorem denominator_scale {base : Nat} (positive : 0 < base) (exponent : Int) (some : 0 < ratio.denominator) :
    0 < (ratio.scale base exponent).denominator := by
  unfold scale
  split
  · exact some
  · exact Nat.mul_pos some (Nat.pow_pos positive)

theorem value_scale {base : Nat} (positive : 0 < base) (exponent : Int) (ratio : Ratio) :
    (ratio.scale base exponent).value = ratio.value * (base : ℚ) ^ exponent := by
  have nonzero : (base : ℚ) ≠ 0 := by positivity
  unfold scale value
  split
  · rename_i upward
    obtain ⟨power, rfl⟩ := Int.eq_ofNat_of_zero_le upward
    simp only [Int.toNat_natCast, Nat.pow_eq, zpow_natCast]
    push_cast
    ring
  · rename_i downward
    obtain ⟨power, same⟩ := Int.eq_ofNat_of_zero_le (a := -exponent) (by omega)
    have back : exponent = -(power : Int) := by omega
    subst back
    simp only [neg_neg, Int.toNat_natCast, Nat.pow_eq, zpow_neg, zpow_natCast]
    push_cast
    rw [div_mul_eq_div_div, div_eq_mul_inv _ ((base : ℚ) ^ power)]

theorem floor_lt_iff (some : 0 < ratio.denominator) (bound : Nat) : ratio.floor < bound ↔ ratio.value < bound := by
  have positive : (0 : ℚ) < ratio.denominator := by exact_mod_cast some
  rw [floor, value, Nat.div_lt_iff_lt_mul some, div_lt_iff₀ positive]
  exact_mod_cast Iff.rfl

theorem round_eq (some : 0 < ratio.denominator) {whole : Nat} (lower : (whole : ℚ) - 1 / 2 ≤ ratio.value)
    (upper : ratio.value ≤ whole + 1 / 2)
    (odd : whole % 2 = 1 → (whole : ℚ) - 1 / 2 < ratio.value ∧ ratio.value < whole + 1 / 2) : ratio.round = whole := by
  obtain ⟨numerator, denominator⟩ := ratio
  have positive : (0 : ℚ) < denominator := by exact_mod_cast some
  have some : 0 < denominator := some
  -- Both bounds in whole numbers, and the quotient that they leave two choices for.
  have low : 2 * whole * denominator ≤ 2 * numerator + denominator := by
    simp only [value, le_div_iff₀ positive] at lower
    have scaled : (2 * whole * denominator : ℚ) ≤ 2 * numerator + denominator := by linarith
    exact_mod_cast scaled
  have high : 2 * numerator ≤ 2 * whole * denominator + denominator := by
    simp only [value, div_le_iff₀ positive] at upper
    have scaled : (2 * numerator : ℚ) ≤ 2 * whole * denominator + denominator := by linarith
    exact_mod_cast scaled
  have strict : whole % 2 = 1 → 2 * whole * denominator < 2 * numerator + denominator ∧
      2 * numerator < 2 * whole * denominator + denominator := by
    intro isOdd
    obtain ⟨above, below⟩ := odd isOdd
    simp only [value, lt_div_iff₀ positive] at above
    simp only [value, div_lt_iff₀ positive] at below
    have scaledAbove : (2 * whole * denominator : ℚ) < 2 * numerator + denominator := by linarith
    have scaledBelow : (2 * numerator : ℚ) < 2 * whole * denominator + denominator := by linarith
    exact ⟨by exact_mod_cast scaledAbove, by exact_mod_cast scaledBelow⟩
  have division : denominator * (numerator / denominator) + numerator % denominator = numerator :=
    Nat.div_add_mod numerator denominator
  have rest : numerator % denominator < denominator := Nat.mod_lt _ some
  simp only [round]
  generalize numerator / denominator = quotient at division
  generalize numerator % denominator = remainder at division rest
  rcases Nat.lt_trichotomy whole quotient with less | rfl | more
  · have gap : denominator * (whole + 1) ≤ denominator * quotient := Nat.mul_le_mul_left _ less
    nlinarith
  · rw [if_neg]
    rintro (beyond | ⟨tie, isOdd⟩)
    · nlinarith
    · have := (strict isOdd).2
      nlinarith
  · have next : whole = quotient + 1 := by
      by_contra far
      have gap : denominator * (quotient + 2) ≤ denominator * whole := Nat.mul_le_mul_left _ (by omega)
      nlinarith
    subst next
    rw [if_pos]
    have half : denominator ≤ 2 * remainder := by nlinarith
    by_cases isOdd : quotient % 2 = 1
    · omega
    · have beyond := (strict (by omega)).1
      left
      nlinarith

end Ratio

/-- The exponent that a positive number is rounded at. -/
structure UnitOf (number : ℚ) (exponent : Int) : Prop where
  least : -1074 ≤ exponent
  below : number < 2 ^ 53 * (2 : ℚ) ^ exponent
  above : exponent = -1074 ∨ 2 ^ 52 * (2 : ℚ) ^ exponent ≤ number

theorem two_zpow_add (exponent : Int) (count : Nat) :
    (2 : ℚ) ^ (exponent + count) = 2 ^ count * (2 : ℚ) ^ exponent := by
  rw [zpow_add₀ two_ne_zero, zpow_natCast, mul_comm]

theorem value_log2 {ratio : Ratio} (numerator : 0 < ratio.numerator) (denominator : 0 < ratio.denominator) :
    let size := Int.ofNat ratio.numerator.log2 - Int.ofNat ratio.denominator.log2
    (2 : ℚ) ^ size < 2 * ratio.value ∧ ratio.value < 2 * (2 : ℚ) ^ size := by
  obtain ⟨numer, denom⟩ := ratio
  have numerLow : (2 : ℚ) ^ numer.log2 ≤ numer := by exact_mod_cast Nat.log2_self_le (by simpa using numerator.ne')
  have numerHigh : (numer : ℚ) < 2 * 2 ^ numer.log2 := by
    have bound : numer < 2 ^ (numer.log2 + 1) := Nat.lt_log2_self
    rw [pow_succ, mul_comm] at bound
    exact_mod_cast bound
  have denomLow : (2 : ℚ) ^ denom.log2 ≤ denom := by exact_mod_cast Nat.log2_self_le (by simpa using denominator.ne')
  have denomHigh : (denom : ℚ) < 2 * 2 ^ denom.log2 := by
    have bound : denom < 2 ^ (denom.log2 + 1) := Nat.lt_log2_self
    rw [pow_succ, mul_comm] at bound
    exact_mod_cast bound
  have positive : (0 : ℚ) < denom := by exact_mod_cast denominator
  have power : (0 : ℚ) < 2 ^ denom.log2 := by positivity
  simp only [Int.ofNat_eq_natCast, Ratio.value, zpow_sub₀ (two_ne_zero : (2 : ℚ) ≠ 0), zpow_natCast]
  constructor
  · rw [div_lt_iff₀ power, mul_div_assoc', div_mul_eq_mul_div, lt_div_iff₀ positive]
    nlinarith
  · rw [div_lt_iff₀ positive, mul_div_assoc', div_mul_eq_mul_div, lt_div_iff₀ power]
    nlinarith

theorem scale_floor_lt {ratio : Ratio} (denominator : 0 < ratio.denominator) (exponent : Int) (bound : Nat) :
    (ratio.scale 2 (-exponent)).floor < bound ↔ ratio.value < bound * (2 : ℚ) ^ exponent := by
  have power : (0 : ℚ) < 2 ^ exponent := by positivity
  rw [Ratio.floor_lt_iff (Ratio.denominator_scale (by decide) _ denominator), Ratio.value_scale (by decide), zpow_neg,
    ← div_eq_mul_inv, Nat.cast_ofNat, div_lt_iff₀ power]

theorem unitExponent_spec {ratio : Ratio} (numerator : 0 < ratio.numerator) (denominator : 0 < ratio.denominator) :
    UnitOf ratio.value (unitExponent ratio) := by
  obtain ⟨low, high⟩ := value_log2 numerator denominator
  unfold unitExponent
  have twice : ((2 * hiddenBit : Nat) : ℚ) = 2 ^ 53 := by norm_num [hiddenBit]
  generalize Int.ofNat ratio.numerator.log2 - Int.ofNat ratio.denominator.log2 = size at low high
  have shifted : (2 : ℚ) ^ size = 2 ^ 53 * (2 : ℚ) ^ (size - 53) := by
    rw [← two_zpow_add]
    congr 1
    omega
  rw [shifted] at low high
  simp only [scale_floor_lt denominator, twice]
  split
  · rename_i below
    refine ⟨le_max_right _ _, below, ?_⟩
    by_cases subnormal : size - 53 ≤ -1074
    · exact Or.inl (max_eq_right subnormal)
    · right
      rw [max_eq_left (by omega)]
      linarith
  · rename_i notBelow
    have next := two_zpow_add (max (size - 53) (-1074)) 1
    simp only [Nat.cast_one, pow_one] at next
    have larger : (2 : ℚ) ^ (size - 53) ≤ 2 ^ max (size - 53) (-1074) :=
      zpow_le_zpow_right₀ one_le_two (le_max_left _ _)
    have least : -1074 ≤ max (size - 53) (-1074) := le_max_right _ _
    refine ⟨by omega, ?_, Or.inr ?_⟩
    · rw [next]
      linarith
    · rw [next]
      linarith

namespace Interval

def Contains (interval : Interval) (number : ℚ) : Prop :=
  let unit := (2 : ℚ) ^ interval.exponent
  interval.lower * unit ≤ number ∧ number ≤ interval.upper * unit ∧
    (interval.closed = false → interval.lower * unit < number ∧ number < interval.upper * unit)

end Interval

def gapBelow (mantissa : Nat) (exponent : Int) : ℚ :=
  if mantissa = hiddenBit ∧ -1074 < exponent then 1 / 4 else 1 / 2

theorem gapBelow_le (mantissa : Nat) (exponent : Int) : gapBelow mantissa exponent ≤ 1 / 2 := by
  unfold gapBelow
  split <;> norm_num

theorem around_ends {mantissa : Nat} (some : 0 < mantissa) (exponent : Int) :
    let interval := Interval.around mantissa exponent
    interval.lower * (2 : ℚ) ^ interval.exponent = (mantissa - gapBelow mantissa exponent) * 2 ^ exponent ∧
      interval.upper * (2 : ℚ) ^ interval.exponent = (mantissa + 1 / 2) * 2 ^ exponent := by
  have quarter : (2 : ℚ) ^ exponent = 4 * (2 : ℚ) ^ (exponent - 2) := by
    have four := two_zpow_add (exponent - 2) 2
    rw [Nat.cast_ofNat, sub_add_cancel] at four
    rw [four]
    norm_num
  unfold Interval.around gapBelow
  dsimp only
  rw [quarter]
  constructor
  · split
    · rw [Nat.cast_sub (by omega)]
      push_cast
      ring
    · rw [Nat.cast_sub (by omega)]
      push_cast
      ring
  · push_cast
    ring

theorem contains_around {mantissa : Nat} {exponent : Int} (some : 0 < mantissa) (number : ℚ) :
    (Interval.around mantissa exponent).Contains number ↔
      (mantissa - gapBelow mantissa exponent) * 2 ^ exponent ≤ number ∧
        number ≤ (mantissa + 1 / 2) * (2 : ℚ) ^ exponent ∧
        (mantissa % 2 = 1 → (mantissa - gapBelow mantissa exponent) * 2 ^ exponent < number ∧
          number < (mantissa + 1 / 2) * (2 : ℚ) ^ exponent) := by
  have isOpen : (Interval.around mantissa exponent).closed = false ↔ mantissa % 2 = 1 := by
    simp [Interval.around]
  obtain ⟨lower, upper⟩ := around_ends some exponent
  simp only [Interval.Contains, lower, upper, isOpen]

theorem scale_round_eq {ratio : Ratio} (denominator : 0 < ratio.denominator) (exponent : Int) {whole : Nat}
    (lower : (whole - 1 / 2) * (2 : ℚ) ^ exponent ≤ ratio.value)
    (upper : ratio.value ≤ (whole + 1 / 2) * (2 : ℚ) ^ exponent)
    (odd : whole % 2 = 1 → (whole - 1 / 2) * (2 : ℚ) ^ exponent < ratio.value ∧
      ratio.value < (whole + 1 / 2) * (2 : ℚ) ^ exponent) :
    (ratio.scale 2 (-exponent)).round = whole := by
  have power : (0 : ℚ) < 2 ^ exponent := by positivity
  apply Ratio.round_eq (Ratio.denominator_scale (by decide) _ denominator)
  all_goals rw [Ratio.value_scale (by decide), zpow_neg, ← div_eq_mul_inv, Nat.cast_ofNat]
  · rwa [le_div_iff₀ power]
  · rwa [div_le_iff₀ power]
  · rwa [lt_div_iff₀ power, div_lt_iff₀ power]

theorem magnitudeBits_le {mantissa : Nat} {exponent : Int} (canonical : Canonical mantissa exponent) :
    magnitudeBits mantissa exponent ≤ infinityBits := by
  obtain ⟨small, least, most, _⟩ := canonical
  have bounded : (exponent + 1074).toNat ≤ 2045 := by omega
  have scaled := Nat.mul_le_mul_right hiddenBit bounded
  have limit : infinityBits = 2047 * hiddenBit := by decide
  rw [magnitudeBits, limit]
  omega

section

variable {mantissa : Nat} {exponent unit : Int} {number : ℚ}

theorem UnitOf.not_coarser (spec : UnitOf number unit) (canonical : Canonical mantissa exponent) (some : 0 < mantissa)
    (inside : (Interval.around mantissa exponent).Contains number) : unit ≤ exponent := by
  by_contra coarser
  have least := canonical.least
  have beyond : 2 ^ 52 * (2 : ℚ) ^ unit ≤ number := spec.above.resolve_left (by omega)
  have next : 2 * (2 : ℚ) ^ exponent ≤ 2 ^ unit := by
    have one := two_zpow_add exponent 1
    rw [pow_one] at one
    rw [← one]
    exact zpow_le_zpow_right₀ one_le_two (by omega)
  have atMost : (mantissa : ℚ) + 1 ≤ 2 ^ 53 := by exact_mod_cast canonical.small
  have power : (0 : ℚ) < 2 ^ exponent := by positivity
  have high := ((contains_around some _).mp inside).2.1
  nlinarith

theorem UnitOf.eq_of_finer (spec : UnitOf number unit) (canonical : Canonical mantissa exponent) (some : 0 < mantissa)
    (inside : (Interval.around mantissa exponent).Contains number) (finer : unit < exponent) :
    mantissa = hiddenBit ∧ exponent = unit + 1 ∧ (2 ^ 53 - 1 / 2) * (2 : ℚ) ^ unit ≤ number := by
  have below := spec.below
  have least := spec.least
  have low := ((contains_around some _).mp inside).1
  have near := gapBelow_le mantissa exponent
  have power : (0 : ℚ) < 2 ^ exponent := by positivity
  have coarse (count : Nat) (far : unit + count ≤ exponent) : 2 ^ count * (2 : ℚ) ^ unit ≤ 2 ^ exponent := by
    rw [← two_zpow_add]
    exact zpow_le_zpow_right₀ one_le_two far
  have half := coarse 1 (by omega)
  have isPower : mantissa = hiddenBit := by
    have enough : hiddenBit ≤ mantissa := canonical.normal.resolve_left (by omega)
    by_contra different
    have more : (2 : ℚ) ^ 52 + 1 ≤ mantissa := by
      have next : 2 ^ 52 + 1 ≤ mantissa := by
        unfold hiddenBit at enough different
        omega
      exact_mod_cast next
    nlinarith
  have cast : (mantissa : ℚ) = 2 ^ 52 := by
    rw [isPower]
    norm_num [hiddenBit]
  have lifted : -1074 < exponent := by omega
  rw [gapBelow, if_pos ⟨isPower, lifted⟩, cast] at low
  have next : exponent = unit + 1 := by
    by_contra different
    have quarter := coarse 2 (by omega)
    nlinarith
  refine ⟨isPower, next, ?_⟩
  have double := two_zpow_add unit 1
  rw [Nat.cast_one, pow_one] at double
  rw [next, double] at low
  linarith

end

theorem numerator_pos {ratio : Ratio} {mantissa : Nat} {exponent : Int} (some : 0 < mantissa)
    (inside : (Interval.around mantissa exponent).Contains ratio.value) : 0 < ratio.numerator := by
  have low := ((contains_around some _).mp inside).1
  have near := gapBelow_le mantissa exponent
  have power : (0 : ℚ) < 2 ^ exponent := by positivity
  have atLeastOne : (1 : ℚ) ≤ mantissa := by exact_mod_cast some
  by_contra zero
  have none : ratio.numerator = 0 := by omega
  have nothing : ratio.value = 0 := by simp [Ratio.value, none]
  rw [nothing] at low
  nlinarith

/-- Every number in the interval around a finite number other than zero rounds to it. -/
theorem nearestBits_of_contains {mantissa : Nat} {exponent : Int} (canonical : Canonical mantissa exponent)
    (some : 0 < mantissa) {ratio : Ratio} (denominator : 0 < ratio.denominator)
    (inside : (Interval.around mantissa exponent).Contains ratio.value) :
    nearestBits ratio = magnitudeBits mantissa exponent := by
  have spec := unitExponent_spec (numerator_pos some inside) denominator
  have bounded := magnitudeBits_le canonical
  unfold nearestBits
  dsimp only
  generalize unitExponent ratio = unit at spec
  rcases (spec.not_coarser canonical some inside).lt_or_eq with finer | rfl
  · -- Just below a power of two the number is rounded up to the power, in units of half the size.
    obtain ⟨isPower, rfl, low⟩ := spec.eq_of_finer canonical some inside finer
    have whole : ((2 * hiddenBit : Nat) : ℚ) = 2 ^ 53 := by norm_num [hiddenBit]
    have rounded : (ratio.scale 2 (-unit)).round = 2 * hiddenBit := by
      apply scale_round_eq denominator
      · rw [whole]
        exact low
      · have below := spec.below
        have positive : (0 : ℚ) < 2 ^ unit := by positivity
        rw [whole]
        linarith
      · intro odd
        cases (Nat.mul_mod_right 2 hiddenBit).symm.trans odd
    have bits : magnitudeBits mantissa (unit + 1) = (unit + 1074).toNat * hiddenBit + 2 * hiddenBit := by
      have before : (unit + 1 + 1074).toNat = (unit + 1074).toNat + 1 := by
        have least := spec.least
        omega
      rw [magnitudeBits, before, isPower, Nat.succ_mul]
      omega
    rw [rounded, ← bits]
    exact min_eq_left bounded
  · have rounded : (ratio.scale 2 (-unit)).round = mantissa := by
      obtain ⟨low, high, strict⟩ := (contains_around some _).mp inside
      have near := gapBelow_le mantissa unit
      have power : (0 : ℚ) < 2 ^ unit := by positivity
      apply scale_round_eq denominator
      · exact le_trans (by nlinarith) low
      · exact high
      · intro odd
        obtain ⟨above, below⟩ := strict odd
        exact ⟨lt_of_le_of_lt (by nlinarith) above, below⟩
    rw [rounded]
    exact min_eq_left bounded

end InputBinding.Decimal
