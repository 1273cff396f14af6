import InputBinding.Proofs.Rounding

/-!
The digits chosen for a number lie in the interval around it. The grids that are tried are checked against
the interval; on the grid of seventeen digits the nearest point is close enough without a check.
-/

namespace InputBinding.Decimal

theorem Ratio.round_near {ratio : Ratio} (some : 0 < ratio.denominator) :
    ratio.value - 1 / 2 ≤ ratio.round ∧ ratio.round ≤ ratio.value + 1 / 2 := by
  obtain ⟨numerator, denominator⟩ := ratio
  have positive : (0 : ℚ) < denominator := by exact_mod_cast some
  have division : denominator * (numerator / denominator) + numerator % denominator = numerator :=
    Nat.div_add_mod numerator denominator
  have rest : numerator % denominator < denominator := Nat.mod_lt _ some
  have whole : 2 * numerator ≤ 2 * (round ⟨numerator, denominator⟩ * denominator) + denominator ∧
      2 * (round ⟨numerator, denominator⟩ * denominator) ≤ 2 * numerator + denominator := by
    simp only [round]
    generalize numerator / denominator = quotient at division
    generalize numerator % denominator = remainder at division rest
    split
    · have large : denominator ≤ 2 * remainder := by omega
      constructor <;> nlinarith
    · have small : 2 * remainder ≤ denominator := by omega
      constructor <;> nlinarith
  have low : (2 * numerator : ℚ) ≤ 2 * (round ⟨numerator, denominator⟩ * denominator) + denominator := by
    exact_mod_cast whole.1
  have high : (2 * (round ⟨numerator, denominator⟩ * denominator) : ℚ) ≤ 2 * numerator + denominator := by
    exact_mod_cast whole.2
  simp only [value]
  constructor
  · rw [sub_le_iff_le_add, div_le_iff₀ positive]
    linarith
  · rw [← sub_le_iff_le_add, le_div_iff₀ positive]
    linarith

theorem value_onGrid (mantissa : Nat) (exponent grid : Int) :
    (Ratio.scale 10 (-grid) (Ratio.scale 2 exponent ⟨mantissa, 1⟩)).value = mantissa * 2 ^ exponent / (10 : ℚ) ^ grid := by
  rw [Ratio.value_scale (by decide), Ratio.value_scale (by decide), zpow_neg, div_eq_mul_inv]
  simp [Ratio.value]

theorem denominator_onGrid (mantissa : Nat) (exponent grid : Int) :
    0 < (Ratio.scale 10 (-grid) (Ratio.scale 2 exponent ⟨mantissa, 1⟩)).denominator :=
  Ratio.denominator_scale (by decide) _ (Ratio.denominator_scale (by decide) _ Nat.one_pos)

theorem Ratio.mul_numerator_le_iff {ratio : Ratio} (some : 0 < ratio.denominator) (count bound : Nat) :
    count * ratio.numerator ≤ bound * ratio.denominator ↔ count * ratio.value ≤ bound := by
  have positive : (0 : ℚ) < ratio.denominator := by exact_mod_cast some
  rw [value, mul_div_assoc', div_le_iff₀ positive]
  exact_mod_cast Iff.rfl

theorem Ratio.le_mul_numerator_iff {ratio : Ratio} (some : 0 < ratio.denominator) (count bound : Nat) :
    bound * ratio.denominator ≤ count * ratio.numerator ↔ bound ≤ count * ratio.value := by
  have positive : (0 : ℚ) < ratio.denominator := by exact_mod_cast some
  rw [value, mul_div_assoc', le_div_iff₀ positive]
  exact_mod_cast Iff.rfl

namespace Interval

variable {interval : Interval}

theorem holds_iff (grid : Int) (point : Nat) :
    interval.holds grid point = true ↔ interval.Contains (point * (10 : ℚ) ^ grid) := by
  have denominator := denominator_onGrid 1 interval.exponent grid
  have unit := value_onGrid 1 interval.exponent grid
  have power : (0 : ℚ) < 10 ^ grid := by positivity
  unfold holds
  dsimp only
  generalize Ratio.scale 10 (-grid) (Ratio.scale 2 interval.exponent ⟨1, 1⟩) = scaled at denominator unit
  rw [Nat.cast_one, one_mul] at unit
  have low_le : interval.lower * scaled.numerator ≤ point * scaled.denominator ↔
      interval.lower * (2 : ℚ) ^ interval.exponent ≤ point * 10 ^ grid := by
    rw [Ratio.mul_numerator_le_iff denominator, unit, mul_div_assoc', div_le_iff₀ power]
  have le_high : point * scaled.denominator ≤ interval.upper * scaled.numerator ↔
      point * 10 ^ grid ≤ interval.upper * (2 : ℚ) ^ interval.exponent := by
    rw [Ratio.le_mul_numerator_iff denominator, unit, mul_div_assoc', le_div_iff₀ power]
  have low_lt : interval.lower * scaled.numerator < point * scaled.denominator ↔
      interval.lower * (2 : ℚ) ^ interval.exponent < point * 10 ^ grid := by
    rw [← not_le, Ratio.le_mul_numerator_iff denominator, unit, mul_div_assoc', le_div_iff₀ power, not_le]
  have lt_high : point * scaled.denominator < interval.upper * scaled.numerator ↔
      point * 10 ^ grid < interval.upper * (2 : ℚ) ^ interval.exponent := by
    rw [← not_le, Ratio.mul_numerator_le_iff denominator, unit, mul_div_assoc', div_le_iff₀ power, not_le]
  unfold Contains
  cases closed : interval.closed with
  | true => simp [low_le, le_high]
  | false =>
      simp only [Bool.false_eq_true, if_false, decide_eq_true_eq, low_lt, lt_high, forall_const]
      constructor
      · intro strict
        exact ⟨strict.1.le, strict.2.le, strict⟩
      · intro contained
        exact contained.2.2

theorem contains_pointOn {grid : Int} {point : Nat} (found : interval.pointOn? grid = some point) :
    interval.Contains (point * (10 : ℚ) ^ grid) := by
  rw [← holds_iff]
  unfold pointOn? at found
  dsimp only at found
  generalize (if (interval.middleOn grid).round = (interval.middleOn grid).floor
    then (interval.middleOn grid).floor + 1 else (interval.middleOn grid).floor) = farther at found
  by_cases near : interval.holds grid (interval.middleOn grid).round = true
  · rw [if_pos near] at found
    cases found
    exact near
  · rw [if_neg near] at found
    by_cases far : interval.holds grid farther = true
    · rw [if_pos far] at found
      cases found
      exact far
    · rw [if_neg far] at found
      cases found

end Interval

theorem ten_pow_le_two_pow : ∀ power < 1024, 10 ^ (power * 30103 / 100000) ≤ 2 ^ power := by
  decide +kernel

theorem two_pow_le_ten_pow : ∀ power < 1075, 2 ^ power ≤ 10 ^ ((power * 30103 + 99999) / 100000) := by
  decide +kernel

theorem ten_zpow_le_two_zpow {power : Int} (least : -1075 < power) (most : power < 1024) :
    (10 : ℚ) ^ (power * 30103 / 100000) ≤ 2 ^ power := by
  rcases le_or_gt 0 power with upward | downward
  · obtain ⟨count, rfl⟩ := Int.eq_ofNat_of_zero_le upward
    have estimate : (count : Int) * 30103 / 100000 = (count * 30103 / 100000 : Nat) := by push_cast; rfl
    rw [estimate, zpow_natCast, zpow_natCast]
    exact_mod_cast ten_pow_le_two_pow count (by omega)
  · obtain ⟨count, same⟩ := Int.eq_ofNat_of_zero_le (a := -power) (by omega)
    have back : power = -(count : Int) := by omega
    subst back
    have estimate : -(count : Int) * 30103 / 100000 = -((count * 30103 + 99999) / 100000 : Nat) := by
      push_cast
      omega
    rw [estimate, zpow_neg, zpow_neg, zpow_natCast, zpow_natCast]
    have bound : (2 : ℚ) ^ count ≤ 10 ^ ((count * 30103 + 99999) / 100000) := by
      exact_mod_cast two_pow_le_ten_pow count (by omega)
    exact inv_anti₀ (by positivity) bound

theorem decimalMagnitude_le {mantissa : Nat} {exponent : Int} (canonical : Canonical mantissa exponent)
    (some : 0 < mantissa) : (10 : ℚ) ^ (decimalMagnitude mantissa exponent - 1) ≤ mantissa * (2 : ℚ) ^ exponent := by
  have size : mantissa.log2 < 53 := by
    rw [Nat.log2_lt some.ne']
    exact canonical.small
  have low : (2 : ℚ) ^ (Int.ofNat mantissa.log2 + exponent) ≤ mantissa * (2 : ℚ) ^ exponent := by
    have power : (2 : ℚ) ^ mantissa.log2 ≤ mantissa := by exact_mod_cast Nat.log2_self_le some.ne'
    rw [zpow_add₀ two_ne_zero, Int.ofNat_eq_natCast, zpow_natCast]
    exact mul_le_mul_of_nonneg_right power (by positivity)
  have least := canonical.least
  have most := canonical.most
  unfold decimalMagnitude
  simp only [Int.ofNat_eq_natCast] at low ⊢
  split
  · rw [add_sub_cancel_right]
    exact (ten_zpow_le_two_zpow (by omega) (by omega)).trans low
  · rename_i enough
    rw [add_sub_cancel_right]
    generalize ((mantissa.log2 : Int) + exponent) * 30103 / 100000 + 1 = estimate at enough ⊢
    have atLeast : (1 : ℚ) ≤ (Ratio.scale 10 (-estimate) (Ratio.scale 2 exponent ⟨mantissa, 1⟩)).value := by
      have positive := denominator_onGrid mantissa exponent estimate
      rw [Ratio.value, le_div_iff₀ (by exact_mod_cast positive), one_mul]
      exact_mod_cast Nat.le_of_not_lt enough
    rwa [value_onGrid, le_div_iff₀ (by positivity), one_mul] at atLeast

/-- On the grid of seventeen digits the nearest point is always in the interval. -/
theorem contains_seventeen {mantissa : Nat} {exponent magnitude : Int} (canonical : Canonical mantissa exponent)
    (some : 0 < mantissa) (large : (10 : ℚ) ^ (magnitude - 1) ≤ mantissa * (2 : ℚ) ^ exponent) :
    (Interval.around mantissa exponent).Contains
      (((Interval.around mantissa exponent).middleOn (magnitude - 17)).round * (10 : ℚ) ^ (magnitude - 17)) := by
  have middle : ((Interval.around mantissa exponent).middleOn (magnitude - 17)).value * (10 : ℚ) ^ (magnitude - 17) =
      mantissa * (2 : ℚ) ^ exponent := by
    have nonzero : (10 : ℚ) ^ (magnitude - 17) ≠ 0 := by positivity
    have quarter := two_zpow_add (exponent - 2) 2
    rw [Nat.cast_ofNat, sub_add_cancel] at quarter
    rw [Interval.middleOn, value_onGrid, div_mul_cancel₀ _ nonzero, quarter]
    simp only [Interval.around]
    push_cast
    ring
  have denominator : 0 < ((Interval.around mantissa exponent).middleOn (magnitude - 17)).denominator :=
    denominator_onGrid _ _ _
  obtain ⟨low, high⟩ := Ratio.round_near denominator
  have fine : 10 ^ 16 * (10 : ℚ) ^ (magnitude - 17) ≤ mantissa * (2 : ℚ) ^ exponent := by
    refine le_trans (le_of_eq ?_) large
    rw [← zpow_natCast, ← zpow_add₀ (by norm_num)]
    congr 1
    push_cast
    ring
  have power : (0 : ℚ) < 10 ^ (magnitude - 17) := by positivity
  have unit : (0 : ℚ) < 2 ^ exponent := by positivity
  generalize ((Interval.around mantissa exponent).middleOn (magnitude - 17)) = ratio at middle low high
  generalize (10 : ℚ) ^ (magnitude - 17) = step at middle fine power
  have notBelow : (mantissa : ℚ) * 2 ^ exponent - step / 2 ≤ ratio.round * step := by
    rw [← middle]
    nlinarith
  have notAbove : ratio.round * step ≤ (mantissa : ℚ) * 2 ^ exponent + step / 2 := by
    rw [← middle]
    nlinarith
  have small : step / 2 < gapBelow mantissa exponent * 2 ^ exponent ∧ step / 2 < 1 / 2 * 2 ^ exponent := by
    have bound : (mantissa : ℚ) ≤ 2 ^ 53 := by exact_mod_cast canonical.small.le
    have scaled : (mantissa : ℚ) * 2 ^ exponent ≤ 2 ^ 53 * 2 ^ exponent := mul_le_mul_of_nonneg_right bound unit.le
    refine ⟨?_, by linarith⟩
    unfold gapBelow
    split
    · rename_i narrow
      have isPower : (mantissa : ℚ) = 2 ^ 52 := by
        rw [narrow.1]
        norm_num [hiddenBit]
      rw [isPower] at fine
      linarith
    · linarith
  rw [contains_around some]
  refine ⟨by linarith, by linarith, fun _ => ⟨by linarith, by linarith⟩⟩

theorem contains_searchGrids {mantissa : Nat} {exponent magnitude : Int} (canonical : Canonical mantissa exponent)
    (some : 0 < mantissa) (large : (10 : ℚ) ^ (magnitude - 1) ≤ mantissa * (2 : ℚ) ^ exponent) {fuel count : Nat}
    (whole : count + fuel = 17) :
    let found := searchGrids (Interval.around mantissa exponent) magnitude fuel count
    (Interval.around mantissa exponent).Contains (found.1 * (10 : ℚ) ^ found.2) := by
  induction fuel generalizing count with
  | zero =>
      have last : count = 17 := whole
      subst last
      exact contains_seventeen canonical some large
  | succ fuel ih =>
      simp only [searchGrids]
      split
      · rename_i found
        exact Interval.contains_pointOn found
      · exact ih (by omega)

theorem contains_shortest {mantissa : Nat} {exponent : Int} (canonical : Canonical mantissa exponent)
    (some : 0 < mantissa) :
    (Interval.around mantissa exponent).Contains
      ((shortest mantissa exponent).1 * (10 : ℚ) ^ (shortest mantissa exponent).2) := by
  have present : ¬ mantissa = 0 := by omega
  simp only [shortest, present, if_false]
  exact contains_searchGrids canonical some (decimalMagnitude_le canonical some) rfl

theorem two_pow_lt_ten_pow : 2 ^ 1075 < 10 ^ 401 := by
  decide +kernel

theorem contains_bounds {mantissa : Nat} {exponent : Int} (canonical : Canonical mantissa exponent)
    (some : 0 < mantissa) {number : ℚ} (inside : (Interval.around mantissa exponent).Contains number) :
    (10 : ℚ) ^ (-401 : Int) < number ∧ number < 10 ^ (401 : Int) := by
  obtain ⟨low, high, _⟩ := (contains_around some _).mp inside
  have near := gapBelow_le mantissa exponent
  have atLeastOne : (1 : ℚ) ≤ mantissa := by exact_mod_cast some
  have atMost : (mantissa : ℚ) ≤ 2 ^ 53 := by exact_mod_cast canonical.small.le
  have unit : (0 : ℚ) < 2 ^ exponent := by positivity
  have limit : (2 : ℚ) ^ 1075 < 10 ^ 401 := by exact_mod_cast two_pow_lt_ten_pow
  constructor
  · have least : (2 : ℚ) ^ (-1074 : Int) ≤ 2 ^ exponent := zpow_le_zpow_right₀ one_le_two canonical.least
    have half := two_zpow_add (-1075) 1
    rw [pow_one] at half
    have last : (2 : ℚ) ^ (-1074 : Int) = 2 * 2 ^ (-1075 : Int) := half
    have power : (10 : ℚ) ^ (-401 : Int) < 2 ^ (-1075 : Int) := by
      rw [zpow_neg, zpow_neg]
      exact inv_strictAnti₀ (by positivity) limit
    nlinarith
  · have most : (2 : ℚ) ^ exponent ≤ 2 ^ (971 : Int) := zpow_le_zpow_right₀ one_le_two canonical.most
    calc number ≤ (mantissa + 1 / 2) * (2 : ℚ) ^ exponent := high
      _ ≤ 2 ^ 54 * (2 : ℚ) ^ (971 : Int) := mul_le_mul (by linarith) most unit.le (by positivity)
      _ = 2 ^ (1025 : Int) := by rw [← two_zpow_add]; rfl
      _ ≤ 2 ^ (1075 : Int) := zpow_le_zpow_right₀ one_le_two (by decide)
      _ < 10 ^ (401 : Int) := limit

theorem ofDecimal_of_contains {mantissa : Nat} {exponent : Int} (canonical : Canonical mantissa exponent)
    (some : 0 < mantissa) {digits : Nat} {power : Int}
    (inside : (Interval.around mantissa exponent).Contains (digits * (10 : ℚ) ^ power)) (negative : Bool) :
    ofDecimal negative digits power = ofMagnitude negative (magnitudeBits mantissa exponent) := by
  obtain ⟨low, high⟩ := contains_bounds canonical some inside
  have least : (0 : ℚ) < 10 ^ (-401 : Int) := by positivity
  have present : digits ≠ 0 := by
    rintro rfl
    rw [Nat.cast_zero, zero_mul] at low
    linarith
  have notTiny : ¬ Int.ofNat digits.log2 + 1 + power < -400 := by
    intro tiny
    have count : (digits : ℚ) ≤ 10 ^ (digits.log2 + 1) := by
      have bound : digits ≤ 10 ^ (digits.log2 + 1) :=
        (Nat.lt_log2_self.trans_le (Nat.pow_le_pow_left (by decide) _)).le
      exact_mod_cast bound
    have scaled : digits * (10 : ℚ) ^ power ≤ 10 ^ (-401 : Int) := by
      calc digits * (10 : ℚ) ^ power ≤ 10 ^ (digits.log2 + 1) * 10 ^ power :=
            mul_le_mul_of_nonneg_right count (by positivity)
        _ = 10 ^ ((digits.log2 + 1 : Nat) + power) := by rw [zpow_add₀ (by norm_num), zpow_natCast]
        _ ≤ 10 ^ (-401 : Int) := by
            apply zpow_le_zpow_right₀ (by norm_num)
            simp only [Int.ofNat_eq_natCast] at tiny
            push_cast
            omega
    linarith
  have notHuge : ¬ 400 < power := by
    intro huge
    have atLeast : (1 : ℚ) ≤ digits := by exact_mod_cast Nat.pos_of_ne_zero present
    have scaled : (10 : ℚ) ^ (401 : Int) ≤ 10 ^ power := zpow_le_zpow_right₀ (by norm_num) (by omega)
    have larger : (10 : ℚ) ^ power ≤ digits * 10 ^ power := le_mul_of_one_le_left (by positivity) atLeast
    linarith
  have ratio : (Ratio.scale 10 power ⟨digits, 1⟩).value = digits * (10 : ℚ) ^ power := by
    rw [Ratio.value_scale (by decide)]
    simp [Ratio.value]
  have undecided : ¬ (digits = 0 ∨ Int.ofNat digits.log2 + 1 + power < -400) := by
    rintro (zero | tiny)
    · exact present zero
    · exact notTiny tiny
  rw [ofDecimal, if_neg undecided, if_neg notHuge, nearestBits_of_contains canonical some
    (Ratio.denominator_scale (by decide) _ Nat.one_pos) (ratio ▸ inside)]

/-- What stands for the same decimal as the shortest digits of a number is read as the number. -/
theorem ofDecimal_shortest {value : Float} {negative : Bool} {mantissa : Nat} {exponent : Int}
    (finite : Double.ofFloat value = .finite negative mantissa exponent) {digits : Nat} {power : Int}
    (same : (digits * (10 : ℚ) ^ power) = (shortest mantissa exponent).1 * (10 : ℚ) ^ (shortest mantissa exponent).2) :
    ofDecimal negative digits power = value := by
  obtain ⟨canonical, bits⟩ := canonical_of_finite finite
  rcases Nat.eq_zero_or_pos mantissa with zero | some
  · subst zero
    have nothing : digits = 0 := by
      simp only [shortest, if_true, Nat.cast_zero, zero_mul, mul_eq_zero] at same
      rcases same with none | impossible
      · exact_mod_cast none
      · exact absurd impossible (by positivity)
    have subnormal : exponent = -1074 := canonical.normal.resolve_right (by decide)
    rw [← bits, ofDecimal, if_pos (Or.inl nothing), subnormal]
    rfl
  · rw [ofDecimal_of_contains canonical some (same ▸ contains_shortest canonical some), bits]

end InputBinding.Decimal
