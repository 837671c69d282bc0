import Bastion.Proofs.Rounding

set_option autoImplicit false

namespace Bastion.Binary64

theorem commonScale_pos (place exponent : Int) :
    0 < (commonScale place exponent).1 ∧ 0 < (commonScale place exponent).2 :=
  ⟨Nat.mul_pos (Nat.pow_pos (by decide)) (Nat.pow_pos (by decide)),
    Nat.mul_pos (Nat.pow_pos (by decide)) (Nat.pow_pos (by decide))⟩

theorem commonScale_ratio (place exponent : Int) :
    ((commonScale place exponent).1 : ℚ) / (commonScale place exponent).2 =
      10 ^ place / 2 ^ (exponent - 2) := by
  have ten := zpow_toNat 10 place
  have two := zpow_toNat 2 (2 - exponent)
  rw [neg_sub] at two
  unfold commonScale
  push_cast [Nat.pow_eq]
  rw [mul_comm ((2 : ℚ) ^ (exponent - 2).toNat), mul_div_mul_comm, ten, two, ← neg_sub exponent 2,
    zpow_neg, div_eq_mul_inv]

theorem cross_le {place exponent : Int} {quarters digits : Nat} :
    quarters * (commonScale place exponent).2 ≤ digits * (commonScale place exponent).1 ↔
      (quarters : ℚ) * 2 ^ (exponent - 2) ≤ digits * 10 ^ place := by
  have unit : (0 : ℚ) < (commonScale place exponent).2 :=
    Nat.cast_pos.2 (commonScale_pos place exponent).2
  have quarter : (0 : ℚ) < 2 ^ (exponent - 2) := zpow_pos two_pos _
  rw [← le_div_iff₀ quarter, mul_div_assoc, ← commonScale_ratio, ← mul_div_assoc, le_div_iff₀ unit]
  exact_mod_cast Iff.rfl

theorem cross_ge {place exponent : Int} {quarters digits : Nat} :
    digits * (commonScale place exponent).1 ≤ quarters * (commonScale place exponent).2 ↔
      (digits : ℚ) * 10 ^ place ≤ quarters * 2 ^ (exponent - 2) := by
  have unit : (0 : ℚ) < (commonScale place exponent).2 :=
    Nat.cast_pos.2 (commonScale_pos place exponent).2
  have quarter : (0 : ℚ) < 2 ^ (exponent - 2) := zpow_pos two_pos _
  rw [← div_le_iff₀ quarter, mul_div_assoc, ← commonScale_ratio, ← mul_div_assoc, div_le_iff₀ unit]
  exact_mod_cast Iff.rfl

/-- Whether a point of the grid lies in the interval, told in whole numbers. -/
def Interval.inside (interval : Interval) (exponent place : Int) (digits : Nat) : Bool :=
  if interval.closed then
    decide (interval.low * (commonScale place exponent).2 ≤ digits * (commonScale place exponent).1 ∧
      digits * (commonScale place exponent).1 ≤ interval.high * (commonScale place exponent).2)
  else
    decide (interval.low * (commonScale place exponent).2 < digits * (commonScale place exponent).1 ∧
      digits * (commonScale place exponent).1 < interval.high * (commonScale place exponent).2)

theorem inside_iff {interval : Interval} {exponent place : Int} {digits : Nat} :
    interval.inside exponent place digits = true ↔
      interval.Holds exponent (digits * 10 ^ place) := by
  unfold Interval.inside Interval.Holds
  split
  · rw [decide_eq_true_iff, cross_le, cross_ge]
  · rw [decide_eq_true_iff, ← not_le, ← not_le, cross_le, cross_ge, not_le, not_le]

theorem holds_of_onGrid? {interval : Interval} {exponent place : Int} {digits : Nat}
    (found : onGrid? interval exponent place = some digits) :
    interval.Holds exponent (digits * 10 ^ place) := by
  rw [← inside_iff]
  unfold onGrid? at found
  simp only at found
  split at found
  · cases found
  · rename_i below _
    obtain rfl := Option.some.inj found
    exact below
  · rename_i above
    obtain rfl := Option.some.inj found
    exact above
  · rename_i below above
    split_ifs at found with nearer further even
    · obtain rfl := Option.some.inj found
      exact below
    · obtain rfl := Option.some.inj found
      exact above
    · obtain rfl := Option.some.inj found
      exact below
    · obtain rfl := Option.some.inj found
      exact above

theorem value_around (mantissa : Nat) (exponent : Int) (nonzero : 0 < mantissa) :
    (Interval.around mantissa exponent).low + 1 ≤ (Interval.around mantissa exponent).value ∧
      (Interval.around mantissa exponent).value < (Interval.around mantissa exponent).high := by
  unfold Interval.around
  simp only
  split_ifs <;> omega

/-- On a grid that is not coarser than a quarter of the last place, the point below a number is in its
interval. -/
theorem inside_of_fine {mantissa : Nat} {exponent place : Int} (nonzero : 0 < mantissa)
    (fine : (10 : ℚ) ^ place ≤ 2 ^ (exponent - 2)) :
    (Interval.around mantissa exponent).inside exponent place
      ((Interval.around mantissa exponent).value * (commonScale place exponent).2 /
        (commonScale place exponent).1) = true := by
  obtain ⟨lower, upper⟩ := value_around mantissa exponent nonzero
  generalize Interval.around mantissa exponent = interval at *
  have step : 1 * (commonScale place exponent).1 ≤ 1 * (commonScale place exponent).2 := by
    rw [cross_ge, Nat.cast_one, one_mul, one_mul]
    exact fine
  obtain ⟨digitUnit, quarterUnit⟩ := commonScale_pos place exponent
  unfold Interval.inside
  generalize (commonScale place exponent).1 = digit at *
  generalize (commonScale place exponent).2 = quarter at *
  have under : interval.value * quarter / digit * digit ≤ interval.value * quarter :=
    Nat.div_mul_le_self _ _
  have past : interval.value * quarter < interval.value * quarter / digit * digit + digit :=
    Nat.lt_div_mul_add digitUnit
  have low : interval.low * quarter + quarter ≤ interval.value * quarter := by
    rw [← Nat.succ_mul]
    exact Nat.mul_le_mul_right quarter lower
  have high : interval.value * quarter < interval.high * quarter :=
    Nat.mul_lt_mul_of_pos_right upper quarterUnit
  split
  · exact decide_eq_true ⟨by omega, by omega⟩
  · exact decide_eq_true ⟨by omega, by omega⟩

theorem onGrid?_of_fine {mantissa : Nat} {exponent place : Int} (nonzero : 0 < mantissa)
    (fine : (10 : ℚ) ^ place ≤ 2 ^ (exponent - 2)) :
    onGrid? (.around mantissa exponent) exponent place ≠ none := by
  have below := inside_of_fine nonzero fine
  intro missing
  unfold onGrid? at missing
  simp only at missing
  split at missing
  · rename_i outside _
    exact Bool.false_ne_true (outside.symm.trans below)
  · cases missing
  · cases missing
  · split_ifs at missing

/-- The search ends on a grid that has a point in the interval, if it gets as far as a fine one. -/
theorem searchGrids_holds {mantissa : Nat} {exponent : Int} (nonzero : 0 < mantissa) {fuel : Nat}
    {place : Int} (fine : (10 : ℚ) ^ (place - fuel) ≤ 2 ^ (exponent - 2)) {digits : Nat}
    {found : Int}
    (search : searchGrids (.around mantissa exponent) exponent (fuel + 1) place = (digits, found)) :
    (Interval.around mantissa exponent).Holds exponent (digits * 10 ^ found) := by
  induction fuel generalizing place with
  | zero =>
    rw [Nat.cast_zero, sub_zero] at fine
    unfold searchGrids at search
    split at search
    · rename_i hit
      obtain ⟨rfl, rfl⟩ := Prod.mk.inj search
      exact holds_of_onGrid? hit
    · rename_i miss
      exact absurd miss (onGrid?_of_fine nonzero fine)
  | succ fuel ih =>
    unfold searchGrids at search
    split at search
    · rename_i hit
      obtain ⟨rfl, rfl⟩ := Prod.mk.inj search
      exact holds_of_onGrid? hit
    · refine ih ?_ search
      rwa [show place - 1 - (fuel : Int) = place - (fuel + 1 : Nat) by push_cast; ring]

theorem pow_ten_le_pow_two {tens twos : Nat} (enough : 10 * tens ≤ 3 * twos) :
    10 ^ tens ≤ 2 ^ twos := by
  refine (Nat.pow_le_pow_iff_left (n := 3) (by decide)).1 ?_
  calc (10 ^ tens) ^ 3 = 1000 ^ tens := by rw [← Nat.pow_mul, Nat.mul_comm, Nat.pow_mul]
    _ ≤ 1024 ^ tens := Nat.pow_le_pow_left (by decide) tens
    _ = 2 ^ (10 * tens) := by rw [Nat.pow_mul]
    _ ≤ 2 ^ (3 * twos) := Nat.pow_le_pow_right (by decide) enough
    _ = (2 ^ twos) ^ 3 := by rw [← Nat.pow_mul, Nat.mul_comm]

theorem pow_two_le_pow_ten {twos tens : Nat} (enough : 28 * twos ≤ 93 * tens) :
    2 ^ twos ≤ 10 ^ tens := by
  refine (Nat.pow_le_pow_iff_left (n := 28) (by decide)).1 ?_
  calc (2 ^ twos) ^ 28 = 2 ^ (28 * twos) := by rw [← Nat.pow_mul, Nat.mul_comm]
    _ ≤ 2 ^ (93 * tens) := Nat.pow_le_pow_right (by decide) enough
    _ = (2 ^ 93) ^ tens := by rw [Nat.pow_mul]
    _ ≤ (10 ^ 28) ^ tens := Nat.pow_le_pow_left (by decide) tens
    _ = (10 ^ tens) ^ 28 := by rw [← Nat.pow_mul, Nat.mul_comm, Nat.pow_mul]

theorem coarsePlace_fine {mantissa : Nat} {exponent : Int} (fits : Fits mantissa exponent)
    (nonzero : 0 < mantissa) :
    (10 : ℚ) ^ (coarsePlace mantissa exponent - 29) ≤ 2 ^ (exponent - 2) := by
  have bits : Nat.log2 mantissa < 53 := (Nat.log2_lt (by omega)).2 fits.1
  obtain ⟨_, least, most, _⟩ := fits
  have coarse : coarsePlace mantissa exponent =
      ((Nat.log2 mantissa : Int) + 1 + exponent) * 30103 / 100000 + 2 := by
    unfold coarsePlace
    rw [Int.fdiv_eq_ediv_of_nonneg _ (by decide)]
  rw [coarse]
  generalize Nat.log2 mantissa = length at *
  rcases le_total 0 (((length : Int) + 1 + exponent) * 30103 / 100000 + 2 - 29) with large | small
  · have tens := Int.toNat_of_nonneg large
    have twos : ((exponent - 2).toNat : Int) = exponent - 2 := Int.toNat_of_nonneg (by omega)
    rw [← tens, ← twos, zpow_natCast, zpow_natCast]
    exact_mod_cast pow_ten_le_pow_two (by omega)
  · rcases le_total 2 exponent with positive | negative
    · calc (10 : ℚ) ^ _ ≤ 1 := zpow_le_one_of_nonpos₀ (by norm_num) small
        _ ≤ 2 ^ (exponent - 2) := one_le_zpow₀ one_le_two (by omega)
    · have tens := Int.toNat_of_nonneg (Int.neg_nonneg.2 small)
      have twos := Int.toNat_of_nonneg (Int.sub_nonneg.2 negative)
      rw [← neg_neg (_ + 2 - 29 : Int), ← tens, ← neg_sub 2 exponent, ← twos, zpow_neg, zpow_neg,
        zpow_natCast, zpow_natCast]
      refine inv_anti₀ (by positivity) ?_
      exact_mod_cast pow_two_le_pow_ten (by omega)

theorem shortest_holds {mantissa : Nat} {exponent : Int} (fits : Fits mantissa exponent)
    (nonzero : 0 < mantissa) {digits : Nat} {place : Int}
    (found : shortest mantissa exponent = (digits, place)) :
    (Interval.around mantissa exponent).Holds exponent (digits * 10 ^ place) :=
  searchGrids_holds nonzero (coarsePlace_fine fits nonzero) found

theorem power_le_of_holds {mantissa : Nat} {exponent : Int} (fits : Fits mantissa exponent)
    (nonzero : 0 < mantissa) {digits : Nat} (some : 0 < digits) {power : Int}
    (holds : (Interval.around mantissa exponent).Holds exponent (digits * 10 ^ power)) :
    power ≤ 400 := by
  by_contra large
  obtain ⟨_, most⟩ := bounds_of_holds fits nonzero holds
  have one : (1 : ℚ) ≤ digits := by exact_mod_cast some
  have apart : (2 : ℚ) ^ (1024 : Int) ≤ 10 ^ (400 : Int) := by
    exact_mod_cast pow_two_le_pow_ten (by decide)
  refine lt_irrefl ((10 : ℚ) ^ (400 : Int)) ?_
  calc (10 : ℚ) ^ (400 : Int) ≤ 10 ^ power := zpow_le_zpow_right₀ (by norm_num) (by omega)
    _ ≤ digits * 10 ^ power := le_mul_of_one_le_left (by positivity) one
    _ < 2 * topBit * 2 ^ exponent := most
    _ = 2 ^ (1 + 52 + exponent) := by
      rw [two_topBit, ← zpow_one_add₀ two_ne_zero, ← zpow_add₀ two_ne_zero]
    _ ≤ 2 ^ (1024 : Int) := zpow_le_zpow_right₀ one_le_two (by have := fits.2.2.1; omega)
    _ ≤ 10 ^ (400 : Int) := apart

/-- Every number but zero is above the least power of ten that is read. -/
theorem le_power_of_holds {mantissa : Nat} {exponent : Int} (fits : Fits mantissa exponent)
    (nonzero : 0 < mantissa) {digits : Nat} {power : Int}
    (holds : (Interval.around mantissa exponent).Holds exponent (digits * 10 ^ power)) :
    -400 ≤ power + (Nat.log2 digits + 1 : Nat) := by
  by_contra small
  obtain ⟨least, _⟩ := bounds_of_holds fits nonzero holds
  have apart : (10 : ℚ) ^ (-400 : Int) ≤ 2 ^ (-1076 : Int) := by
    rw [zpow_neg, zpow_neg]
    refine inv_anti₀ (by positivity) ?_
    exact_mod_cast pow_two_le_pow_ten (by decide)
  have short : (digits : ℚ) ≤ 10 ^ (Nat.log2 digits + 1) := by
    calc (digits : ℚ) ≤ 2 ^ (Nat.log2 digits + 1) := by exact_mod_cast Nat.lt_log2_self.le
      _ ≤ 10 ^ (Nat.log2 digits + 1) := by gcongr; norm_num
  refine lt_irrefl ((2 : ℚ) ^ (-1076 : Int)) ?_
  calc (2 : ℚ) ^ (-1076 : Int) < 2 ^ (exponent - 1) :=
        zpow_lt_zpow_right₀ one_lt_two (by have := fits.2.1; omega)
    _ = 2 ^ exponent / 2 := by rw [zpow_sub₀ two_ne_zero, zpow_one]
    _ ≤ digits * 10 ^ power := least
    _ ≤ 10 ^ (Nat.log2 digits + 1) * 10 ^ power := by gcongr
    _ = 10 ^ (power + (Nat.log2 digits + 1 : Nat)) := by
      rw [zpow_add₀ (by norm_num), zpow_natCast, mul_comm]
    _ ≤ 10 ^ (-400 : Int) := zpow_le_zpow_right₀ (by norm_num) (by omega)
    _ ≤ 2 ^ (-1076 : Int) := apart

theorem digits_pos_of_holds {mantissa : Nat} {exponent : Int} (fits : Fits mantissa exponent)
    (nonzero : 0 < mantissa) {digits : Nat} {power : Int}
    (holds : (Interval.around mantissa exponent).Holds exponent (digits * 10 ^ power)) :
    0 < digits := by
  obtain ⟨least, _⟩ := bounds_of_holds fits nonzero holds
  have unit : (0 : ℚ) < 2 ^ exponent := zpow_pos two_pos exponent
  rcases Nat.eq_zero_or_pos digits with rfl | some
  · rw [Nat.cast_zero, zero_mul] at least
    linarith
  · exact some

theorem ofDecimal_of_holds (negative : Bool) {mantissa : Nat} {exponent : Int}
    (fits : Fits mantissa exponent) (nonzero : 0 < mantissa) {digits : Nat} {power : Int}
    (holds : (Interval.around mantissa exponent).Holds exponent (digits * 10 ^ power)) :
    ofDecimal negative digits power = .finite negative mantissa exponent fits := by
  have some := digits_pos_of_holds fits nonzero holds
  have most := power_le_of_holds fits nonzero some holds
  have least := le_power_of_holds fits nonzero holds
  have ratio : ((digits * Nat.pow 10 power.toNat : Nat) : ℚ) / (Nat.pow 10 (-power).toNat : Nat) =
      digits * 10 ^ power := by
    push_cast [Nat.pow_eq]
    rw [mul_div_assoc, zpow_toNat]
  rw [← ratio] at holds
  unfold ofDecimal
  rw [if_neg (Nat.ne_of_gt some), if_neg (by omega), if_neg (by omega)]
  exact ofRatio_of_holds negative fits nonzero (Nat.pow_pos (by decide)) holds

end Bastion.Binary64
