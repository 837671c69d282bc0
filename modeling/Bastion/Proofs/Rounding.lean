import Bastion.Binary64.Shortest
import Mathlib.Algebra.Order.Field.Power
import Mathlib.Algebra.Order.Field.Rat
import Mathlib.Tactic.FieldSimp
import Mathlib.Tactic.Linarith
import Mathlib.Tactic.NormNum
import Mathlib.Tactic.Positivity
import Mathlib.Tactic.Ring

set_option autoImplicit false

namespace Bastion.Binary64

/-- The ratio lies in the interval, whose ends belong to it or not. -/
def Interval.Holds (interval : Interval) (exponent : Int) (x : ℚ) : Prop :=
  if interval.closed then
    interval.low * 2 ^ (exponent - 2) ≤ x ∧ x ≤ interval.high * 2 ^ (exponent - 2)
  else interval.low * 2 ^ (exponent - 2) < x ∧ x < interval.high * 2 ^ (exponent - 2)

theorem zpow_toNat (base : ℚ) (power : Int) :
    base ^ power.toNat / base ^ (-power).toNat = base ^ power := by
  rcases le_total 0 power with nonneg | nonpos
  · have none : (-power).toNat = 0 := by omega
    rw [none, pow_zero, div_one, ← zpow_natCast, Int.toNat_of_nonneg nonneg]
  · have none : power.toNat = 0 := by omega
    rw [none, pow_zero, one_div, ← zpow_natCast, Int.toNat_of_nonneg (by omega), zpow_neg, inv_inv]

theorem scale_ratio (num den : Nat) (exponent : Int) :
    ((scale num den exponent).1 : ℚ) / (scale num den exponent).2 = num / den / 2 ^ exponent := by
  have unit := zpow_toNat 2 (-exponent)
  rw [neg_neg, zpow_neg] at unit
  unfold scale
  push_cast [Nat.pow_eq]
  rw [mul_div_mul_comm, unit, ← div_eq_mul_inv]

theorem scale_pos {den : Nat} (positive : 0 < den) (num : Nat) (exponent : Int) :
    0 < (scale num den exponent).2 :=
  Nat.mul_pos positive (Nat.pow_pos (by decide))

/-- A quotient is rounded to the integer that is nearer than a half, or to an even one at a half. -/
theorem roundDiv_of_near {num den n : Nat} (positive : 0 < den)
    (near : 2 * n * den ≤ 2 * num + den ∧ 2 * num ≤ 2 * n * den + den)
    (tie : n % 2 = 0 ∨ 2 * n * den < 2 * num + den ∧ 2 * num < 2 * n * den + den) :
    roundDiv num den = n := by
  have parts : den * (num / den) + num % den = num := Nat.div_add_mod num den
  have rest : num % den < den := Nat.mod_lt num positive
  unfold roundDiv
  simp only
  generalize num / den = floor at *
  generalize num % den = left at *
  -- The integer is the floor or the one above it: all others are further away.
  have above : floor ≤ n := by
    by_contra below
    have step : den * (n + 1) ≤ den * floor := Nat.mul_le_mul_left den (by omega)
    rw [Nat.mul_add, Nat.mul_one] at step
    have same : 2 * n * den = 2 * (den * n) := by ring
    omega
  have below : n ≤ floor + 1 := by
    by_contra above
    have step : den * (floor + 2) ≤ den * n := Nat.mul_le_mul_left den (by omega)
    rw [Nat.mul_add] at step
    have same : 2 * n * den = 2 * (den * n) := by ring
    omega
  rcases (by omega : n = floor ∨ n = floor + 1) with rfl | rfl
  · have same : 2 * n * den = 2 * (den * n) := by ring
    split_ifs <;> omega
  · have same : 2 * (floor + 1) * den = 2 * (den * floor) + 2 * den := by ring
    split_ifs <;> omega

theorem roundDiv_of_ratio {num den n : Nat} (positive : 0 < den)
    (near : (n : ℚ) - 1 / 2 ≤ num / den ∧ (num : ℚ) / den ≤ n + 1 / 2)
    (tie : n % 2 = 0 ∨ (n : ℚ) - 1 / 2 < num / den ∧ (num : ℚ) / den < n + 1 / 2) :
    roundDiv num den = n := by
  have unit : (0 : ℚ) < den := Nat.cast_pos.2 positive
  rw [le_div_iff₀ unit, div_le_iff₀ unit] at near
  rw [lt_div_iff₀ unit, div_lt_iff₀ unit] at tie
  refine roundDiv_of_near positive ⟨?_, ?_⟩ (tie.imp_right fun strict => ⟨?_, ?_⟩)
  · have bound : (2 * n * den : ℚ) ≤ 2 * num + den := by linarith [near.1]
    exact_mod_cast bound
  · have bound : (2 * num : ℚ) ≤ 2 * n * den + den := by linarith [near.2]
    exact_mod_cast bound
  · have bound : (2 * n * den : ℚ) < 2 * num + den := by linarith [strict.1]
    exact_mod_cast bound
  · have bound : (2 * num : ℚ) < 2 * n * den + den := by linarith [strict.2]
    exact_mod_cast bound

/-- The exponent at which a ratio has all 53 bits, or the least one if it has fewer there. -/
structure Normal (x : ℚ) (exponent : Int) : Prop where
  least : -1074 ≤ exponent
  below : x < 2 * topBit * 2 ^ exponent
  above : topBit * 2 ^ exponent ≤ x ∨ exponent = -1074

theorem zpow_step (exponent : Int) : (2 : ℚ) ^ (exponent + 1) = 2 * 2 ^ exponent := by
  rw [zpow_add_one₀ two_ne_zero, mul_comm]

theorem Normal.le_of_normal {x : ℚ} {first second : Int} (one : Normal x first)
    (other : Normal x second) : second ≤ first := by
  by_contra larger
  rcases other.above with reached | least
  · have grows : (2 : ℚ) ^ (first + 1) ≤ 2 ^ second :=
      zpow_le_zpow_right₀ one_le_two (by omega)
    rw [zpow_step] at grows
    have top : (0 : ℚ) < topBit := by norm_num [topBit]
    have bound : topBit * (2 * 2 ^ first) ≤ topBit * (2 : ℚ) ^ second :=
      mul_le_mul_of_nonneg_left grows top.le
    linarith [one.below]
  · have bound := one.least
    omega

theorem Normal.unique {x : ℚ} {first second : Int} (one : Normal x first)
    (other : Normal x second) : first = second :=
  le_antisymm (other.le_of_normal one) (one.le_of_normal other)

theorem two_topBit : (topBit : ℚ) = 2 ^ (52 : Int) := by norm_num [topBit]

/-- Where the exponent of all 53 bits is too small, the least one has fewer. -/
theorem normal_max {x : ℚ} {exponent : Int} (above : topBit * 2 ^ exponent ≤ x)
    (below : x < 2 * topBit * 2 ^ exponent) : Normal x (max exponent (-1074)) := by
  rcases le_total (-1074) exponent with large | small
  · rw [max_eq_left large]
    exact ⟨large, below, .inl above⟩
  · rw [max_eq_right small]
    have grows : (2 : ℚ) ^ exponent ≤ 2 ^ (-1074 : Int) := zpow_le_zpow_right₀ one_le_two small
    have top : (0 : ℚ) ≤ 2 * topBit := by norm_num [topBit]
    exact ⟨le_refl _, below.trans_le (mul_le_mul_of_nonneg_left grows top), .inr rfl⟩

/-- The binary lengths of two numbers tell their ratio up to a factor of two. -/
theorem ratio_bounds {num den : Nat} (some : 0 < num) (positive : 0 < den) :
    (2 : ℚ) ^ ((num.log2 : Int) - den.log2 - 1) ≤ num / den ∧
      (num : ℚ) / den < 2 ^ ((num.log2 : Int) - den.log2 + 1) := by
  have denPos : (0 : ℚ) < den := Nat.cast_pos.2 positive
  have numLow : (2 : ℚ) ^ num.log2 ≤ num := by exact_mod_cast Nat.log2_self_le (by omega)
  have numHigh : (num : ℚ) < 2 ^ (num.log2 + 1) := by exact_mod_cast Nat.lt_log2_self
  have denLow : (2 : ℚ) ^ den.log2 ≤ den := by exact_mod_cast Nat.log2_self_le (by omega)
  have denHigh : (den : ℚ) < 2 ^ (den.log2 + 1) := by exact_mod_cast Nat.lt_log2_self
  constructor
  · rw [le_div_iff₀ denPos]
    calc (2 : ℚ) ^ ((num.log2 : Int) - den.log2 - 1) * den
        ≤ 2 ^ ((num.log2 : Int) - den.log2 - 1) * 2 ^ (den.log2 + 1) := by gcongr
      _ = 2 ^ num.log2 := by
        rw [← zpow_natCast, ← zpow_natCast, ← zpow_add₀ two_ne_zero]
        congr 1
        push_cast
        ring
      _ ≤ num := numLow
  · rw [div_lt_iff₀ denPos]
    calc (num : ℚ) < 2 ^ (num.log2 + 1) := numHigh
      _ = 2 ^ ((num.log2 : Int) - den.log2 + 1) * 2 ^ den.log2 := by
        rw [← zpow_natCast, ← zpow_natCast, ← zpow_add₀ two_ne_zero]
        congr 1
        push_cast
        ring
      _ ≤ 2 ^ ((num.log2 : Int) - den.log2 + 1) * den := by gcongr

theorem normal_exponentOf {num den : Nat} (some : 0 < num) (positive : 0 < den) :
    Normal (num / den) (exponentOf num den) := by
  obtain ⟨lower, upper⟩ := ratio_bounds some positive
  unfold exponentOf
  generalize same : (num.log2 : Int) - den.log2 - 53 = low at *
  have atLeast : topBit * (2 : ℚ) ^ low ≤ num / den := by
    rw [two_topBit, ← zpow_add₀ two_ne_zero]
    rwa [show 52 + low = (num.log2 : Int) - den.log2 - 1 by omega]
  have below : (num : ℚ) / den < 2 * topBit * 2 ^ (low + 1) := by
    rw [two_topBit, ← zpow_one_add₀ two_ne_zero, ← zpow_add₀ two_ne_zero]
    rwa [show 1 + 52 + (low + 1) = (num.log2 : Int) - den.log2 + 1 by omega]
  have unit : (0 : ℚ) < 2 ^ low := zpow_pos two_pos low
  have long : 2 * topBit ≤ (scale num den low).1 / (scale num den low).2 ↔
      2 * topBit * (2 : ℚ) ^ low ≤ num / den := by
    have scaled := scale_pos positive num low
    rw [Nat.le_div_iff_mul_le scaled, ← le_div_iff₀ unit, ← scale_ratio,
      le_div_iff₀ (Nat.cast_pos.2 scaled)]
    exact_mod_cast Iff.rfl
  simp only
  split
  · rename_i enough
    have bound := long.1 enough
    refine normal_max ?_ below
    rw [zpow_step]
    linarith
  · rename_i short
    exact normal_max atLeast (not_le.1 fun enough => short (long.2 enough))

/-- The lower end of an interval in units of the last place: below the least mantissa of 53 bits the
numbers lie closer. -/
def lowEnd (mantissa : Nat) (exponent : Int) : ℚ :=
  if mantissa = topBit ∧ -1074 < exponent then mantissa - 1 / 4 else mantissa - 1 / 2

theorem half_le_lowEnd (mantissa : Nat) (exponent : Int) :
    (mantissa : ℚ) - 1 / 2 ≤ lowEnd mantissa exponent := by
  unfold lowEnd
  split_ifs <;> linarith

theorem low_around {mantissa : Nat} (nonzero : 0 < mantissa) (exponent : Int) :
    ((Interval.around mantissa exponent).low : ℚ) = 4 * lowEnd mantissa exponent := by
  unfold Interval.around lowEnd
  split_ifs
  · rw [Nat.cast_sub (by omega)]
    push_cast
    ring
  · rw [Nat.cast_sub (by omega)]
    push_cast
    ring

theorem quarter_eq (exponent : Int) : (2 : ℚ) ^ (exponent - 2) = 2 ^ exponent / 4 := by
  rw [zpow_sub₀ two_ne_zero]
  norm_num

theorem holds_around {mantissa : Nat} (nonzero : 0 < mantissa) {exponent : Int} {x : ℚ} :
    (Interval.around mantissa exponent).Holds exponent x ↔
      (lowEnd mantissa exponent ≤ x / 2 ^ exponent ∧ x / 2 ^ exponent ≤ mantissa + 1 / 2) ∧
        (mantissa % 2 = 0 ∨
          lowEnd mantissa exponent < x / 2 ^ exponent ∧ x / 2 ^ exponent < mantissa + 1 / 2) := by
  have unit : (0 : ℚ) < 2 ^ exponent := zpow_pos two_pos exponent
  have high : ((Interval.around mantissa exponent).high : ℚ) = 4 * (mantissa + 1 / 2) := by
    unfold Interval.around
    push_cast
    ring
  have scaled (bound : ℚ) : 4 * bound * (2 ^ exponent / 4) = bound * 2 ^ exponent := by ring
  unfold Interval.Holds
  rw [low_around nonzero, high, quarter_eq, scaled, scaled, ← le_div_iff₀ unit, ← div_le_iff₀ unit,
    ← lt_div_iff₀ unit, ← div_lt_iff₀ unit]
  have even : (Interval.around mantissa exponent).closed = decide (mantissa % 2 = 0) := rfl
  by_cases closed : mantissa % 2 = 0
  · simp [even, closed]
  · simp only [even, closed, decide_false, Bool.false_eq_true, ↓reduceIte, false_or]
    constructor
    · intro strict
      exact ⟨⟨strict.1.le, strict.2.le⟩, strict⟩
    · exact And.right

theorem ofMantissa_of_fits (negative : Bool) {mantissa : Nat} {exponent : Int}
    (fits : Fits mantissa exponent) :
    ofMantissa negative mantissa exponent = .finite negative mantissa exponent fits :=
  dif_pos fits

theorem ofRatio_of_near (negative : Bool) {num den mantissa : Nat} {exponent : Int} (some : 0 < num)
    (positive : 0 < den) (normal : Normal (num / den) exponent)
    (near : (mantissa : ℚ) - 1 / 2 ≤ num / den / 2 ^ exponent ∧
      (num : ℚ) / den / 2 ^ exponent ≤ mantissa + 1 / 2)
    (tie : mantissa % 2 = 0 ∨ (mantissa : ℚ) - 1 / 2 < num / den / 2 ^ exponent ∧
      (num : ℚ) / den / 2 ^ exponent < mantissa + 1 / 2) :
    ofRatio negative num den =
      if mantissa = 2 * topBit then ofMantissa negative topBit (exponent + 1)
      else ofMantissa negative mantissa exponent := by
  obtain rfl := (normal_exponentOf some positive).unique normal
  rw [← scale_ratio] at near tie
  have rounded := roundDiv_of_ratio (scale_pos positive num _) near tie
  unfold ofRatio
  rw [if_neg (by omega)]
  simp only [rounded]

variable {mantissa : Nat} {exponent : Int} {num den : Nat}

/-- What lies in the interval of a number but zero is at least half a unit of the last place, and below
the next power of two. -/
theorem bounds_of_holds {x : ℚ} (fits : Fits mantissa exponent) (nonzero : 0 < mantissa)
    (holds : (Interval.around mantissa exponent).Holds exponent x) :
    2 ^ exponent / 2 ≤ x ∧ x < 2 * topBit * 2 ^ exponent := by
  obtain ⟨⟨lower, upper⟩, _⟩ := (holds_around nonzero).1 holds
  have unit : (0 : ℚ) < 2 ^ exponent := zpow_pos two_pos exponent
  have half := half_le_lowEnd mantissa exponent
  have one : (1 : ℚ) ≤ mantissa := by exact_mod_cast nonzero
  have short : (mantissa : ℚ) + 1 ≤ 2 * topBit := by exact_mod_cast fits.1
  have least : 1 / 2 ≤ x / 2 ^ exponent := by linarith
  have most : x / 2 ^ exponent < 2 * topBit := by linarith
  rw [le_div_iff₀ unit] at least
  rw [div_lt_iff₀ unit] at most
  exact ⟨by linarith, most⟩

/-- Below the least mantissa of 53 bits a ratio has one bit more, and is rounded up to it. -/
theorem ofRatio_of_below (negative : Bool) (normalised : -1074 < exponent) (some : 0 < num)
    (positive : 0 < den) (near : (topBit : ℚ) - 1 / 4 ≤ num / den / 2 ^ exponent)
    (below : (num : ℚ) / den / 2 ^ exponent < topBit) :
    ofRatio negative num den = ofMantissa negative topBit exponent := by
  have unit : (0 : ℚ) < 2 ^ exponent := zpow_pos two_pos exponent
  have halved : (2 : ℚ) ^ (exponent - 1) = 2 ^ exponent / 2 := by
    rw [zpow_sub₀ two_ne_zero, zpow_one]
  have finer : (num : ℚ) / den / 2 ^ (exponent - 1) = 2 * (num / den / 2 ^ exponent) := by
    rw [halved]
    field_simp
  have top : (topBit : ℚ) = 4503599627370496 := by norm_num [topBit]
  have normal : Normal (num / den) (exponent - 1) := by
    rw [div_lt_iff₀ unit] at below
    rw [le_div_iff₀ unit] at near
    refine ⟨by omega, ?_, .inl ?_⟩
    · rw [halved]
      linarith
    · rw [halved]
      refine le_trans ?_ near
      rw [top]
      linarith
  have close : ((2 * topBit : Nat) : ℚ) - 1 / 2 ≤ num / den / 2 ^ (exponent - 1) ∧
      (num : ℚ) / den / 2 ^ (exponent - 1) ≤ (2 * topBit : Nat) + 1 / 2 := by
    rw [finer]
    push_cast
    exact ⟨by linarith, by linarith⟩
  rw [ofRatio_of_near negative some positive normal close (.inl (by decide)), if_pos rfl,
    Int.sub_add_cancel]

theorem ofRatio_of_holds (negative : Bool) (fits : Fits mantissa exponent) (nonzero : 0 < mantissa)
    (positive : 0 < den)
    (holds : (Interval.around mantissa exponent).Holds exponent (num / den)) :
    ofRatio negative num den = .finite negative mantissa exponent fits := by
  rw [← ofMantissa_of_fits]
  obtain ⟨least, most⟩ := bounds_of_holds fits nonzero holds
  obtain ⟨⟨lower, upper⟩, tie⟩ := (holds_around nonzero).1 holds
  have unit : (0 : ℚ) < 2 ^ exponent := zpow_pos two_pos exponent
  have half := half_le_lowEnd mantissa exponent
  have some : 0 < num := by
    rcases Nat.eq_zero_or_pos num with rfl | some
    · rw [Nat.cast_zero, zero_div] at least
      linarith
    · exact some
  by_cases whole : (topBit : ℚ) ≤ num / den / 2 ^ exponent ∨ exponent = -1074
  · have normal : Normal (num / den) exponent :=
      ⟨fits.2.1, most, whole.imp_left fun enough => (le_div_iff₀ unit).1 enough⟩
    rw [ofRatio_of_near negative some positive normal ⟨half.trans lower, upper⟩
      (tie.imp_right fun strict => ⟨half.trans_lt strict.1, strict.2⟩),
      if_neg (Nat.ne_of_lt fits.1)]
  · obtain ⟨under, above⟩ := not_or.1 whole
    have normalised : -1074 < exponent := lt_of_le_of_ne fits.2.1 (Ne.symm above)
    have least : mantissa = topBit := by
      by_contra other
      have larger : (topBit : ℚ) + 1 ≤ mantissa := by
        have enough := fits.2.2.2.resolve_right above
        exact_mod_cast Nat.lt_of_le_of_ne enough (Ne.symm other)
      linarith [not_le.1 under]
    subst least
    have edge : lowEnd topBit exponent = topBit - 1 / 4 := if_pos ⟨rfl, normalised⟩
    rw [edge] at lower
    exact ofRatio_of_below negative normalised some positive lower (not_le.1 under)

end Bastion.Binary64
