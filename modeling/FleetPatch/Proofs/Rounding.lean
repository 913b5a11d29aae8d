import FleetPatch.Proofs.Conversions
import Mathlib.Algebra.Order.Archimedean.Basic
import Mathlib.Tactic.FieldSimp
import Mathlib.Tactic.Linarith
import Mathlib.Tactic.NormNum
import Mathlib.Tactic.Ring

/-!
# Ratios rounded to doubles

A ratio is measured in the unit of its last place and rounded to an integer there. Doubles with a
unit at least as large are multiples of the unit, and those with a smaller one lie below the least
mantissa, so no double is nearer to the ratio. A tie goes to the even mantissa.
-/

namespace FleetPatch.Binary64

set_option autoImplicit false

section Integers

/-- An integer nearest to a rational number, the even one at a tie. -/
structure RoundsTo (value : Rat) (integer : Nat) : Prop where
  near : |(integer : Rat) - value| ≤ 1 / 2
  even : |(integer : Rat) - value| = 1 / 2 → Even integer

variable {value : Rat} {integer : Nat}

/-- Another integer is further away, or as far at a tie. -/
theorem RoundsTo.apart (rounds : RoundsTo value integer) {other : Int}
    (different : other ≠ integer) :
    1 / 2 ≤ |(other : Rat) - value| := by
  have whole : (1 : Rat) ≤ |(other : Rat) - integer| := by
    have positive := abs_pos.mpr (sub_ne_zero.mpr different)
    have counted : (1 : Int) ≤ |other - integer| := by omega
    exact_mod_cast counted
  have through := abs_sub_le (other : Rat) value integer
  have near := rounds.near
  rw [abs_sub_comm] at near
  linarith

theorem RoundsTo.nearest (rounds : RoundsTo value integer) (other : Int) :
    |(integer : Rat) - value| ≤ |(other : Rat) - value| := by
  by_cases same : other = integer
  · rw [same, Int.cast_natCast]
  · exact rounds.near.trans (rounds.apart same)

theorem RoundsTo.even_of_tie (rounds : RoundsTo value integer) {other : Int}
    (different : other ≠ integer)
    (tie : |(integer : Rat) - value| = |(other : Rat) - value|) : Even integer := by
  apply rounds.even
  apply le_antisymm rounds.near
  rw [tie]
  exact rounds.apart different

theorem RoundsTo.mono {less : Rat} {before : Nat} (first : RoundsTo less before)
    (rounds : RoundsTo value integer) (ordered : less ≤ value) : before ≤ integer := by
  by_contra behind
  have above : integer + 1 ≤ before := by omega
  have step : (integer : Rat) + 1 ≤ before := by exact_mod_cast above
  obtain ⟨lower, upper⟩ := abs_le.mp first.near
  obtain ⟨low, high⟩ := abs_le.mp rounds.near
  -- Both are as far from their integers as can be, and the integers are neighbours.
  have tie : (integer : Rat) - value = -(1 / 2) := by linarith
  have tieBefore : (before : Rat) - less = 1 / 2 := by linarith
  have neighbours : (before : Rat) = integer + 1 := by linarith
  have even := rounds.even (by rw [tie]; norm_num)
  have evenBefore := first.even (by rw [tieBefore]; norm_num)
  have next : before = integer + 1 := by exact_mod_cast neighbours
  rw [next] at evenBefore
  exact absurd evenBefore (Nat.not_even_iff_odd.mpr even.add_one)

theorem roundsTo_self (integer : Nat) : RoundsTo integer integer := by
  have none : |(integer : Rat) - integer| = 0 := by rw [sub_self, abs_zero]
  refine ⟨?_, fun tie => ?_⟩
  · rw [none]
    exact one_half_pos.le
  · rw [none] at tie
    exact absurd tie.symm one_half_pos.ne'

theorem RoundsTo.unique {other : Nat} (first : RoundsTo value integer)
    (second : RoundsTo value other) : integer = other :=
  le_antisymm (first.mono second le_rfl) (second.mono first le_rfl)

theorem roundDiv_rounds (numerator : Nat) {denominator : Nat} (positive : 0 < denominator) :
    RoundsTo (numerator / denominator) (roundDiv numerator denominator) := by
  have scale : (0 : Rat) < denominator := by exact_mod_cast positive
  have parts := Nat.div_add_mod numerator denominator
  have small := Nat.mod_lt numerator positive
  unfold roundDiv
  generalize numerator / denominator = whole at parts ⊢
  generalize numerator % denominator = rest at parts small ⊢
  have value : (numerator : Rat) / denominator = whole + rest / denominator := by
    rw [← parts]
    push_cast
    field_simp
  have fraction_nonneg : (0 : Rat) ≤ rest / denominator := by positivity
  have fraction_lt : (rest : Rat) / denominator < 1 := by
    rw [div_lt_one scale]
    exact_mod_cast small
  rw [value]
  dsimp only
  split
  next low =>
      have half : (rest : Rat) / denominator < 1 / 2 := by
        rw [div_lt_div_iff₀ scale two_pos, one_mul, mul_comm]
        exact_mod_cast low
      have off : |(whole : Rat) - (whole + rest / denominator)| < 1 / 2 := by
        rw [abs_lt]
        constructor <;> linarith
      exact ⟨off.le, fun tie => absurd tie off.ne⟩
  next notLow =>
      split
      next high =>
          have half : 1 / 2 < (rest : Rat) / denominator := by
            rw [div_lt_div_iff₀ two_pos scale, one_mul, mul_comm (rest : Rat)]
            exact_mod_cast high
          have off : |((whole + 1 : Nat) : Rat) - (whole + rest / denominator)| < 1 / 2 := by
            push_cast
            rw [abs_lt]
            constructor <;> linarith
          exact ⟨off.le, fun tie => absurd tie off.ne⟩
      next notHigh =>
          have middle : 2 * rest = denominator := by omega
          have half : (rest : Rat) / denominator = 1 / 2 := by
            rw [div_eq_div_iff scale.ne' two_ne_zero, one_mul, mul_comm]
            exact_mod_cast middle
          have even : Even (whole + whole % 2) := by
            rw [Nat.even_iff]
            omega
          refine ⟨?_, fun _ => even⟩
          rw [half]
          obtain down | up := Nat.mod_two_eq_zero_or_one whole
          · rw [down, Nat.add_zero, sub_add_cancel_left, abs_neg, abs_of_pos one_half_pos]
          · rw [up]
            push_cast
            rw [add_sub_add_left_eq_sub, abs_of_pos (by norm_num)]
            norm_num

/-- The rounded integer is known by the value of the ratio alone. -/
theorem roundDiv_eq_iff (numerator : Nat) {denominator : Nat} (positive : 0 < denominator) :
    roundDiv numerator denominator = integer ↔ RoundsTo (numerator / denominator) integer :=
  ⟨fun same => same ▸ roundDiv_rounds numerator positive,
    fun rounds => (roundDiv_rounds numerator positive).unique rounds⟩

end Integers

section Places

variable {numerator denominator : Nat}

theorem scaled_pos (numerator : Nat) {denominator : Nat} (positive : 0 < denominator)
    (exponent : Int) : 0 < (scaled numerator denominator exponent).2 := by
  unfold scaled
  split
  · exact Nat.mul_pos positive (Nat.pow_pos Nat.two_pos)
  · exact positive

theorem scaled_value (numerator : Nat) {denominator : Nat} (positive : 0 < denominator)
    (exponent : Int) :
    ((scaled numerator denominator exponent).1 : Rat) / (scaled numerator denominator exponent).2 =
      numerator / denominator / 2 ^ exponent := by
  have scale : (0 : Rat) < denominator := by exact_mod_cast positive
  unfold scaled
  split
  next whole =>
      obtain ⟨power, rfl⟩ := Int.eq_ofNat_of_zero_le whole
      simp only [Int.toNat_natCast, zpow_natCast, Nat.pow_eq]
      push_cast
      field_simp
  next negative =>
      obtain ⟨power, rfl⟩ : ∃ power : Nat, exponent = -power := ⟨(-exponent).toNat, by omega⟩
      simp only [neg_neg, Int.toNat_natCast, zpow_neg, zpow_natCast, Nat.pow_eq]
      push_cast
      field_simp

/-- The place at which a ratio has a mantissa of 53 bits, or the least place of all. -/
structure Fits (value : Rat) (exponent : Int) : Prop where
  least : -1074 ≤ exponent
  below : value / 2 ^ exponent < 2 ^ 53
  full : 2 ^ 52 ≤ value / 2 ^ exponent ∨ exponent = -1074

theorem log2_between {number : Nat} (positive : 0 < number) :
    (2 : Rat) ^ (Nat.log2 number : Int) ≤ number ∧
      (number : Rat) < 2 ^ ((Nat.log2 number : Int) + 1) := by
  rw [zpow_add_one₀ two_ne_zero, zpow_natCast, ← pow_succ]
  constructor
  · exact_mod_cast Nat.log2_self_le positive.ne'
  · exact_mod_cast Nat.lt_log2_self

/-- The logarithms of a ratio's parts give its place up to one. -/
theorem ratio_between (large : 0 < numerator) (positive : 0 < denominator) :
    (2 : Rat) ^ ((Nat.log2 numerator : Int) - Nat.log2 denominator - 1) <
        (numerator : Rat) / denominator ∧
      (numerator : Rat) / denominator <
        2 ^ ((Nat.log2 numerator : Int) - Nat.log2 denominator + 1) := by
  have scale : (0 : Rat) < denominator := by exact_mod_cast positive
  obtain ⟨top, topLt⟩ := log2_between large
  obtain ⟨bottom, bottomLt⟩ := log2_between positive
  rw [lt_div_iff₀ scale, div_lt_iff₀ scale]
  constructor
  · calc (2 : Rat) ^ ((Nat.log2 numerator : Int) - Nat.log2 denominator - 1) * denominator
        < 2 ^ ((Nat.log2 numerator : Int) - Nat.log2 denominator - 1) *
            2 ^ ((Nat.log2 denominator : Int) + 1) := by gcongr
      _ = 2 ^ (Nat.log2 numerator : Int) := by
        rw [← zpow_add₀ two_ne_zero]
        congr 1
        ring
      _ ≤ numerator := top
  · calc (numerator : Rat) < 2 ^ ((Nat.log2 numerator : Int) + 1) := topLt
      _ = 2 ^ ((Nat.log2 numerator : Int) - Nat.log2 denominator + 1) *
            2 ^ (Nat.log2 denominator : Int) := by
        rw [← zpow_add₀ two_ne_zero]
        congr 1
        ring
      _ ≤ 2 ^ ((Nat.log2 numerator : Int) - Nat.log2 denominator + 1) * denominator := by gcongr

theorem pow_lt_div_zpow_iff (power : Nat) (value : Rat) (exponent : Int) :
    (2 : Rat) ^ power < value / 2 ^ exponent ↔ 2 ^ ((power : Int) + exponent) < value := by
  rw [lt_div_iff₀ (zpow_pos two_pos exponent), zpow_add₀ two_ne_zero, zpow_natCast]

theorem div_zpow_lt_pow_iff (value : Rat) (exponent : Int) (power : Nat) :
    value / 2 ^ exponent < 2 ^ power ↔ value < 2 ^ ((power : Int) + exponent) := by
  rw [div_lt_iff₀ (zpow_pos two_pos exponent), zpow_add₀ two_ne_zero, zpow_natCast]

theorem div_pow_pred (value : Rat) (exponent : Int) :
    value / 2 ^ (exponent - 1) = 2 * (value / 2 ^ exponent) := by
  have positive : (2 : Rat) ^ exponent ≠ 0 := zpow_ne_zero exponent two_ne_zero
  rw [zpow_sub_one₀ two_ne_zero]
  field_simp

theorem quotient_lt_iff (top : Nat) {bottom : Nat} (positive : 0 < bottom) (bound : Nat) :
    top / bottom < bound ↔ (top : Rat) / bottom < bound := by
  have scale : (0 : Rat) < bottom := by exact_mod_cast positive
  rw [Nat.div_lt_iff_lt_mul positive, div_lt_iff₀ scale]
  norm_cast

/-- The exponent is that of the full mantissa, or the least one if that is larger. -/
theorem exponentOf_eq (large : 0 < numerator) (positive : 0 < denominator) : ∃ fitted : Int,
    exponentOf numerator denominator = (if fitted < -1074 then -1074 else fitted) ∧
      2 ^ 52 ≤ (numerator : Rat) / denominator / 2 ^ fitted ∧
      (numerator : Rat) / denominator / 2 ^ fitted < 2 ^ 53 := by
  obtain ⟨lower, upper⟩ := ratio_between large positive
  let estimate : Int := (Nat.log2 numerator : Int) - Nat.log2 denominator - 52
  have under : (2 : Rat) ^ 51 < numerator / denominator / 2 ^ estimate := by
    have same : ((51 : Nat) : Int) + estimate =
        (Nat.log2 numerator : Int) - Nat.log2 denominator - 1 := by
      simp only [estimate]
      ring
    rw [pow_lt_div_zpow_iff, same]
    exact lower
  have above : (numerator : Rat) / denominator / 2 ^ estimate < 2 ^ 53 := by
    have same : ((53 : Nat) : Int) + estimate =
        (Nat.log2 numerator : Int) - Nat.log2 denominator + 1 := by
      simp only [estimate]
      ring
    rw [div_zpow_lt_pow_iff, same]
    exact upper
  have measured := quotient_lt_iff (scaled numerator denominator estimate).1
    (scaled_pos numerator positive estimate) (Nat.pow 2 52)
  rw [scaled_value numerator positive, Nat.pow_eq] at measured
  push_cast at measured
  by_cases short : (scaled numerator denominator estimate).1 /
      (scaled numerator denominator estimate).2 < Nat.pow 2 52
  · refine ⟨estimate - 1, ?_, ?_⟩
    · unfold exponentOf
      dsimp only
      rw [if_pos short]
      rfl
    · have less := measured.mp short
      rw [div_pow_pred]
      constructor <;> linarith
  · refine ⟨estimate, ?_, ?_, above⟩
    · unfold exponentOf
      dsimp only
      rw [if_neg short]
      rfl
    · exact not_lt.mp (mt measured.mpr short)

theorem exponentOf_fits (large : 0 < numerator) (positive : 0 < denominator) :
    Fits (numerator / denominator) (exponentOf numerator denominator) := by
  obtain ⟨fitted, place, full, below⟩ := exponentOf_eq large positive
  rw [place]
  split
  next small =>
      refine ⟨le_rfl, ?_, .inr rfl⟩
      have wider : (2 : Rat) ^ fitted ≤ 2 ^ (-1074 : Int) :=
        zpow_le_zpow_right₀ one_le_two small.le
      calc (numerator : Rat) / denominator / 2 ^ (-1074 : Int)
          ≤ numerator / denominator / 2 ^ fitted := by gcongr
        _ < 2 ^ 53 := below
  next => exact ⟨by omega, below, .inl full⟩

end Places

section Doubles

def Representable (value : Rat) : Prop :=
  ∃ (mantissa : Nat) (exponent : Int), mantissa < 2 ^ 53 ∧ -1074 ≤ exponent ∧ exponent ≤ 971 ∧
    |value| = mantissa * 2 ^ exponent

/-- A double without a sign that is nearest to a value: no other one is nearer, and if one is as
near, the mantissa is even. -/
structure Nearest (mantissa : Nat) (exponent : Int) (value : Rat) : Prop where
  mantissa_lt : mantissa < 2 ^ 53
  least : -1074 ≤ exponent
  greatest : exponent ≤ 971
  normal : 2 ^ 52 ≤ mantissa ∨ exponent = -1074
  near : ∀ other, Representable other →
    |(mantissa * 2 ^ exponent : Rat) - value| ≤ |other - value|
  even : ∀ other, Representable other → other ≠ mantissa * 2 ^ exponent →
    |(mantissa * 2 ^ exponent : Rat) - value| = |other - value| → Even mantissa

variable {value other : Rat} {exponent : Int} {mantissa : Nat}

theorem lt_full (mantissa_lt : mantissa < 2 ^ 53) {place : Int} (smaller : place < exponent) :
    (mantissa * 2 ^ place : Rat) < 2 ^ 52 * 2 ^ exponent := by
  have less : (mantissa : Rat) < 2 ^ 53 := by exact_mod_cast mantissa_lt
  calc (mantissa : Rat) * 2 ^ place < 2 ^ 53 * 2 ^ place := by gcongr
    _ = 2 ^ 52 * 2 ^ (place + 1) := by
      rw [zpow_add_one₀ two_ne_zero]
      ring
    _ ≤ 2 ^ 52 * 2 ^ exponent := by
      gcongr
      · exact one_le_two
      · omega

/-- A double is a multiple of a power of two, or it has a smaller unit. -/
theorem Representable.multiple_or_small (representable : Representable other) (exponent : Int) :
    (∃ integer : Int, other = integer * 2 ^ exponent) ∨
      -1074 < exponent ∧ |other| < 2 ^ 52 * 2 ^ exponent := by
  obtain ⟨mantissa, place, mantissa_lt, least, -, magnitude⟩ := representable
  obtain large | small := le_or_gt exponent place
  · left
    obtain ⟨power, rfl⟩ : ∃ power : Nat, place = exponent + power :=
      ⟨(place - exponent).toNat, by omega⟩
    rw [zpow_add₀ two_ne_zero, zpow_natCast, ← mul_assoc, mul_right_comm] at magnitude
    obtain same | opposite := abs_eq_abs.mp (magnitude.trans (abs_of_nonneg (by positivity)).symm)
    · exact ⟨(mantissa * 2 ^ power : Nat), by rw [same]; push_cast; rfl⟩
    · refine ⟨-(mantissa * 2 ^ power : Nat), ?_⟩
      rw [opposite]
      push_cast
      ring
  · right
    refine ⟨by omega, ?_⟩
    rw [magnitude]
    exact lt_full mantissa_lt small

theorem abs_scaled_sub (multiple value : Rat) (exponent : Int) :
    |multiple * 2 ^ exponent - value| = |multiple - value / 2 ^ exponent| * 2 ^ exponent := by
  have power : (0 : Rat) < 2 ^ exponent := zpow_pos two_pos exponent
  calc |multiple * 2 ^ exponent - value|
      = |(multiple - value / 2 ^ exponent) * 2 ^ exponent| := by
        congr 1
        field_simp
    _ = |multiple - value / 2 ^ exponent| * 2 ^ exponent := by
        rw [abs_mul, abs_of_pos power]

/-- No double is nearer than the integer nearest at the fitting place, and one that is as near is at
a tie of integers. -/
theorem near_of_rounds (fits : Fits value exponent)
    (rounds : RoundsTo (value / 2 ^ exponent) mantissa) (representable : Representable other) :
    |(mantissa * 2 ^ exponent : Rat) - value| ≤ |other - value| ∧
      (other ≠ mantissa * 2 ^ exponent →
        |(mantissa * 2 ^ exponent : Rat) - value| = |other - value| → Even mantissa) := by
  have power : (0 : Rat) < 2 ^ exponent := zpow_pos two_pos exponent
  rw [abs_scaled_sub]
  obtain ⟨integer, rfl⟩ | ⟨above, small⟩ := representable.multiple_or_small exponent
  · rw [abs_scaled_sub]
    constructor
    · exact mul_le_mul_of_nonneg_right (rounds.nearest integer) power.le
    · intro different same
      have apart : integer ≠ mantissa := by
        rintro rfl
        exact different (by rw [Int.cast_natCast])
      exact rounds.even_of_tie apart (mul_right_cancel₀ power.ne' same)
  · -- Below the least mantissa a double is further away than the least mantissa is.
    have full : (2 : Rat) ^ 52 ≤ value / 2 ^ exponent := fits.full.resolve_right above.ne'
    have less : other / 2 ^ exponent < 2 ^ 52 := by
      rw [div_lt_iff₀ power]
      exact (le_abs_self other).trans_lt small
    have nearest := rounds.nearest (2 ^ 52)
    rw [Int.cast_pow, Int.cast_ofNat] at nearest
    rw [abs_of_nonpos (by linarith : (2 : Rat) ^ 52 - value / 2 ^ exponent ≤ 0)] at nearest
    have unscaled : other = other / 2 ^ exponent * 2 ^ exponent := by field_simp
    have further : |(mantissa : Rat) - value / 2 ^ exponent| * 2 ^ exponent < |other - value| := by
      rw [unscaled, abs_scaled_sub]
      gcongr
      rw [abs_of_neg (by linarith : other / 2 ^ exponent - value / 2 ^ exponent < 0)]
      linarith
    exact ⟨further.le, fun _ same => absurd same further.ne⟩

theorem mantissa_le (fits : Fits value exponent)
    (rounds : RoundsTo (value / 2 ^ exponent) mantissa) : mantissa ≤ 2 ^ 53 := by
  by_contra beyond
  have counted : (2 : Rat) ^ 53 + 1 ≤ mantissa := by
    have above : 2 ^ 53 + 1 ≤ mantissa := by omega
    exact_mod_cast above
  obtain ⟨-, upper⟩ := abs_le.mp rounds.near
  have below := fits.below
  linarith

theorem le_mantissa (fits : Fits value exponent)
    (rounds : RoundsTo (value / 2 ^ exponent) mantissa) :
    2 ^ 52 ≤ mantissa ∨ exponent = -1074 := by
  refine fits.full.imp_left fun full => ?_
  by_contra short
  have counted : (mantissa : Rat) + 1 ≤ 2 ^ 52 := by
    have below : mantissa + 1 ≤ 2 ^ 52 := by omega
    exact_mod_cast below
  obtain ⟨lower, -⟩ := abs_le.mp rounds.near
  linarith

theorem nearest_of_rounds (fits : Fits value exponent)
    (rounds : RoundsTo (value / 2 ^ exponent) mantissa) (fitting : mantissa ≠ 2 ^ 53)
    (greatest : exponent ≤ 971) : Nearest mantissa exponent value where
  mantissa_lt := lt_of_le_of_ne (mantissa_le fits rounds) fitting
  least := fits.least
  greatest := greatest
  normal := le_mantissa fits rounds
  near _ representable := (near_of_rounds fits rounds representable).1
  even _ representable := (near_of_rounds fits rounds representable).2

/-- A mantissa that rounding made one bit too long is halved. -/
theorem nearest_of_carry (fits : Fits value exponent)
    (rounds : RoundsTo (value / 2 ^ exponent) (2 ^ 53)) (greatest : exponent + 1 ≤ 971) :
    Nearest (2 ^ 52) (exponent + 1) value := by
  have same : (((2 ^ 52 : Nat) : Rat)) * 2 ^ (exponent + 1) = (2 ^ 53 : Nat) * 2 ^ exponent := by
    rw [zpow_add_one₀ two_ne_zero]
    push_cast
    ring
  have least := fits.least
  refine ⟨by norm_num, by omega, greatest, .inl le_rfl, ?_, ?_⟩
  · rw [same]
    exact fun other representable => (near_of_rounds fits rounds representable).1
  · exact fun other representable different tie => ⟨2 ^ 51, by norm_num⟩

theorem nearest_zero : Nearest 0 leastExponent 0 := by
  refine ⟨by norm_num, le_rfl, by decide, .inr rfl, ?_, fun _ _ _ _ => Even.zero⟩
  intro other representable
  rw [Nat.cast_zero, zero_mul, sub_zero, abs_zero]
  exact abs_nonneg _

theorem exists_rounding (negative : Bool) {numerator denominator : Nat} (large : 0 < numerator)
    (positive : 0 < denominator) : ∃ (exponent : Int) (mantissa : Nat),
      Fits (numerator / denominator) exponent ∧
      RoundsTo (numerator / denominator / 2 ^ exponent) mantissa ∧
      ofRatio negative numerator denominator =
        if mantissa = 2 ^ 53 then
          if 971 < exponent + 1 then .infinite negative
          else .finite negative (2 ^ 52) (exponent + 1)
        else if 971 < exponent then .infinite negative else .finite negative mantissa exponent := by
  have rounds := roundDiv_rounds
    (scaled numerator denominator (exponentOf numerator denominator)).1
    (scaled_pos numerator positive (exponentOf numerator denominator))
  rw [scaled_value numerator positive] at rounds
  refine ⟨_, _, exponentOf_fits large positive, rounds, ?_⟩
  rw [ofRatio, if_neg large.ne']
  simp only [Nat.pow_eq]
  split
  · rfl
  · rfl

/-- A ratio is rounded to a double nearest to it, unless it is beyond all of them. -/
theorem ofRatio_nearest {negative sign : Bool} {numerator denominator : Nat}
    (positive : 0 < denominator)
    (rounded : ofRatio negative numerator denominator = .finite sign mantissa exponent) :
    Nearest mantissa exponent (numerator / denominator) := by
  obtain rfl | large := Nat.eq_zero_or_pos numerator
  · have zero : ofRatio negative 0 denominator = .finite negative 0 leastExponent := rfl
    rw [zero] at rounded
    cases rounded
    rw [Nat.cast_zero, zero_div]
    exact nearest_zero
  · obtain ⟨place, rough, fits, rounds, given⟩ := exists_rounding negative large positive
    rw [given] at rounded
    by_cases carry : rough = 2 ^ 53
    · rw [if_pos carry] at rounded
      rw [carry] at rounds
      split at rounded
      · cases rounded
      next within =>
          cases rounded
          exact nearest_of_carry fits rounds (not_lt.mp within)
    · rw [if_neg carry] at rounded
      split at rounded
      · cases rounded
      next within =>
          cases rounded
          exact nearest_of_rounds fits rounds carry (not_lt.mp within)

theorem Fits.place_lt (fits : Fits value exponent) (bound : value < 2 ^ 1023) : exponent < 971 := by
  obtain full | least := fits.full
  · have power : (0 : Rat) < 2 ^ exponent := zpow_pos two_pos exponent
    rw [le_div_iff₀ power] at full
    have ordered : (2 : Rat) ^ ((52 : Nat) + exponent : Int) < 2 ^ ((1023 : Nat) : Int) := by
      rw [zpow_add₀ two_ne_zero, zpow_natCast, zpow_natCast]
      exact full.trans_lt bound
    have less := (zpow_lt_zpow_iff_right₀ one_lt_two).mp ordered
    omega
  · omega

theorem exists_ofRatio (negative : Bool) {numerator denominator : Nat} (positive : 0 < denominator)
    (bound : (numerator : Rat) / denominator < 2 ^ 1023) : ∃ mantissa exponent,
      ofRatio negative numerator denominator = .finite negative mantissa exponent := by
  obtain rfl | large := Nat.eq_zero_or_pos numerator
  · exact ⟨0, leastExponent, rfl⟩
  · obtain ⟨place, rough, fits, -, given⟩ := exists_rounding negative large positive
    have within := fits.place_lt bound
    rw [given]
    split
    · rw [if_neg (by omega)]
      exact ⟨_, _, rfl⟩
    · rw [if_neg (by omega)]
      exact ⟨_, _, rfl⟩

/-- A value that a double has is rounded to itself. -/
theorem Nearest.eq_of_representable (nearest : Nearest mantissa exponent value)
    (representable : Representable value) : (mantissa * 2 ^ exponent : Rat) = value := by
  have near := nearest.near value representable
  rw [sub_self, abs_zero] at near
  exact sub_eq_zero.mp (abs_nonpos_iff.mp near)

theorem Nearest.representable (nearest : Nearest mantissa exponent value) :
    Representable (mantissa * 2 ^ exponent) :=
  ⟨mantissa, exponent, nearest.mantissa_lt, nearest.least, nearest.greatest,
    abs_of_nonneg (by positivity)⟩

/-- A double that is not above another one has no larger unit. -/
theorem Nearest.exponent_le {more : Rat} {mantissa2 : Nat} {exponent2 : Int}
    (nearest : Nearest mantissa exponent value) (later : Nearest mantissa2 exponent2 more)
    (ordered : (mantissa * 2 ^ exponent : Rat) ≤ mantissa2 * 2 ^ exponent2) :
    exponent ≤ exponent2 := by
  by_contra larger
  have least := later.least
  have full : (2 : Rat) ^ 52 ≤ mantissa := by
    exact_mod_cast nearest.normal.resolve_right (by omega)
  have above : (mantissa2 * 2 ^ exponent2 : Rat) < mantissa * 2 ^ exponent := by
    calc (mantissa2 * 2 ^ exponent2 : Rat) < 2 ^ 52 * 2 ^ exponent :=
          lt_full later.mantissa_lt (not_le.mp larger)
      _ ≤ mantissa * 2 ^ exponent := by gcongr
  linarith

/-- Of two doubles nearest to one value neither is below the other: both would be even, and the
double behind the lower one would be nearer. -/
theorem Nearest.not_below {mantissa2 : Nat} {exponent2 : Int}
    (nearest : Nearest mantissa exponent value) (also : Nearest mantissa2 exponent2 value) :
    ¬ (mantissa * 2 ^ exponent : Rat) < mantissa2 * 2 ^ exponent2 := by
  intro below
  have tie := le_antisymm (nearest.near _ also.representable) (also.near _ nearest.representable)
  have even := nearest.even _ also.representable below.ne' tie
  have evenAlso := also.even _ nearest.representable below.ne tie.symm
  have ordered := nearest.exponent_le also below.le
  obtain ⟨power, rfl⟩ : ∃ power : Nat, exponent2 = exponent + power :=
    ⟨(exponent2 - exponent).toNat, by omega⟩
  have unit : (0 : Rat) < 2 ^ exponent := zpow_pos two_pos exponent
  have measured : (mantissa2 * 2 ^ (exponent + power) : Rat) =
      (mantissa2 * 2 ^ power : Nat) * 2 ^ exponent := by
    rw [zpow_add₀ two_ne_zero, zpow_natCast]
    push_cast
    ring
  rw [measured] at below tie
  have counted : mantissa < mantissa2 * 2 ^ power := by
    exact_mod_cast lt_of_mul_lt_mul_right below unit.le
  have behind : mantissa + 1 < mantissa2 * 2 ^ power := by
    have even2 : Even (mantissa2 * 2 ^ power) := evenAlso.mul_right _
    rw [Nat.even_iff] at even even2
    omega
  have between : Representable ((mantissa + 1 : Nat) * 2 ^ exponent) := by
    have bound := nearest.mantissa_lt
    rw [Nat.even_iff] at even
    exact ⟨mantissa + 1, exponent, by omega, nearest.least, nearest.greatest,
      abs_of_nonneg (by positivity)⟩
  have near := nearest.near _ between
  have first : (mantissa * 2 ^ exponent : Rat) < (mantissa + 1 : Nat) * 2 ^ exponent := by
    gcongr
    exact Nat.lt_succ_self mantissa
  have last : ((mantissa + 1 : Nat) * 2 ^ exponent : Rat) <
      (mantissa2 * 2 ^ power : Nat) * 2 ^ exponent := by
    gcongr
  obtain same | opposite := abs_eq_abs.mp tie
  · linarith
  · rw [abs_of_neg (by linarith)] at near
    have nearer : |((mantissa + 1 : Nat) * 2 ^ exponent : Rat) - value| <
        -(mantissa * 2 ^ exponent - value) := by
      rw [abs_lt]
      constructor <;> linarith
    linarith

theorem Nearest.unique {mantissa2 : Nat} {exponent2 : Int}
    (nearest : Nearest mantissa exponent value) (also : Nearest mantissa2 exponent2 value) :
    mantissa = mantissa2 ∧ exponent = exponent2 := by
  have same := le_antisymm (not_lt.mp (also.not_below nearest)) (not_lt.mp (nearest.not_below also))
  obtain rfl := le_antisymm (nearest.exponent_le also same.le) (also.exponent_le nearest same.ge)
  have unit : (0 : Rat) < 2 ^ exponent := zpow_pos two_pos exponent
  exact ⟨by exact_mod_cast mul_right_cancel₀ unit.ne' same, rfl⟩

theorem Nearest.mono {more : Rat} {mantissa2 : Nat} {exponent2 : Int}
    (nearest : Nearest mantissa exponent value) (later : Nearest mantissa2 exponent2 more)
    (ordered : value ≤ more) :
    (mantissa * 2 ^ exponent : Rat) ≤ mantissa2 * 2 ^ exponent2 := by
  obtain rfl | less := ordered.eq_or_lt
  · obtain ⟨rfl, rfl⟩ := nearest.unique later
    exact le_rfl
  · have near := nearest.near _ later.representable
    have nearLater := later.near _ nearest.representable
    by_contra crossed
    rw [not_le] at crossed
    -- Each is on the other's side of the middle between the two doubles.
    have squares := sq_le_sq.mpr near
    have squaresLater := sq_le_sq.mpr nearLater
    have product := mul_pos (sub_pos.mpr crossed) (sub_pos.mpr less)
    nlinarith only [squares, squaresLater, product]

end Doubles

end FleetPatch.Binary64
