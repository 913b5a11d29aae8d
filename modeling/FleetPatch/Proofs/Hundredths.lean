import FleetPatch.Number.Shortest
import FleetPatch.Proofs.Blocks
import FleetPatch.Proofs.Rounding
import Mathlib.Data.List.DropRight

/-!
# Doubles nearest to hundredths

Hundredths are so much further apart than doubles of moderate size that the double nearest to one
of them tells which. So the search for the shortest decimal ends with at most two decimal places,
and the text that is written has the value of the hundredth itself.
-/

namespace FleetPatch.Text

set_option autoImplicit false

theorem foldl_value (digits : List Char) (total : Nat) :
    digits.foldl (fun total digit => 10 * total + (digitValue? digit).getD 0) total =
      total * 10 ^ digits.length + digitsValue digits := by
  unfold digitsValue
  induction digits generalizing total with
  | nil => simp
  | cons digit digits ih =>
      rw [List.foldl_cons, List.foldl_cons, ih, ih (10 * 0 + _), List.length_cons, pow_succ]
      ring

theorem digitsValue_append (first second : List Char) :
    digitsValue (first ++ second) =
      digitsValue first * 10 ^ second.length + digitsValue second := by
  rw [digitsValue, List.foldl_append, foldl_value]
  rfl

theorem digitsValue_zeros (count : Nat) : digitsValue (List.replicate count '0') = 0 := by
  induction count with
  | zero => rfl
  | succ count ih =>
      rw [List.replicate_succ']
      rw [digitsValue_append, ih]
      rfl

theorem digitsValue_append_zeros (digits : List Char) (count : Nat) :
    digitsValue (digits ++ List.replicate count '0') = digitsValue digits * 10 ^ count := by
  rw [digitsValue_append, digitsValue_zeros, List.length_replicate, Nat.add_zero]

theorem digitsValue_zeros_append (digits : List Char) (count : Nat) :
    digitsValue (List.replicate count '0' ++ digits) = digitsValue digits := by
  rw [digitsValue_append, digitsValue_zeros, Nat.zero_mul, Nat.zero_add]

theorem digitsValue_toDigits (number : Nat) : digitsValue (Nat.toDigits 10 number) = number := by
  rw [← Nat.toList_repr]
  exact digitsValue_repr number

end FleetPatch.Text

namespace FleetPatch.Binary64

set_option autoImplicit false

section Distances

variable {value : Rat} {mantissa : Nat} {exponent : Int}

theorem Nearest.close (nearest : Nearest mantissa exponent value) (positive : 0 ≤ value)
    (moderate : value < 2 ^ 34) : |(mantissa * 2 ^ exponent : Rat) - value| < 1 / 200 := by
  let steps : Nat := ⌊value * 2 ^ 18⌋₊
  have lower : (steps : Rat) ≤ value * 2 ^ 18 := Nat.floor_le (by positivity)
  have upper : value * 2 ^ 18 < steps + 1 := Nat.lt_floor_add_one _
  have unit : (2 : Rat) ^ (-18 : Int) = 1 / 2 ^ 18 := by norm_num
  have grid : Representable (steps * 2 ^ (-18 : Int)) := by
    refine ⟨steps, -18, ?_, by omega, by omega, abs_of_nonneg (by positivity)⟩
    have small : (steps : Rat) < (2 ^ 53 : Nat) := by
      push_cast
      linarith
    exact_mod_cast small
  have near := nearest.near _ grid
  have off : |(steps * 2 ^ (-18 : Int) : Rat) - value| < 1 / 200 := by
    rw [unit, abs_lt]
    constructor <;> linarith
  exact near.trans_lt off

/-- A double is nearest to one number of hundredths only. -/
theorem Nearest.hundredths_unique {count other : Nat}
    (nearest : Nearest mantissa exponent (count / 100))
    (also : Nearest mantissa exponent (other / 100)) (moderate : (count : Rat) / 100 ≤ 2 ^ 33) :
    other = count := by
  have close := nearest.close (by positivity) (by linarith)
  by_cases bounded : (other : Rat) / 100 < 2 ^ 34
  · have closeAlso := also.close (by positivity) bounded
    rw [abs_lt] at close closeAlso
    have less : (other : Rat) < count + 1 := by linarith
    have more : (count : Rat) < other + 1 := by linarith
    have below : other < count + 1 := by exact_mod_cast less
    have above : count < other + 1 := by exact_mod_cast more
    omega
  · -- The double would be beyond a power of two that is beyond the number.
    rw [not_lt] at bounded
    have power : Representable (2 ^ 34) := by
      refine ⟨1, 34, by norm_num, by omega, by omega, ?_⟩
      rw [abs_of_pos (by positivity)]
      norm_num
    have near := also.near _ power
    rw [abs_lt] at close
    rw [abs_of_nonpos (by linarith), abs_of_nonpos (by linarith)] at near
    linarith

end Distances

section Search

variable {number : Binary64} {top bottom : Nat} {place unit : Int}

theorem neighbour_reads {digits : Nat} (found : neighbour? number top bottom unit = some digits) :
    ofDecimal false digits unit = number := by
  unfold neighbour? at found
  dsimp only at found
  split at found
  next low high =>
      rw [beq_iff_eq] at low high
      split at found
      · cases found
        exact low
      · cases found
        exact high
  next low _ =>
      cases found
      exact beq_iff_eq.mp low
  next _ high =>
      cases found
      exact beq_iff_eq.mp high
  next => cases found

/-- A neighbour is found if one of the two reads back. -/
theorem exists_neighbour {digits : Nat}
    (reads : ofDecimal false digits unit = number)
    (beside : (inUnits top bottom unit).1 / (inUnits top bottom unit).2 = digits ∨
      (inUnits top bottom unit).1 / (inUnits top bottom unit).2 + 1 = digits) :
    (neighbour? number top bottom unit).isSome = true := by
  have back : (ofDecimal false digits unit == number) = true := beq_iff_eq.mpr reads
  unfold neighbour?
  dsimp only
  obtain low | high := beside
  · rw [low, back]
    cases ofDecimal false (digits + 1) unit == number with
    | true => rfl
    | false => rfl
  · rw [high, back]
    cases ofDecimal false ((inUnits top bottom unit).1 / (inUnits top bottom unit).2) unit ==
        number with
    | true => rfl
    | false => rfl

/-- The search ends at the latest with the first unit at which a neighbour is found. -/
theorem shortestFrom_found {target : Nat}
    (found : (neighbour? number top bottom (place - target)).isSome = true) (fuel count : Nat)
    (reached : count ≤ target) (enough : target < count + fuel) :
    place - target ≤ (shortestFrom number top bottom place fuel count).2 ∧
      ofDecimal false (shortestFrom number top bottom place fuel count).1
        (shortestFrom number top bottom place fuel count).2 = number := by
  induction fuel generalizing count with
  | zero => omega
  | succ fuel ih =>
      rw [shortestFrom]
      cases here : neighbour? number top bottom (place - count) with
      | some digits =>
          refine ⟨?_, neighbour_reads here⟩
          dsimp only
          omega
      | none =>
          have later : count ≠ target := by
            rintro rfl
            rw [here] at found
            cases found
          exact ih (count + 1) (by omega) (by omega)

theorem below_iff (positive : 0 < bottom) :
    (if 0 ≤ place then decide (top < bottom * Nat.pow 10 place.toNat)
      else decide (top * Nat.pow 10 (-place).toNat < bottom)) = true ↔
      (top : Rat) / bottom < 10 ^ place := by
  have scale : (0 : Rat) < bottom := by exact_mod_cast positive
  rw [div_lt_iff₀ scale]
  split
  next whole =>
      obtain ⟨power, rfl⟩ := Int.eq_ofNat_of_zero_le whole
      rw [decide_eq_true_eq, Int.toNat_natCast, Nat.pow_eq, zpow_natCast, mul_comm]
      norm_cast
  next negative =>
      obtain ⟨power, rfl⟩ : ∃ power : Nat, place = -power := ⟨(-place).toNat, by omega⟩
      have positivePower : (0 : Rat) < 10 ^ power := by positivity
      rw [decide_eq_true_eq, neg_neg, Int.toNat_natCast, Nat.pow_eq, zpow_neg, zpow_natCast,
        inv_mul_eq_div, lt_div_iff₀ positivePower]
      norm_cast

/-- The search upwards stops below a power of ten that is large enough, or with its fuel. -/
theorem placeFrom_spec (top : Nat) (positive : 0 < bottom) (fuel : Nat) (start : Int) :
    start ≤ placeFrom top bottom fuel start ∧ placeFrom top bottom fuel start ≤ start + fuel ∧
      (placeFrom top bottom fuel start = start + fuel ∨
        (top : Rat) / bottom < 10 ^ placeFrom top bottom fuel start) := by
  induction fuel generalizing start with
  | zero =>
      rw [placeFrom]
      refine ⟨le_rfl, ?_, .inl ?_⟩
      · omega
      · omega
  | succ fuel ih =>
      by_cases below : (top : Rat) / bottom < 10 ^ start
      · have here : placeFrom top bottom (fuel + 1) start = start :=
          if_pos ((below_iff positive).mpr below)
        rw [here]
        exact ⟨le_rfl, by omega, .inr below⟩
      · have next : placeFrom top bottom (fuel + 1) start = placeFrom top bottom fuel (start + 1) :=
          if_neg (mt (below_iff positive).mp below)
        obtain ⟨lower, upper, stopped⟩ := ih (start + 1)
        rw [next]
        refine ⟨by omega, by omega, stopped.imp_left fun spent => ?_⟩
        omega

theorem placeOf_bounds (large : 0 < top) (positive : 0 < bottom)
    (lower : 1 / 100 ≤ (top : Rat) / bottom) (upper : (top : Rat) / bottom < 2 ^ 34) :
    -1 ≤ placeOf top bottom ∧ placeOf top bottom ≤ 15 := by
  obtain ⟨above, below⟩ := ratio_between large positive
  have least : (2 : Rat) ^ (-7 : Int) < 2 ^ ((Nat.log2 top : Int) - Nat.log2 bottom + 1) := by
    have small : (2 : Rat) ^ (-7 : Int) < 1 / 100 := by norm_num
    exact (small.trans_le lower).trans below
  have most : (2 : Rat) ^ ((Nat.log2 top : Int) - Nat.log2 bottom - 1) < 2 ^ (34 : Int) := by
    have power : (2 : Rat) ^ (34 : Int) = 2 ^ 34 := by norm_num
    rw [power]
    exact above.trans upper
  rw [zpow_lt_zpow_iff_right₀ one_lt_two] at least most
  obtain ⟨begun, ended, stopped⟩ := placeFrom_spec top positive 4
    (((Nat.log2 top : Int) - Nat.log2 bottom) * 30103 / 100000 - 1)
  unfold placeOf
  dsimp only
  refine ⟨?_, by omega⟩
  obtain spent | bounded := stopped
  · omega
  · have tenth : (10 : Rat) ^ (-2 : Int) < 10 ^ placeFrom top bottom 4
        (((Nat.log2 top : Int) - Nat.log2 bottom) * 30103 / 100000 - 1) := by
      have power : (10 : Rat) ^ (-2 : Int) = 1 / 100 := by norm_num
      rw [power]
      exact lower.trans_lt bounded
    rw [zpow_lt_zpow_iff_right₀ (by norm_num)] at tenth
    omega

end Search

section Shortest

variable {count mantissa : Nat} {exponent : Int}

/-- Decimals that are neither zero nor far off are read as ratios. -/
theorem ofDecimal_nearest {digits : Nat} {unit : Int} {sign : Bool} (inhabited : mantissa ≠ 0)
    (read : ofDecimal false digits unit = .finite sign mantissa exponent) :
    Nearest mantissa exponent (digits * 10 ^ unit) := by
  unfold ofDecimal at read
  dsimp only at read
  split at read
  · cases read
    exact absurd rfl inhabited
  split at read
  · cases read
  split at read
  · cases read
    exact absurd rfl inhabited
  split at read
  next whole =>
      obtain ⟨power, rfl⟩ := Int.eq_ofNat_of_zero_le whole
      have nearest := ofRatio_nearest Nat.one_pos read
      rw [Int.toNat_natCast, Nat.pow_eq, Nat.cast_one, div_one] at nearest
      rw [zpow_natCast]
      exact_mod_cast nearest
  next negative =>
      obtain ⟨power, rfl⟩ : ∃ power : Nat, unit = -power := ⟨(-unit).toNat, by omega⟩
      have nearest := ofRatio_nearest (Nat.pow_pos (by omega)) read
      rw [neg_neg, Int.toNat_natCast] at nearest
      rw [zpow_neg, zpow_natCast, ← div_eq_mul_inv]
      exact_mod_cast nearest

theorem ofDecimal_hundredths (positive : 0 < count) (bound : count < 10 ^ 13) :
    ofDecimal false count (-2) = ofRatio false count 100 := by
  have length : decimalLength count ≤ 13 := by
    rw [decimalLength, if_neg positive.ne', Nat.length_toDigits_le_iff (by omega) (by omega)]
    exact bound
  unfold ofDecimal
  dsimp only
  rw [if_neg positive.ne', if_neg (by omega), if_neg (by omega), if_neg (by omega)]
  rfl

theorem hundredth_le (positive : 0 < count) (bound : (count : Rat) / 100 < 2 ^ 34)
    (rounded : ofRatio false count 100 = .finite false mantissa exponent) :
    1 / 100 ≤ (mantissa * 2 ^ exponent : Rat) := by
  obtain rfl | several : count = 1 ∨ 2 ≤ count := by omega
  · have one : ofRatio false 1 100 = .finite false 5764607523034235 (-59) := by decide +kernel
    rw [one] at rounded
    cases rounded
    norm_num
  · have nearest := ofRatio_nearest (by omega) rounded
    have close := nearest.close (by positivity) (by exact_mod_cast bound)
    have counted : (2 : Rat) ≤ count := by exact_mod_cast several
    rw [abs_lt] at close
    push_cast at close
    linarith

theorem ratio_div (mantissa : Nat) (exponent : Int) :
    ((ratio mantissa exponent).1 : Rat) / (ratio mantissa exponent).2 =
      mantissa * 2 ^ exponent := by
  have scale : (0 : Rat) < (ratio mantissa exponent).2 := by
    exact_mod_cast ratio_pos mantissa exponent
  rw [← ratio_value, mul_div_assoc, div_self scale.ne', mul_one]

theorem mantissa_ne_zero (positive : 0 < count) (bound : (count : Rat) / 100 < 2 ^ 34)
    (rounded : ofRatio false count 100 = .finite false mantissa exponent) : mantissa ≠ 0 := by
  have lower := hundredth_le positive bound rounded
  rintro rfl
  norm_num at lower

theorem lt_of_hundredths (bound : (count : Rat) / 100 ≤ 2 ^ 33) : count < 10 ^ 13 := by
  have less : (count : Rat) < (10 ^ 13 : Nat) := by
    push_cast
    linarith
  exact_mod_cast less

/-- Rounding to hundredths is rounding of the exact value. -/
theorem roundToHundredths_eq (negative : Bool)
    (rounds : RoundsTo (100 * (mantissa * 2 ^ exponent)) count) :
    roundToHundredths (.finite negative mantissa exponent) = ofRatio negative count 100 := by
  have measured : ((100 * (ratio mantissa exponent).1 : Nat) : Rat) / (ratio mantissa exponent).2 =
      100 * (mantissa * 2 ^ exponent) := by
    rw [← ratio_div, Nat.cast_mul, Nat.cast_ofNat, mul_div_assoc]
  rw [← measured] at rounds
  have rounded := (roundDiv_eq_iff _ (ratio_pos mantissa exponent)).mpr rounds
  exact congrArg (ofRatio negative · 100) rounded

/-- One of the neighbours among the hundredths is the number of hundredths itself. -/
theorem hundredths_beside (bound : (count : Rat) / 100 < 2 ^ 34)
    (rounded : ofRatio false count 100 = .finite false mantissa exponent) :
    (ratio mantissa exponent).1 * 100 / (ratio mantissa exponent).2 = count ∨
      (ratio mantissa exponent).1 * 100 / (ratio mantissa exponent).2 + 1 = count := by
  have positive := ratio_pos mantissa exponent
  have nearest := ofRatio_nearest (by omega) rounded
  have close := nearest.close (by positivity) (by exact_mod_cast bound)
  have measured := quotient_lt_iff ((ratio mantissa exponent).1 * 100) positive
  have value : (((ratio mantissa exponent).1 * 100 : Nat) : Rat) / (ratio mantissa exponent).2 =
      mantissa * 2 ^ exponent * 100 := by
    rw [← ratio_div]
    push_cast
    ring
  rw [value] at measured
  generalize (ratio mantissa exponent).1 * 100 / (ratio mantissa exponent).2 = low at measured ⊢
  rw [abs_lt] at close
  push_cast at close
  have upper : low < count + 1 := by
    rw [measured]
    push_cast
    linarith
  have lower : ¬ low < count - 1 := by
    rw [measured, not_lt]
    obtain rfl | several := Nat.eq_zero_or_pos count
    · positivity
    · rw [Nat.cast_pred several]
      linarith
  omega

/-- The digits and the unit at which the search for the shortest decimal ends. -/
def shortest (mantissa : Nat) (exponent : Int) : Nat × Int :=
  shortestFrom (.finite false mantissa exponent) (ratio mantissa exponent).1
    (ratio mantissa exponent).2
    (placeOf (ratio mantissa exponent).1 (ratio mantissa exponent).2) 17 1

theorem ratio_top_pos (inhabited : mantissa ≠ 0) : 0 < (ratio mantissa exponent).1 := by
  unfold ratio
  split
  · exact Nat.mul_pos (Nat.pos_of_ne_zero inhabited) (Nat.pow_pos Nat.two_pos)
  · exact Nat.pos_of_ne_zero inhabited

/-- The shortest decimal of a double nearest to hundredths has at most two places, and its value is
the number of hundredths. -/
theorem shortest_of_hundredths (positive : 0 < count) (bound : (count : Rat) / 100 ≤ 2 ^ 33)
    (rounded : ofRatio false count 100 = .finite false mantissa exponent) :
    ∃ zeros : Nat, (shortest mantissa exponent).2 = zeros - 2 ∧
      (shortest mantissa exponent).1 * 10 ^ zeros = count := by
  have wider : (count : Rat) / 100 < 2 ^ 34 := by linarith
  have counted := lt_of_hundredths bound
  have nearest := ofRatio_nearest (by omega) rounded
  have lower := hundredth_le positive wider rounded
  have close := nearest.close (by positivity) (by exact_mod_cast wider)
  rw [abs_lt] at close
  push_cast at nearest close
  have inhabited := mantissa_ne_zero positive wider rounded
  obtain ⟨least, most⟩ := placeOf_bounds (ratio_top_pos inhabited) (ratio_pos mantissa exponent)
    (by rwa [ratio_div]) (by rw [ratio_div]; linarith)
  -- At the unit of hundredths the number of hundredths itself reads back.
  obtain ⟨target, placed⟩ : ∃ target : Nat,
      placeOf (ratio mantissa exponent).1 (ratio mantissa exponent).2 - target = -2 :=
    ⟨(placeOf (ratio mantissa exponent).1 (ratio mantissa exponent).2 + 2).toNat, by omega⟩
  have reads := (ofDecimal_hundredths positive counted).trans rounded
  have found := exists_neighbour reads (hundredths_beside wider rounded)
  rw [← placed] at found
  obtain ⟨unit_ge, back⟩ := shortestFrom_found found 17 1 (by omega) (by omega)
  have bounded : -2 ≤ (shortest mantissa exponent).2 := by
    rw [← placed]
    exact unit_ge
  obtain ⟨zeros, unit⟩ : ∃ zeros : Nat, (shortest mantissa exponent).2 = zeros - 2 :=
    ⟨((shortest mantissa exponent).2 + 2).toNat, by omega⟩
  refine ⟨zeros, unit, nearest.hundredths_unique ?_ bound⟩
  have also := ofDecimal_nearest inhabited back
  have value : ((shortest mantissa exponent).1 : Rat) * 10 ^ (shortest mantissa exponent).2 =
      ((shortest mantissa exponent).1 * 10 ^ zeros : Nat) / 100 := by
    have hundred : (10 : Rat) ^ (2 : Int) = 100 := by norm_num
    rw [unit, zpow_sub₀ (by norm_num), zpow_natCast, hundred]
    push_cast
    ring
  rw [← value]
  exact also

end Shortest

section Texts

open Text

theorem withoutEndZeros_parts (digits : List Char) :
    digits = (withoutEndZeros digits).1 ++ List.replicate (withoutEndZeros digits).2 '0' := by
  have parts : (withoutEndZeros digits).1 ++ digits.rtakeWhile (· == '0') = digits :=
    List.rdropWhile_append_rtakeWhile
  have zeros : digits.rtakeWhile (· == '0') =
      List.replicate (digits.rtakeWhile (· == '0')).length '0' := by
    rw [List.eq_replicate_iff]
    refine ⟨rfl, fun digit member => ?_⟩
    have zero := List.mem_rtakeWhile_imp member
    exact beq_iff_eq.mp zero
  have counted : (withoutEndZeros digits).2 = (digits.rtakeWhile (· == '0')).length := by
    have lengths := congrArg List.length parts
    rw [List.length_append] at lengths
    have length : (withoutEndZeros digits).2 =
        digits.length - (withoutEndZeros digits).1.length := rfl
    omega
  rw [counted, ← zeros, parts]

/-- A decimal with one or two places behind the point whose value is a number of hundredths. -/
def TwoDecimals (hundredths : Nat) (text : List Char) : Prop :=
  ∃ whole decimals, text = whole ++ '.' :: decimals ∧ whole ≠ [] ∧ decimals ≠ [] ∧
    (∀ digit ∈ whole ++ decimals, digit.isDigit = true) ∧
    ∃ more, decimals.length + more = 2 ∧ digitsValue (whole ++ decimals) * 10 ^ more = hundredths

theorem isDigit_zeros (count : Nat) : ∀ digit ∈ List.replicate count '0', digit.isDigit = true := by
  intro digit member
  rw [List.eq_of_mem_replicate member]
  rfl

theorem positional_twoDecimals {digits : List Char} {place : Int} {zeros : Nat}
    (inhabited : digits ≠ []) (plain : ∀ digit ∈ digits, digit.isDigit = true)
    (last : (digits.length : Int) + zeros = place + 2) :
    TwoDecimals (digitsValue digits * 10 ^ zeros) (positional digits place) := by
  have counted := List.length_pos_of_ne_nil inhabited
  unfold positional
  split
  next early =>
      refine ⟨['0'], List.replicate (-place).toNat '0' ++ digits, rfl, List.cons_ne_nil _ _,
        List.append_ne_nil_of_right_ne_nil _ inhabited, ?_, zeros, ?_, ?_⟩
      · rw [List.forall_mem_append, List.forall_mem_append]
        exact ⟨isDigit_zeros 1, isDigit_zeros _, plain⟩
      · rw [List.length_append, List.length_replicate]
        omega
      · have lead : digitsValue ['0'] = 0 := rfl
        rw [digitsValue_append, lead, Nat.zero_mul, Nat.zero_add, digitsValue_zeros_append]
  next later =>
      split
      next short =>
          refine ⟨digits ++ List.replicate (place.toNat - digits.length) '0', ['0'], rfl,
            List.append_ne_nil_of_left_ne_nil inhabited _, List.cons_ne_nil _ _, ?_, 1, rfl, ?_⟩
          · rw [List.forall_mem_append, List.forall_mem_append]
            exact ⟨⟨plain, isDigit_zeros _⟩, isDigit_zeros 1⟩
          · have spread : zeros = place.toNat - digits.length + 1 + 1 := by omega
            have tenths : digitsValue (digits ++ List.replicate (place.toNat - digits.length) '0' ++
                ['0']) = digitsValue digits * 10 ^ (place.toNat - digits.length) * 10 ^ 1 := by
              rw [← digitsValue_append_zeros, ← digitsValue_append_zeros _ 1]
              rfl
            rw [tenths, spread, pow_succ, pow_succ]
            ring
      next long =>
          have shape : digits.take place.toNat ++ ['.'] ++ digits.drop place.toNat =
              digits.take place.toNat ++ '.' :: digits.drop place.toNat :=
            List.append_assoc _ _ _
          refine ⟨digits.take place.toNat, digits.drop place.toNat, shape, ?_, ?_, ?_, zeros, ?_,
            ?_⟩
          · rw [← List.length_pos_iff, List.length_take]
            omega
          · rw [← List.length_pos_iff, List.length_drop]
            omega
          · rw [List.take_append_drop]
            exact plain
          · rw [List.length_drop]
            omega
          · rw [List.take_append_drop]

theorem length_toDigits_add_le {value zeros bound : Nat} (positive : 0 < value)
    (less : value * 10 ^ zeros < 10 ^ bound) : (Nat.toDigits 10 value).length + zeros ≤ bound := by
  have short : zeros < bound := by
    have power : 10 ^ zeros < 10 ^ bound :=
      (Nat.le_mul_of_pos_left (10 ^ zeros) positive).trans_lt less
    exact (Nat.pow_lt_pow_iff_right (by omega)).mp power
  have parted : 10 ^ (bound - zeros) * 10 ^ zeros = 10 ^ bound := by
    rw [← pow_add, Nat.sub_add_cancel short.le]
  have small : value < 10 ^ (bound - zeros) := by
    rw [← parted] at less
    exact Nat.lt_of_mul_lt_mul_right less
  have length := (Nat.length_toDigits_le_iff (by omega) (by omega)).mpr small
  omega

theorem withoutEndZeros_toDigits {value : Nat} (large : 0 < value) :
    (withoutEndZeros (Nat.toDigits 10 value)).1 ≠ [] ∧
      (∀ digit ∈ (withoutEndZeros (Nat.toDigits 10 value)).1, digit.isDigit = true) ∧
      digitsValue (withoutEndZeros (Nat.toDigits 10 value)).1 *
        10 ^ (withoutEndZeros (Nat.toDigits 10 value)).2 = value ∧
      (withoutEndZeros (Nat.toDigits 10 value)).1.length +
        (withoutEndZeros (Nat.toDigits 10 value)).2 = (Nat.toDigits 10 value).length := by
  have parts := withoutEndZeros_parts (Nat.toDigits 10 value)
  have plain : ∀ digit ∈ Nat.toDigits 10 value, digit.isDigit = true :=
    fun digit => Nat.isDigit_of_mem_toDigits (by decide) (by decide)
  have read := digitsValue_toDigits value
  generalize (withoutEndZeros (Nat.toDigits 10 value)).1 = kept at parts ⊢
  generalize (withoutEndZeros (Nat.toDigits 10 value)).2 = cut at parts ⊢
  rw [parts] at plain read
  rw [digitsValue_append_zeros] at read
  refine ⟨?_, fun digit member => plain digit (List.mem_append_left _ member), read, ?_⟩
  · rintro rfl
    have none : digitsValue [] = 0 := rfl
    rw [none, Nat.zero_mul] at read
    omega
  · rw [parts, List.length_append, List.length_replicate]

theorem magnitudeText_twoDecimals {hundredths zeros mantissa : Nat} {exponent : Int}
    (inhabited : mantissa ≠ 0) (unit : (shortest mantissa exponent).2 = zeros - 2)
    (value : (shortest mantissa exponent).1 * 10 ^ zeros = hundredths) (positive : 0 < hundredths)
    (bound : hundredths < 10 ^ 13) :
    TwoDecimals hundredths (magnitudeText plainLayout mantissa exponent) := by
  have digits : shortestDigits mantissa exponent =
      ((withoutEndZeros (Nat.toDigits 10 (shortest mantissa exponent).1)).1,
        ((withoutEndZeros (Nat.toDigits 10 (shortest mantissa exponent).1)).1.length : Int) +
          (shortest mantissa exponent).2 +
          (withoutEndZeros (Nat.toDigits 10 (shortest mantissa exponent).1)).2) := rfl
  rw [magnitudeText, if_neg inhabited, digits, unit]
  generalize (shortest mantissa exponent).1 = number at value ⊢
  subst value
  have large : 0 < number := Nat.pos_of_mul_pos_right positive
  obtain ⟨kept, plain, read, length⟩ := withoutEndZeros_toDigits large
  have least : 0 < (Nat.toDigits 10 number).length := Nat.length_toDigits_pos
  have most := length_toDigits_add_le large bound
  generalize (withoutEndZeros (Nat.toDigits 10 number)).1 = front at kept plain read length ⊢
  generalize (withoutEndZeros (Nat.toDigits 10 number)).2 = cut at read length ⊢
  have leastPlace : plainLayout.leastPlace = -3 := rfl
  have greatestPlace : plainLayout.greatestPlace = 16 := rfl
  dsimp only
  rw [if_pos (by omega), ← read, mul_assoc, ← pow_add]
  exact positional_twoDecimals kept plain (by push_cast; ring)

theorem text_twoDecimals {hundredths mantissa : Nat} {exponent : Int}
    (bound : (hundredths : Rat) / 100 ≤ 2 ^ 33)
    (rounded : ofRatio false hundredths 100 = .finite false mantissa exponent) :
    TwoDecimals hundredths (Binary64.finite false mantissa exponent).text.toList := by
  have signed : (Binary64.finite false mantissa exponent).text.toList =
      magnitudeText plainLayout mantissa exponent := String.toList_ofList
  rw [signed]
  obtain rfl | positive := Nat.eq_zero_or_pos hundredths
  · have zero : ofRatio false 0 100 = .finite false 0 leastExponent := rfl
    rw [zero] at rounded
    cases rounded
    exact ⟨['0'], ['0'], rfl, List.cons_ne_nil _ _, List.cons_ne_nil _ _, isDigit_zeros 2, 1, rfl,
      rfl⟩
  · obtain ⟨zeros, unit, value⟩ := shortest_of_hundredths positive bound rounded
    exact magnitudeText_twoDecimals (mantissa_ne_zero positive (by linarith) rounded) unit value
      positive (lt_of_hundredths bound)

end Texts

end FleetPatch.Binary64
