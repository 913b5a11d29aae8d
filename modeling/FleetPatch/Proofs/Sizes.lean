import FleetPatch.Json.Writer
import FleetPatch.Proofs.Hundredths
import FleetPatch.Windows.AvailableUpdate

/-!
# Sizes in megabytes

A size is divided by a power of two, so up to `2 ^ 53` bytes the quotient is exact and only the
hundredth is rounded. What is reported is the double nearest to it, which is written with the
digits of the hundredth.
-/

namespace FleetPatch.Windows.AvailableUpdate

open Binary64

set_option autoImplicit false

variable {update : AvailableUpdate} {size : Nat}

theorem megabyte_eq : (megabyte : Rat) = 2 ^ 20 := by
  norm_num [megabyte]

theorem representable_megabytes (bound : size ≤ 2 ^ 53) :
    Representable ((size : Rat) / megabyte) := by
  have unit : (2 : Rat) ^ 20 = 2 ^ (20 : Int) := by norm_num
  rw [megabyte_eq, unit]
  obtain less | rfl := bound.lt_or_eq
  · refine ⟨size, -20, less, by omega, by omega, ?_⟩
    rw [abs_of_nonneg (by positivity), zpow_neg, div_eq_mul_inv]
  · refine ⟨2 ^ 52, -19, by norm_num, by omega, by omega, ?_⟩
    norm_num

theorem exists_quotient (bound : size ≤ 2 ^ 53) : ∃ mantissa exponent,
    divide? (size : Int) megabyte = some (.finite false mantissa exponent) ∧
      (mantissa * 2 ^ exponent : Rat) = size / megabyte := by
  have positive : 0 < megabyte := by decide
  have scale : (1 : Rat) ≤ megabyte := by exact_mod_cast positive
  have counted : (size : Rat) ≤ 2 ^ 53 := by exact_mod_cast bound
  have moderate : (size : Rat) / megabyte < 2 ^ 1023 := by
    calc (size : Rat) / megabyte ≤ size := div_le_self (by positivity) scale
      _ ≤ 2 ^ 53 := counted
      _ < 2 ^ 1023 := pow_lt_pow_right₀ one_lt_two (by omega)
  obtain ⟨mantissa, exponent, divided⟩ := exists_ofRatio false positive moderate
  have nearest := ofRatio_nearest positive divided
  refine ⟨mantissa, exponent, ?_, nearest.eq_of_representable (representable_megabytes bound)⟩
  have unsigned : decide ((size : Int) < 0) = false := decide_eq_false (by omega)
  rw [divide?, unsigned, Int.natAbs_natCast, divided]

/-- The size of an update in megabytes: the nearest number of hundredths, the even one at a tie, as
the nearest double. It is reported with the digits of the hundredths. -/
structure Sized (update : AvailableUpdate) (size hundredths mantissa : Nat) (exponent : Int) :
    Prop where
  given : update.sizeBytes = some (size : Int)
  rounded : RoundsTo (100 * (size / 2 ^ 20)) hundredths
  nearest : Nearest mantissa exponent (hundredths / 100)
  answered : update.sizeMegabytes = .ok (some (.finite false mantissa exponent))
  reported : ∃ members, update.toJson = .ok (.obj members) ∧
    Json.member? "size_mb" members = some (.real (.finite false mantissa exponent)) ∧
    TwoDecimals hundredths (Json.written (.real (.finite false mantissa exponent))).toList

theorem toJson_of_answered {number : Binary64}
    (answered : update.sizeMegabytes = .ok (some number)) :
    ∃ members, update.toJson = .ok (.obj members) ∧
      Json.member? "size_mb" members = some (.real number) := by
  rw [toJson, answered]
  exact ⟨_, rfl, rfl⟩

theorem Sized.mono {later : AvailableUpdate} {more hundredths hundredths2 mantissa mantissa2 : Nat}
    {exponent exponent2 : Int} (sized : Sized update size hundredths mantissa exponent)
    (larger : Sized later more hundredths2 mantissa2 exponent2) (ordered : size ≤ more) :
    (mantissa * 2 ^ exponent : Rat) ≤ mantissa2 * 2 ^ exponent2 := by
  have counted : (size : Rat) ≤ more := by exact_mod_cast ordered
  have measured : hundredths ≤ hundredths2 := sized.rounded.mono larger.rounded (by gcongr)
  have compared : (hundredths : Rat) ≤ hundredths2 := by exact_mod_cast measured
  exact sized.nearest.mono larger.nearest (by gcongr)

theorem exists_hundredths (bound : size ≤ 2 ^ 53) : ∃ hundredths : Nat,
    RoundsTo (100 * (size / 2 ^ 20)) hundredths ∧ (hundredths : Rat) / 100 ≤ 2 ^ 33 := by
  have rounds := roundDiv_rounds (100 * size) (Nat.pow_pos Nat.two_pos : 0 < 2 ^ 20)
  push_cast at rounds
  rw [mul_div_assoc] at rounds
  have most := roundsTo_self (100 * 2 ^ 33)
  push_cast at most
  have counted : (size : Rat) ≤ 2 ^ 53 := by exact_mod_cast bound
  have ordered := rounds.mono most (by linarith)
  have limited : ((roundDiv (100 * size) (2 ^ 20) : Nat) : Rat) ≤ (100 * 2 ^ 33 : Nat) := by
    exact_mod_cast ordered
  push_cast at limited
  exact ⟨_, rounds, by linarith⟩

theorem exists_sized (given : update.sizeBytes = some (size : Int)) (bound : size ≤ 2 ^ 53) :
    ∃ hundredths mantissa exponent, Sized update size hundredths mantissa exponent := by
  obtain ⟨whole, place, divided, value⟩ := exists_quotient bound
  obtain ⟨hundredths, rounded, limited⟩ := exists_hundredths bound
  have moderate : (hundredths : Rat) / (100 : Nat) < 2 ^ 1023 := by
    rw [Nat.cast_ofNat]
    exact limited.trans_lt (pow_lt_pow_right₀ one_lt_two (by omega))
  obtain ⟨mantissa, exponent, nearest⟩ := exists_ofRatio false (by omega) moderate
  have answered : update.sizeMegabytes = .ok (some (.finite false mantissa exponent)) := by
    rw [← megabyte_eq, ← value] at rounded
    rw [sizeMegabytes, given]
    dsimp only
    rw [divided]
    dsimp only
    rw [roundToHundredths_eq false rounded, nearest]
  obtain ⟨members, reported, found⟩ := toJson_of_answered answered
  refine ⟨hundredths, mantissa, exponent, given, rounded, ?_, answered, members, reported, found,
    ?_⟩
  · exact_mod_cast ofRatio_nearest (by omega) nearest
  · rw [Json.written]
    exact text_twoDecimals limited nearest

/-- Every size up to `2 ^ 53` bytes is reported as its nearest hundredth of a megabyte, with two
decimals at most, and larger sizes are not reported as less. -/
theorem sizes_exact (update : AvailableUpdate) (size : Nat)
    (given : update.sizeBytes = some (size : Int)) (bound : size ≤ 2 ^ 53) :
    ∃ hundredths mantissa exponent, Sized update size hundredths mantissa exponent ∧
      ∀ later more hundredths2 mantissa2 exponent2,
        Sized later more hundredths2 mantissa2 exponent2 → size ≤ more →
          (mantissa * 2 ^ exponent : Rat) ≤ mantissa2 * 2 ^ exponent2 := by
  obtain ⟨hundredths, mantissa, exponent, sized⟩ := exists_sized given bound
  exact ⟨hundredths, mantissa, exponent, sized,
    fun _ _ _ _ _ later ordered => sized.mono later ordered⟩

/-- An eighth of a megabyte is 12.5 hundredths, which go to the even twelve. -/
theorem sizes_exact_eighth : ∃ mantissa exponent,
    Sized { kbId := none, title := .null, sizeBytes := some 131072, severity := .null,
            isDownloaded := false, categories := [] } 131072 12 mantissa exponent := by
  obtain ⟨hundredths, mantissa, exponent, sized, -⟩ := sizes_exact
    { kbId := none, title := .null, sizeBytes := some 131072, severity := .null,
      isDownloaded := false, categories := [] } 131072 rfl (by norm_num)
  have tie : RoundsTo (100 * ((131072 : Nat) / 2 ^ 20)) 12 := by
    refine ⟨?_, fun _ => ⟨6, rfl⟩⟩
    norm_num
  obtain rfl := sized.rounded.unique tie
  exact ⟨mantissa, exponent, sized⟩

end FleetPatch.Windows.AvailableUpdate
