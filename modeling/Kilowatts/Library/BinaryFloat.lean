import Kilowatts.Library.Decimal
import Mathlib.Data.Int.Log

/-!
The numbers of a binary floating-point format, and rounding to them.
-/

/-- Significands of `precision` bits, in units of at least `2 ^ minExponent`. All numbers are
below `2 ^ maxExponent`. -/
structure BinaryFormat where
  precision : Nat
  minExponent : Int
  maxExponent : Int
  precision_pos : 0 < precision

namespace BinaryFormat

def binary32 : BinaryFormat := ⟨24, -149, 128, by decide⟩

variable (format : BinaryFormat)

def Representable (value : Rat) : Prop :=
  (∃ (significand : Nat) (exponent : Int),
    significand < 2 ^ format.precision ∧ format.minExponent ≤ exponent ∧ |value| = significand * 2 ^ exponent) ∧
  |value| < 2 ^ format.maxExponent

/-- The exponent of the last bit that a number of this size keeps. -/
def unitExponent (value : Rat) : Int := max (Int.log 2 |value| + 1 - format.precision) format.minExponent

def roundedMagnitude (value : Rat) : Rat :=
  (Decimal.roundHalfEven (|value| / 2 ^ format.unitExponent value) : Rat) * 2 ^ format.unitExponent value

/-- The nearest number of the format, and of two the one with an even significand. There is none
if it would be out of range. -/
def nearest (value : Rat) : Option Rat :=
  if format.roundedMagnitude value < 2 ^ format.maxExponent then
    some (if value < 0 then -format.roundedMagnitude value else format.roundedMagnitude value)
  else none

variable {format} {value : Rat}

theorem abs_lt_two_zpow (value : Rat) : |value| < 2 ^ (Int.log 2 |value| + 1) := by
  have hlog := Int.lt_zpow_succ_log_self (by decide : 1 < (2 : Nat)) |value|
  rwa [Nat.cast_ofNat] at hlog

/-- A number of the format is a multiple of its own unit. -/
theorem roundedMagnitude_of_representable (hrepresentable : format.Representable value) :
    format.roundedMagnitude value = |value| := by
  obtain ⟨⟨significand, exponent, hsignificand, hexponent, habs⟩, -⟩ := hrepresentable
  have hunit : (2 : Rat) ^ format.unitExponent value ≠ 0 := zpow_ne_zero _ (by decide)
  suffices hwhole : ∃ multiple : Nat, |value| / 2 ^ format.unitExponent value = multiple by
    obtain ⟨multiple, hmultiple⟩ := hwhole
    rw [roundedMagnitude, hmultiple, Decimal.roundHalfEven_natCast, ← hmultiple, div_mul_cancel₀ _ hunit]
  by_cases hzero : significand = 0
  · exact ⟨0, by rw [habs, hzero, Nat.cast_zero, zero_mul, zero_div]⟩
  have hpos : 0 < |value| := by
    rw [habs]
    exact mul_pos (Nat.cast_pos.mpr (Nat.pos_of_ne_zero hzero)) (zpow_pos (by decide) _)
  have hlog : Int.log 2 |value| < format.precision + exponent := by
    rw [← Int.lt_zpow_iff_log_lt (by decide) hpos, Nat.cast_ofNat, habs, zpow_add₀ (by decide), zpow_natCast]
    exact mul_lt_mul_of_pos_right (by exact_mod_cast hsignificand) (zpow_pos (by decide) _)
  have hle : format.unitExponent value ≤ exponent := max_le (by omega) hexponent
  obtain ⟨shift, hshift⟩ := Int.le.dest hle
  refine ⟨significand * 2 ^ shift, ?_⟩
  rw [div_eq_iff hunit, habs, ← hshift, zpow_add₀ (by decide), zpow_natCast, Nat.cast_mul, Nat.cast_pow,
    Nat.cast_ofNat]
  ring

theorem nearest_of_representable (hrepresentable : format.Representable value) : format.nearest value = some value := by
  rw [nearest, roundedMagnitude_of_representable hrepresentable, if_pos hrepresentable.2]
  by_cases hnegative : value < 0
  · rw [if_pos hnegative, abs_of_neg hnegative, neg_neg]
  · rw [if_neg hnegative, abs_of_nonneg (not_lt.mp hnegative)]

/-- Rounding may carry into one more bit, and then the significand is even. -/
theorem exists_significand (format : BinaryFormat) (value : Rat) :
    ∃ (significand : Nat) (exponent : Int), significand < 2 ^ format.precision ∧ format.minExponent ≤ exponent ∧
      format.roundedMagnitude value = significand * 2 ^ exponent := by
  have hmin : format.minExponent ≤ format.unitExponent value := le_max_right _ _
  have hscaled : |value| / 2 ^ format.unitExponent value < (2 : Rat) ^ format.precision := by
    rw [div_lt_iff₀ (zpow_pos (by decide) _), ← zpow_natCast, ← zpow_add₀ (by decide)]
    refine (abs_lt_two_zpow value).trans_le (zpow_le_zpow_right₀ (by decide) ?_)
    have hle : Int.log 2 |value| + 1 - format.precision ≤ format.unitExponent value := le_max_left _ _
    omega
  have hle : Decimal.roundHalfEven (|value| / 2 ^ format.unitExponent value) ≤ 2 ^ format.precision := by
    have hnear := (abs_le.mp (Decimal.abs_roundHalfEven_sub_le
      (div_nonneg (abs_nonneg value) (zpow_pos (by decide : (0 : Rat) < 2) (format.unitExponent value)).le))).2
    have hlt : (Decimal.roundHalfEven (|value| / 2 ^ format.unitExponent value) : Rat) <
        ((2 ^ format.precision + 1 : Nat) : Rat) := by
      push_cast
      linarith
    exact Nat.le_of_lt_succ (Nat.cast_lt.mp hlt)
  obtain hlt | heq := Nat.lt_or_eq_of_le hle
  · exact ⟨_, _, hlt, hmin, rfl⟩
  · refine ⟨1, format.unitExponent value + format.precision, Nat.one_lt_two_pow format.precision_pos.ne', by omega, ?_⟩
    rw [roundedMagnitude, heq, zpow_add₀ (by decide), zpow_natCast]
    push_cast
    ring

theorem representable_of_nearest {rounded : Rat} (hnearest : format.nearest value = some rounded) :
    format.Representable rounded := by
  obtain ⟨hrange, hrounded⟩ := Option.ite_none_right_eq_some.mp hnearest
  have hnonneg : 0 ≤ format.roundedMagnitude value :=
    mul_nonneg (Nat.cast_nonneg _) (zpow_nonneg (by decide) _)
  have habs : |rounded| = format.roundedMagnitude value := by
    rw [← Option.some.inj hrounded]
    split_ifs
    · rw [abs_neg, abs_of_nonneg hnonneg]
    · exact abs_of_nonneg hnonneg
  rw [Representable, habs]
  exact ⟨exists_significand format value, hrange⟩

/-- Rounding leaves the numbers of the format as they are, and yields no others. -/
theorem exists_nearest_iff : (∃ exact, format.nearest exact = some value) ↔ format.nearest value = some value := by
  constructor
  · rintro ⟨exact, hnearest⟩
    exact nearest_of_representable (representable_of_nearest hnearest)
  · exact fun hsame => ⟨value, hsame⟩

end BinaryFormat
