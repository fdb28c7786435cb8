import Kilowatts.Library.JsonDocument
import Kilowatts.LoadManager.Load
import Mathlib.Algebra.Order.Field.Basic

namespace kilowatts.CFloat

open Json Decimal

/-- `std::signbit`. -/
def isNegative (bits : UInt32) : Bool := 2 ^ 31 ≤ bits.toNat

/-- Whether a float that is not finite is no number. -/
def isNan (bits : UInt32) : Bool := bits.toNat % 2 ^ 23 ≠ 0

/-- `snprintf` with `%.*f` of a float, in a buffer that is large enough. -/
def printed (precision : Nat) (bits : UInt32) : List UInt8 :=
  match ofBits bits with
  | .finite value => Decimal.fixed precision (isNegative bits) |value|
  | .nonFinite => sign (isNegative bits) ++ if isNan bits then ascii "nan" else ascii "inf"

/-- The text of a float, of which the first bytes are kept. -/
def printedDocument (count precision : Nat) (bits : UInt32) : Document :=
  match ofBits bits with
  | .finite value => .kept count precision (isNegative bits) |value|
  | .nonFinite => .nonFinite (isNegative bits) (isNan bits)

variable {bits : UInt32} {value : Rat}

theorem signed_isNegative (bits : UInt32) (magnitude : Rat) :
    signed (isNegative bits) magnitude = ((if bits.toNat < 2 ^ 31 then 1 else -1 : Int) : Rat) * magnitude := by
  unfold signed isNegative
  by_cases hsign : bits.toNat < 2 ^ 31
  · rw [if_pos hsign, decide_eq_false (Nat.not_le.mpr hsign), if_neg (by decide), Int.cast_one, one_mul]
  · rw [if_neg hsign, decide_eq_true (Nat.not_lt.mp hsign), if_pos rfl, Int.cast_neg, Int.cast_one, neg_one_mul]

/-- A finite float has 24 binary digits. -/
theorem exists_of_finite (hfinite : ofBits bits = .finite value) :
    ∃ mantissa exponent : Nat, mantissa < 2 ^ 24 ∧ exponent < 255 ∧
      value = signed (isNegative bits) (mantissa * 2 ^ exponent / 2 ^ 150) := by
  have hmantissa := Nat.mod_lt bits.toNat (by decide : 2 ^ 23 > 0)
  unfold ofBits at hfinite
  dsimp only at hfinite
  split at hfinite
  · cases hfinite
  rename_i hexponent
  split at hfinite
  · obtain rfl := CFloat.finite.inj hfinite
    refine ⟨2 * (bits.toNat % 2 ^ 23), 0, by omega, by decide, ?_⟩
    rw [Rat.mkRat_eq_div, signed_isNegative]
    generalize bits.toNat % 2 ^ 23 = mantissa
    push_cast
    ring
  · obtain rfl := CFloat.finite.inj hfinite
    refine ⟨2 ^ 23 + bits.toNat % 2 ^ 23, bits.toNat / 2 ^ 23 % 2 ^ 8, by omega, by omega, ?_⟩
    rw [Rat.mkRat_eq_div, signed_isNegative]
    generalize bits.toNat % 2 ^ 23 = mantissa
    generalize bits.toNat / 2 ^ 23 % 2 ^ 8 = exponent
    push_cast
    ring

theorem abs_of_finite (hfinite : ofBits bits = .finite value) :
    ∃ mantissa exponent : Nat, mantissa < 2 ^ 24 ∧ exponent < 255 ∧ |value| = mantissa * 2 ^ exponent / 2 ^ 150 := by
  obtain ⟨mantissa, exponent, hmantissa, hexponent, rfl⟩ := exists_of_finite hfinite
  have hnonneg : (0 : Rat) ≤ mantissa * 2 ^ exponent / 2 ^ 150 := by positivity
  refine ⟨mantissa, exponent, hmantissa, hexponent, ?_⟩
  cases isNegative bits with
  | false => exact abs_of_nonneg hnonneg
  | true => exact (abs_neg _).trans (abs_of_nonneg hnonneg)

theorem abs_lt (hfinite : ofBits bits = .finite value) : |value| < 2 ^ 128 := by
  obtain ⟨mantissa, exponent, hmantissa, hexponent, habs⟩ := abs_of_finite hfinite
  have hmantissa : (mantissa : Rat) < 2 ^ 24 := by exact_mod_cast hmantissa
  have hpower : (2 : Rat) ^ exponent ≤ 2 ^ 254 := pow_le_pow_right₀ (by decide) (by omega)
  rw [habs, div_lt_iff₀ (by positivity)]
  calc (mantissa : Rat) * 2 ^ exponent < 2 ^ 24 * 2 ^ exponent := by gcongr
    _ ≤ 2 ^ 24 * 2 ^ 254 := by gcongr
    _ = 2 ^ 128 * 2 ^ 150 := by norm_num

/-- A large float has no binary digit behind the point. -/
theorem exists_abs_eq_natCast (hfinite : ofBits bits = .finite value) (hlarge : 2 ^ 24 ≤ |value|) :
    ∃ n : Nat, |value| = n := by
  obtain ⟨mantissa, exponent, hmantissa, -, habs⟩ := abs_of_finite hfinite
  have hexponent : 150 ≤ exponent := by
    by_contra hsmall
    have hmantissa : (mantissa : Rat) < 2 ^ 24 := by exact_mod_cast hmantissa
    have hpower : (2 : Rat) ^ exponent ≤ 2 ^ 150 := pow_le_pow_right₀ (by decide) (by omega)
    rw [habs, le_div_iff₀ (by positivity)] at hlarge
    have hless : (mantissa : Rat) * 2 ^ exponent < 2 ^ 24 * 2 ^ 150 := by
      calc (mantissa : Rat) * 2 ^ exponent < 2 ^ 24 * 2 ^ exponent := by gcongr
        _ ≤ 2 ^ 24 * 2 ^ 150 := by gcongr
    exact absurd hlarge (not_le.mpr hless)
  refine ⟨mantissa * 2 ^ (exponent - 150), ?_⟩
  rw [habs, ← Nat.sub_add_cancel hexponent, pow_add, ← mul_assoc, mul_div_cancel_right₀ _ (by positivity),
    Nat.add_sub_cancel]
  push_cast
  rfl

theorem printedDocument_text {count : Nat} (hcount : 4 ≤ count) (precision : Nat) (bits : UInt32) :
    (printedDocument count precision bits).text = (printed precision bits).take count := by
  unfold printedDocument printed
  have hsign := length_sign_le (isNegative bits)
  cases ofBits bits with
  | finite value => exact Document.kept_text (by omega) precision |value|
  | nonFinite =>
    refine (List.take_of_length_le ?_).symm
    show (sign (isNegative bits) ++ if isNan bits then ascii "nan" else ascii "inf").length ≤ count
    rw [List.length_append]
    cases isNan bits with
    | false =>
      have hword : (ascii "inf").length = 3 := rfl
      rw [if_neg (by decide)]
      omega
    | true =>
      have hword : (ascii "nan").length = 3 := rfl
      rw [if_pos rfl]
      omega

theorem printed_of_finite (hfinite : ofBits bits = .finite value) (precision : Nat) :
    printed precision bits = Decimal.fixed precision (isNegative bits) |value| := by
  rw [printed, hfinite]

theorem length_printed_le (hfinite : ofBits bits = .finite value) (precision : Nat) :
    (printed precision bits).length ≤ 41 + precision := by
  have hless : |value| + 1 < 10 ^ 39 := by
    have hvalue := abs_lt hfinite
    norm_num at hvalue ⊢
    linarith
  have hlength := length_fixed_le (abs_nonneg value) (by decide) hless precision (isNegative bits)
  rw [printed_of_finite hfinite]
  omega

theorem printedDocument_restored_of_fits {count precision : Nat} (hprecision : 0 < precision)
    (hfinite : ofBits bits = .finite value) (hfits : (printed precision bits).length ≤ count) :
    (printedDocument count precision bits).Restored := by
  rw [printed_of_finite hfinite] at hfits
  rw [printedDocument, hfinite]
  exact Document.restored_kept_of_fits hprecision (abs_nonneg value) hfits

/-- In a buffer for `count` bytes a float may lose the zeros behind its point, and the point with
them. It must not end with its point, nor lose a digit before it. -/
theorem printedDocument_restored_iff {count precision : Nat} (hprecision : 0 < precision)
    (hcount : precision + 12 ≤ count) (bits : UInt32) :
    (printedDocument count precision bits).Restored ↔
      ofBits bits ≠ .nonFinite ∧ (printed precision bits).length ≤ count + precision + 1 ∧
        (printed precision bits).length ≠ count + precision := by
  cases hfinite : ofBits bits with
  | nonFinite => simp [printedDocument, hfinite]
  | finite value =>
    by_cases hfits : (printed precision bits).length ≤ count
    · exact iff_of_true (printedDocument_restored_of_fits hprecision hfinite hfits) ⟨by simp, by omega, by omega⟩
    · have hlong : 8 + precision + 3 ≤ (Decimal.fixed precision (isNegative bits) |value|).length := by
        rw [← printed_of_finite hfinite]
        omega
      have hlarge : 2 ^ 24 ≤ |value| := by
        have hpower := le_of_length_fixed (abs_nonneg value) hlong (by decide)
        norm_num at hpower ⊢
        linarith
      obtain ⟨n, hn⟩ := exists_abs_eq_natCast hfinite hlarge
      have hsign := length_sign_le (isNegative bits)
      rw [printed_of_finite hfinite, printedDocument, hfinite]
      dsimp only
      rw [hn, Document.restored_kept_iff hprecision (by omega)]
      exact (and_iff_right (by simp)).symm

end kilowatts.CFloat
