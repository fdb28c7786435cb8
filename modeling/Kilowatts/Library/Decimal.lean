import Mathlib.Data.Nat.Cast.Order.Field
import Mathlib.Data.Nat.Digits.Lemmas
import Mathlib.Data.Rat.Floor
import Mathlib.Tactic.Linarith
import Kilowatts.Library.Json

/-!
Numbers as `printf` writes them, in decimal and with a fixed number of digits behind the point.
-/

namespace Decimal

open Json

def digit (value : Nat) : UInt8 := UInt8.ofNat (0x30 + value)

/-- A natural number, without leading zeros. -/
def digitsOf (n : Nat) : List UInt8 := if n = 0 then [digit 0] else (Nat.digits 10 n).reverse.map digit

/-- The last digits of a number, as many as wanted. -/
def fixedDigits : (count : Nat) → Nat → List UInt8
  | 0, _ => []
  | count + 1, n => fixedDigits count (n / 10) ++ [digit (n % 10)]

/-- The nearest natural number, and the even one of two that are equally near. -/
def roundHalfEven (q : Rat) : Nat :=
  let below := ⌊q⌋.toNat
  if q - below < 1 / 2 ∨ (q - below = 1 / 2 ∧ below % 2 = 0) then below else below + 1

def sign (negative : Bool) : List UInt8 := if negative then [0x2D] else []

/-- A number in decimal. Without a fraction it has no point. -/
def numeral (negative : Bool) (whole : Nat) (fraction : Option (List UInt8)) : List UInt8 :=
  sign negative ++ (digitsOf whole ++ fraction.elim [] (0x2E :: ·))

/-- `%.*f` of a finite number, whose sign is given with it. -/
def fixed (precision : Nat) (negative : Bool) (magnitude : Rat) : List UInt8 :=
  let scaled := roundHalfEven (magnitude * 10 ^ precision)
  numeral negative (scaled / 10 ^ precision) (some (fixedDigits precision scaled))

section Digits

@[simp] theorem toNat_digit {value : Nat} (hvalue : value < 10) : (digit value).toNat = 0x30 + value := by
  rw [digit, UInt8.toNat_ofNat_of_lt']
  show 48 + value < 256
  omega

theorem isDigit_digit {value : Nat} (hvalue : value < 10) : isDigit (digit value) = true := by
  have hbyte := toNat_digit hvalue
  have hlow : (0x30 : UInt8) ≤ digit value := UInt8.le_iff_toNat_le.mpr (by rw [hbyte]; show 48 ≤ 48 + value; omega)
  have hhigh : digit value ≤ 0x39 := UInt8.le_iff_toNat_le.mpr (by rw [hbyte]; show 48 + value ≤ 57; omega)
  simp [isDigit, hlow, hhigh]

theorem digitsOf_of_lt {n : Nat} (hn : n < 10) : digitsOf n = [digit n] := by
  rw [digitsOf]
  split
  · rename_i hzero
    rw [hzero]
  · rename_i hzero
    rw [Nat.digits_of_lt 10 n hzero hn]
    rfl

theorem digitsOf_of_le {n : Nat} (hn : 10 ≤ n) : digitsOf n = digitsOf (n / 10) ++ [digit (n % 10)] := by
  have hzero : n ≠ 0 := by omega
  have hrest : n / 10 ≠ 0 := by omega
  rw [digitsOf, digitsOf, if_neg hzero, if_neg hrest, Nat.digits_eq_cons_digits_div (by decide) hzero, List.reverse_cons,
    List.map_append]
  rfl

/-- Induction over the digits of a number, the last of them first. -/
@[elab_as_elim]
theorem digits_induction {motive : Nat → Prop} (single : ∀ n < 10, motive n)
    (more : ∀ n, 10 ≤ n → motive (n / 10) → motive n) (n : Nat) : motive n := by
  induction n using Nat.strong_induction_on with
  | _ n ih =>
    by_cases hn : n < 10
    · exact single n hn
    · exact more n (Nat.not_lt.mp hn) (ih (n / 10) (by omega))

theorem isDigit_of_mem_digitsOf (n : Nat) : ∀ byte ∈ digitsOf n, isDigit byte = true := by
  induction n using digits_induction with
  | single n hn =>
    rw [digitsOf_of_lt hn, List.forall_mem_singleton]
    exact isDigit_digit hn
  | more n hn ih =>
    rw [digitsOf_of_le hn, List.forall_mem_append, List.forall_mem_singleton]
    exact ⟨ih, isDigit_digit (Nat.mod_lt n (by decide))⟩

theorem naturalOf_append_singleton (digits : List UInt8) {value : Nat} (hvalue : value < 10) :
    naturalOf (digits ++ [digit value]) = 10 * naturalOf digits + value := by
  rw [naturalOf, List.foldl_append]
  show 10 * naturalOf digits + ((digit value).toNat - 0x30) = _
  rw [toNat_digit hvalue]
  omega

@[simp] theorem naturalOf_digitsOf (n : Nat) : naturalOf (digitsOf n) = n := by
  induction n using digits_induction with
  | single n hn =>
    rw [digitsOf_of_lt hn]
    exact (naturalOf_append_singleton [] hn).trans (by simp [naturalOf])
  | more n hn ih =>
    rw [digitsOf_of_le hn, naturalOf_append_singleton _ (Nat.mod_lt n (by decide)), ih]
    omega

theorem length_digitsOf_of_le {n : Nat} (hn : 10 ≤ n) : (digitsOf n).length = (digitsOf (n / 10)).length + 1 := by
  rw [digitsOf_of_le hn, List.length_append, List.length_singleton]

theorem length_digitsOf_pos (n : Nat) : 0 < (digitsOf n).length := by
  by_cases hn : n < 10
  · rw [digitsOf_of_lt hn]
    exact Nat.one_pos
  · rw [length_digitsOf_of_le (Nat.not_lt.mp hn)]
    exact Nat.succ_pos _

/-- The first digit is only a zero if it is the whole number. -/
theorem eq_zero_of_head_digitsOf {n : Nat} (hhead : (digitsOf n).head? = some 0x30) : n = 0 := by
  induction n using digits_induction with
  | single n hn =>
    rw [digitsOf_of_lt hn] at hhead
    have hzero := congrArg UInt8.toNat (Option.some.inj hhead)
    rw [toNat_digit hn] at hzero
    have hbyte : (0x30 : UInt8).toNat = 48 := rfl
    omega
  | more n hn ih =>
    have hne := List.ne_nil_of_length_pos (length_digitsOf_pos (n / 10))
    rw [digitsOf_of_le hn, List.head?_append_of_ne_nil _ hne] at hhead
    have hrest := ih hhead
    omega

theorem le_of_length_digitsOf {n : Nat} (hn : n ≠ 0) : 10 ^ ((digitsOf n).length - 1) ≤ n := by
  induction n using digits_induction with
  | single n hsmall => simpa [digitsOf_of_lt hsmall] using Nat.one_le_iff_ne_zero.mpr hn
  | more n hlarge ih =>
    have hpos := length_digitsOf_pos (n / 10)
    have hrest := ih (by omega)
    rw [length_digitsOf_of_le hlarge, Nat.add_sub_cancel,
      show (digitsOf (n / 10)).length = (digitsOf (n / 10)).length - 1 + 1 by omega, Nat.pow_succ]
    omega

theorem length_digitsOf_le {n count : Nat} (hpos : 0 < count) (hn : n < 10 ^ count) : (digitsOf n).length ≤ count := by
  by_cases hzero : n = 0
  · rw [hzero]
    exact hpos
  · have hpower := (Nat.pow_lt_pow_iff_right (by decide : 1 < 10)).mp ((le_of_length_digitsOf hzero).trans_lt hn)
    omega

/-- The first digits of a number are those of the number without its last digits. -/
theorem take_digitsOf (n : Nat) {count : Nat} (hpos : 0 < count) (hcount : count ≤ (digitsOf n).length) :
    (digitsOf n).take count = digitsOf (n / 10 ^ ((digitsOf n).length - count)) := by
  by_cases hall : count = (digitsOf n).length
  · rw [hall, List.take_length, Nat.sub_self, Nat.pow_zero, Nat.div_one]
  induction n using digits_induction with
  | single n hn =>
    rw [digitsOf_of_lt hn, List.length_singleton] at hcount hall
    omega
  | more n hn ih =>
    have hlength := length_digitsOf_of_le hn
    have hdrop : (digitsOf n).length - count = (digitsOf (n / 10)).length - count + 1 := by omega
    rw [digitsOf_of_le hn, List.take_append_of_le_length (by omega), ← digitsOf_of_le hn, hdrop, Nat.pow_succ',
      ← Nat.div_div_eq_div_mul]
    by_cases hlast : count = (digitsOf (n / 10)).length
    · rw [hlast, List.take_length, Nat.sub_self, Nat.pow_zero, Nat.div_one]
    · exact ih (by omega) hlast

theorem length_fixedDigits (count n : Nat) : (fixedDigits count n).length = count := by
  induction count generalizing n with
  | zero => rfl
  | succ count ih => rw [fixedDigits, List.length_append, ih, List.length_singleton]

theorem isDigit_of_mem_fixedDigits (count n : Nat) : ∀ byte ∈ fixedDigits count n, isDigit byte = true := by
  induction count generalizing n with
  | zero => exact List.forall_mem_nil _
  | succ count ih =>
    intro byte hbyte
    obtain hbefore | hlast := List.mem_append.mp hbyte
    · exact ih (n / 10) byte hbefore
    · rw [List.mem_singleton.mp hlast]
      exact isDigit_digit (Nat.mod_lt n (by decide))

theorem foldl_digits (digits : List UInt8) (start : Nat) :
    digits.foldl (fun value digit => 10 * value + (digit.toNat - 0x30)) start =
      start * 10 ^ digits.length + naturalOf digits := by
  induction digits generalizing start with
  | nil => simp [naturalOf]
  | cons first rest ih =>
    rw [naturalOf, List.foldl_cons, List.foldl_cons, ih, ih, List.length_cons, Nat.pow_succ']
    ring

/-- More digits behind a number count as its last ones. -/
theorem naturalOf_append (digits more : List UInt8) :
    naturalOf (digits ++ more) = naturalOf digits * 10 ^ more.length + naturalOf more := by
  rw [naturalOf, List.foldl_append, foldl_digits]
  rfl

@[simp] theorem naturalOf_fixedDigits (count n : Nat) : naturalOf (fixedDigits count n) = n % 10 ^ count := by
  induction count generalizing n with
  | zero => simp [fixedDigits, naturalOf, Nat.mod_one]
  | succ count ih =>
    rw [fixedDigits, naturalOf_append_singleton _ (Nat.mod_lt n (by decide)), ih, Nat.pow_succ', Nat.mod_mul]
    omega

theorem fixedDigits_multiple (count n : Nat) :
    fixedDigits count (n * 10 ^ count) = List.replicate count (digit 0) := by
  induction count with
  | zero => rfl
  | succ count ih =>
    rw [fixedDigits, Nat.pow_succ, ← Nat.mul_assoc, Nat.mul_div_cancel _ (by decide), ih, Nat.mul_mod_left,
      List.replicate_succ']

theorem naturalOf_replicate_zero (count : Nat) : naturalOf (List.replicate count (digit 0)) = 0 := by
  induction count with
  | zero => rfl
  | succ count ih => rw [List.replicate_succ', naturalOf_append_singleton _ (by decide), ih]

end Digits

section Cutting

/-- The parts of a numeral of which only the first bytes are kept. -/
def cut (count : Nat) (negative : Bool) (whole : Nat) (digits : List UInt8) : Nat × Option (List UInt8) :=
  let room := count - (sign negative).length
  let length := (digitsOf whole).length
  if room ≤ length then (whole / 10 ^ (length - room), none) else (whole, some (digits.take (room - length - 1)))

theorem length_numeral (negative : Bool) (whole : Nat) (digits : List UInt8) :
    (numeral negative whole (some digits)).length =
      (sign negative).length + (digitsOf whole).length + 1 + digits.length := by
  rw [numeral, Option.elim_some, List.length_append, List.length_append, List.length_cons]
  omega

theorem take_numeral {count : Nat} {negative : Bool} (hcount : (sign negative).length < count) (whole : Nat)
    (digits : List UInt8) :
    (numeral negative whole (some digits)).take count =
      numeral negative (cut count negative whole digits).1 (cut count negative whole digits).2 := by
  rw [numeral, List.take_append, List.take_of_length_le (by omega), numeral, cut]
  split
  · rename_i hroom
    rw [Option.elim_some, Option.elim_none, List.append_nil, List.take_append_of_le_length hroom,
      take_digitsOf whole (by omega) hroom]
  · rename_i hroom
    obtain ⟨more, hmore⟩ := Nat.exists_eq_add_of_lt (Nat.not_le.mp hroom)
    rw [Option.elim_some, Option.elim_some, List.take_append, List.take_of_length_le (by omega), hmore,
      show (digitsOf whole).length + more + 1 - (digitsOf whole).length = more + 1 by omega, List.take_succ_cons,
      Nat.add_sub_cancel]

theorem isDigit_of_mem_cut {count : Nat} {negative : Bool} {whole : Nat} {digits : List UInt8}
    (hdigits : ∀ byte ∈ digits, isDigit byte = true) :
    ∀ kept ∈ (cut count negative whole digits).2, ∀ byte ∈ kept, isDigit byte = true := by
  intro kept hkept byte hbyte
  unfold cut at hkept
  dsimp only at hkept
  split at hkept
  · cases hkept
  · rw [← Option.some.inj hkept] at hbyte
    exact hdigits byte (List.mem_of_mem_take hbyte)

/-- Nothing is cut off a numeral that fits. -/
theorem cut_of_length_le {count : Nat} {negative : Bool} {whole : Nat} {digits : List UInt8}
    (hfits : (numeral negative whole (some digits)).length ≤ count) :
    cut count negative whole digits = (whole, some digits) := by
  rw [length_numeral] at hfits
  rw [cut, if_neg (by omega), List.take_of_length_le (by omega)]

end Cutting

section Rounding

theorem abs_roundHalfEven_sub_le {q : Rat} (hq : 0 ≤ q) : |(roundHalfEven q : Rat) - q| ≤ 1 / 2 := by
  have hbelow : ((⌊q⌋.toNat : Nat) : Rat) = (⌊q⌋ : Rat) := by
    have hfloor : (0 : Int) ≤ ⌊q⌋ := Int.floor_nonneg.mpr hq
    exact_mod_cast congrArg (Int.cast : Int → Rat) (Int.toNat_of_nonneg hfloor)
  have hle := Int.floor_le q
  have hlt := Int.lt_floor_add_one q
  unfold roundHalfEven
  dsimp only
  rw [abs_le]
  split
  · rename_i hnear
    have hnear' : q - (⌊q⌋ : Rat) ≤ 1 / 2 := by
      rw [hbelow] at hnear
      obtain hless | ⟨hhalf, -⟩ := hnear
      · exact hless.le
      · exact hhalf.le
    rw [hbelow]
    constructor <;> linarith
  · rename_i hfar
    rw [not_or, not_lt, hbelow] at hfar
    push_cast
    rw [hbelow]
    constructor <;> linarith [hfar.1]

theorem roundHalfEven_natCast (n : Nat) : roundHalfEven (n : Rat) = n := by
  simp [roundHalfEven]

theorem length_sign_le (negative : Bool) : (sign negative).length ≤ 1 := by
  cases negative with
  | false => decide
  | true => decide

theorem length_fixed (precision : Nat) (negative : Bool) (magnitude : Rat) :
    (fixed precision negative magnitude).length =
      (sign negative).length + (digitsOf (roundHalfEven (magnitude * 10 ^ precision) / 10 ^ precision)).length + 1 +
        precision := by
  rw [fixed, length_numeral, length_fixedDigits]

/-- The digits before the point stand for at most one more than the number. -/
theorem whole_le {magnitude : Rat} (hmagnitude : 0 ≤ magnitude) (precision : Nat) :
    ((roundHalfEven (magnitude * 10 ^ precision) / 10 ^ precision : Nat) : Rat) ≤ magnitude + 1 := by
  have hpow : (1 : Rat) ≤ 10 ^ precision := one_le_pow₀ (by decide)
  have hpos : (0 : Rat) < 10 ^ precision := by linarith
  have hround := (abs_le.mp (abs_roundHalfEven_sub_le (mul_nonneg hmagnitude hpos.le))).2
  refine Nat.cast_div_le.trans ?_
  rw [Nat.cast_pow, Nat.cast_ofNat, div_le_iff₀ hpos]
  linarith

theorem length_fixed_le {magnitude : Rat} (hmagnitude : 0 ≤ magnitude) {count : Nat} (hpos : 0 < count)
    (hless : magnitude + 1 < 10 ^ count) (precision : Nat) (negative : Bool) :
    (fixed precision negative magnitude).length ≤ count + precision + 2 := by
  have hwhole : roundHalfEven (magnitude * 10 ^ precision) / 10 ^ precision < 10 ^ count := by
    exact_mod_cast (whole_le hmagnitude precision).trans_lt hless
  have hdigits := length_digitsOf_le hpos hwhole
  have hsign := length_sign_le negative
  rw [length_fixed]
  omega

/-- A long text is that of a large number. -/
theorem le_of_length_fixed {magnitude : Rat} (hmagnitude : 0 ≤ magnitude) {count precision : Nat} {negative : Bool}
    (hlong : count + precision + 3 ≤ (fixed precision negative magnitude).length) (hpos : 0 < count) :
    (10 : Rat) ^ count ≤ magnitude + 1 := by
  by_contra hless
  have hshort := length_fixed_le hmagnitude hpos (not_le.mp hless) precision negative
  omega

end Rounding

end Decimal
