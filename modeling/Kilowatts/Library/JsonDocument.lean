import Mathlib.Data.List.Forall2
import Kilowatts.Library.Decimal

/-!
Texts that a program writes piece by piece and means as JSON. Each piece carries what a reader
makes of it, and what the reader should find there.
-/

namespace Json

/-- What stands behind a value in a text without spaces. -/
def Follows (rest : List UInt8) : Prop := ∀ byte ∈ rest.head?, byte = 0x2C ∨ byte = 0x5D ∨ byte = 0x7D ∨ byte = 0x22

/-- A value as it is written. The reader gets `result`, which is right if it `shows` what was meant. -/
structure Document where
  text : List UInt8
  result : Option Json
  shows : Json → Prop
  starts : ∃ first rest, text = first :: rest ∧ isSpace first = false ∧ first ≠ 0x5D
  parses : ∀ {fuel rest}, text.length ≤ fuel → Follows rest → value fuel (text ++ rest) = result.map fun json => (json, rest)

namespace Document

/-- The text is well-formed, and the reader finds what was meant. -/
def Restored (document : Document) : Prop := ∃ json, document.result = some json ∧ document.shows json

theorem parse_text (document : Document) : parse document.text = document.result := by
  have hvalue : value document.text.length (document.text ++ []) = document.result.map fun json => (json, []) :=
    document.parses le_rfl (by simp [Follows])
  rw [List.append_nil] at hvalue
  rw [parse, hvalue]
  cases document.result with
  | none => rfl
  | some json => rfl

theorem restored_iff_parse {document : Document} :
    (∃ json, parse document.text = some json ∧ document.shows json) ↔ document.Restored := by
  rw [parse_text]
  rfl

end Document

section Strings

/-- A backslash before every quote and backslash. -/
def escaped (text : List UInt8) : List UInt8 :=
  text.flatMap fun byte => if byte = 0x22 ∨ byte = 0x5C then [0x5C, byte] else [byte]

/-- UTF-8 without control characters. -/
def isPrintable (text : List UInt8) : Bool := text.all (0x20 ≤ ·) && Utf8.isValid text

/-- ASCII that needs no backslash. -/
def isPlain (text : List UInt8) : Bool :=
  text.all fun byte => 0x20 ≤ byte && byte < 0x80 && byte != 0x22 && byte != 0x5C

theorem completes_cons (utf8 : Utf8) (byte : UInt8) (bytes : List UInt8) :
    utf8.completes (byte :: bytes) = match utf8.step byte with
      | none => false
      | some next => next.completes bytes := by
  rw [Utf8.completes, List.foldlM_cons]
  cases utf8.step byte with
  | none => rfl
  | some next => rfl

theorem stringBody_escaped (text : List UInt8) (utf8 : Utf8) (rest : List UInt8) :
    stringBody (.plain utf8) (escaped text ++ 0x22 :: rest) =
      if (text.all (0x20 ≤ ·) && utf8.completes text) = true then some (text, rest) else none := by
  induction text generalizing utf8 with
  | nil =>
    rw [escaped, List.flatMap_nil, List.nil_append, stringBody]
    by_cases hstart : utf8 = .start
    · subst hstart
      rfl
    · have hstep := Utf8.step_ascii (show (0x22 : UInt8) < 0x80 by decide) utf8
      rw [if_neg hstart] at hstep
      have hplain : StringState.plain utf8 ≠ .plain .start := fun hsame => hstart (StringState.plain.inj hsame)
      rw [if_neg (fun hboth => hplain hboth.2), StringState.step, if_neg (by decide), if_neg (by decide), hstep,
        Option.map_none, if_neg]
      simpa [Utf8.completes] using hstart
  | cons byte text ih =>
    have hescaped : escaped (byte :: text) ++ 0x22 :: rest =
        (if byte = 0x22 ∨ byte = 0x5C then [0x5C, byte] else [byte]) ++ (escaped text ++ 0x22 :: rest) := by
      rw [escaped, List.flatMap_cons, List.append_assoc]
      rfl
    rw [hescaped, List.all_cons, completes_cons]
    by_cases hspecial : byte = 0x22 ∨ byte = 0x5C
    · have hascii : byte < 0x80 ∧ 0x20 ≤ byte ∧ byte ≠ 0x75 ∧ simpleEscape byte = some byte := by
        obtain rfl | rfl := hspecial
        · decide
        · decide
      rw [if_pos hspecial, Utf8.step_ascii hascii.1, decide_eq_true hascii.2.1]
      by_cases hstart : utf8 = .start
      · subst hstart
        have hbody : stringBody .escaped (byte :: (escaped text ++ 0x22 :: rest)) =
            (stringBody (.plain .start) (escaped text ++ 0x22 :: rest)).map fun read => ([byte] ++ read.1, read.2) := by
          rw [stringBody, if_neg (by simp), StringState.step, if_neg hascii.2.2.1, hascii.2.2.2]
          rfl
        have hfirst : stringBody (.plain .start) ([0x5C, byte] ++ (escaped text ++ 0x22 :: rest)) =
            (stringBody .escaped (byte :: (escaped text ++ 0x22 :: rest))).map fun read => ([] ++ read.1, read.2) := rfl
        rw [hfirst, hbody, ih, if_pos rfl, Bool.true_and]
        dsimp only
        split
        · rfl
        · rfl
      · have hplain : StringState.plain utf8 ≠ .plain .start := fun hsame => hstart (StringState.plain.inj hsame)
        rw [List.cons_append, stringBody, if_neg (fun hboth => absurd hboth.1 (by decide)), StringState.step,
          if_pos rfl, if_neg hstart, if_neg hstart]
        simp
    · rw [not_or] at hspecial
      rw [if_neg (not_or.mpr hspecial), List.cons_append, List.nil_append, stringBody,
        if_neg (fun hquote => hspecial.1 hquote.1), StringState.step, if_neg hspecial.2]
      by_cases hcontrol : byte < 0x20
      · rw [if_pos hcontrol, decide_eq_false (UInt8.not_le.mpr hcontrol)]
        simp
      · rw [if_neg hcontrol, decide_eq_true (UInt8.not_lt.mp hcontrol), Bool.true_and]
        cases utf8.step byte with
        | none => simp
        | some next =>
          rw [Option.map_some]
          dsimp only
          rw [ih]
          split
          · rfl
          · rfl

theorem isPrintable_of_isPlain {text : List UInt8} (hplain : isPlain text = true) : isPrintable text = true := by
  have hbyte : ∀ byte ∈ text, 0x20 ≤ byte ∧ byte < 0x80 := by
    intro byte hbyte
    have hchecked := List.all_eq_true.mp hplain byte hbyte
    simp only [Bool.and_eq_true, decide_eq_true_eq] at hchecked
    exact hchecked.1.1
  have hvalid : ∀ bytes : List UInt8, (∀ byte ∈ bytes, byte < 0x80) → Utf8.start.completes bytes = true := by
    intro bytes hascii
    induction bytes with
    | nil => rfl
    | cons byte bytes ih =>
      obtain ⟨hfirst, hrest⟩ := List.forall_mem_cons.mp hascii
      rw [completes_cons, Utf8.step_ascii hfirst, if_pos rfl]
      exact ih hrest
  rw [isPrintable, Bool.and_eq_true]
  exact ⟨List.all_eq_true.mpr fun byte hmem => decide_eq_true (hbyte byte hmem).1,
    hvalid text fun byte hmem => (hbyte byte hmem).2⟩

theorem isPlain_append {first second : List UInt8} (hfirst : isPlain first = true) (hsecond : isPlain second = true) :
    isPlain (first ++ second) = true := by
  rw [isPlain, List.all_append, Bool.and_eq_true]
  exact ⟨hfirst, hsecond⟩

theorem isPlain_intercalate {separator : List UInt8} (hseparator : isPlain separator = true) {texts : List (List UInt8)}
    (htexts : ∀ text ∈ texts, isPlain text = true) : isPlain (separator.intercalate texts) = true := by
  induction texts with
  | nil => rfl
  | cons text texts ih =>
    obtain ⟨hfirst, hothers⟩ := List.forall_mem_cons.mp htexts
    cases texts with
    | nil =>
      rw [List.intercalate_singleton]
      exact hfirst
    | cons second texts => exact isPlain_append hfirst (isPlain_append hseparator (ih hothers))

theorem stringBody_plain {text : List UInt8} (hplain : isPlain text = true) (rest : List UInt8) :
    stringBody (.plain .start) (text ++ 0x22 :: rest) = some (text, rest) := by
  induction text with
  | nil => rfl
  | cons byte text ih =>
    simp only [isPlain, List.all_cons, Bool.and_eq_true, decide_eq_true_eq, bne_iff_ne] at hplain
    obtain ⟨⟨⟨⟨hcontrol, hascii⟩, hquote⟩, hbackslash⟩, hrest⟩ := hplain
    rw [List.cons_append, stringBody, if_neg (fun hboth => hquote hboth.1), StringState.step, if_neg hbackslash,
      if_neg (UInt8.not_lt.mpr hcontrol), Utf8.step_ascii hascii, if_pos rfl, Option.map_some]
    dsimp only
    rw [ih hrest]
    rfl

end Strings

section Numbers

open Decimal

def signed (negative : Bool) (magnitude : Rat) : Rat := if negative then -magnitude else magnitude

/-- A point with no digits behind it is refused. -/
def numeralValue (negative : Bool) (whole : Nat) : (fraction : Option (List UInt8)) → Option Rat
  | none => some (signed negative whole)
  | some digits =>
    if digits = [] then none else some (signed negative (whole + naturalOf digits / 10 ^ digits.length))

theorem Follows.isDigit {rest : List UInt8} (hrest : Follows rest) : ∀ byte ∈ rest.head?, isDigit byte = false := by
  intro byte hbyte
  obtain rfl | rfl | rfl | rfl := hrest byte hbyte
  all_goals rfl

theorem span_digits {digits rest : List UInt8} (hdigits : ∀ byte ∈ digits, isDigit byte = true)
    (hrest : ∀ byte ∈ rest.head?, isDigit byte = false) :
    (digits ++ rest).takeWhile isDigit = digits ∧ (digits ++ rest).dropWhile isDigit = rest := by
  have hempty : rest.takeWhile isDigit = [] ∧ rest.dropWhile isDigit = rest := by
    cases rest with
    | nil => exact ⟨rfl, rfl⟩
    | cons byte rest =>
      have hbyte : ¬ isDigit byte = true := by simp [hrest byte rfl]
      exact ⟨List.takeWhile_cons_of_neg hbyte, List.dropWhile_cons_of_neg hbyte⟩
  rw [List.takeWhile_append_of_pos hdigits, List.dropWhile_append_of_pos hdigits, hempty.1, hempty.2, List.append_nil]
  exact ⟨rfl, rfl⟩

theorem minus_sign (negative : Bool) {first : UInt8} (hfirst : isDigit first = true) (rest : List UInt8) :
    minus (sign negative ++ first :: rest) = (negative, first :: rest) := by
  have hminus : first ≠ 0x2D := by
    rintro rfl
    cases hfirst
  cases negative with
  | false => exact if_neg hminus
  | true => rfl

theorem isMalformed_digitsOf (n : Nat) : isMalformed (digitsOf n) = false := by
  have hpos := length_digitsOf_pos n
  have hzero : (digitsOf n).head? = some 0x30 → (digitsOf n).length = 1 := by
    intro hhead
    rw [eq_zero_of_head_digitsOf hhead]
    rfl
  rw [isMalformed, decide_eq_false (List.ne_nil_of_length_pos hpos), Bool.false_or, Bool.and_eq_false_iff]
  by_cases hhead : (digitsOf n).head? = some 0x30
  · exact .inr (by simp [hzero hhead])
  · exact .inl (decide_eq_false hhead)

theorem exponentPart_follows {rest : List UInt8} (hrest : Follows rest) : exponentPart rest = some (0, rest) := by
  cases rest with
  | nil => rfl
  | cons byte rest =>
    obtain rfl | rfl | rfl | rfl := hrest byte rfl
    all_goals rfl

theorem fractionPart_follows {rest : List UInt8} (hrest : Follows rest) : fractionPart rest = some ([], rest) := by
  cases rest with
  | nil => rfl
  | cons byte rest =>
    obtain rfl | rfl | rfl | rfl := hrest byte rfl
    all_goals rfl

/-- A number without a point is read up to what follows it. -/
theorem readNumber_whole (negative : Bool) (whole : Nat) {tail : List UInt8}
    (htail : ∀ byte ∈ tail.head?, isDigit byte = false) :
    readNumber (sign negative ++ (digitsOf whole ++ tail)) =
      (fractionPart tail).bind fun (fraction, input) =>
        (exponentPart input).map fun (exponent, rest) =>
          (signed negative (naturalOf (digitsOf whole ++ fraction) / 10 ^ fraction.length * 10 ^ exponent), rest) := by
  have hdigits := isDigit_of_mem_digitsOf whole
  obtain ⟨htake, hdrop⟩ := span_digits hdigits htail
  obtain ⟨first, others, hwhole⟩ := List.exists_cons_of_length_pos (length_digitsOf_pos whole)
  have hminus : minus (sign negative ++ (digitsOf whole ++ tail)) = (negative, digitsOf whole ++ tail) := by
    rw [hwhole, List.forall_mem_cons] at hdigits
    rw [hwhole]
    exact minus_sign negative hdigits.1 _
  rw [readNumber, hminus]
  dsimp only
  rw [htake, hdrop, if_neg (by simp [isMalformed_digitsOf])]
  rfl

/-- A reader takes a numeral as a whole. -/
theorem readNumber_numeral (negative : Bool) (whole : Nat) {fraction : Option (List UInt8)}
    (hfraction : ∀ digits ∈ fraction, ∀ byte ∈ digits, isDigit byte = true) {rest : List UInt8} (hrest : Follows rest) :
    readNumber (numeral negative whole fraction ++ rest) =
      (numeralValue negative whole fraction).map fun number => (number, rest) := by
  rw [numeral, List.append_assoc, List.append_assoc]
  cases fraction with
  | none =>
    rw [Option.elim_none, List.nil_append, readNumber_whole negative whole hrest.isDigit, fractionPart_follows hrest,
      Option.bind_some]
    dsimp only
    rw [exponentPart_follows hrest, List.append_nil, naturalOf_digitsOf]
    simp [numeralValue]
  | some digits =>
    obtain ⟨htake, hdrop⟩ := span_digits (hfraction digits rfl) hrest.isDigit
    have hpoint : ∀ byte ∈ (0x2E :: (digits ++ rest)).head?, isDigit byte = false := by
      intro byte hbyte
      rw [← Option.some.inj hbyte]
      rfl
    rw [Option.elim_some, List.cons_append, readNumber_whole negative whole hpoint, fractionPart, if_pos rfl, htake, hdrop,
      numeralValue]
    by_cases hnone : digits = []
    · rw [if_pos hnone, if_pos hnone]
      rfl
    · have hpow : (10 : Rat) ^ digits.length ≠ 0 := pow_ne_zero _ (by decide)
      have hvalue : (naturalOf (digitsOf whole ++ digits) : Rat) / 10 ^ digits.length * 10 ^ (0 : Int) =
          whole + naturalOf digits / 10 ^ digits.length := by
        rw [naturalOf_append, naturalOf_digitsOf, zpow_zero, mul_one]
        push_cast
        rw [add_div, mul_div_cancel_right₀ _ hpow]
      rw [if_neg hnone, if_neg hnone, Option.bind_some]
      dsimp only
      rw [exponentPart_follows hrest, Option.map_some, hvalue]
      rfl

end Numbers

section Leaves

/-- A value may be read with more fuel than its text is long. -/
theorem exists_fuel {first : UInt8} {text : List UInt8} {fuel : Nat} (hfuel : (first :: text).length ≤ fuel) :
    ∃ left, fuel = left + 1 ∧ text.length ≤ left := by
  rw [List.length_cons] at hfuel
  exact ⟨fuel - 1, by omega, by omega⟩

theorem skip_cons {first : UInt8} (hfirst : isSpace first = false) (rest : List UInt8) :
    skip (first :: rest) = first :: rest := by
  rw [skip, List.dropWhile_cons_of_neg (by simp [hfirst])]

theorem value_string (fuel : Nat) (input : List UInt8) :
    value (fuel + 1) (0x22 :: input) =
      (stringBody (.plain .start) input).map fun (text, rest) => (.string text, rest) := by
  rw [value, skip_cons rfl]
  rfl

theorem value_object (fuel : Nat) (input : List UInt8) :
    value (fuel + 1) (0x7B :: input) =
      (listing (member (value fuel)) 0x7D input).map fun (members, rest) => (.object members, rest) := by
  rw [value, skip_cons rfl]
  rfl

theorem value_array (fuel : Nat) (input : List UInt8) :
    value (fuel + 1) (0x5B :: input) =
      (listing (value fuel) 0x5D input).map fun (elements, rest) => (.array elements, rest) := by
  rw [value, skip_cons rfl]
  rfl

namespace Document

/-- A string whose quotes and backslashes are escaped. -/
def string (content : List UInt8) : Document where
  text := 0x22 :: (escaped content ++ [0x22])
  result := if isPrintable content then some (.string content) else none
  shows json := json = .string content
  starts := ⟨0x22, _, rfl, rfl, by decide⟩
  parses := by
    intro fuel rest hfuel _
    obtain ⟨left, rfl, -⟩ := exists_fuel hfuel
    rw [List.cons_append, List.append_assoc, value_string]
    refine (congrArg _ (stringBody_escaped content .start rest)).trans ?_
    rw [isPrintable, Utf8.isValid]
    split
    · rfl
    · rfl

@[simp] theorem restored_string (content : List UInt8) : (string content).Restored ↔ isPrintable content = true := by
  simp [Restored, string]

/-- A string that is written as it is. -/
def plain (content : List UInt8) (hplain : isPlain content = true) : Document where
  text := 0x22 :: (content ++ [0x22])
  result := some (.string content)
  shows json := json = .string content
  starts := ⟨0x22, _, rfl, rfl, by decide⟩
  parses := by
    intro fuel rest hfuel _
    obtain ⟨left, rfl, -⟩ := exists_fuel hfuel
    rw [List.cons_append, List.append_assoc, value_string]
    exact congrArg _ (stringBody_plain hplain rest)

theorem plain_text (content : List UInt8) (hplain : isPlain content = true) :
    (plain content hplain).text = 0x22 :: (content ++ [0x22]) := rfl

@[simp] theorem restored_plain (content : List UInt8) (hplain : isPlain content = true) :
    (plain content hplain).Restored := by
  simp [Restored, plain]

def null : Document where
  text := [0x6E, 0x75, 0x6C, 0x6C]
  result := some .null
  shows json := json = .null
  starts := ⟨0x6E, _, rfl, rfl, by decide⟩
  parses := by
    intro fuel rest hfuel _
    obtain ⟨left, rfl, -⟩ := exists_fuel hfuel
    rw [List.cons_append, value, skip_cons rfl]
    rfl

@[simp] theorem restored_null : null.Restored := by
  simp [Restored, null]

def bool (flag : Bool) : Document where
  text := if flag then [0x74, 0x72, 0x75, 0x65] else [0x66, 0x61, 0x6C, 0x73, 0x65]
  result := some (.bool flag)
  shows json := json = .bool flag
  starts := by
    cases flag with
    | false => exact ⟨0x66, _, rfl, rfl, by decide⟩
    | true => exact ⟨0x74, _, rfl, rfl, by decide⟩
  parses := by
    intro fuel rest hfuel _
    cases flag with
    | false =>
      obtain ⟨left, rfl, -⟩ := exists_fuel hfuel
      rw [if_neg (by decide), List.cons_append, value, skip_cons rfl]
      rfl
    | true =>
      obtain ⟨left, rfl, -⟩ := exists_fuel hfuel
      rw [if_pos rfl, List.cons_append, value, skip_cons rfl]
      rfl

@[simp] theorem restored_bool (flag : Bool) : (bool flag).Restored := by
  simp [Restored, bool]

/-- A numeral begins with a byte of its own. -/
theorem numeral_ne {first other : UInt8} (hfirst : first = 0x2D ∨ isDigit first = true) (hother : other ≠ 0x2D)
    (hdigit : isDigit other = false) : first ≠ other := by
  rintro rfl
  obtain hminus | hfirst := hfirst
  · exact hother hminus
  · rw [hdigit] at hfirst
    cases hfirst

theorem numeral_starts {first : UInt8} (hfirst : first = 0x2D ∨ isDigit first = true) :
    isSpace first = false ∧ first ≠ 0x5D := by
  have hne : ∀ other : UInt8, other ≠ 0x2D → isDigit other = false → first ≠ other := fun _ => numeral_ne hfirst
  refine ⟨?_, hne 0x5D (by decide) rfl⟩
  simp [isSpace, hne 0x20 (by decide) rfl, hne 0x09 (by decide) rfl, hne 0x0A (by decide) rfl, hne 0x0D (by decide) rfl]

theorem value_number (fuel : Nat) {first : UInt8} (hfirst : first = 0x2D ∨ isDigit first = true) (rest : List UInt8) :
    value (fuel + 1) (first :: rest) =
      (readNumber (first :: rest)).map fun (magnitude, rest) => (.number magnitude, rest) := by
  have hne : ∀ other : UInt8, other ≠ 0x2D → isDigit other = false → first ≠ other := fun _ => numeral_ne hfirst
  rw [value, skip_cons (numeral_starts hfirst).1]
  simp only [if_neg (hne 0x7B (by decide) rfl), if_neg (hne 0x5B (by decide) rfl), if_neg (hne 0x22 (by decide) rfl),
    if_neg (hne 0x6E (by decide) rfl), if_neg (hne 0x74 (by decide) rfl), if_neg (hne 0x66 (by decide) rfl)]

section Numerals

open Decimal

theorem exists_numeral (negative : Bool) (whole : Nat) (fraction : Option (List UInt8)) :
    ∃ first rest, Decimal.numeral negative whole fraction = first :: rest ∧ (first = 0x2D ∨ isDigit first = true) := by
  have hdigits := isDigit_of_mem_digitsOf whole
  obtain ⟨first, others, hwhole⟩ := List.exists_cons_of_length_pos (length_digitsOf_pos whole)
  rw [hwhole, List.forall_mem_cons] at hdigits
  cases negative with
  | false => exact ⟨first, _, by rw [Decimal.numeral, hwhole]; rfl, .inr hdigits.1⟩
  | true => exact ⟨0x2D, _, rfl, .inl rfl⟩

def numeral (negative : Bool) (whole : Nat) (fraction : Option (List UInt8))
    (hfraction : ∀ digits ∈ fraction, ∀ byte ∈ digits, isDigit byte = true) (shows : Json → Prop) : Document where
  text := Decimal.numeral negative whole fraction
  result := (numeralValue negative whole fraction).map .number
  shows
  starts := by
    obtain ⟨first, rest, htext, hfirst⟩ := exists_numeral negative whole fraction
    exact ⟨first, rest, htext, numeral_starts hfirst⟩
  parses := by
    intro fuel rest hfuel hrest
    obtain ⟨first, others, htext, hfirst⟩ := exists_numeral negative whole fraction
    have hread := readNumber_numeral negative whole hfraction hrest
    rw [htext] at hfuel hread ⊢
    obtain ⟨left, rfl, -⟩ := exists_fuel hfuel
    rw [List.cons_append, value_number left hfirst, ← List.cons_append, hread, Option.map_map, Option.map_map]
    rfl

/-- `std::to_string` of an integer. -/
def integer (number : Int) : Document :=
  numeral (number < 0) number.natAbs none nofun fun json => json = .number number

def natural (number : Nat) : Document := numeral false number none nofun fun json => json = .number number

theorem natural_text (number : Nat) : (natural number).text = digitsOf number := List.append_nil _

@[simp] theorem restored_natural (number : Nat) : (natural number).Restored := ⟨_, rfl, rfl⟩

theorem signed_natAbs (number : Int) : signed (number < 0) (number.natAbs : Rat) = number := by
  by_cases hnegative : number < 0
  · have habs : ((number.natAbs : Int) : Rat) = -number := by exact_mod_cast Int.ofNat_natAbs_of_nonpos hnegative.le
    rw [signed, decide_eq_true hnegative, if_pos rfl, ← Int.cast_natCast, habs, neg_neg]
  · have habs : ((number.natAbs : Int) : Rat) = number := by exact_mod_cast Int.natAbs_of_nonneg (Int.not_lt.mp hnegative)
    rw [signed, decide_eq_false hnegative, if_neg (by decide), ← Int.cast_natCast, habs]

@[simp] theorem restored_integer (number : Int) : (integer number).Restored :=
  ⟨_, rfl, congrArg Json.number (signed_natAbs number)⟩

/-- The reader finds a number that is as near as so many digits behind the point allow. -/
def Near (precision : Nat) (negative : Bool) (magnitude : Rat) (json : Json) : Prop :=
  ∃ number, json = .number number ∧ |number - signed negative magnitude| ≤ 1 / 2 / 10 ^ precision

/-- A finite number with a fixed number of digits behind the point. -/
def fixed (precision : Nat) (negative : Bool) (magnitude : Rat) : Document :=
  let scaled := roundHalfEven (magnitude * 10 ^ precision)
  numeral negative (scaled / 10 ^ precision) (some (fixedDigits precision scaled))
    (fun _ hdigits => Option.some.inj hdigits ▸ isDigit_of_mem_fixedDigits precision scaled)
    (Near precision negative magnitude)

/-- The same number, of which the first bytes are kept. -/
def kept (count precision : Nat) (negative : Bool) (magnitude : Rat) : Document :=
  let scaled := roundHalfEven (magnitude * 10 ^ precision)
  let parts := cut count negative (scaled / 10 ^ precision) (fixedDigits precision scaled)
  numeral negative parts.1 parts.2 (isDigit_of_mem_cut (isDigit_of_mem_fixedDigits precision scaled))
    (Near precision negative magnitude)

theorem kept_text {count : Nat} {negative : Bool} (hcount : (sign negative).length < count) (precision : Nat)
    (magnitude : Rat) :
    (kept count precision negative magnitude).text = (Decimal.fixed precision negative magnitude).take count :=
  (take_numeral hcount _ _).symm

theorem abs_signed_sub (negative : Bool) (first second : Rat) :
    |signed negative first - signed negative second| = |first - second| := by
  cases negative with
  | false => rfl
  | true =>
    rw [signed, signed, if_pos rfl, if_pos rfl, neg_sub_neg, abs_sub_comm]

/-- The number behind the rounding is near. -/
theorem near_roundHalfEven {magnitude : Rat} (hmagnitude : 0 ≤ magnitude) (precision : Nat) (negative : Bool) :
    Near precision negative magnitude
      (.number (signed negative (roundHalfEven (magnitude * 10 ^ precision) / 10 ^ precision))) := by
  have hpow : (0 : Rat) < 10 ^ precision := pow_pos (by decide) precision
  have hround := abs_roundHalfEven_sub_le (mul_nonneg hmagnitude hpow.le)
  refine ⟨_, rfl, ?_⟩
  rw [abs_signed_sub, le_div_iff₀ hpow, ← abs_of_pos hpow, ← abs_mul, sub_mul, abs_of_pos hpow,
    div_mul_cancel₀ _ hpow.ne']
  exact hround

theorem whole_add_fraction (precision scaled : Nat) :
    ((scaled / 10 ^ precision : Nat) : Rat) + naturalOf (fixedDigits precision scaled) / 10 ^ precision =
      scaled / 10 ^ precision := by
  have hpow : (10 : Rat) ^ precision ≠ 0 := pow_ne_zero _ (by decide)
  have hsplit : ((10 ^ precision * (scaled / 10 ^ precision) + scaled % 10 ^ precision : Nat) : Rat) = scaled := by
    rw [Nat.div_add_mod]
  rw [naturalOf_fixedDigits, ← hsplit]
  push_cast
  field_simp

theorem restored_fixed {precision : Nat} (hprecision : 0 < precision) (negative : Bool) {magnitude : Rat}
    (hmagnitude : 0 ≤ magnitude) : (fixed precision negative magnitude).Restored := by
  have hdigits : fixedDigits precision (roundHalfEven (magnitude * 10 ^ precision)) ≠ [] := by
    apply List.ne_nil_of_length_pos
    rwa [length_fixedDigits]
  refine ⟨.number _, ?_, near_roundHalfEven hmagnitude precision negative⟩
  rw [fixed, numeral]
  dsimp only
  rw [numeralValue, if_neg hdigits, length_fixedDigits, whole_add_fraction]
  rfl

theorem half_div_pow_lt (precision : Nat) : (1 : Rat) / 2 / 10 ^ precision < 1 := by
  have hpow : (1 : Rat) ≤ 10 ^ precision := one_le_pow₀ (by decide)
  rw [div_lt_one (by linarith)]
  linarith

theorem one_le_abs_sub {less n : Nat} (hless : less < n) : 1 ≤ |(n : Rat) - less| := by
  have hnext : ((less + 1 : Nat) : Rat) ≤ n := by exact_mod_cast hless
  push_cast at hnext
  exact (by linarith : (1 : Rat) ≤ n - less).trans (le_abs_self _)

theorem restored_kept_of_fits {count precision : Nat} (hprecision : 0 < precision) {negative : Bool} {magnitude : Rat}
    (hmagnitude : 0 ≤ magnitude) (hfits : (Decimal.fixed precision negative magnitude).length ≤ count) :
    (kept count precision negative magnitude).Restored := by
  have hsame : (kept count precision negative magnitude).result = (fixed precision negative magnitude).result := by
    rw [kept, numeral]
    dsimp only
    rw [cut_of_length_le hfits]
    rfl
  rw [Restored, hsame]
  exact restored_fixed hprecision negative hmagnitude

/-- A natural number loses nothing with the zeros behind the point, nor with the point, but a
point must not come last. -/
theorem restored_kept_iff {count precision : Nat} (hprecision : 0 < precision) {negative : Bool}
    (hcount : (sign negative).length < count) (n : Nat) :
    (kept count precision negative n).Restored ↔
      (Decimal.fixed precision negative n).length ≤ count + precision + 1 ∧
        (Decimal.fixed precision negative n).length ≠ count + precision := by
  have hscaled : roundHalfEven ((n : Rat) * 10 ^ precision) = n * 10 ^ precision := by
    have hcast : (n : Rat) * 10 ^ precision = ((n * 10 ^ precision : Nat) : Rat) := by push_cast; rfl
    rw [hcast, roundHalfEven_natCast]
  have hwhole : n * 10 ^ precision / 10 ^ precision = n := Nat.mul_div_cancel _ (Nat.pow_pos (by decide))
  have hlength : (Decimal.fixed precision negative n).length =
      (sign negative).length + (digitsOf n).length + 1 + precision := by
    rw [Decimal.fixed, hscaled, hwhole, length_numeral, length_fixedDigits]
  have hresult : (kept count precision negative n).result =
      (numeralValue negative (cut count negative n (List.replicate precision (digit 0))).1
        (cut count negative n (List.replicate precision (digit 0))).2).map .number := by
    rw [kept, numeral]
    dsimp only
    rw [hscaled, hwhole, fixedDigits_multiple]
  have hexact : Near precision negative n (.number (signed negative n)) := by
    refine ⟨_, rfl, ?_⟩
    rw [sub_self, abs_zero]
    positivity
  rw [Restored, hresult, hlength]
  unfold cut
  dsimp only
  by_cases hroom : count - (sign negative).length ≤ (digitsOf n).length
  · rw [if_pos hroom]
    by_cases hcut : count - (sign negative).length = (digitsOf n).length
    · rw [hcut, Nat.sub_self, Nat.pow_zero, Nat.div_one]
      exact iff_of_true ⟨_, rfl, hexact⟩ (by omega)
    · refine iff_of_false ?_ (by omega)
      rintro ⟨json, hjson, number, rfl, hnear⟩
      obtain rfl : signed negative (n / 10 ^ ((digitsOf n).length - (count - (sign negative).length)) : Nat) = number :=
        Json.number.inj (Option.some.inj hjson)
      have hzero : n ≠ 0 := by
        rintro rfl
        have hone : (digitsOf 0).length = 1 := rfl
        omega
      have hless := Nat.div_lt_self (Nat.pos_of_ne_zero hzero)
        (Nat.one_lt_pow (by omega : (digitsOf n).length - (count - (sign negative).length) ≠ 0) (by decide : 1 < 10))
      rw [abs_signed_sub, abs_sub_comm] at hnear
      exact absurd hnear (not_le.mpr ((half_div_pow_lt precision).trans_le (one_le_abs_sub hless)))
  · rw [if_neg hroom]
    by_cases hpoint : count - (sign negative).length = (digitsOf n).length + 1
    · refine iff_of_false ?_ (by omega)
      rintro ⟨json, hjson, -⟩
      rw [hpoint, Nat.add_sub_cancel_left, Nat.sub_self] at hjson
      cases hjson
    · refine iff_of_true ⟨_, ?_, hexact⟩ (by omega)
      have hnone : min (count - (sign negative).length - (digitsOf n).length - 1) precision ≠ 0 := by omega
      dsimp only
      rw [List.take_replicate, numeralValue, if_neg (by simpa using hnone), naturalOf_replicate_zero]
      simp

/-- What `printf` writes for a number that is not finite. No reader takes it. -/
def nonFinite (negative isNan : Bool) : Document where
  text := sign negative ++ if isNan then [0x6E, 0x61, 0x6E] else [0x69, 0x6E, 0x66]
  result := none
  shows _ := False
  starts := by
    cases negative with
    | true => exact ⟨0x2D, _, rfl, rfl, by decide⟩
    | false =>
      cases isNan with
      | true => exact ⟨0x6E, _, rfl, rfl, by decide⟩
      | false => exact ⟨0x69, _, rfl, rfl, by decide⟩
  parses := by
    intro fuel rest hfuel _
    cases negative with
    | true =>
      obtain ⟨left, rfl, -⟩ := exists_fuel hfuel
      cases isNan with
      | true => rfl
      | false => rfl
    | false =>
      cases isNan with
      | true =>
        obtain ⟨left, rfl, -⟩ := exists_fuel hfuel
        rfl
      | false =>
        obtain ⟨left, rfl, -⟩ := exists_fuel hfuel
        rfl

@[simp] theorem not_restored_nonFinite (negative isNan : Bool) : ¬ (nonFinite negative isNan).Restored := by
  simp [Restored, nonFinite]

end Numerals

end Document

end Leaves

section Pieces

variable {α : Type}

/-- An item of a list as it is written, with the comma behind it if there is one. -/
structure Piece (α : Type) where
  text : List UInt8
  result : Option α
  comma : Bool

def Piece.written (piece : Piece α) : List UInt8 := piece.text ++ if piece.comma then [0x2C] else []

/-- There is a comma behind every item but the last. -/
def wellSeparated : List Bool → Bool
  | [] => true
  | [last] => !last
  | first :: second :: rest => first && wellSeparated (second :: rest)

theorem wellSeparated_append {commas rest : List Bool} (hcommas : ∀ comma ∈ commas, comma = true)
    (hrest : wellSeparated rest = true) (hne : rest ≠ []) : wellSeparated (commas ++ rest) = true := by
  induction commas with
  | nil => exact hrest
  | cons comma commas ih =>
    obtain ⟨hcomma, hcommas⟩ := List.forall_mem_cons.mp hcommas
    obtain ⟨next, others, hlist⟩ := List.exists_cons_of_ne_nil (List.append_ne_nil_of_right_ne_nil commas hne)
    rw [List.cons_append, hlist, wellSeparated, ← hlist, hcomma, ih hcommas, Bool.true_and]

/-- What a reader gets from all items. -/
def collected (pieces : List (Piece α)) : Option (List α) :=
  if wellSeparated (pieces.map Piece.comma) then pieces.mapM Piece.result else none

theorem collected_singleton (last : Piece α) :
    collected [last] = if last.comma then none else last.result.map fun item => [item] := by
  rw [collected, List.map_singleton, wellSeparated, List.mapM_cons]
  cases last.comma with
  | true => rfl
  | false =>
    cases last.result with
    | none => rfl
    | some item => rfl

theorem collected_cons (first second : Piece α) (others : List (Piece α)) :
    collected (first :: second :: others) =
      if first.comma then first.result.bind fun item => (collected (second :: others)).map fun items => item :: items
      else none := by
  rw [collected, collected, List.map_cons, List.map_cons, wellSeparated, ← List.map_cons]
  cases first.comma with
  | false => rfl
  | true =>
    rw [Bool.true_and, if_pos rfl, List.mapM_cons]
    split
    · cases first.result with
      | none => rfl
      | some item =>
        cases (second :: others).mapM Piece.result with
        | none => rfl
        | some items => rfl
    · cases first.result with
      | none => rfl
      | some item => rfl

/-- A missing comma, or one too many, is noticed at the quote or the end that follows. -/
structure Noticed (item : List UInt8 → Option (α × List UInt8)) (close : UInt8) (pieces : List (Piece α)) : Prop where
  quoted : ∀ piece ∈ pieces, piece.text.head? = some 0x22
  refused : ∀ rest, item (close :: rest) = none

theorem follows_comma {rest : List UInt8} : Follows (0x2C :: rest) := by
  intro byte hbyte
  exact .inl (Option.some.inj hbyte).symm

theorem follows_quote {rest : List UInt8} : Follows (0x22 :: rest) := by
  intro byte hbyte
  exact .inr (.inr (.inr (Option.some.inj hbyte).symm))

theorem items_of_refused {item : List UInt8 → Option (α × List UInt8)} {input : List UInt8} (hrefused : item input = none)
    (close : UInt8) (fuel : Nat) : items item close fuel input = none := by
  cases fuel with
  | zero => rfl
  | succ fuel => rw [items, hrefused, Option.bind_none]

/-- An item is followed by a comma and more items, or by the end. -/
theorem items_succ {item : List UInt8 → Option (α × List UInt8)} {close byte : UInt8} (hspace : isSpace byte = false)
    {input rest : List UInt8} {result : Option α} (hitem : item input = result.map (·, byte :: rest)) (fuel : Nat) :
    items item close (fuel + 1) input =
      result.bind fun value =>
        if byte = 0x2C then (items item close fuel rest).map fun read => (value :: read.1, read.2)
        else if byte = close then some ([value], rest)
        else none := by
  rw [items, hitem]
  cases result with
  | none => rfl
  | some value =>
    rw [Option.map_some, Option.bind_some, Option.bind_some]
    dsimp only
    rw [skip_cons hspace]

theorem items_pieces {item : List UInt8 → Option (α × List UInt8)} {close : UInt8} (hclose : close = 0x5D ∨ close = 0x7D)
    {pieces : List (Piece α)}
    (hitem : ∀ piece ∈ pieces, ∀ rest, Follows rest → item (piece.text ++ rest) = piece.result.map (·, rest))
    (hne : pieces ≠ []) (hnoticed : Noticed item close pieces ∨ wellSeparated (pieces.map Piece.comma) = true)
    {fuel : Nat} (hfuel : pieces.length ≤ fuel) (rest : List UInt8) :
    items item close fuel (pieces.flatMap Piece.written ++ close :: rest) = (collected pieces).map (·, rest) := by
  have hends : Follows (close :: rest) := by
    intro byte hbyte
    obtain rfl := Option.some.inj hbyte
    obtain rfl | rfl := hclose
    · exact .inr (.inl rfl)
    · exact .inr (.inr (.inl rfl))
  have hcomma : close ≠ 0x2C ∧ isSpace close = false ∧ (0x22 : UInt8) ≠ close := by
    obtain rfl | rfl := hclose
    · decide
    · decide
  induction pieces generalizing fuel with
  | nil => exact absurd rfl hne
  | cons first others ih =>
    obtain ⟨left, rfl⟩ : ∃ left, fuel = left + 1 := ⟨fuel - 1, by rw [List.length_cons] at hfuel; omega⟩
    rw [List.length_cons, Nat.add_le_add_iff_right] at hfuel
    have hfirst := hitem first List.mem_cons_self
    have hothers := fun piece hpiece => hitem piece (List.mem_cons_of_mem _ hpiece)
    rw [List.flatMap_cons, List.append_assoc, Piece.written, List.append_assoc]
    cases others with
    | nil =>
      rw [collected_singleton, List.flatMap_nil, List.nil_append]
      cases hcommaFirst : first.comma with
      | false =>
        rw [if_neg (by decide), List.nil_append, items_succ hcomma.2.1 (hfirst _ hends), if_neg (by decide)]
        simp only [if_neg hcomma.1, if_pos]
        cases first.result <;> rfl
      | true =>
        have hrefused : item (close :: rest) = none := by
          obtain hnoticed | hseparated := hnoticed
          · exact hnoticed.refused rest
          · rw [List.map_singleton, hcommaFirst] at hseparated
            cases hseparated
        rw [if_pos rfl, List.singleton_append, items_succ rfl (hfirst _ follows_comma), if_pos rfl]
        simp only [if_pos, items_of_refused hrefused]
        cases first.result <;> rfl
    | cons second others =>
      rw [collected_cons]
      cases hcommaFirst : first.comma with
      | false =>
        obtain ⟨quoted, hquoted⟩ : ∃ quoted, second.text = 0x22 :: quoted := by
          obtain hnoticed | hseparated := hnoticed
          · have hsecond : second ∈ first :: second :: others := List.mem_cons_of_mem _ List.mem_cons_self
            exact List.head?_eq_some_iff.mp (hnoticed.quoted second hsecond)
          · rw [List.map_cons, List.map_cons, wellSeparated, hcommaFirst] at hseparated
            cases hseparated
        rw [if_neg (by decide), if_neg (by decide), List.nil_append, List.flatMap_cons, Piece.written, hquoted,
          List.cons_append, List.cons_append, List.cons_append, items_succ rfl (hfirst _ follows_quote)]
        simp only [if_neg (by decide : (0x22 : UInt8) ≠ 0x2C), if_neg hcomma.2.2]
        cases first.result <;> rfl
      | true =>
        have hseparated : Noticed item close (second :: others) ∨
            wellSeparated ((second :: others).map Piece.comma) = true := by
          refine hnoticed.imp (fun hnoticed => ⟨fun piece hpiece => ?_, hnoticed.refused⟩) fun hseparated => ?_
          · exact hnoticed.quoted piece (List.mem_cons_of_mem _ hpiece)
          · rw [List.map_cons, List.map_cons, wellSeparated, Bool.and_eq_true] at hseparated
            exact hseparated.2
        rw [if_pos rfl, if_pos rfl, List.singleton_append, items_succ rfl (hfirst _ follows_comma)]
        simp only [if_pos, ih hothers (List.cons_ne_nil _ _) hseparated hfuel]
        cases first.result with
        | none => rfl
        | some item => cases collected (second :: others) <;> rfl

theorem length_text_le {pieces : List (Piece α)} {piece : Piece α} (hpiece : piece ∈ pieces) :
    piece.text.length ≤ (pieces.flatMap Piece.written).length := by
  have hwritten : piece.text.length ≤ piece.written.length := by
    rw [Piece.written, List.length_append]
    omega
  exact hwritten.trans (List.sublist_flatten_of_mem (List.mem_map_of_mem hpiece)).length_le

theorem length_le_flatMap {pieces : List (Piece α)} (hne : ∀ piece ∈ pieces, piece.text ≠ []) :
    pieces.length ≤ (pieces.flatMap Piece.written).length := by
  induction pieces with
  | nil => exact Nat.zero_le _
  | cons first others ih =>
    obtain ⟨hfirst, hothers⟩ := List.forall_mem_cons.mp hne
    have hpos := List.length_pos_of_ne_nil hfirst
    have hrest := ih hothers
    rw [List.flatMap_cons, List.length_append, List.length_cons, Piece.written, List.length_append]
    omega

theorem listing_pieces {item : List UInt8 → Option (α × List UInt8)} {close : UInt8} (hclose : close = 0x5D ∨ close = 0x7D)
    {pieces : List (Piece α)}
    (hitem : ∀ piece ∈ pieces, ∀ rest, Follows rest → item (piece.text ++ rest) = piece.result.map (·, rest))
    (hstarts : ∀ piece ∈ pieces, ∃ first rest, piece.text = first :: rest ∧ isSpace first = false ∧ first ≠ close)
    (hnoticed : Noticed item close pieces ∨ wellSeparated (pieces.map Piece.comma) = true) (rest : List UInt8) :
    listing item close (pieces.flatMap Piece.written ++ close :: rest) = (collected pieces).map (·, rest) := by
  have hspace : isSpace close = false := by
    obtain rfl | rfl := hclose
    · rfl
    · rfl
  cases pieces with
  | nil =>
    rw [List.flatMap_nil, List.nil_append, listing, skip_cons hspace]
    dsimp only
    rw [if_pos rfl]
    rfl
  | cons piece others =>
    have hne : ∀ other ∈ piece :: others, other.text ≠ [] := by
      intro other hother hempty
      obtain ⟨first, tail, htext, -⟩ := hstarts other hother
      rw [hempty] at htext
      cases htext
    have hfuel : (piece :: others).length ≤ ((piece :: others).flatMap Piece.written ++ close :: rest).length := by
      have hlength := length_le_flatMap hne
      rw [List.length_append]
      omega
    have hread := items_pieces hclose hitem (List.cons_ne_nil _ _) hnoticed hfuel rest
    obtain ⟨first, tail, htext, hfirst, hother⟩ := hstarts piece List.mem_cons_self
    have hinput : ∃ input, (piece :: others).flatMap Piece.written ++ close :: rest = first :: input := by
      rw [List.flatMap_cons, Piece.written, htext]
      exact ⟨_, rfl⟩
    obtain ⟨input, hinput⟩ := hinput
    rw [hinput] at hread ⊢
    rw [listing, skip_cons hfirst]
    dsimp only
    rw [if_neg hother, hread]

end Pieces

section Lists

/-- The elements of a list with the commas between them. -/
def listed : List Document → List (Piece Json)
  | [] => []
  | [last] => [⟨last.text, last.result, false⟩]
  | first :: second :: rest => ⟨first.text, first.result, true⟩ :: listed (second :: rest)

theorem written_listed (elements : List Document) :
    (listed elements).flatMap Piece.written = [0x2C].intercalate (elements.map Document.text) := by
  induction elements using listed.induct with
  | case1 => rfl
  | case2 last => simp [listed, Piece.written]
  | case3 first second rest ih =>
    rw [listed, List.flatMap_cons, ih, Piece.written, if_pos rfl, List.append_assoc]
    rfl

theorem mapM_listed (elements : List Document) :
    (listed elements).mapM Piece.result = elements.mapM Document.result := by
  induction elements using listed.induct with
  | case1 => rfl
  | case2 last => rfl
  | case3 first second rest ih =>
    have hcons : (first :: second :: rest).mapM Document.result =
        first.result.bind fun value => ((second :: rest).mapM Document.result).bind fun others =>
          some (value :: others) := List.mapM_cons
    rw [hcons, ← ih]
    exact List.mapM_cons

theorem wellSeparated_listed (elements : List Document) :
    wellSeparated ((listed elements).map Piece.comma) = true := by
  induction elements using listed.induct with
  | case1 => rfl
  | case2 last => rfl
  | case3 first second rest ih =>
    obtain ⟨piece, pieces, hlisted⟩ : ∃ piece pieces, listed (second :: rest) = piece :: pieces := by
      cases rest with
      | nil => exact ⟨_, _, rfl⟩
      | cons third rest => exact ⟨_, _, rfl⟩
    rw [hlisted] at ih
    rw [listed, hlisted, List.map_cons, List.map_cons, wellSeparated, Bool.true_and, ← List.map_cons, ih]

theorem of_mem_listed {elements : List Document} {piece : Piece Json} (hpiece : piece ∈ listed elements) :
    ∃ element ∈ elements, piece.text = element.text ∧ piece.result = element.result := by
  induction elements using listed.induct with
  | case1 => cases hpiece
  | case2 last =>
    rw [List.mem_singleton.mp hpiece]
    exact ⟨last, List.mem_cons_self, rfl, rfl⟩
  | case3 first second rest ih =>
    obtain rfl | hrest := List.mem_cons.mp hpiece
    · exact ⟨first, List.mem_cons_self, rfl, rfl⟩
    · obtain ⟨element, helement, hsame⟩ := ih hrest
      exact ⟨element, List.mem_cons_of_mem _ helement, hsame⟩

/-- A reader of a list gets all elements, or none. -/
theorem exists_mapM_iff {β γ : Type} {result : β → Option γ} {shows : β → γ → Prop} {items : List β} :
    (∃ found, items.mapM result = some found ∧ List.Forall₂ shows items found) ↔
      ∀ item ∈ items, ∃ value, result item = some value ∧ shows item value := by
  induction items with
  | nil => simp
  | cons first rest ih =>
    rw [List.forall_mem_cons, ← ih, List.mapM_cons]
    constructor
    · rintro ⟨found, hfound, hshows⟩
      obtain ⟨value, hvalue, hrest⟩ := Option.bind_eq_some_iff.mp hfound
      obtain ⟨others, hothers, hlist⟩ := Option.bind_eq_some_iff.mp hrest
      obtain rfl := Option.some.inj hlist
      obtain ⟨hfirst, hrest⟩ := List.forall₂_cons.mp hshows
      exact ⟨⟨value, hvalue, hfirst⟩, others, hothers, hrest⟩
    · rintro ⟨⟨value, hvalue, hfirst⟩, others, hothers, hrest⟩
      refine ⟨value :: others, ?_, .cons hfirst hrest⟩
      rw [hvalue, hothers]
      rfl

namespace Document

def array (elements : List Document) : Document where
  text := 0x5B :: ([0x2C].intercalate (elements.map Document.text) ++ [0x5D])
  result := (elements.mapM Document.result).map .array
  shows json := ∃ found, json = .array found ∧ List.Forall₂ (fun element value => element.shows value) elements found
  starts := ⟨0x5B, _, rfl, rfl, by decide⟩
  parses := by
    intro fuel rest hfuel _
    obtain ⟨left, rfl, hleft⟩ := exists_fuel hfuel
    have hitem : ∀ piece ∈ listed elements, ∀ rest, Follows rest →
        value left (piece.text ++ rest) = piece.result.map (·, rest) := by
      intro piece hpiece rest hrest
      have hlength := length_text_le hpiece
      obtain ⟨element, helement, htext, hresult⟩ := of_mem_listed hpiece
      rw [written_listed, htext] at hlength
      rw [List.length_append] at hleft
      rw [htext, hresult]
      exact element.parses (by omega) hrest
    have hstarts : ∀ piece ∈ listed elements, ∃ first rest, piece.text = first :: rest ∧ isSpace first = false ∧
        first ≠ 0x5D := by
      intro piece hpiece
      obtain ⟨element, -, htext, -⟩ := of_mem_listed hpiece
      rw [htext]
      exact element.starts
    have hlisting := listing_pieces (.inl rfl) hitem hstarts (.inr (wellSeparated_listed elements)) rest
    rw [List.cons_append, value_array, List.append_assoc, List.singleton_append, ← written_listed, hlisting, collected,
      if_pos (wellSeparated_listed elements), mapM_listed, Option.map_map, Option.map_map]
    rfl

theorem array_text (elements : List Document) :
    (array elements).text = 0x5B :: ([0x2C].intercalate (elements.map Document.text) ++ [0x5D]) := rfl

@[simp] theorem restored_array (elements : List Document) :
    (array elements).Restored ↔ ∀ element ∈ elements, element.Restored := by
  have helements : (∀ element ∈ elements, element.Restored) ↔ ∃ found, elements.mapM Document.result = some found ∧
      List.Forall₂ (fun element value => element.shows value) elements found := by
    rw [exists_mapM_iff]
    rfl
  rw [helements, Restored, array]
  dsimp only
  constructor
  · rintro ⟨json, hjson, found, rfl, hshows⟩
    obtain ⟨others, hothers, hsame⟩ := Option.map_eq_some_iff.mp hjson
    exact ⟨found, Json.array.inj hsame ▸ hothers, hshows⟩
  · rintro ⟨found, hfound, hshows⟩
    exact ⟨.array found, by rw [hfound]; rfl, found, rfl, hshows⟩

end Document

/-- A member of an object as it is written, with the comma behind it if there is one. -/
structure Member where
  key : List UInt8
  plain : isPlain key = true
  value : Document
  comma : Bool

/-- The bytes of a text in ASCII. -/
def ascii (text : String) : List UInt8 := text.toList.map fun character => UInt8.ofNat character.toNat

namespace Member

/-- A member with others behind it. -/
def next (key : String) (value : Document) (plain : isPlain (ascii key) = true := by decide) : Member :=
  ⟨ascii key, plain, value, true⟩

def last (key : String) (value : Document) (plain : isPlain (ascii key) = true := by decide) : Member :=
  ⟨ascii key, plain, value, false⟩

def text (item : Member) : List UInt8 := 0x22 :: (item.key ++ 0x22 :: 0x3A :: item.value.text)

def result (item : Member) : Option (List UInt8 × Json) := item.value.result.map fun json => (item.key, json)

def piece (item : Member) : Piece (List UInt8 × Json) := ⟨item.text, item.result, item.comma⟩

def shows (item : Member) (found : List UInt8 × Json) : Prop := found.1 = item.key ∧ item.value.shows found.2

theorem written_next (key : String) (value : Document) (plain : isPlain (ascii key) = true) :
    (next key value plain).piece.written = 0x22 :: (ascii key ++ 0x22 :: 0x3A :: (value.text ++ [0x2C])) := by
  simp [Piece.written, piece, next, text]

theorem written_last (key : String) (value : Document) (plain : isPlain (ascii key) = true) :
    (last key value plain).piece.written = 0x22 :: (ascii key ++ 0x22 :: 0x3A :: value.text) := by
  simp [Piece.written, piece, last, text]

theorem restored_next (key : String) (value : Document) (plain : isPlain (ascii key) = true) :
    ((next key value plain).comma = true ∧ (next key value plain).value.Restored) ↔ value.Restored :=
  and_iff_right rfl

theorem restored_last (key : String) (value : Document) (plain : isPlain (ascii key) = true) :
    ((last key value plain).comma = false ∧ (last key value plain).value.Restored) ↔ value.Restored :=
  and_iff_right rfl

theorem restored_iff {item : Member} :
    (∃ found, item.result = some found ∧ item.shows found) ↔ item.value.Restored := by
  constructor
  · rintro ⟨found, hfound, hkey, hshows⟩
    obtain ⟨json, hjson, rfl⟩ := Option.map_eq_some_iff.mp hfound
    exact ⟨json, hjson, hshows⟩
  · rintro ⟨json, hjson, hshows⟩
    exact ⟨(item.key, json), by rw [result, hjson]; rfl, rfl, hshows⟩

theorem member_text {item : Member} {fuel : Nat} (hfuel : item.text.length ≤ fuel) {rest : List UInt8}
    (hrest : Follows rest) : member (Json.value fuel) (item.text ++ rest) = item.result.map (·, rest) := by
  have hlength : item.value.text.length ≤ fuel := by
    simp only [text, List.length_cons, List.length_append] at hfuel
    omega
  have hkey := stringBody_plain item.plain (0x3A :: (item.value.text ++ rest))
  rw [text, List.cons_append, List.append_assoc, List.cons_append, List.cons_append, member, skip_cons rfl]
  dsimp only
  rw [if_pos rfl, hkey, Option.bind_some]
  dsimp only
  rw [skip_cons rfl]
  dsimp only
  rw [if_pos rfl, item.value.parses hlength hrest, result, Option.map_map, Option.map_map]
  rfl

end Member

namespace Document

def object (members : List Member) : Document where
  text := 0x7B :: ((members.map Member.piece).flatMap Piece.written ++ [0x7D])
  result := (collected (members.map Member.piece)).map .object
  shows json := ∃ found, json = .object found ∧ List.Forall₂ Member.shows members found
  starts := ⟨0x7B, _, rfl, rfl, by decide⟩
  parses := by
    intro fuel rest hfuel _
    obtain ⟨left, rfl, hleft⟩ := exists_fuel hfuel
    have hitem : ∀ piece ∈ members.map Member.piece, ∀ rest, Follows rest →
        member (value left) (piece.text ++ rest) = piece.result.map (·, rest) := by
      intro piece hpiece rest hrest
      have hlength := length_text_le hpiece
      obtain ⟨item, -, rfl⟩ := List.mem_map.mp hpiece
      rw [List.length_append] at hleft
      exact Member.member_text (le_trans hlength (by omega)) hrest
    have hstarts : ∀ piece ∈ members.map Member.piece, ∃ first rest, piece.text = first :: rest ∧
        isSpace first = false ∧ first ≠ 0x7D := by
      intro piece hpiece
      obtain ⟨item, -, rfl⟩ := List.mem_map.mp hpiece
      exact ⟨0x22, _, rfl, rfl, by decide⟩
    have hnoticed : Noticed (member (value left)) 0x7D (members.map Member.piece) := by
      refine ⟨fun piece hpiece => ?_, fun rest => rfl⟩
      obtain ⟨item, -, rfl⟩ := List.mem_map.mp hpiece
      rfl
    have hlisting := listing_pieces (.inr rfl) hitem hstarts (.inl hnoticed) rest
    rw [List.cons_append, value_object, List.append_assoc, List.singleton_append, hlisting, Option.map_map,
      Option.map_map]
    rfl

theorem object_text (members : List Member) :
    (object members).text = 0x7B :: ((members.map Member.piece).flatMap Piece.written ++ [0x7D]) := rfl

@[simp] theorem restored_object (members : List Member) :
    (object members).Restored ↔
      wellSeparated (members.map Member.comma) = true ∧ ∀ item ∈ members, item.value.Restored := by
  have hmembers : (∀ item ∈ members, item.value.Restored) ↔
      ∃ found, members.mapM Member.result = some found ∧ List.Forall₂ Member.shows members found := by
    rw [exists_mapM_iff]
    exact forall₂_congr fun item _ => Member.restored_iff.symm
  have hcommas : (members.map Member.piece).map Piece.comma = members.map Member.comma := List.map_map
  have hresults : (members.map Member.piece).mapM Piece.result = members.mapM Member.result := List.mapM_map
  rw [hmembers, Restored, object]
  dsimp only
  rw [collected, hcommas, hresults]
  constructor
  · rintro ⟨json, hjson, found, rfl, hshows⟩
    obtain ⟨others, hothers, hsame⟩ := Option.map_eq_some_iff.mp hjson
    split at hothers
    · rename_i hseparated
      exact ⟨hseparated, found, Json.object.inj hsame ▸ hothers, hshows⟩
    · cases hothers
  · rintro ⟨hseparated, found, hfound, hshows⟩
    exact ⟨.object found, by rw [if_pos hseparated, hfound]; rfl, found, rfl, hshows⟩

theorem restored_object_singleton (item : Member) :
    (object [item]).Restored ↔ item.comma = false ∧ item.value.Restored := by
  rw [restored_object, List.forall_mem_singleton]
  simp [wellSeparated]

/-- An object is read member by member. -/
theorem restored_object_cons (first second : Member) (rest : List Member) :
    (object (first :: second :: rest)).Restored ↔
      (first.comma = true ∧ first.value.Restored) ∧ (object (second :: rest)).Restored := by
  rw [restored_object, restored_object, List.map_cons, List.map_cons, wellSeparated, Bool.and_eq_true,
    List.forall_mem_cons]
  exact and_and_and_comm

end Document

end Lists

end Json
