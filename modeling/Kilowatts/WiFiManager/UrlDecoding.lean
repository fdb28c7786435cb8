import Kilowatts.Library.CharBuffer
import Kilowatts.Library.FormEncoding
import Kilowatts.Library.ScanFormat
import Kilowatts.Library.TextSearch

namespace kilowatts

open FormEncoding TextSearch
open ByteSet (forall_byte)

/-! Texts are the bytes in front of the zero that ends them. -/

namespace WiFiProvisioningPortal

/-- `strtol` with base 16, of too few digits for an overflow. It takes what `%x` takes, and
is zero where that takes nothing. -/
def strtol (hex : List UInt8) : UInt32 := ((ScanFormat.scanHex hex.length hex).map Prod.fst).getD 0

def charAt {size : Nat} (text : CharBuffer size) (index : Nat) : UInt8 := text[index]?.getD 0

/-- The loop of `urlDecodeInPlace`, from where it reads and where it writes. -/
def urlDecodeFrom {size : Nat} : Nat → CharBuffer size → Nat → Nat → CharBuffer size
  | 0, text, _, output => text.setIfInBounds output 0
  | fuel + 1, text, input, output =>
    if charAt text input = 0 then text.setIfInBounds output 0
    else if charAt text input = 0x2B then
      urlDecodeFrom fuel (text.setIfInBounds output 0x20) (input + 1) (output + 1)
    else if charAt text input = 0x25 ∧ charAt text (input + 1) ≠ 0 ∧ charAt text (input + 2) ≠ 0 then
      let hex := [charAt text (input + 1), charAt text (input + 2)]
      urlDecodeFrom fuel (text.setIfInBounds output (strtol hex).toUInt8) (input + 3) (output + 1)
    else urlDecodeFrom fuel (text.setIfInBounds output (charAt text input)) (input + 1) (output + 1)

def urlDecodeInPlace {size : Nat} (text : CharBuffer size) : CharBuffer size := urlDecodeFrom size text 0 0

/-- What `urlDecodeInPlace` makes of a text. -/
def urlDecode : List UInt8 → List UInt8
  | [] => []
  | byte :: first :: second :: rest =>
    if byte = 0x25 then (strtol [first, second]).toUInt8 :: urlDecode rest
    else (if byte = 0x2B then 0x20 else byte) :: urlDecode (first :: second :: rest)
  | byte :: rest => (if byte = 0x2B then 0x20 else byte) :: urlDecode rest

section Decoding

variable {size fuel input output : Nat} {buffer : CharBuffer size} {byte : UInt8} {text rest : List UInt8}

theorem urlDecode_plain (hplain : byte ≠ 0x25 ∨ rest.length < 2) :
    urlDecode (byte :: rest) = (if byte = 0x2B then 0x20 else byte) :: urlDecode rest := by
  match rest with
  | [] => rfl
  | [_] => rfl
  | first :: second :: rest =>
    have hpercent : byte ≠ 0x25 := hplain.resolve_right (by simp)
    rw [urlDecode, if_neg hpercent]

theorem urlDecode_escape (first second : UInt8) (rest : List UInt8) :
    urlDecode (0x25 :: first :: second :: rest) = (strtol [first, second]).toUInt8 :: urlDecode rest := by
  rw [urlDecode, if_pos rfl]

theorem urlDecodeFrom_end (hchar : charAt buffer input = 0) :
    urlDecodeFrom (fuel + 1) buffer input output = buffer.setIfInBounds output 0 := if_pos hchar

theorem urlDecodeFrom_plain (hzero : charAt buffer input ≠ 0)
    (hplain : charAt buffer input ≠ 0x25 ∨ charAt buffer (input + 1) = 0 ∨ charAt buffer (input + 2) = 0) :
    urlDecodeFrom (fuel + 1) buffer input output =
      urlDecodeFrom fuel
        (buffer.setIfInBounds output (if charAt buffer input = 0x2B then 0x20 else charAt buffer input))
        (input + 1) (output + 1) := by
  rw [urlDecodeFrom, if_neg hzero]
  by_cases hplus : charAt buffer input = 0x2B
  · rw [if_pos hplus, if_pos hplus]
  · rw [if_neg hplus, if_neg hplus, if_neg]
    rintro ⟨hpercent, hfirst, hsecond⟩
    obtain hnot | hnot | hnot := hplain
    · exact hnot hpercent
    · exact hfirst hnot
    · exact hsecond hnot

theorem urlDecodeFrom_escape (hpercent : charAt buffer input = 0x25) (hfirst : charAt buffer (input + 1) ≠ 0)
    (hsecond : charAt buffer (input + 2) ≠ 0) :
    urlDecodeFrom (fuel + 1) buffer input output =
      urlDecodeFrom fuel
        (buffer.setIfInBounds output (strtol [charAt buffer (input + 1), charAt buffer (input + 2)]).toUInt8)
        (input + 3) (output + 1) := by
  rw [urlDecodeFrom, if_neg (by rw [hpercent]; decide), if_neg (by rw [hpercent]; decide),
    if_pos ⟨hpercent, hfirst, hsecond⟩]

/-- A byte is written over the first of those that are read but not kept. -/
theorem exists_set_gap (done gap rest : List UInt8) (byte value : UInt8) :
    ∃ left : List UInt8, left.length = gap.length ∧
      (done ++ (gap ++ byte :: rest)).set done.length value = (done ++ [value]) ++ (left ++ rest) := by
  rw [List.set_append_right _ _ (Nat.le_refl _), Nat.sub_self]
  cases gap with
  | nil => exact ⟨[], rfl, by simp⟩
  | cons first gap => exact ⟨gap ++ [byte], by simp, by simp⟩

/-- What is in a buffer while its text is decoded: what is written, what is read but not
kept, and what is still to be read. -/
def DecodingState (buffer : CharBuffer size) (done : List UInt8) (gap : Nat) (text rest : List UInt8) : Prop :=
  ∃ left : List UInt8, left.length = gap ∧ buffer.toList = done ++ (left ++ (text ++ 0 :: rest))

namespace DecodingState

variable {done : List UInt8} {gap : Nat}

theorem charAt_eq (hstate : DecodingState buffer done gap text rest) (index : Nat) :
    charAt buffer (done.length + gap + index) = (text ++ 0 :: rest)[index]?.getD 0 := by
  obtain ⟨left, rfl, hbuffer⟩ := hstate
  rw [charAt, ← Vector.getElem?_toList, hbuffer, List.getElem?_append_right (by omega),
    List.getElem?_append_right (by omega)]
  congr 2
  omega

theorem write (hstate : DecodingState buffer done gap (byte :: text) rest) (value : UInt8) :
    DecodingState (buffer.setIfInBounds done.length value) (done ++ [value]) gap text rest := by
  obtain ⟨left, hleft, hbuffer⟩ := hstate
  obtain ⟨shifted, hshifted, hset⟩ := exists_set_gap done left (text ++ 0 :: rest) byte value
  refine ⟨shifted, hshifted.trans hleft, ?_⟩
  rw [Vector.toList_setIfInBounds, hbuffer, List.cons_append, hset]

theorem skip (hstate : DecodingState buffer done gap (byte :: text) rest) :
    DecodingState buffer done (gap + 1) text rest := by
  obtain ⟨left, hleft, hbuffer⟩ := hstate
  exact ⟨left ++ [byte], by rw [List.length_append, hleft]; rfl, by rw [hbuffer, List.append_assoc]; rfl⟩

/-- Decoding in place never writes past what it has read. -/
theorem urlDecodeFrom_toList (hstate : DecodingState buffer done gap text rest) (hzero : 0 ∉ text)
    (hfuel : text.length < fuel) :
    ∃ junk, (urlDecodeFrom fuel buffer (done.length + gap) done.length).toList =
      done ++ urlDecode text ++ 0 :: junk := by
  induction fuel generalizing buffer done gap text with
  | zero => exact absurd hfuel (Nat.not_lt_zero _)
  | succ fuel ih =>
    have hchar := hstate.charAt_eq
    cases text with
    | nil =>
      have hend : charAt buffer (done.length + gap) = 0 := hchar 0
      rw [urlDecodeFrom_end hend]
      obtain ⟨left, hleft, hbuffer⟩ := hstate
      obtain ⟨shifted, -, hset⟩ := exists_set_gap done left rest 0 0
      refine ⟨shifted ++ rest, ?_⟩
      rw [Vector.toList_setIfInBounds, hbuffer, List.nil_append, hset, urlDecode, List.append_nil, List.append_assoc]
      rfl
    | cons byte text =>
      rw [List.mem_cons, not_or] at hzero
      rw [List.length_cons] at hfuel
      have hbyte : charAt buffer (done.length + gap) = byte := hchar 0
      by_cases hescape : byte = 0x25 ∧ 2 ≤ text.length
      · obtain ⟨rfl, hlength⟩ := hescape
        match text, hlength with
        | first :: second :: text, _ =>
          have hfirst : charAt buffer (done.length + gap + 1) = first := hchar 1
          have hsecond : charAt buffer (done.length + gap + 2) = second := hchar 2
          simp only [List.mem_cons, not_or] at hzero
          rw [urlDecodeFrom_escape hbyte (hfirst ▸ Ne.symm hzero.2.1) (hsecond ▸ Ne.symm hzero.2.2.1), hfirst, hsecond,
            urlDecode_escape]
          obtain ⟨junk, hjunk⟩ := ih (hstate.write (strtol [first, second]).toUInt8).skip.skip hzero.2.2.2
            (by simp only [List.length_cons] at hfuel; omega)
          refine ⟨junk, ?_⟩
          rw [List.length_append, List.length_singleton] at hjunk
          rw [show done.length + gap + 3 = done.length + 1 + (gap + 1 + 1) by omega, hjunk,
            List.append_assoc done, List.singleton_append]
      · have hplain : byte ≠ 0x25 ∨ text.length < 2 := by
          by_cases hpercent : byte = 0x25
          · exact .inr (not_le.mp fun hlength => hescape ⟨hpercent, hlength⟩)
          · exact .inl hpercent
        have hstop : byte ≠ 0x25 ∨ charAt buffer (done.length + gap + 1) = 0 ∨
            charAt buffer (done.length + gap + 2) = 0 := by
          refine hplain.imp_right fun hshort => ?_
          match text, hshort with
          | [], _ => exact .inl (hchar 1)
          | [_], _ => exact .inr (hchar 2)
        rw [urlDecodeFrom_plain (hbyte ▸ Ne.symm hzero.1) (hbyte ▸ hstop), hbyte, urlDecode_plain hplain]
        obtain ⟨junk, hjunk⟩ := ih (hstate.write (if byte = 0x2B then 0x20 else byte)) hzero.2 (by omega)
        refine ⟨junk, ?_⟩
        rw [List.length_append, List.length_singleton, Nat.add_right_comm] at hjunk
        rw [hjunk, List.append_assoc done, List.singleton_append]

end DecodingState

end Decoding

theorem urlDecodeInPlace_text {size : Nat} {buffer : CharBuffer size} {text rest : List UInt8} (hzero : 0 ∉ text)
    (hbuffer : buffer.toList = text ++ 0 :: rest) :
    (urlDecodeInPlace buffer).text = (urlDecode text).takeWhile (· ≠ 0) := by
  have hstate : DecodingState buffer [] 0 text rest := ⟨[], rfl, hbuffer⟩
  have hsize : text.length < size := by
    have hlength := congrArg List.length hbuffer
    simp only [Vector.length_toList, List.length_append, List.length_cons] at hlength
    omega
  obtain ⟨junk, hjunk⟩ := hstate.urlDecodeFrom_toList hzero hsize
  rw [CharBuffer.text, urlDecodeInPlace]
  rw [List.length_nil, Nat.add_zero, List.nil_append] at hjunk
  rw [hjunk, takeWhile_ne_append]

/-- A value ends so that its encoding less the last two bytes, a `%` or `%2`, is still
taken for the same text. -/
def EndsInPercent (value : List UInt8) : Prop := [0x25] <:+ value ∨ [0x25, 0x32] <:+ value

/-- The encoding of a value has room in a buffer, or its last two bytes do not matter. -/
def EncodingFits (unreserved : UnreservedSet) (outSize : Nat) (value : List UInt8) : Prop :=
  (encode unreserved value).length < outSize ∨
    ((encode unreserved value).length = outSize + 1 ∧ EndsInPercent value)

section Encoding

variable {unreserved : UnreservedSet} {byte last : UInt8} {text rest front : List UInt8}

theorem strtol_upperHexDigit (byte : UInt8) :
    (strtol [upperHexDigit (byte / 16), upperHexDigit (byte % 16)]).toUInt8 = byte := by
  have hall : ∀ byte : UInt8, (strtol [upperHexDigit (byte / 16), upperHexDigit (byte % 16)]).toUInt8 = byte :=
    forall_byte (by decide +kernel)
  exact hall byte

theorem urlDecode_encodeByte_append (byte : UInt8) (rest : List UInt8) :
    urlDecode (encodeByte unreserved byte ++ rest) = byte :: urlDecode rest := by
  obtain ⟨hbyte, hencode⟩ | ⟨rfl, hencode⟩ | ⟨-, -, hencode⟩ := encodeByte_cases unreserved byte
  · have hpercent : byte ≠ 0x25 := by
      rintro rfl
      rw [unreserved.reserved 0x25 (by decide)] at hbyte
      cases hbyte
    have hplus : byte ≠ 0x2B := by
      rintro rfl
      rw [unreserved.reserved 0x2B (by decide)] at hbyte
      cases hbyte
    rw [hencode, List.singleton_append, urlDecode_plain (.inl hpercent), if_neg hplus]
  · rw [hencode, List.singleton_append, urlDecode_plain (.inl (by decide)), if_pos rfl]
  · rw [hencode, List.cons_append, List.cons_append, List.cons_append, List.nil_append, urlDecode_escape,
      strtol_upperHexDigit]

theorem urlDecode_encode_append (text rest : List UInt8) :
    urlDecode (encode unreserved text ++ rest) = text ++ urlDecode rest := by
  induction text with
  | nil => rfl
  | cons byte text ih => rw [encode_cons, List.append_assoc, urlDecode_encodeByte_append, ih, List.cons_append]

theorem urlDecode_encode (text : List UInt8) : urlDecode (encode unreserved text) = text := by
  rw [← List.append_nil (encode unreserved text), urlDecode_encode_append, urlDecode, List.append_nil]

theorem encode_injective : Function.Injective (encode unreserved) :=
  Function.LeftInverse.injective urlDecode_encode

theorem percent_suffix_concat_iff : [0x25] <:+ front ++ [byte] ↔ byte = 0x25 := by
  rw [List.suffix_concat_iff]
  constructor
  · rintro (hnil | ⟨start, hstart, -⟩)
    · cases hnil
    · have hlast := congrArg List.getLast? hstart
      rw [List.getLast?_concat] at hlast
      exact (Option.some.inj hlast).symm
  · rintro rfl
    exact .inr ⟨[], rfl, List.nil_suffix⟩

theorem endsInPercent_concat_iff :
    EndsInPercent (front ++ [last]) ↔ last = 0x25 ∨ (last = 0x32 ∧ [0x25] <:+ front) := by
  rw [EndsInPercent, percent_suffix_concat_iff, List.suffix_concat_iff]
  refine or_congr_right ⟨?_, ?_⟩
  · rintro (hnil | ⟨start, hstart, hsuffix⟩)
    · cases hnil
    · have hsplit : [0x25] ++ [0x32] = start ++ [last] := hstart
      obtain ⟨rfl, hlast⟩ := List.append_inj' hsplit rfl
      exact ⟨(List.singleton_inj.mp hlast).symm, hsuffix⟩
  · rintro ⟨rfl, hsuffix⟩
    exact .inr ⟨[0x25], rfl, hsuffix⟩

theorem length_encodeByte_percent : (encodeByte unreserved 0x25).length = 3 := by
  rw [encodeByte_escape (unreserved.reserved 0x25 (by decide)) (by decide)]
  rfl

theorem length_encodeByte_two : (encodeByte unreserved 0x32).length = 1 :=
  length_encodeByte_of_contains (unreserved.alphanumeric 0x32 (by decide))

theorem eq_nil_of_length_encode (hlength : (encode unreserved text).length = 0) : text = [] :=
  List.eq_nil_of_length_eq_zero (Nat.le_zero.mp (hlength ▸ length_le_length_encode unreserved text))

theorem exists_of_length_encode (hlength : (encode unreserved text).length = 1) :
    ∃ last, text = [last] ∧ (encodeByte unreserved last).length = 1 := by
  cases text with
  | nil => cases hlength
  | cons last text =>
    have hpos := length_encodeByte_pos unreserved last
    rw [encode_cons, List.length_append] at hlength
    have htext := eq_nil_of_length_encode (by omega : (encode unreserved text).length = 0)
    exact ⟨last, by rw [htext], by omega⟩

/-- What is left of the encoding of a byte that is cut is not decoded. -/
theorem urlDecode_take_encodeByte {cut : Nat} (hcut : cut < (encodeByte unreserved byte).length) :
    urlDecode ((encodeByte unreserved byte).take cut) = (encodeByte unreserved byte).take cut := by
  have hdigit : ∀ byte : UInt8, upperHexDigit (byte / 16) ≠ 0x2B := forall_byte (by decide +kernel)
  obtain ⟨-, hencode⟩ | ⟨-, hencode⟩ | ⟨-, -, hencode⟩ := encodeByte_cases unreserved byte <;>
    rw [hencode] at hcut ⊢
  · rw [Nat.lt_one_iff.mp hcut]
    rfl
  · rw [Nat.lt_one_iff.mp hcut]
    rfl
  · match cut, hcut with
    | 0, _ => rfl
    | 1, _ => rfl
    | 2, _ =>
      rw [List.take_succ_cons, List.take_succ_cons, List.take_zero, urlDecode_plain (.inr (by simp)),
        urlDecode_plain (.inr (by simp)), if_neg (by decide), if_neg (hdigit byte)]
      rfl

theorem not_endsInPercent {kept : List UInt8} (hbyte : (encodeByte unreserved byte).length = 1)
    (hlast : (encodeByte unreserved last).length = 1) : ¬ EndsInPercent (kept ++ [byte, last]) := by
  rw [List.append_cons, endsInPercent_concat_iff, percent_suffix_concat_iff]
  rintro (rfl | ⟨-, rfl⟩)
  · rw [length_encodeByte_percent] at hlast
    cases hlast
  · rw [length_encodeByte_percent] at hbyte
    cases hbyte

/-- The part that is left of the encoding of a byte can be the end of the text itself. -/
theorem cons_eq_take_encodeByte_iff {kept : List UInt8} {cut : Nat} (hcut : cut < (encodeByte unreserved byte).length) :
    byte :: rest = (encodeByte unreserved byte).take cut ↔
      (encodeByte unreserved byte).length + (encode unreserved rest).length = cut + 2 ∧
        EndsInPercent (kept ++ byte :: rest) := by
  by_cases hsingle : (encodeByte unreserved byte).length = 1
  · obtain rfl : cut = 0 := by omega
    refine iff_of_false (List.cons_ne_nil _ _) ?_
    rintro ⟨hlength, hends⟩
    obtain ⟨last, rfl, hlast⟩ := exists_of_length_encode (by omega : (encode unreserved rest).length = 1)
    exact not_endsInPercent hsingle hlast hends
  have hescape : encodeByte unreserved byte = [0x25, upperHexDigit (byte / 16), upperHexDigit (byte % 16)] := by
    obtain ⟨-, hencode⟩ | ⟨-, hencode⟩ | ⟨-, -, hencode⟩ := encodeByte_cases unreserved byte
    · exact absurd (by rw [hencode]; rfl) hsingle
    · exact absurd (by rw [hencode]; rfl) hsingle
    · exact hencode
  have hthree : (encodeByte unreserved byte).length = 3 := by rw [hescape]; rfl
  rw [hthree] at hcut ⊢
  rw [hescape]
  match cut, hcut with
  | 0, _ => exact iff_of_false (List.cons_ne_nil _ _) fun hends => by omega
  | 1, _ =>
    rw [List.take_succ_cons, List.take_zero, List.cons.injEq]
    constructor
    · rintro ⟨rfl, rfl⟩
      exact ⟨rfl, endsInPercent_concat_iff.mpr (.inl rfl)⟩
    · rintro ⟨hlength, hends⟩
      obtain rfl := eq_nil_of_length_encode (by omega : (encode unreserved rest).length = 0)
      obtain rfl | ⟨rfl, -⟩ := endsInPercent_concat_iff.mp hends
      · exact ⟨rfl, rfl⟩
      · exact absurd length_encodeByte_two hsingle
  | 2, _ =>
    rw [List.take_succ_cons, List.take_succ_cons, List.take_zero, List.cons.injEq]
    constructor
    · rintro ⟨rfl, rfl⟩
      refine ⟨?_, .inr (List.suffix_append kept _)⟩
      rw [encode_cons, List.length_append]
      exact congrArg (fun length => 3 + (length + 0)) length_encodeByte_two
    · rintro ⟨hlength, hends⟩
      obtain ⟨last, rfl, hlast⟩ := exists_of_length_encode (by omega : (encode unreserved rest).length = 1)
      rw [List.append_cons, endsInPercent_concat_iff, percent_suffix_concat_iff] at hends
      obtain rfl | ⟨rfl, rfl⟩ := hends
      · rw [length_encodeByte_percent] at hlast
        cases hlast
      · exact ⟨rfl, rfl⟩

/-- Where a value is cut within the encoding of a byte, what is read of that byte is taken
for the value only if the byte is `%` and what is read is the end of the value. -/
theorem urlDecode_take_encode_iff {outSize : Nat} (hzero : 0 ∉ text) (hsize : 0 < outSize) :
    (urlDecode ((encode unreserved text).take (outSize - 1))).takeWhile (· ≠ 0) = text ↔
      EncodingFits unreserved outSize text := by
  rw [EncodingFits]
  by_cases hfits : (encode unreserved text).length < outSize
  · rw [List.take_of_length_le (by omega), urlDecode_encode, takeWhile_ne_of_notMem hzero]
    exact iff_of_true rfl (.inl hfits)
  obtain ⟨kept, byte, rest, rfl, hkept, hcut⟩ := exists_cut (by omega : outSize - 1 < (encode unreserved text).length)
  obtain ⟨cut, rfl⟩ : ∃ cut, outSize = (encode unreserved kept).length + cut + 1 :=
    ⟨outSize - 1 - (encode unreserved kept).length, by omega⟩
  rw [Nat.add_sub_cancel] at hcut hkept
  have hpart := urlDecode_take_encodeByte (by omega : cut < (encodeByte unreserved byte).length)
  have hkeptZero : 0 ∉ kept ++ (encodeByte unreserved byte).take cut := by
    rw [List.mem_append, not_or]
    refine ⟨fun hmem => hzero (List.mem_append_left _ hmem), fun hmem => ?_⟩
    apply separator_notMem_encode (by decide : (0 : UInt8) ∈ [0, 0x26, 0x3D]) [byte]
    rw [encode_cons]
    exact List.mem_append_left _ (List.mem_of_mem_take hmem)
  rw [Nat.add_sub_cancel, take_encode_of_cut hkept hcut, urlDecode_encode_append, Nat.add_sub_cancel_left, hpart,
    takeWhile_ne_of_notMem hkeptZero, List.append_cancel_left_eq, eq_comm, cons_eq_take_encodeByte_iff (by omega),
    or_iff_right hfits, encode_append, encode_cons, List.length_append, List.length_append]
  exact and_congr_left' (by omega)

/-- A value with room for its encoding has room itself. -/
theorem length_lt_of_encodingFits {outSize : Nat} (hfits : EncodingFits unreserved outSize text) :
    text.length < outSize := by
  have hpercent : (encode unreserved [0x25]).length = 3 := by
    rw [encode_cons, List.length_append, length_encodeByte_percent]
    rfl
  obtain hfits | ⟨hlength, ⟨front, rfl⟩ | ⟨front, rfl⟩⟩ := hfits
  · exact (length_le_length_encode unreserved text).trans_lt hfits
  · have hfront := length_le_length_encode unreserved front
    rw [encode_append, List.length_append, hpercent] at hlength
    rw [List.length_append, List.length_singleton]
    omega
  · have hfront := length_le_length_encode unreserved front
    rw [List.append_cons, encode_append, encode_append, List.length_append, List.length_append, hpercent] at hlength
    have htwo := length_le_length_encode unreserved [0x32]
    rw [List.length_singleton] at htwo
    rw [List.length_append, List.length_cons, List.length_singleton]
    omega

end Encoding

end WiFiProvisioningPortal

end kilowatts
