import Mathlib.Tactic.SplitIfs
import Kilowatts.Library.ByteSet

/-!
The `application/x-www-form-urlencoded` format, in which browsers send the fields of a form.
-/

namespace FormEncoding

open ByteSet (forall_byte)

def isAlphanumeric (byte : UInt8) : Bool :=
  (0x30 ≤ byte && byte ≤ 0x39) || (0x41 ≤ byte && byte ≤ 0x5A) || (0x61 ≤ byte && byte ≤ 0x7A)

/-- The characters that are sent as they are. Standards do not agree on all of them, but
on letters and digits, on `-`, `.` and `_`, and on those that are never sent so. -/
structure UnreservedSet where
  contains : UInt8 → Bool
  alphanumeric : ∀ byte, isAlphanumeric byte = true ∨ byte ∈ [0x2D, 0x2E, 0x5F] → contains byte = true
  reserved : ∀ byte ∈ [0, 0x20, 0x25, 0x26, 0x2B, 0x3D], contains byte = false

/-- The characters that the standard for forms in browsers leaves as they are. -/
def UnreservedSet.browser : UnreservedSet where
  contains byte := isAlphanumeric byte || byte ∈ [0x2A, 0x2D, 0x2E, 0x5F]
  alphanumeric byte hbyte := by
    rw [Bool.or_eq_true, decide_eq_true_eq]
    exact hbyte.imp_right fun hmem => List.mem_cons_of_mem _ hmem
  reserved := by decide +kernel

def upperHexDigit (digit : UInt8) : UInt8 := if digit < 10 then 0x30 + digit else 0x37 + digit

variable (unreserved : UnreservedSet)

def encodeByte (byte : UInt8) : List UInt8 :=
  if unreserved.contains byte then [byte]
  else if byte = 0x20 then [0x2B]
  else [0x25, upperHexDigit (byte / 16), upperHexDigit (byte % 16)]

def encode (text : List UInt8) : List UInt8 := text.flatMap (encodeByte unreserved)

def encodeField (field : List UInt8 × List UInt8) : List UInt8 :=
  encode unreserved field.1 ++ 0x3D :: encode unreserved field.2

/-- The fields with `&` between them. -/
def formBody : List (List UInt8 × List UInt8) → List UInt8
  | [] => []
  | [field] => encodeField unreserved field
  | field :: next :: rest => encodeField unreserved field ++ 0x26 :: formBody (next :: rest)

variable {unreserved} {byte digit : UInt8} {text : List UInt8}

theorem encodeByte_of_contains (hbyte : unreserved.contains byte = true) : encodeByte unreserved byte = [byte] :=
  if_pos hbyte

theorem encodeByte_blank : encodeByte unreserved 0x20 = [0x2B] := by
  have hblank := unreserved.reserved 0x20 (by decide)
  rw [encodeByte, if_neg (Bool.eq_false_iff.mp hblank), if_pos rfl]

theorem encodeByte_escape (hbyte : unreserved.contains byte = false) (hblank : byte ≠ 0x20) :
    encodeByte unreserved byte = [0x25, upperHexDigit (byte / 16), upperHexDigit (byte % 16)] := by
  rw [encodeByte, if_neg (Bool.eq_false_iff.mp hbyte), if_neg hblank]

/-- A byte is sent as it is, as `+` if it is a blank, or by its two digits. -/
theorem encodeByte_cases (unreserved : UnreservedSet) (byte : UInt8) :
    (unreserved.contains byte = true ∧ encodeByte unreserved byte = [byte]) ∨
    (byte = 0x20 ∧ encodeByte unreserved byte = [0x2B]) ∨
    (unreserved.contains byte = false ∧ byte ≠ 0x20 ∧
      encodeByte unreserved byte = [0x25, upperHexDigit (byte / 16), upperHexDigit (byte % 16)]) := by
  by_cases hblank : byte = 0x20
  · rw [hblank]
    exact .inr (.inl ⟨rfl, encodeByte_blank⟩)
  · cases hbyte : unreserved.contains byte with
    | true => exact .inl ⟨rfl, encodeByte_of_contains hbyte⟩
    | false => exact .inr (.inr ⟨rfl, hblank, encodeByte_escape hbyte hblank⟩)

theorem encode_cons (byte : UInt8) (text : List UInt8) :
    encode unreserved (byte :: text) = encodeByte unreserved byte ++ encode unreserved text := List.flatMap_cons

theorem encode_append (first second : List UInt8) :
    encode unreserved (first ++ second) = encode unreserved first ++ encode unreserved second := List.flatMap_append

theorem encode_of_contains (htext : ∀ byte ∈ text, unreserved.contains byte = true) : encode unreserved text = text := by
  induction text with
  | nil => rfl
  | cons byte text ih =>
    rw [encode_cons, encodeByte_of_contains (htext byte List.mem_cons_self),
      ih fun other hother => htext other (List.mem_cons_of_mem _ hother)]
    rfl

/-- What is sent ends no text, and separates neither fields nor names from values. -/
theorem separator_notMem_encode {separator : UInt8} (hseparator : separator ∈ [0, 0x26, 0x3D]) (text : List UInt8) :
    separator ∉ encode unreserved text := by
  have hdigits : ∀ byte : UInt8, ∀ separator ∈ ([0, 0x26, 0x3D] : List UInt8),
      separator ∉ [0x25, upperHexDigit (byte / 16), upperHexDigit (byte % 16)] := forall_byte (by decide +kernel)
  rw [encode, List.mem_flatMap]
  rintro ⟨byte, -, hmem⟩
  obtain ⟨hbyte, hencode⟩ | ⟨rfl, hencode⟩ | ⟨-, -, hencode⟩ := encodeByte_cases unreserved byte
  · rw [hencode, List.mem_singleton] at hmem
    subst hmem
    have hreserved : [0, 0x26, 0x3D] ⊆ [(0 : UInt8), 0x20, 0x25, 0x26, 0x2B, 0x3D] := by decide +kernel
    rw [unreserved.reserved separator (hreserved hseparator)] at hbyte
    cases hbyte
  · rw [hencode, List.mem_singleton] at hmem
    subst hmem
    exact absurd hseparator (by decide)
  · rw [hencode] at hmem
    exact hdigits byte separator hseparator hmem

theorem length_encodeByte_of_contains (hbyte : unreserved.contains byte = true) :
    (encodeByte unreserved byte).length = 1 := by
  rw [encodeByte_of_contains hbyte]
  rfl

theorem length_encodeByte_pos (unreserved : UnreservedSet) (byte : UInt8) : 0 < (encodeByte unreserved byte).length := by
  obtain ⟨-, hencode⟩ | ⟨-, hencode⟩ | ⟨-, -, hencode⟩ := encodeByte_cases unreserved byte <;> simp [hencode]

theorem length_le_length_encode (unreserved : UnreservedSet) (text : List UInt8) :
    text.length ≤ (encode unreserved text).length := by
  induction text with
  | nil => exact Nat.zero_le _
  | cons byte text ih =>
    have hpos := length_encodeByte_pos unreserved byte
    rw [encode_cons, List.length_append, List.length_cons]
    omega

/-- A text whose encoding is longer than the room for it is cut within or in front of the
encoding of one of its bytes. -/
theorem exists_cut {room : Nat} (hroom : room < (encode unreserved text).length) :
    ∃ kept byte rest, text = kept ++ byte :: rest ∧ (encode unreserved kept).length ≤ room ∧
      room < (encode unreserved kept).length + (encodeByte unreserved byte).length := by
  induction text generalizing room with
  | nil => exact absurd hroom (Nat.not_lt_zero _)
  | cons byte text ih =>
    rw [encode_cons, List.length_append] at hroom
    by_cases hbyte : room < (encodeByte unreserved byte).length
    · exact ⟨[], byte, text, rfl, Nat.zero_le _, by simpa [encode] using hbyte⟩
    · obtain ⟨kept, cut, rest, htext, hkept, hcut⟩ := @ih (room - (encodeByte unreserved byte).length) (by omega)
      refine ⟨byte :: kept, cut, rest, by rw [htext, List.cons_append], ?_, ?_⟩
      · rw [encode_cons, List.length_append]
        omega
      · rw [encode_cons, List.length_append]
        omega

theorem take_encode_of_cut {kept rest : List UInt8} {room : Nat} (hkept : (encode unreserved kept).length ≤ room)
    (hcut : room < (encode unreserved kept).length + (encodeByte unreserved byte).length) :
    (encode unreserved (kept ++ byte :: rest)).take room =
      encode unreserved kept ++ (encodeByte unreserved byte).take (room - (encode unreserved kept).length) := by
  rw [encode_append, encode_cons, List.take_append, List.take_of_length_le hkept, List.take_append_of_le_length (by omega)]

theorem formBody_cons_cons (field next : List UInt8 × List UInt8) (rest : List (List UInt8 × List UInt8)) :
    formBody unreserved (field :: next :: rest) =
      encodeField unreserved field ++ 0x26 :: formBody unreserved (next :: rest) := rfl

end FormEncoding
