import Mathlib.Algebra.Group.Nat.Defs
import Mathlib.Data.List.TakeDrop
import Mathlib.Logic.Equiv.Defs

/-!
Values of a fixed number of bytes, and blobs in which such values lie one behind another.
-/

/-- Every run of `size` bytes stands for one value. -/
structure PackedLayout (α : Type) where
  size : Nat
  encode : α → List UInt8
  /-- Reads the value that the bytes begin with. -/
  decode : List UInt8 → α
  length_encode : ∀ value, (encode value).length = size
  decode_append : ∀ value rest, decode (encode value ++ rest) = value
  encode_decode : ∀ bytes rest, bytes.length = size → encode (decode (bytes ++ rest)) = bytes

namespace PackedLayout

variable {α β : Type}

section Words

/-- The lowest `count` bytes of a number, the lowest of them first. -/
def littleEndian : Nat → Nat → List UInt8
  | 0, _ => []
  | count + 1, number => UInt8.ofNat (number % 256) :: littleEndian count (number / 256)

def ofLittleEndian : List UInt8 → Nat
  | [] => 0
  | byte :: bytes => byte.toNat + 256 * ofLittleEndian bytes

@[simp] theorem length_littleEndian (count number : Nat) : (littleEndian count number).length = count := by
  induction count generalizing number with
  | zero => rfl
  | succ count ih => simp [littleEndian, ih]

theorem ofLittleEndian_littleEndian (count number : Nat) :
    ofLittleEndian (littleEndian count number) = number % 256 ^ count := by
  induction count generalizing number with
  | zero => simp [littleEndian, ofLittleEndian, Nat.mod_one]
  | succ count ih =>
    have hbyte : (UInt8.ofNat (number % 256)).toNat = number % 256 := by simp
    rw [littleEndian, ofLittleEndian, hbyte, ih, Nat.pow_succ', Nat.mod_mul]

theorem littleEndian_ofLittleEndian (bytes : List UInt8) : littleEndian bytes.length (ofLittleEndian bytes) = bytes := by
  induction bytes with
  | nil => rfl
  | cons byte bytes ih =>
    have hbound := byte.toNat_lt
    have hlow : (byte.toNat + 256 * ofLittleEndian bytes) % 256 = byte.toNat := by omega
    have hhigh : (byte.toNat + 256 * ofLittleEndian bytes) / 256 = ofLittleEndian bytes := by omega
    rw [List.length_cons, ofLittleEndian, littleEndian, hlow, hhigh, ih, UInt8.ofNat_toNat]

theorem ofLittleEndian_lt (bytes : List UInt8) : ofLittleEndian bytes < 256 ^ bytes.length := by
  induction bytes with
  | nil => simp [ofLittleEndian]
  | cons byte bytes ih =>
    have hbound := byte.toNat_lt
    rw [ofLittleEndian, List.length_cons, Nat.pow_succ']
    omega

end Words

/-- One byte. -/
def uint8 : PackedLayout UInt8 where
  size := 1
  encode value := [value]
  decode bytes := bytes.headD 0
  length_encode _ := rfl
  decode_append _ _ := rfl
  encode_decode bytes rest hlength := by
    obtain ⟨byte, rfl⟩ := List.length_eq_one_iff.mp hlength
    rfl

/-- A machine word of `count` bytes, the lowest first. -/
def word (count : Nat) (toNat : α → Nat) (ofNat : Nat → α) (hbound : ∀ value, toNat value < 256 ^ count)
    (hvalue : ∀ value, ofNat (toNat value) = value) (hnumber : ∀ number < 256 ^ count, toNat (ofNat number) = number) :
    PackedLayout α where
  size := count
  encode value := littleEndian count (toNat value)
  decode bytes := ofNat (ofLittleEndian (bytes.take count))
  length_encode value := length_littleEndian count (toNat value)
  decode_append value rest := by
    rw [List.take_left' (length_littleEndian count (toNat value)), ofLittleEndian_littleEndian,
      Nat.mod_eq_of_lt (hbound value), hvalue]
  encode_decode bytes rest hlength := by
    have hlt := ofLittleEndian_lt bytes
    rw [hlength] at hlt
    rw [List.take_left' hlength, hnumber _ hlt, ← hlength, littleEndian_ofLittleEndian]

def uint16 : PackedLayout UInt16 :=
  word 2 UInt16.toNat UInt16.ofNat UInt16.toNat_lt (fun _ => UInt16.ofNat_toNat) fun _ hlt => UInt16.toNat_ofNat_of_lt' hlt

def uint32 : PackedLayout UInt32 :=
  word 4 UInt32.toNat UInt32.ofNat UInt32.toNat_lt (fun _ => UInt32.ofNat_toNat) fun _ hlt => UInt32.toNat_ofNat_of_lt' hlt

/-- An array of bytes. -/
def array (count : Nat) : PackedLayout (Vector UInt8 count) where
  size := count
  encode value := value.toList
  decode bytes := Vector.ofFn fun i => bytes[i.val]?.getD 0
  length_encode value := value.length_toList
  decode_append value rest := by
    ext i hi
    simp [List.getElem?_append_left]
  encode_decode bytes rest hlength := by
    apply List.ext_getElem
    · simp [hlength]
    · intro i hi hbytes
      simp [List.getElem?_append_left hbytes, List.getElem?_eq_getElem hbytes]

/-- One value behind the other. -/
def pair (first : PackedLayout α) (second : PackedLayout β) : PackedLayout (α × β) where
  size := first.size + second.size
  encode value := first.encode value.1 ++ second.encode value.2
  decode bytes := (first.decode bytes, second.decode (bytes.drop first.size))
  length_encode value := by rw [List.length_append, first.length_encode, second.length_encode]
  decode_append value rest := by
    rw [List.append_assoc, first.decode_append, ← first.length_encode value.1, List.drop_left, second.decode_append]
  encode_decode bytes rest hlength := by
    have hfirst : (bytes.take first.size).length = first.size := by
      rw [List.length_take, hlength]
      omega
    have hsecond : (bytes.drop first.size).length = second.size := by
      rw [List.length_drop, hlength]
      omega
    have hsplit : bytes ++ rest = bytes.take first.size ++ (bytes.drop first.size ++ rest) := by
      rw [← List.append_assoc, List.take_append_drop]
    have hbehind : (bytes ++ rest).drop first.size = bytes.drop first.size ++ rest := by
      rw [List.drop_append_of_le_length (by omega)]
    rw [hbehind, second.encode_decode _ _ hsecond, hsplit, first.encode_decode _ _ hfirst, List.take_append_drop]

/-- A record with named fields. -/
def named (fields : α ≃ β) (layout : PackedLayout β) : PackedLayout α where
  size := layout.size
  encode value := layout.encode (fields value)
  decode bytes := fields.symm (layout.decode bytes)
  length_encode value := layout.length_encode (fields value)
  decode_append value rest := by rw [layout.decode_append, Equiv.symm_apply_apply]
  encode_decode bytes rest hlength := by rw [Equiv.apply_symm_apply, layout.encode_decode bytes rest hlength]

section Blobs

variable (layout : PackedLayout α)

def pack (values : List α) : List UInt8 := values.flatMap layout.encode

/-- The first `count` values of a blob. -/
def unpack : Nat → List UInt8 → List α
  | 0, _ => []
  | count + 1, bytes => layout.decode bytes :: unpack count (bytes.drop layout.size)

/-- All values of a blob, if its length is a multiple of the size of one. -/
def records (bytes : List UInt8) : Option (List α) :=
  if bytes.length % layout.size = 0 then some (layout.unpack (bytes.length / layout.size) bytes) else none

@[simp] theorem pack_nil : layout.pack [] = [] := rfl

@[simp] theorem pack_cons (value : α) (values : List α) :
    layout.pack (value :: values) = layout.encode value ++ layout.pack values := List.flatMap_cons

@[simp] theorem length_pack (values : List α) : (layout.pack values).length = values.length * layout.size := by
  induction values with
  | nil => simp
  | cons value values ih =>
    rw [pack_cons, List.length_append, layout.length_encode, ih, List.length_cons, Nat.succ_mul, Nat.add_comm]

@[simp] theorem length_unpack (count : Nat) (bytes : List UInt8) : (layout.unpack count bytes).length = count := by
  induction count generalizing bytes with
  | zero => rfl
  | succ count ih => rw [unpack, List.length_cons, ih]

theorem unpack_pack (values : List α) (rest : List UInt8) :
    layout.unpack values.length (layout.pack values ++ rest) = values := by
  induction values with
  | nil => rfl
  | cons value values ih =>
    rw [pack_cons, List.append_assoc, List.length_cons, unpack, layout.decode_append,
      ← layout.length_encode value, List.drop_left, ih]

theorem pack_unpack {count : Nat} {bytes : List UInt8} (hlength : bytes.length = count * layout.size) :
    layout.pack (layout.unpack count bytes) = bytes := by
  induction count generalizing bytes with
  | zero =>
    rw [Nat.zero_mul] at hlength
    exact (List.eq_nil_of_length_eq_zero hlength).symm
  | succ count ih =>
    rw [Nat.succ_mul] at hlength
    have hfirst : (bytes.take layout.size).length = layout.size := by
      rw [List.length_take]
      omega
    have hrest : (bytes.drop layout.size).length = count * layout.size := by
      rw [List.length_drop]
      omega
    have hencode := layout.encode_decode _ (bytes.drop layout.size) hfirst
    rw [List.take_append_drop] at hencode
    rw [unpack, pack_cons, ih hrest, hencode, List.take_append_drop]

variable {layout}

/-- Blobs of whole values are the lists of these values. -/
theorem records_eq_some_iff (hsize : 0 < layout.size) {bytes : List UInt8} {values : List α} :
    layout.records bytes = some values ↔ bytes = layout.pack values := by
  unfold records
  constructor
  · intro hrecords
    split at hrecords
    · rename_i hmod
      obtain rfl := Option.some.inj hrecords
      exact (layout.pack_unpack (Nat.div_mul_cancel (Nat.dvd_of_mod_eq_zero hmod)).symm).symm
    · cases hrecords
  · rintro rfl
    have hvalues := layout.unpack_pack values []
    rw [List.append_nil] at hvalues
    rw [length_pack, Nat.mul_mod_left, if_pos rfl, Nat.mul_div_cancel _ hsize, hvalues]

theorem records_pack (hsize : 0 < layout.size) (values : List α) : layout.records (layout.pack values) = some values :=
  (records_eq_some_iff hsize).mpr rfl

theorem records_eq_none_iff {bytes : List UInt8} :
    layout.records bytes = none ↔ bytes.length % layout.size ≠ 0 := by
  simp [records]

end Blobs

end PackedLayout
