import Mathlib.Data.List.TakeWhile

/-!
Fixed-size `char` arrays that hold a text ended by a zero byte.
-/

/-- A `char` array of fixed size. Its text ends at the first zero byte. -/
abbrev CharBuffer (capacity : Nat) := Vector UInt8 capacity

namespace CharBuffer

variable {capacity : Nat}

def text (buffer : CharBuffer capacity) : List UInt8 := buffer.toList.takeWhile (· ≠ 0)

def boundedLength (buffer : CharBuffer capacity) : Nat := buffer.text.length

/-- A zero-initialised array. -/
def zero : CharBuffer capacity := Vector.replicate capacity 0

/-- Writes as much of a text as leaves room for the zero that ends it, as
`snprintf` with `%s` does. What lies behind the zero stays. -/
def print (buffer : CharBuffer capacity) (text : List UInt8) : CharBuffer capacity :=
  Vector.ofFn fun i => (text.take (capacity - 1) ++ [0])[i.val]?.getD buffer[i.val]

theorem zero_notMem_text (buffer : CharBuffer capacity) : 0 ∉ buffer.text := by
  intro hzero
  simpa using List.mem_takeWhile_imp hzero

theorem print_toList {buffer : CharBuffer capacity} {text : List UInt8} (hcapacity : 0 < capacity) :
    (buffer.print text).toList =
      text.take (capacity - 1) ++ 0 :: buffer.toList.drop ((text.take (capacity - 1)).length + 1) := by
  rw [List.append_cons]
  apply List.ext_getElem
  · simp only [Vector.length_toList, List.length_append, List.length_singleton, List.length_drop, List.length_take]
    omega
  · intro i hi _
    rw [Vector.getElem_toList, List.getElem_append]
    split
    · rename_i hprinted
      simp [print, List.getElem?_eq_getElem hprinted]
    · rename_i hold
      rw [List.length_append, List.length_singleton, not_lt] at hold
      simp only [print, Vector.getElem_ofFn, List.getElem_drop, List.length_append, List.length_singleton]
      rw [List.getElem?_eq_none (by simpa using hold), Option.getD_none, Vector.getElem_toList]
      congr 1
      omega

/-- The text kept by a print is the text read back, cut to the room that is there. -/
theorem print_text {buffer : CharBuffer capacity} {text : List UInt8} (hcapacity : 0 < capacity)
    (hzero : 0 ∉ text) : (buffer.print text).text = text.take (capacity - 1) := by
  have hkept : ∀ byte ∈ text.take (capacity - 1), decide (byte ≠ 0) = true := by
    intro byte hbyte
    simp only [ne_eq, decide_not, Bool.not_eq_true', decide_eq_false_iff_not]
    rintro rfl
    exact hzero (List.mem_of_mem_take hbyte)
  rw [CharBuffer.text, print_toList hcapacity, List.takeWhile_append_of_pos hkept,
    List.takeWhile_cons_of_neg (by simp), List.append_nil]

/-- Only the part of a text that fits matters to a print. -/
theorem print_take (buffer : CharBuffer capacity) (text : List UInt8) :
    buffer.print (text.take (capacity - 1)) = buffer.print text := by
  rw [print, List.take_take, Nat.min_self]
  rfl

/-- Copying a text twice is copying it once. -/
theorem print_print_text {first second : CharBuffer capacity} (hcapacity : 0 < capacity) {text : List UInt8}
    (hzero : 0 ∉ text) : second.print (first.print text).text = second.print text := by
  rw [print_text hcapacity hzero, print_take]

theorem takeWhile_set {α : Type} {keep : α → Bool} {value : α} (hvalue : keep value = false) (values : List α)
    {index : Nat} (hindex : (values.takeWhile keep).length ≤ index) :
    (values.set index value).takeWhile keep = values.takeWhile keep := by
  induction values generalizing index with
  | nil => rfl
  | cons first rest ih =>
    cases hkept : keep first with
    | false =>
      rw [List.takeWhile_cons_of_neg (by simp [hkept])]
      cases index with
      | zero => rw [List.set_cons_zero, List.takeWhile_cons_of_neg (by simp [hvalue])]
      | succ index => rw [List.set_cons_succ, List.takeWhile_cons_of_neg (by simp [hkept])]
    | true =>
      rw [List.takeWhile_cons_of_pos hkept, List.length_cons] at hindex
      cases index with
      | zero => omega
      | succ index =>
        rw [List.set_cons_succ, List.takeWhile_cons_of_pos hkept, List.takeWhile_cons_of_pos hkept, ih (by omega)]

/-- Setting a byte behind the text to zero keeps the text. -/
theorem set_zero_text {buffer : CharBuffer capacity} {index : Nat} (hcapacity : index < capacity)
    (hindex : buffer.boundedLength ≤ index) : CharBuffer.text (buffer.set index 0) = buffer.text := by
  rw [CharBuffer.text, Vector.toList_set]
  exact takeWhile_set (by simp) buffer.toList hindex

end CharBuffer
