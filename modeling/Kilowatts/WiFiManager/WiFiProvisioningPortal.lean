import Kilowatts.WiFiManager.UrlDecoding

namespace kilowatts

open FormEncoding TextSearch

namespace WiFiProvisioningPortal

/-- The search of `extractFormField` for a match at the start of the body or behind a `&`. -/
def findField (body key : List UInt8) : Nat → Nat → Option Nat
  | 0, _ => none
  | fuel + 1, cursor =>
    match strstr (body.drop cursor) key with
    | none => none
    | some offset =>
      if cursor + offset = 0 ∨ body[cursor + offset - 1]? = some 0x26 then some (cursor + offset)
      else findField body key fuel (cursor + offset + key.length)

/-- The loop that copies a value, until the next field begins or the room is used up. -/
def copyValue {outSize : Nat} : List UInt8 → CharBuffer outSize → Nat → CharBuffer outSize
  | [], out, written => out.setIfInBounds written 0
  | byte :: rest, out, written =>
    if byte ≠ 0x26 ∧ written + 1 < outSize then copyValue rest (out.setIfInBounds written byte) (written + 1)
    else out.setIfInBounds written 0

def extractFormField {outSize : Nat} (body key : List UInt8) (out : CharBuffer outSize) : CharBuffer outSize × Bool :=
  match findField body key (body.length + 1) 0 with
  | none => (out, false)
  | some cursor => (urlDecodeInPlace (copyValue (body.drop (cursor + key.length)) out 0), true)

section Extraction

variable {outSize cursor fuel : Nat} {body key : List UInt8} {out : CharBuffer outSize}

/-- A value is copied as far as there is room for it and the zero behind it. -/
theorem copyValue_toList {value done old : List UInt8} {first : UInt8} (hout : out.toList = done ++ first :: old) :
    ∃ junk, (copyValue value out done.length).toList =
      done ++ (value.takeWhile (· ≠ 0x26)).take old.length ++ 0 :: junk := by
  induction value generalizing out done first old with
  | nil =>
    refine ⟨old, ?_⟩
    rw [copyValue, Vector.toList_setIfInBounds, hout, List.set_append_right _ _ (Nat.le_refl _), Nat.sub_self,
      List.set_cons_zero, List.takeWhile_nil, List.take_nil, List.append_nil]
  | cons byte value ih =>
    have hset : ∀ byte, Vector.toList (out.setIfInBounds done.length byte) = done ++ byte :: old := by
      intro byte
      rw [Vector.toList_setIfInBounds, hout, List.set_append_right _ _ (Nat.le_refl _), Nat.sub_self, List.set_cons_zero]
    have hsize := congrArg List.length hout
    rw [Vector.length_toList, List.length_append, List.length_cons] at hsize
    rw [copyValue]
    by_cases hcopied : byte ≠ 0x26 ∧ done.length + 1 < outSize
    · rw [if_pos hcopied, List.takeWhile_cons_of_pos (by simpa using hcopied.1)]
      match old, hsize with
      | [], hsize => exact absurd hcopied.2 (by simp at hsize; omega)
      | second :: old, hsize =>
        obtain ⟨junk, hjunk⟩ := ih (by rw [hset, List.append_cons] : _ = (done ++ [byte]) ++ second :: old)
        refine ⟨junk, ?_⟩
        rw [List.length_append, List.length_singleton] at hjunk
        rw [hjunk, List.length_cons, List.take_succ_cons, List.append_assoc done, List.singleton_append]
    · refine ⟨old, ?_⟩
      rw [if_neg hcopied, hset]
      by_cases hnext : byte = 0x26
      · rw [List.takeWhile_cons_of_neg (by simp [hnext]), List.take_nil, List.append_nil]
      · have hfull : old.length = 0 := by
          by_contra hroom
          exact hcopied ⟨hnext, by omega⟩
        rw [hfull, List.take_zero, List.append_nil]

/-- The text that is extracted, cut to the room there is before it is decoded. -/
theorem extractFormField_of_found (hbody : 0 ∉ body) (hsize : 0 < outSize)
    (hfound : findField body key (body.length + 1) 0 = some cursor) :
    (extractFormField body key out).2 = true ∧ (extractFormField body key out).1.text =
      (urlDecode (((body.drop (cursor + key.length)).takeWhile (· ≠ 0x26)).take (outSize - 1))).takeWhile (· ≠ 0) := by
  have hlength : out.toList.length = outSize := Vector.length_toList
  rw [extractFormField, hfound]
  refine ⟨rfl, ?_⟩
  match hout : out.toList with
  | [] =>
    rw [hout, List.length_nil] at hlength
    omega
  | first :: old =>
    obtain ⟨junk, hjunk⟩ := @copyValue_toList outSize out (body.drop (cursor + key.length)) [] old first hout
    rw [hout, List.length_cons] at hlength
    rw [List.nil_append, show old.length = outSize - 1 by omega] at hjunk
    refine urlDecodeInPlace_text (fun hzero => hbody ?_) hjunk
    exact List.mem_of_mem_drop ((List.takeWhile_prefix _).subset (List.mem_of_mem_take hzero))

/-- No field with the key begins in front of the first match. -/
theorem not_anchoredAt_before {offset position : Nat} (hstrstr : strstr (body.drop cursor) key = some offset)
    (hposition : cursor ≤ position) (hbefore : position < cursor + offset) : ¬ AnchoredAt 0x26 body key position := by
  rintro ⟨hoccurs, -⟩
  apply (strstr_eq_some hstrstr).2 (position - cursor) (by omega)
  rw [List.drop_drop, Nat.add_sub_cancel' hposition]
  exact hoccurs

/-- Nor does one begin within a match that is passed over. -/
theorem not_anchoredAt_passed {offset position : Nat} (hseparator : 0x26 ∉ key)
    (hstrstr : strstr (body.drop cursor) key = some offset)
    (hanchor : ¬ (cursor + offset = 0 ∨ body[cursor + offset - 1]? = some 0x26)) (hposition : cursor ≤ position)
    (hpassed : position < cursor + offset + key.length) : ¬ AnchoredAt 0x26 body key position := by
  obtain hbefore | rfl | hwithin := lt_trichotomy position (cursor + offset)
  · exact not_anchoredAt_before hstrstr hposition hbefore
  · exact fun hanchored => hanchor hanchored.2
  · have hoccurs := (strstr_eq_some hstrstr).1
    rw [List.drop_drop] at hoccurs
    exact not_anchoredAt_within hseparator hoccurs hwithin hpassed

/-- The search skips no field with the key. -/
theorem findField_spec (hkey : key ≠ []) (hseparator : 0x26 ∉ key) (hfuel : body.length < cursor + fuel) :
    match findField body key fuel cursor with
    | none => ∀ position, cursor ≤ position → ¬ AnchoredAt 0x26 body key position
    | some found => AnchoredAt 0x26 body key found ∧
        ∀ position, cursor ≤ position → position < found → ¬ AnchoredAt 0x26 body key position := by
  induction fuel generalizing cursor with
  | zero =>
    intro position hposition hanchored
    have hlt := lt_length_of_prefix_drop hkey hanchored.1
    omega
  | succ fuel ih =>
    rw [findField]
    cases hstrstr : strstr (body.drop cursor) key with
    | none =>
      rintro position hposition ⟨hoccurs, -⟩
      apply strstr_eq_none hkey hstrstr (position - cursor)
      rw [List.drop_drop, Nat.add_sub_cancel' hposition]
      exact hoccurs
    | some offset =>
      dsimp only
      by_cases hanchor : cursor + offset = 0 ∨ body[cursor + offset - 1]? = some 0x26
      · rw [if_pos hanchor]
        have hoccurs := (strstr_eq_some hstrstr).1
        rw [List.drop_drop] at hoccurs
        exact ⟨⟨hoccurs, hanchor⟩, fun position => not_anchoredAt_before hstrstr⟩
      · rw [if_neg hanchor]
        have hlength := List.length_pos_iff.mpr hkey
        have hrest := @ih (cursor + offset + key.length) (by omega)
        cases hfound : findField body key fuel (cursor + offset + key.length) with
        | none =>
          rw [hfound] at hrest
          intro position hposition
          by_cases hpassed : position < cursor + offset + key.length
          · exact not_anchoredAt_passed hseparator hstrstr hanchor hposition hpassed
          · exact hrest position (not_lt.mp hpassed)
        | some found =>
          rw [hfound] at hrest
          refine ⟨hrest.1, fun position hposition hlt => ?_⟩
          by_cases hpassed : position < cursor + offset + key.length
          · exact not_anchoredAt_passed hseparator hstrstr hanchor hposition hpassed
          · exact hrest.2 position (not_lt.mp hpassed) hlt

/-- The first of the fields with the key is found. -/
theorem findField_eq_some (hkey : key ≠ []) (hseparator : 0x26 ∉ key) (hanchored : AnchoredAt 0x26 body key cursor)
    (hfirst : ∀ earlier < cursor, ¬ AnchoredAt 0x26 body key earlier) :
    findField body key (body.length + 1) 0 = some cursor := by
  have hspec := findField_spec hkey hseparator (by omega : body.length < 0 + (body.length + 1))
  cases hfound : findField body key (body.length + 1) 0 with
  | none =>
    rw [hfound] at hspec
    exact absurd hanchored (hspec cursor (Nat.zero_le _))
  | some found =>
    rw [hfound] at hspec
    obtain ⟨hat, hbefore⟩ := hspec
    obtain hlt | rfl | hgt := lt_trichotomy found cursor
    · exact absurd hat (hfirst found hlt)
    · rfl
    · exact absurd hanchored (hbefore cursor (Nat.zero_le _) hgt)

theorem findField_eq_none (hkey : key ≠ []) (hseparator : 0x26 ∉ key)
    (hnever : ∀ position, ¬ AnchoredAt 0x26 body key position) : findField body key (body.length + 1) 0 = none := by
  have hspec := findField_spec hkey hseparator (by omega : body.length < 0 + (body.length + 1))
  cases hfound : findField body key (body.length + 1) 0 with
  | none => rfl
  | some found =>
    rw [hfound] at hspec
    exact absurd hspec.1 (hnever found)

end Extraction

/-- What the value of a field stands behind in a form that a browser sends. -/
def fieldKey (unreserved : UnreservedSet) (name : List UInt8) : List UInt8 := encode unreserved name ++ [0x3D]

section Form

abbrev Field := List UInt8 × List UInt8

variable {unreserved : UnreservedSet} {outSize position : Nat} {out : CharBuffer outSize} {name value : List UInt8}
  {before after fields : List Field} {field : Field}

def fieldStart (unreserved : UnreservedSet) (before : List Field) : Nat :=
  (before.map fun field => (encodeField unreserved field).length + 1).sum

theorem fieldKey_ne_nil : fieldKey unreserved name ≠ [] := by simp [fieldKey]

theorem separator_notMem_fieldKey : 0x26 ∉ fieldKey unreserved name := by
  rw [fieldKey, List.mem_append, not_or]
  exact ⟨separator_notMem_encode (by decide) name, by decide⟩

theorem notMem_encodeField {separator : UInt8} (hseparator : separator = 0 ∨ separator = 0x26) :
    separator ∉ encodeField unreserved field := by
  have hencode : ∀ text, separator ∉ encode unreserved text :=
    separator_notMem_encode (by obtain rfl | rfl := hseparator <;> decide)
  rw [encodeField, List.mem_append, List.mem_cons]
  rintro (hname | rfl | hvalue)
  · exact hencode field.1 hname
  · exact absurd hseparator (by decide)
  · exact hencode field.2 hvalue

theorem zero_notMem_formBody (fields : List Field) : 0 ∉ formBody unreserved fields := by
  induction fields with
  | nil => exact List.not_mem_nil
  | cons field fields ih =>
    cases fields with
    | nil => exact notMem_encodeField (.inl rfl)
    | cons next rest =>
      rw [formBody_cons_cons, List.mem_append, List.mem_cons]
      rintro (hfield | hseparator | hrest)
      · exact notMem_encodeField (.inl rfl) hfield
      · cases hseparator
      · exact ih hrest

/-- Fields begin with the key of their own name only. -/
theorem fieldKey_prefix_iff : fieldKey unreserved name <+: encodeField unreserved field ↔ field.1 = name := by
  constructor
  · rintro ⟨tail, htail⟩
    rw [fieldKey, encodeField, List.append_assoc, List.singleton_append] at htail
    have hnames := congrArg (List.takeWhile (· ≠ 0x3D)) htail
    rw [takeWhile_ne_append, takeWhile_ne_append, takeWhile_ne_of_notMem (separator_notMem_encode (by decide) _),
      takeWhile_ne_of_notMem (separator_notMem_encode (by decide) _)] at hnames
    exact (encode_injective hnames).symm
  · rintro rfl
    exact ⟨encode unreserved field.2, by rw [fieldKey, encodeField, List.append_assoc, List.singleton_append]⟩

theorem exists_field_cons_iff :
    (∃ before value after, field :: fields = before ++ (name, value) :: after ∧ position = fieldStart unreserved before) ↔
      (position = 0 ∧ field.1 = name) ∨
        ∃ later, position = (encodeField unreserved field).length + 1 + later ∧
          ∃ before value after, fields = before ++ (name, value) :: after ∧ later = fieldStart unreserved before := by
  constructor
  · rintro ⟨before, value, after, hfields, rfl⟩
    cases before with
    | nil =>
      obtain ⟨rfl, -⟩ := List.cons.inj hfields
      exact .inl ⟨rfl, rfl⟩
    | cons first before =>
      obtain ⟨rfl, hrest⟩ := List.cons.inj hfields
      exact .inr ⟨fieldStart unreserved before, List.sum_cons, before, value, after, hrest, rfl⟩
  · rintro (⟨rfl, rfl⟩ | ⟨later, rfl, before, value, after, rfl, rfl⟩)
    · exact ⟨[], field.2, fields, rfl, rfl⟩
    · exact ⟨field :: before, value, after, rfl, List.sum_cons.symm⟩

/-- A key stands at the start of the body or behind a `&` where a field of that name begins. -/
theorem anchoredAt_formBody_iff :
    AnchoredAt 0x26 (formBody unreserved fields) (fieldKey unreserved name) position ↔
      ∃ before value after, fields = before ++ (name, value) :: after ∧ position = fieldStart unreserved before := by
  induction fields generalizing position with
  | nil =>
    rw [formBody, anchoredAt_iff_of_notMem List.not_mem_nil, List.prefix_nil]
    refine iff_of_false (fun hanchored => fieldKey_ne_nil hanchored.2) ?_
    rintro ⟨before, value, after, hfields, -⟩
    exact List.append_ne_nil_of_right_ne_nil before (List.cons_ne_nil _ after) hfields.symm
  | cons field fields ih =>
    rw [exists_field_cons_iff]
    cases fields with
    | nil =>
      rw [formBody, anchoredAt_iff_of_notMem (notMem_encodeField (.inr rfl)), fieldKey_prefix_iff, iff_self_or]
      rintro ⟨later, -, before, value, after, hfields, -⟩
      exact absurd hfields.symm (List.append_ne_nil_of_right_ne_nil before (List.cons_ne_nil _ after))
    | cons next rest =>
      rw [formBody_cons_cons, anchoredAt_append_iff separator_notMem_fieldKey (notMem_encodeField (.inr rfl)),
        fieldKey_prefix_iff]
      exact or_congr_right (exists_congr fun later => and_congr_right fun _ => ih)

theorem formBody_cons_append (field : Field) (before after : List Field) (next : Field) :
    formBody unreserved (field :: (before ++ next :: after)) =
      encodeField unreserved field ++ 0x26 :: formBody unreserved (before ++ next :: after) := by
  cases before <;> rfl

/-- Behind the key of a field stands its value, up to the next field. -/
theorem takeWhile_drop_formBody :
    ((formBody unreserved (before ++ (name, value) :: after)).drop
      (fieldStart unreserved before + (fieldKey unreserved name).length)).takeWhile (· ≠ 0x26) =
        encode unreserved value := by
  have hvalue : 0x26 ∉ encode unreserved value := separator_notMem_encode (by decide) value
  induction before with
  | nil =>
    have hfield : encodeField unreserved (name, value) = fieldKey unreserved name ++ encode unreserved value := by
      rw [encodeField, fieldKey, List.append_assoc, List.singleton_append]
    rw [List.nil_append, fieldStart, List.map_nil, List.sum_nil, Nat.zero_add]
    cases after with
    | nil => rw [formBody, hfield, List.drop_left, takeWhile_ne_of_notMem hvalue]
    | cons next rest =>
      rw [formBody_cons_cons, hfield, List.append_assoc, List.drop_left, takeWhile_ne_append,
        takeWhile_ne_of_notMem hvalue]
  | cons field before ih =>
    have hstart : fieldStart unreserved (field :: before) + (fieldKey unreserved name).length =
        (encodeField unreserved field ++ [0x26]).length +
          (fieldStart unreserved before + (fieldKey unreserved name).length) := by
      rw [fieldStart, List.map_cons, List.sum_cons, List.length_append, List.length_singleton, fieldStart, Nat.add_assoc]
    rw [List.cons_append, formBody_cons_append, List.append_cons, hstart, ← List.drop_drop, List.drop_left]
    exact ih

theorem fieldStart_append (front rest : List Field) :
    fieldStart unreserved (front ++ rest) = fieldStart unreserved front + fieldStart unreserved rest := by
  rw [fieldStart, List.map_append, List.sum_append_nat]
  rfl

/-- Fields of a name begin no earlier than the first one. -/
theorem fieldStart_le_of_first {front back : List Field} {other : List UInt8}
    (hbefore : ∀ field ∈ before, field.1 ≠ name)
    (hfields : before ++ (name, value) :: after = front ++ (name, other) :: back) :
    fieldStart unreserved before ≤ fieldStart unreserved front := by
  obtain ⟨middle, rfl, -⟩ | ⟨middle, rfl, hmiddle⟩ := List.append_eq_append_iff.mp hfields
  · rw [fieldStart_append]
    omega
  · cases middle with
    | nil => rw [List.append_nil]
    | cons first middle =>
      obtain ⟨rfl, -⟩ := List.cons.inj hmiddle
      exact absurd rfl (hbefore (name, other) (List.mem_append_right _ List.mem_cons_self))

/-- The value of the first field of a name is extracted, cut to the room for its encoding. -/
theorem extractFormField_formBody (hbefore : ∀ field ∈ before, field.1 ≠ name) (hsize : 0 < outSize) :
    let extracted :=
      extractFormField (formBody unreserved (before ++ (name, value) :: after)) (fieldKey unreserved name) out
    extracted.2 = true ∧
      extracted.1.text = (urlDecode ((encode unreserved value).take (outSize - 1))).takeWhile (· ≠ 0) := by
  have hanchored : AnchoredAt 0x26 (formBody unreserved (before ++ (name, value) :: after))
      (fieldKey unreserved name) (fieldStart unreserved before) :=
    anchoredAt_formBody_iff.mpr ⟨before, value, after, rfl, rfl⟩
  have hfound := findField_eq_some fieldKey_ne_nil separator_notMem_fieldKey hanchored fun earlier hlt hearlier => by
    obtain ⟨front, other, back, hfields, rfl⟩ := anchoredAt_formBody_iff.mp hearlier
    exact absurd (fieldStart_le_of_first hbefore hfields) (not_le.mpr hlt)
  have hextracted := @extractFormField_of_found _ _ _ _ out (zero_notMem_formBody _) hsize hfound
  rw [takeWhile_drop_formBody] at hextracted
  exact hextracted

/-- A key is found only where there is a field of its name. -/
theorem extractFormField_absent (habsent : ∀ field ∈ fields, field.1 ≠ name) :
    extractFormField (formBody unreserved fields) (fieldKey unreserved name) out = (out, false) := by
  have hnever : ∀ position, ¬ AnchoredAt 0x26 (formBody unreserved fields) (fieldKey unreserved name) position := by
    intro position hanchored
    obtain ⟨before, value, after, rfl, -⟩ := anchoredAt_formBody_iff.mp hanchored
    exact habsent (name, value) (List.mem_append_right _ List.mem_cons_self) rfl
  rw [extractFormField, findField_eq_none fieldKey_ne_nil separator_notMem_fieldKey hnever]

/-- Every value that the buffer has room for is extracted as it was entered exactly if its encoding fits
too. Needs that the value holds no zero and that no field before has the same name. -/
theorem extractFormField_entered_iff (unreserved : UnreservedSet) (fields : List Field) {outSize : Nat}
    (out : CharBuffer outSize) :
    (∀ before name value after, fields = before ++ (name, value) :: after → (∀ field ∈ before, field.1 ≠ name) →
      0 ∉ value → value.length < outSize →
        ((extractFormField (formBody unreserved fields) (fieldKey unreserved name) out).2 = true ∧
          (extractFormField (formBody unreserved fields) (fieldKey unreserved name) out).1.text = value ↔
            EncodingFits unreserved outSize value)) ∧
      ∀ name, (∀ field ∈ fields, field.1 ≠ name) →
        extractFormField (formBody unreserved fields) (fieldKey unreserved name) out = (out, false) := by
  refine ⟨?_, fun name habsent => extractFormField_absent habsent⟩
  rintro before name value after rfl hbefore hzero hlength
  have hsize : 0 < outSize := Nat.zero_lt_of_lt hlength
  obtain ⟨hfound, htext⟩ := @extractFormField_formBody unreserved outSize out name value before after hbefore hsize
  rw [and_iff_right hfound, htext]
  exact urlDecode_take_encode_iff hzero hsize

/-- The setup page is sent an SSID and a password of 22 exclamation marks. -/
def submittedForm : List Field :=
  [("ssid".toUTF8.toList, "Home Net".toUTF8.toList), ("password".toUTF8.toList, List.replicate 22 0x21)]

theorem extractFormField_entered_submitted :
    (extractFormField (formBody .browser submittedForm) "ssid=".toUTF8.toList (CharBuffer.zero : CharBuffer 33)).1.text =
        "Home Net".toUTF8.toList ∧
      extractFormField (formBody .browser submittedForm) "word=".toUTF8.toList (CharBuffer.zero : CharBuffer 65) =
        (CharBuffer.zero, false) := by
  have hssidKey : fieldKey .browser "ssid".toUTF8.toList = "ssid=".toUTF8.toList := by decide +kernel
  have hwordKey : fieldKey .browser "word".toUTF8.toList = "word=".toUTF8.toList := by decide +kernel
  rw [← hssidKey, ← hwordKey]
  have hssid := (extractFormField_entered_iff .browser submittedForm (CharBuffer.zero : CharBuffer 33)).1 []
    "ssid".toUTF8.toList "Home Net".toUTF8.toList [("password".toUTF8.toList, List.replicate 22 0x21)] rfl
    (List.forall_mem_nil _) (by decide +kernel) (by decide +kernel)
  exact ⟨(hssid.mpr (.inl (by decide +kernel))).2,
    (extractFormField_entered_iff .browser submittedForm CharBuffer.zero).2 "word".toUTF8.toList (by decide +kernel)⟩

/-- The password fits its buffer, but its encoding does not. -/
theorem password_cut :
    (List.replicate 22 (0x21 : UInt8)).length < 65 ∧
      (extractFormField (formBody .browser submittedForm) "password=".toUTF8.toList
        (CharBuffer.zero : CharBuffer 65)).1.text = List.replicate 21 0x21 ++ [0x25] ∧
      (extractFormField (formBody .browser submittedForm) "password=".toUTF8.toList
        (CharBuffer.zero : CharBuffer 65)).1.text ≠ List.replicate 22 0x21 := by
  decide +kernel

end Form

end WiFiProvisioningPortal

end kilowatts
