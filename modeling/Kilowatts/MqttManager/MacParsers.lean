import Kilowatts.Central.TopologyText
import Kilowatts.Library.ByteSet
import Kilowatts.Library.CharBuffer
import Kilowatts.Library.ScanFormat

namespace kilowatts

open ScanFormat
open ByteSet (forall_byte)
open Json (hexDigit)
open TopologyText (macText)

/-! Texts are the bytes in front of the zero that ends them. -/

namespace MacParsers

def macFormat : List Directive :=
  [.hex 2, .literal 0x3A, .hex 2, .literal 0x3A, .hex 2, .literal 0x3A, .hex 2, .literal 0x3A, .hex 2, .literal 0x3A,
    .hex 2]

/-- The end of both parsers. -/
def addressOf (assigned : List UInt32) : Option MacAddress :=
  if assigned.length ≠ 6 then none
  else if assigned.any (255 < ·) then none
  else some (Vector.ofFn fun i => (assigned.getD i.val 0).toUInt8)

end MacParsers

open MacParsers

/-- The parser of commands that come by MQTT. -/
def MqttManager.parseMac (text : Option (List UInt8)) : Option MacAddress :=
  text.bind fun text => addressOf (sscanf macFormat text)

/-- The parser of the console also reads a trailing character, and accepts no text with one. -/
def CentralConsole.parseMac (text : Option (List UInt8)) : Option MacAddress :=
  text.bind fun text => addressOf (sscanf (macFormat ++ [.character]) text)

def formatMacAddressText {bufferSize : Nat} (buffer : CharBuffer bufferSize) (mac : MacAddress) : CharBuffer bufferSize :=
  buffer.print (macText mac)

namespace MacParsers

/-- What is left behind a digit, two digits, a digit behind a plus, or a zero behind a minus. -/
def afterDigits : List UInt8 → Option (List UInt8)
  | [] => none
  | [digit] => if (hexDigit digit).isSome then some [] else none
  | first :: second :: rest =>
    if first = 0x2B then if (hexDigit second).isSome then some rest else none
    else if first = 0x2D then if second = 0x30 then some rest else none
    else if first = 0x30 ∧ (second = 0x78 ∨ second = 0x58) then none
    else if (hexDigit first).isSome then some (if (hexDigit second).isSome then rest else second :: rest)
    else none

/-- What is left behind the byte that the characters begin with, blanks in front of it aside. -/
def afterByte (bytes : List UInt8) : Option (List UInt8) := afterDigits (bytes.dropWhile isSpace)

/-- Six bytes with colons between them, and more behind the last. -/
def TrailingCharacters (text : List UInt8) : Prop :=
  ∃ (fields : List (List UInt8)) (last : List UInt8) (character : UInt8) (rest : List UInt8),
    fields.length = 5 ∧ (∀ field ∈ fields, afterByte field = some []) ∧
      text = fields.flatMap (· ++ [0x3A]) ++ last ∧ afterByte last = some (character :: rest)

section Fields

variable {bytes rest : List UInt8}

theorem hexDigit_lt {byte : UInt8} {number : Nat} (hdigit : hexDigit byte = some number) : number < 16 := by
  have hall : ∀ byte : UInt8, (hexDigit byte).all (· < 16) = true := forall_byte (by decide +kernel)
  exact of_decide_eq_true ((Option.all_eq_true _ _).mp (hall byte) number hdigit)

theorem hexDigit_eq_zero_iff (byte : UInt8) : hexDigit byte = some 0 ↔ byte = 0x30 := by
  have hall : ∀ byte : UInt8, hexDigit byte = some 0 ↔ byte = 0x30 := forall_byte (by decide +kernel)
  exact hall byte

theorem ofNat_le_iff {number : Nat} (hnumber : number < 256) : UInt32.ofNat number ≤ 255 := by
  rw [UInt32.le_iff_toNat_le, UInt32.toNat_ofNat_of_lt' (by rw [UInt32.size]; omega)]
  exact Nat.le_of_lt_succ hnumber

/-- No negative number is that of a byte. -/
theorem neg_ofNat_le_iff {number : Nat} (hnumber : number < 16) : -UInt32.ofNat number ≤ 255 ↔ number = 0 := by
  have hall : ∀ number : Fin 16, -UInt32.ofNat number ≤ 255 ↔ number.val = 0 := by decide
  exact hall ⟨number, hnumber⟩

theorem exists_read_iff {number : UInt32} {after : List UInt8} (hbound : number ≤ 255) :
    (∃ value, some (number, after) = some (value, rest) ∧ value ≤ 255) ↔ some after = some rest := by
  constructor
  · rintro ⟨value, hread, -⟩
    obtain ⟨-, rfl⟩ := Prod.mk.inj (Option.some.inj hread)
    rfl
  · intro hafter
    exact ⟨number, by rw [Option.some.inj hafter], hbound⟩

/-- What is read as a number below 256 is what `afterByte` takes off. -/
theorem scanHex_two_iff : (∃ value, scanHex 2 bytes = some (value, rest) ∧ value ≤ 255) ↔ afterByte bytes = some rest := by
  rw [scanHex_two, afterByte]
  unfold afterDigits
  match bytes.dropWhile isSpace with
  | [] => simp
  | [digit] =>
    dsimp only
    cases hdigit : hexDigit digit with
    | none => simp
    | some number =>
      exact exists_read_iff (ofNat_le_iff ((hexDigit_lt hdigit).trans (by decide)))
  | first :: second :: after =>
    dsimp only
    by_cases hplus : first = 0x2B
    · rw [if_pos hplus, if_pos hplus]
      cases hsecond : hexDigit second with
      | none => simp
      | some number =>
        exact exists_read_iff (ofNat_le_iff ((hexDigit_lt hsecond).trans (by decide)))
    rw [if_neg hplus, if_neg hplus]
    by_cases hminus : first = 0x2D
    · rw [if_pos hminus, if_pos hminus]
      have hzero := hexDigit_eq_zero_iff second
      cases hsecond : hexDigit second with
      | none =>
        rw [hsecond] at hzero
        simp [show second ≠ 0x30 from fun heq => nomatch hzero.mpr heq]
      | some number =>
        have hnegative := neg_ofNat_le_iff (hexDigit_lt hsecond)
        rw [hsecond, Option.some.injEq] at hzero
        simp [hnegative, hzero, and_comm]
    rw [if_neg hminus, if_neg hminus]
    by_cases hmark : first = 0x30 ∧ (second = 0x78 ∨ second = 0x58)
    · rw [if_pos hmark, if_pos hmark]
      simp
    rw [if_neg hmark, if_neg hmark]
    cases hfirst : hexDigit first with
    | none => simp
    | some high =>
      have hhigh := hexDigit_lt hfirst
      cases hsecond : hexDigit second with
      | none =>
        exact exists_read_iff (ofNat_le_iff (hhigh.trans (by decide)))
      | some low =>
        have hlow := hexDigit_lt hsecond
        exact exists_read_iff (ofNat_le_iff (show 16 * high + low < 256 by omega))

theorem afterDigits_split {item : List UInt8} (hafter : afterDigits item = some rest) :
    ∃ digits, item = digits ++ rest ∧ digits ≠ [] ∧ afterDigits digits = some [] := by
  match item with
  | [] => cases hafter
  | [digit] =>
    rw [afterDigits] at hafter
    split_ifs at hafter with hdigit
    obtain rfl := Option.some.inj hafter
    exact ⟨[digit], rfl, List.cons_ne_nil _ _, if_pos hdigit⟩
  | first :: second :: after =>
    rw [afterDigits] at hafter
    split_ifs at hafter with hplus hsecond hminus hzero hmark hfirst hsecond
    · obtain rfl := Option.some.inj hafter
      exact ⟨[first, second], rfl, List.cons_ne_nil _ _, by rw [afterDigits, if_pos hplus, if_pos hsecond]⟩
    · obtain rfl := Option.some.inj hafter
      exact ⟨[first, second], rfl, List.cons_ne_nil _ _,
        by rw [afterDigits, if_neg hplus, if_pos hminus, if_pos hzero]⟩
    · obtain rfl := Option.some.inj hafter
      refine ⟨[first, second], rfl, List.cons_ne_nil _ _, ?_⟩
      rw [afterDigits, if_neg hplus, if_neg hminus, if_neg hmark, if_pos hfirst, if_pos hsecond]
    · obtain rfl := Option.some.inj hafter
      exact ⟨[first], rfl, List.cons_ne_nil _ _, if_pos hfirst⟩

theorem afterDigits_colon {digits : List UInt8} (hdigits : afterDigits digits = some []) (rest : List UInt8) :
    afterDigits (digits ++ 0x3A :: rest) = some (0x3A :: rest) := by
  have hcolon : hexDigit 0x3A = none := by decide
  match digits with
  | [] => cases hdigits
  | [digit] =>
    rw [afterDigits] at hdigits
    split_ifs at hdigits with hdigit
    have hplus : digit ≠ 0x2B := fun heq => by rw [heq] at hdigit; exact absurd hdigit (by decide)
    have hminus : digit ≠ 0x2D := fun heq => by rw [heq] at hdigit; exact absurd hdigit (by decide)
    have hmark : ¬ (digit = 0x30 ∧ ((0x3A : UInt8) = 0x78 ∨ (0x3A : UInt8) = 0x58)) :=
      fun hand => absurd hand.2 (by decide)
    rw [List.singleton_append, afterDigits, if_neg hplus, if_neg hminus, if_neg hmark, if_pos hdigit, hcolon]
    rfl
  | first :: second :: after =>
    rw [afterDigits] at hdigits
    rw [List.cons_append, List.cons_append, afterDigits]
    split_ifs at hdigits with hplus hsecond hminus hzero hmark hfirst hsecond
    · rw [if_pos hplus, if_pos hsecond, Option.some.inj hdigits, List.nil_append]
    · rw [if_neg hplus, if_pos hminus, if_pos hzero, Option.some.inj hdigits, List.nil_append]
    · rw [if_neg hplus, if_neg hminus, if_neg hmark, if_pos hfirst, if_pos hsecond, Option.some.inj hdigits,
        List.nil_append]
    · cases hdigits

/-- Whatever a byte is followed by, it is a byte of its own. -/
theorem afterByte_split (hafter : afterByte bytes = some rest) :
    ∃ field, bytes = field ++ rest ∧ afterByte field = some [] := by
  obtain ⟨digits, hitem, hdigits, hcomplete⟩ := afterDigits_split hafter
  refine ⟨bytes.takeWhile isSpace ++ digits, ?_, ?_⟩
  · rw [List.append_assoc, ← hitem, List.takeWhile_append_dropWhile]
  · obtain ⟨digit, digits, rfl⟩ := List.exists_cons_of_ne_nil hdigits
    have hspace : isSpace digit = false := by
      have hhead := List.head?_dropWhile_not isSpace bytes
      rw [hitem, List.cons_append, List.head?_cons] at hhead
      exact hhead
    rw [afterByte, List.dropWhile_append_of_pos fun byte hbyte => List.mem_takeWhile_imp hbyte,
      List.dropWhile_cons_of_neg (by rw [hspace]; exact Bool.false_ne_true)]
    exact hcomplete

theorem afterByte_colon {field : List UInt8} (hfield : afterByte field = some []) (rest : List UInt8) :
    afterByte (field ++ 0x3A :: rest) = some (0x3A :: rest) := by
  have hnonempty : (field.dropWhile isSpace).isEmpty = false := by
    cases hitem : field.dropWhile isSpace with
    | nil =>
      rw [afterByte, hitem] at hfield
      cases hfield
    | cons => rfl
  rw [afterByte, List.dropWhile_append, hnonempty, if_neg Bool.false_ne_true]
  exact afterDigits_colon hfield rest

end Fields

section Formats

variable {text rest tail : List UInt8} {values : List UInt32}

/-- Numbers with a colon behind each. -/
def fieldFormat : Nat → List Directive
  | 0 => []
  | count + 1 => .hex 2 :: .literal 0x3A :: fieldFormat count

theorem macFormat_eq : macFormat = fieldFormat 5 ++ [Directive.hex 2] := rfl

theorem scan_field_iff (format : List Directive) :
    scan (.hex 2 :: .literal 0x3A :: format) text = (values, some tail) ↔
      ∃ value rest others, scanHex 2 text = some (value, 0x3A :: rest) ∧ scan format rest = (others, some tail) ∧
        values = value :: others := by
  simp only [scan]
  cases hhex : scanHex 2 text with
  | none => simp
  | some read =>
    obtain ⟨value, after⟩ := read
    cases after with
    | nil => simp
    | cons byte rest =>
      dsimp only
      constructor
      · intro hscan
        split_ifs at hscan with hcolon
        · obtain ⟨hvalues, htail⟩ := Prod.mk.inj hscan
          exact ⟨value, rest, (scan format rest).1, by rw [hcolon], Prod.ext rfl htail, hvalues.symm⟩
        · cases (Prod.mk.inj hscan).2
      · rintro ⟨value', rest', others, hread, hscan, rfl⟩
        obtain ⟨rfl, hafter⟩ := Prod.mk.inj (Option.some.inj hread)
        obtain ⟨rfl, rfl⟩ := List.cons.inj hafter
        rw [if_pos rfl, hscan]

theorem exists_field_iff :
    (∃ value, scanHex 2 text = some (value, 0x3A :: rest) ∧ value ≤ 255) ↔
      ∃ field, afterByte field = some [] ∧ text = field ++ 0x3A :: rest := by
  rw [scanHex_two_iff]
  constructor
  · intro hafter
    obtain ⟨field, htext, hfield⟩ := afterByte_split hafter
    exact ⟨field, hfield, htext⟩
  · rintro ⟨field, hfield, rfl⟩
    exact afterByte_colon hfield rest

/-- The numbers that are read are the fields that are there. -/
theorem scan_fieldFormat_iff {count : Nat} :
    (∃ values, scan (fieldFormat count) text = (values, some tail) ∧ ∀ value ∈ values, value ≤ 255) ↔
      ∃ fields : List (List UInt8), fields.length = count ∧ (∀ field ∈ fields, afterByte field = some []) ∧
        text = fields.flatMap (· ++ [0x3A]) ++ tail := by
  induction count generalizing text with
  | zero =>
    constructor
    · rintro ⟨values, hscan, -⟩
      obtain ⟨-, htail⟩ := Prod.mk.inj hscan
      exact ⟨[], rfl, List.forall_mem_nil _, Option.some.inj htail⟩
    · rintro ⟨fields, hlength, -, rfl⟩
      obtain rfl := List.eq_nil_of_length_eq_zero hlength
      exact ⟨[], rfl, List.forall_mem_nil _⟩
  | succ count ih =>
    constructor
    · rintro ⟨values, hscan, hvalues⟩
      obtain ⟨value, rest, others, hread, hothers, rfl⟩ := (scan_field_iff _).mp hscan
      obtain ⟨hvalue, hrest⟩ := List.forall_mem_cons.mp hvalues
      obtain ⟨field, hfield, rfl⟩ := exists_field_iff.mp ⟨value, hread, hvalue⟩
      obtain ⟨fields, hlength, hfields, rfl⟩ := ih.mp ⟨others, hothers, hrest⟩
      refine ⟨field :: fields, congrArg (· + 1) hlength, List.forall_mem_cons.mpr ⟨hfield, hfields⟩, ?_⟩
      rw [List.flatMap_cons, List.append_assoc, List.append_assoc]
      rfl
    · rintro ⟨fields, hlength, hfields, rfl⟩
      obtain ⟨field, fields, rfl⟩ := List.exists_cons_of_length_eq_add_one hlength
      obtain ⟨hfield, hothers⟩ := List.forall_mem_cons.mp hfields
      have htext : (field :: fields).flatMap (· ++ [0x3A]) ++ tail =
          field ++ 0x3A :: (fields.flatMap (· ++ [0x3A]) ++ tail) := by
        rw [List.flatMap_cons, List.append_assoc, List.append_assoc]
        rfl
      obtain ⟨value, hread, hvalue⟩ := exists_field_iff.mpr ⟨field, hfield, htext⟩
      obtain ⟨others, hscan, hrest⟩ := ih.mpr ⟨fields, Nat.succ.inj hlength, hothers, rfl⟩
      exact ⟨value :: others, (scan_field_iff _).mpr ⟨value, _, others, hread, hscan, rfl⟩,
        List.forall_mem_cons.mpr ⟨hvalue, hrest⟩⟩

theorem scan_macFormat_iff :
    (∃ values, scan macFormat text = (values, some rest) ∧ ∀ value ∈ values, value ≤ 255) ↔
      ∃ (fields : List (List UInt8)) (last : List UInt8), fields.length = 5 ∧
        (∀ field ∈ fields, afterByte field = some []) ∧ text = fields.flatMap (· ++ [0x3A]) ++ last ∧
        afterByte last = some rest := by
  constructor
  · rintro ⟨values, hscan, hvalues⟩
    rw [macFormat_eq, scan_append] at hscan
    cases hlast : (scan (fieldFormat 5) text).2 with
    | none =>
      rw [hlast] at hscan
      cases (Prod.mk.inj hscan).2
    | some last =>
      rw [hlast] at hscan
      simp only [scan] at hscan
      cases hread : scanHex 2 last with
      | none =>
        rw [hread] at hscan
        cases (Prod.mk.inj hscan).2
      | some read =>
        rw [hread] at hscan
        obtain ⟨rfl, hrest⟩ := Prod.mk.inj hscan
        obtain ⟨hfirst, hvalue⟩ := List.forall_mem_append.mp hvalues
        obtain ⟨fields, hlength, hfields, htext⟩ := scan_fieldFormat_iff.mp ⟨_, Prod.ext rfl hlast, hfirst⟩
        refine ⟨fields, last, hlength, hfields, htext, scanHex_two_iff.mp ⟨read.1, ?_, hvalue _ ?_⟩⟩
        · rw [hread, ← Option.some.inj hrest]
        · exact List.mem_cons_self
  · rintro ⟨fields, last, hlength, hfields, htext, hafter⟩
    obtain ⟨values, hscan, hvalues⟩ := scan_fieldFormat_iff.mpr ⟨fields, hlength, hfields, htext⟩
    obtain ⟨value, hread, hvalue⟩ := scanHex_two_iff.mpr hafter
    refine ⟨values ++ [value], ?_, List.forall_mem_append.mpr ⟨hvalues, List.forall_mem_singleton.mpr hvalue⟩⟩
    rw [macFormat_eq, scan_append, hscan]
    simp only [scan, hread]

end Formats

section Agreement

variable {text : List UInt8}

theorem addressOf_eq_none_iff {assigned : List UInt32} (hlength : assigned.length = 6) :
    addressOf assigned = none ↔ ¬ ∀ value ∈ assigned, value ≤ 255 := by
  rw [addressOf, if_neg (not_not.mpr hlength)]
  by_cases hlarge : assigned.any (255 < ·) = true
  · rw [if_pos hlarge]
    obtain ⟨value, hvalue, hover⟩ := List.any_eq_true.mp hlarge
    refine iff_of_true rfl fun hall => ?_
    exact UInt32.not_le.mpr (of_decide_eq_true hover) (hall value hvalue)
  · rw [if_neg hlarge]
    refine iff_of_false (Option.some_ne_none _) (not_not.mpr fun value hvalue => ?_)
    exact UInt32.not_lt.mp fun hover => hlarge (List.any_eq_true.mpr ⟨value, hvalue, decide_eq_true hover⟩)

/-- The two parsers tell different things exactly of texts with trailing characters. -/
theorem parseMac_eq_iff (text : List UInt8) :
    MqttManager.parseMac (some text) = CentralConsole.parseMac (some text) ↔ ¬ TrailingCharacters text := by
  have hconsole : sscanf (macFormat ++ [.character]) text =
      match (scan macFormat text).2 with
      | none | some [] => sscanf macFormat text
      | some (character :: _) => sscanf macFormat text ++ [character.toUInt32] := by
    rw [sscanf, scan_append]
    match (scan macFormat text).2 with
    | none => rfl
    | some [] => exact List.append_nil _
    | some (character :: rest) => rfl
  have htrailing : TrailingCharacters text ↔ ∃ character rest values,
      scan macFormat text = (values, some (character :: rest)) ∧ ∀ value ∈ values, value ≤ 255 := by
    simp only [scan_macFormat_iff]
    constructor
    · rintro ⟨fields, last, character, rest, htext⟩
      exact ⟨character, rest, fields, last, htext⟩
    · rintro ⟨character, rest, fields, last, htext⟩
      exact ⟨fields, last, character, rest, htext⟩
  show addressOf (sscanf macFormat text) = addressOf (sscanf (macFormat ++ [.character]) text) ↔ _
  rw [hconsole, htrailing]
  match hrest : (scan macFormat text).2 with
  | none =>
    refine iff_of_true rfl ?_
    rintro ⟨character, rest, values, hscan, -⟩
    rw [hscan] at hrest
    cases hrest
  | some [] =>
    refine iff_of_true rfl ?_
    rintro ⟨character, rest, values, hscan, -⟩
    rw [hscan] at hrest
    cases hrest
  | some (character :: rest) =>
    have hlength : (sscanf macFormat text).length = 6 :=
      (length_scan_hex_iff (fieldFormat 5) 2 text).mpr (Option.isSome_iff_exists.mpr ⟨_, hrest⟩)
    have hrejected : addressOf (sscanf macFormat text ++ [character.toUInt32]) = none := by
      rw [addressOf, List.length_append, hlength]
      rfl
    dsimp only
    rw [hrejected, addressOf_eq_none_iff hlength, not_iff_not]
    constructor
    · intro hvalues
      exact ⟨character, rest, sscanf macFormat text, Prod.ext rfl hrest, hvalues⟩
    · rintro ⟨character', rest', values, hscan, hvalues⟩
      rw [sscanf, hscan]
      exact hvalues

end Agreement

section RoundTrip

/-- `%02X` of one byte. -/
def byteText (byte : UInt8) : List UInt8 := [TopologyText.hexDigit (byte / 16), TopologyText.hexDigit (byte % 16)]

theorem scanHex_byteText (byte : UInt8) (rest : List UInt8) :
    scanHex 2 (byteText byte ++ rest) = some (byte.toUInt32, rest) := by
  have hdigits : ∀ byte : UInt8,
      (isSpace (TopologyText.hexDigit (byte / 16)) = false ∧ TopologyText.hexDigit (byte / 16) ≠ 0x2B ∧
        TopologyText.hexDigit (byte / 16) ≠ 0x2D ∧ TopologyText.hexDigit (byte % 16) ≠ 0x78 ∧
        TopologyText.hexDigit (byte % 16) ≠ 0x58) ∧
      hexDigit (TopologyText.hexDigit (byte / 16)) = some (byte.toNat / 16) ∧
      hexDigit (TopologyText.hexDigit (byte % 16)) = some (byte.toNat % 16) := forall_byte (by decide +kernel)
  obtain ⟨⟨hspace, hplus, hminus, hlower, hupper⟩, hhigh, hlow⟩ := hdigits byte
  have hvalue : UInt32.ofNat (16 * (byte.toNat / 16) + byte.toNat % 16) = byte.toUInt32 := by
    rw [Nat.div_add_mod, UInt32.ofNat_uInt8ToNat]
  rw [scanHex_two, byteText, List.cons_append, List.dropWhile_cons_of_neg (by rw [hspace]; exact Bool.false_ne_true)]
  dsimp only [List.singleton_append]
  rw [if_neg hplus, if_neg hminus, if_neg (fun hmark => hmark.2.elim hlower hupper), hhigh, hlow, Option.map_some]
  dsimp only
  rw [hvalue]

theorem scan_byteTexts (bytes tail : List UInt8) :
    scan (fieldFormat bytes.length) (bytes.flatMap (byteText · ++ [0x3A]) ++ tail) =
      (bytes.map UInt8.toUInt32, some tail) := by
  induction bytes with
  | nil => rfl
  | cons byte bytes ih =>
    rw [List.flatMap_cons, List.append_assoc, List.append_assoc, List.length_cons, fieldFormat, scan, scanHex_byteText]
    dsimp only [List.singleton_append, scan]
    rw [if_pos rfl, ih, List.map_cons]

theorem intercalate_concat {α β : Type} (separator : β) (text : α → List β) (items : List α) (last : α) :
    [separator].intercalate ((items ++ [last]).map text) = items.flatMap (text · ++ [separator]) ++ text last := by
  induction items with
  | nil => simp [List.intercalate]
  | cons item items ih =>
    have hnonempty : (items ++ [last]).map text ≠ [] := by simp
    rw [List.cons_append, List.map_cons, List.intercalate_cons_of_ne_nil hnonempty, ih, List.flatMap_cons]
    simp only [List.append_assoc]

theorem macText_eq (mac : MacAddress) :
    ∃ bytes last, bytes.length = 5 ∧ mac.toList = bytes ++ [last] ∧
      macText mac = bytes.flatMap (byteText · ++ [0x3A]) ++ byteText last := by
  have hlength : mac.toList.length = 6 := mac.length_toList
  have hnonempty : mac.toList ≠ [] := List.ne_nil_of_length_eq_add_one hlength
  have hbytes := List.dropLast_append_getLast hnonempty
  refine ⟨mac.toList.dropLast, mac.toList.getLast hnonempty, by rw [List.length_dropLast, hlength], hbytes.symm, ?_⟩
  rw [macText, ← intercalate_concat 0x3A byteText, hbytes]
  rfl

theorem scan_macText (mac : MacAddress) :
    scan macFormat (macText mac) = (mac.toList.map UInt8.toUInt32, some []) := by
  obtain ⟨bytes, last, hfive, hbytes, htext⟩ := macText_eq mac
  have hlast := scanHex_byteText last []
  rw [List.append_nil] at hlast
  rw [macFormat_eq, htext, ← hfive, scan_append, scan_byteTexts]
  simp only [scan, hlast, hbytes, List.map_append, List.map_cons, List.map_nil]

theorem addressOf_toList (mac : MacAddress) : addressOf (mac.toList.map UInt8.toUInt32) = some mac := by
  have hsmall : ¬ (mac.toList.map UInt8.toUInt32).any (255 < ·) = true := by
    rw [List.any_map, List.any_eq_true]
    rintro ⟨byte, -, hover⟩
    have hle : byte.toUInt32 ≤ 255 := by
      rw [UInt32.le_iff_toNat_le, UInt8.toNat_toUInt32]
      exact Nat.le_of_lt_succ byte.toNat_lt
    exact UInt32.not_le.mpr (of_decide_eq_true hover) hle
  rw [addressOf, if_neg (by simp), if_neg hsmall]
  congr 1
  ext i hi
  simp [List.getD_eq_getElem?_getD]

theorem formatMacAddressText_text {extra : Nat} (buffer : CharBuffer (18 + extra)) (mac : MacAddress) :
    CharBuffer.text (formatMacAddressText buffer mac) = macText mac := by
  obtain ⟨bytes, last, hfive, -, htext⟩ := macText_eq mac
  have hdigit : ∀ byte : UInt8, (0 : UInt8) ∉ byteText byte := forall_byte (by decide +kernel)
  have hzero : 0 ∉ macText mac := by
    rw [htext, List.mem_append, List.mem_flatMap, not_or]
    refine ⟨?_, hdigit last⟩
    rintro ⟨byte, -, hbyte⟩
    obtain hbyte | hcolon := List.mem_append.mp hbyte
    · exact hdigit byte hbyte
    · exact absurd (List.mem_singleton.mp hcolon) (by decide)
  have hlength : (macText mac).length = 17 := by
    have hthree : ∀ byte : UInt8, (byteText byte ++ [0x3A]).length = 3 := fun _ => rfl
    rw [htext, List.length_append, List.length_flatMap]
    simp only [hthree, List.map_const', List.sum_replicate, hfive]
    rfl
  rw [formatMacAddressText, CharBuffer.print_text (by omega) hzero, List.take_of_length_le (by omega)]

end RoundTrip

/-- The parsers tell the same of any text exactly if nothing trails behind six bytes, and both read what is
written of an address. -/
theorem mac_parsers_agree_iff (text : Option (List UInt8)) {extra : Nat} (buffer : CharBuffer (18 + extra))
    (mac : MacAddress) :
    (MqttManager.parseMac text = CentralConsole.parseMac text ↔ ∀ bytes ∈ text, ¬ TrailingCharacters bytes) ∧
      MqttManager.parseMac (some (CharBuffer.text (formatMacAddressText buffer mac))) = some mac ∧
      CentralConsole.parseMac (some (CharBuffer.text (formatMacAddressText buffer mac))) = some mac := by
  have hmqtt : MqttManager.parseMac (some (macText mac)) = some mac := by
    show addressOf (scan macFormat (macText mac)).1 = some mac
    rw [scan_macText, addressOf_toList]
  have hconsole : CentralConsole.parseMac (some (macText mac)) = some mac := by
    show addressOf (scan (macFormat ++ [.character]) (macText mac)).1 = some mac
    rw [scan_append, scan_macText]
    dsimp only [scan]
    rw [List.append_nil, addressOf_toList]
  rw [formatMacAddressText_text]
  refine ⟨?_, hmqtt, hconsole⟩
  cases text with
  | none =>
    have hneither : MqttManager.parseMac none = none ∧ CentralConsole.parseMac none = none := ⟨rfl, rfl⟩
    rw [hneither.1, hneither.2]
    exact iff_of_true rfl fun bytes hbytes => nomatch hbytes
  | some bytes =>
    rw [parseMac_eq_iff]
    constructor
    · rintro hplain _ ⟨⟩
      exact hplain
    · exact fun hall => hall bytes rfl

/-- A command for a Node that the console would refuse. -/
theorem trailing_character_accepted :
    MqttManager.parseMac (some (macText (Vector.replicate 6 2) ++ [0x78])) = some (Vector.replicate 6 2) ∧
      CentralConsole.parseMac (some (macText (Vector.replicate 6 2) ++ [0x78])) = none := by
  decide +kernel

end MacParsers

end kilowatts
