import Mathlib.Data.List.Basic

/-!
Texts in HTML pages: how they are escaped, and what a reader makes of a page. The reader knows start and end
tags with attributes, quoted or not, and the five character references that stand for markup.
-/

namespace Html

/-- The bytes that end a text or the value of an attribute, with their references. -/
def references : List (UInt8 × List UInt8) :=
  [(0x26, [0x26, 0x61, 0x6D, 0x70, 0x3B]), (0x3C, [0x26, 0x6C, 0x74, 0x3B]), (0x3E, [0x26, 0x67, 0x74, 0x3B]),
    (0x22, [0x26, 0x71, 0x75, 0x6F, 0x74, 0x3B]), (0x27, [0x26, 0x23, 0x33, 0x39, 0x3B])]

def reference (byte : UInt8) : Option (List UInt8) := (references.find? (·.1 = byte)).map Prod.snd

def escapeByte (byte : UInt8) : List UInt8 := (reference byte).getD [byte]

def escape (text : List UInt8) : List UInt8 := text.flatMap escapeByte

/-- A reference that a text begins with, and the rest of the text. -/
def readReference (text : List UInt8) : Option (UInt8 × List UInt8) :=
  (references.find? fun entry => entry.2.isPrefixOf text).map fun entry => (entry.1, text.drop entry.2.length)

/-- An ampersand that begins no reference stands for itself. -/
def decodeFrom : Nat → List UInt8 → List UInt8
  | 0, _ | _, [] => []
  | fuel + 1, byte :: text =>
    match readReference (byte :: text) with
    | some (decoded, rest) => decoded :: decodeFrom fuel rest
    | none => byte :: decodeFrom fuel text

def decode (text : List UInt8) : List UInt8 := decodeFrom text.length text

/-- The bytes that mean something to a reader. -/
def isMarkup (byte : UInt8) : Bool := byte = 0x3C || byte = 0x3E || byte = 0x22 || byte = 0x27

section Escape

variable {byte : UInt8} {text : List UInt8}

theorem escapeByte_cases (byte : UInt8) :
    (∃ entry ∈ references, entry.1 = byte ∧ escapeByte byte = entry.2) ∨
      ((∀ entry ∈ references, entry.1 ≠ byte) ∧ escapeByte byte = [byte]) := by
  unfold escapeByte reference
  cases hfound : references.find? (·.1 = byte) with
  | none =>
    refine .inr ⟨fun entry hentry => ?_, rfl⟩
    simpa using List.find?_eq_none.mp hfound entry hentry
  | some entry =>
    have hbyte := List.find?_some hfound
    exact .inl ⟨entry, List.mem_of_find?_eq_some hfound, of_decide_eq_true hbyte, rfl⟩

/-- Nothing in an escaped text ends the place that it stands in. -/
theorem isMarkup_escape (text : List UInt8) : ∀ byte ∈ escape text, isMarkup byte = false := by
  intro byte hbyte
  obtain ⟨source, -, hsource⟩ := List.mem_flatMap.mp hbyte
  obtain ⟨entry, hentry, -, hescape⟩ | ⟨hplain, hescape⟩ := escapeByte_cases source
  · rw [hescape] at hsource
    have hreferences : ∀ entry ∈ references, ∀ byte ∈ entry.2, isMarkup byte = false := by decide +kernel
    exact hreferences entry hentry byte hsource
  · rw [hescape, List.mem_singleton] at hsource
    subst hsource
    simp only [references, List.forall_mem_cons] at hplain
    simp [isMarkup, hplain.2.1.symm, hplain.2.2.1.symm, hplain.2.2.2.1.symm, hplain.2.2.2.2.1.symm]

theorem escape_append (front back : List UInt8) : escape (front ++ back) = escape front ++ escape back :=
  List.flatMap_append

theorem escapeByte_of_plain (hplain : isMarkup byte = false ∧ byte ≠ 0x26) : escapeByte byte = [byte] := by
  obtain ⟨entry, hentry, rfl, -⟩ | ⟨-, hescape⟩ := escapeByte_cases byte
  · have hreferences : ∀ entry ∈ references, ¬ (isMarkup entry.1 = false ∧ entry.1 ≠ 0x26) := by decide
    exact absurd hplain (hreferences entry hentry)
  · exact hescape

theorem escape_of_plain (hplain : ∀ byte ∈ text, isMarkup byte = false ∧ byte ≠ 0x26) : escape text = text := by
  induction text with
  | nil => rfl
  | cons byte text ih =>
    obtain ⟨hbyte, hrest⟩ := List.forall_mem_cons.mp hplain
    rw [escape, List.flatMap_cons, escapeByte_of_plain hbyte, List.singleton_append]
    exact congrArg _ (ih hrest)

theorem readReference_append {entry : UInt8 × List UInt8} (hentry : entry ∈ references) (rest : List UInt8) :
    readReference (entry.2 ++ rest) = some (entry.1, rest) := by
  simp only [references, List.mem_cons, List.not_mem_nil, or_false] at hentry
  obtain rfl | rfl | rfl | rfl | rfl := hentry
  all_goals rfl

theorem readReference_plain (hplain : byte ≠ 0x26) (rest : List UInt8) : readReference (byte :: rest) = none := by
  have hnone : ∀ entry ∈ references, entry.2.isPrefixOf (byte :: rest) = false := by
    intro entry hentry
    simp only [references, List.mem_cons, List.not_mem_nil, or_false] at hentry
    obtain rfl | rfl | rfl | rfl | rfl := hentry
    all_goals simp [List.isPrefixOf, hplain.symm]
  rw [readReference, List.find?_eq_none.mpr fun entry hentry => by simp [hnone entry hentry]]
  rfl

theorem decodeFrom_escape {fuel : Nat} (hfuel : (escape text).length ≤ fuel) : decodeFrom fuel (escape text) = text := by
  induction text generalizing fuel with
  | nil => cases fuel <;> rfl
  | cons byte text ih =>
    have hsplit : escape (byte :: text) = escapeByte byte ++ escape text := List.flatMap_cons
    rw [hsplit, List.length_append] at hfuel
    rw [hsplit]
    obtain ⟨entry, hentry, rfl, hescape⟩ | ⟨hplain, hescape⟩ := escapeByte_cases byte
    · have hread := readReference_append hentry (escape text)
      have hnonempty : ∀ entry ∈ references, entry.2 ≠ [] := by decide
      obtain ⟨first, tail, htext⟩ := List.exists_cons_of_ne_nil (hnonempty entry hentry)
      rw [hescape, htext, List.length_cons] at hfuel
      obtain ⟨fuel, rfl⟩ : ∃ less, fuel = less + 1 := ⟨fuel - 1, by omega⟩
      rw [htext, List.cons_append] at hread
      rw [hescape, htext, List.cons_append, decodeFrom, hread]
      exact congrArg _ (ih (by omega))
    · have hbyte : byte ≠ 0x26 := (hplain _ List.mem_cons_self).symm
      rw [hescape, List.length_singleton] at hfuel
      obtain ⟨fuel, rfl⟩ : ∃ less, fuel = less + 1 := ⟨fuel - 1, by omega⟩
      rw [hescape, List.singleton_append, decodeFrom, readReference_plain hbyte]
      exact congrArg _ (ih (by omega))

theorem decode_escape (text : List UInt8) : decode (escape text) = text := decodeFrom_escape (Nat.le_refl _)

end Escape

inductive Token where
  | text (content : List UInt8)
  | tag (name : List UInt8) (attributes : List (List UInt8 × List UInt8))
deriving DecidableEq

/-- The tag that is being read: its name, and the attributes that are complete. -/
structure OpenTag where
  name : List UInt8
  attributes : List (List UInt8 × List UInt8)
deriving DecidableEq

namespace OpenTag

def add (tag : OpenTag) (name value : List UInt8) : OpenTag :=
  { tag with attributes := tag.attributes ++ [(name, decode value)] }

def token (tag : OpenTag) : Token := .tag tag.name tag.attributes

end OpenTag

/-- Where in a page a reader is, with what it has read there, the last byte first. -/
inductive Place where
  | text (content : List UInt8)
  | tagName (name : List UInt8)
  | inTag (tag : OpenTag)
  | attributeName (tag : OpenTag) (name : List UInt8)
  | attributeValue (tag : OpenTag) (name : List UInt8)
  | quoted (tag : OpenTag) (name : List UInt8) (quote : UInt8) (value : List UInt8)
  | unquoted (tag : OpenTag) (name value : List UInt8)
deriving DecidableEq

/-- The last token first. -/
structure Reader where
  tokens : List Token
  place : Place
deriving DecidableEq

namespace Reader

def start : Reader := ⟨[], .text []⟩

variable (reader : Reader)

def close (tag : OpenTag) : Reader := ⟨tag.token :: reader.tokens, .text []⟩

def closeText (content : List UInt8) : List Token :=
  if content = [] then reader.tokens else .text (decode content.reverse) :: reader.tokens

def step (byte : UInt8) : Reader :=
  match reader.place with
  | .text content =>
    if byte = 0x3C then ⟨reader.closeText content, .tagName []⟩ else { reader with place := .text (byte :: content) }
  | .tagName name =>
    if byte = 0x3E then reader.close ⟨name.reverse, []⟩
    else if byte = 0x20 then { reader with place := .inTag ⟨name.reverse, []⟩ }
    else { reader with place := .tagName (byte :: name) }
  | .inTag tag =>
    if byte = 0x3E then reader.close tag
    else if byte = 0x20 then reader
    else { reader with place := .attributeName tag [byte] }
  | .attributeName tag name =>
    if byte = 0x3E then reader.close (tag.add name.reverse [])
    else if byte = 0x20 then { reader with place := .inTag (tag.add name.reverse []) }
    else if byte = 0x3D then { reader with place := .attributeValue tag name.reverse }
    else { reader with place := .attributeName tag (byte :: name) }
  | .attributeValue tag name =>
    if byte = 0x3E then reader.close (tag.add name [])
    else if byte = 0x22 ∨ byte = 0x27 then { reader with place := .quoted tag name byte [] }
    else { reader with place := .unquoted tag name [byte] }
  | .quoted tag name quote value =>
    if byte = quote then { reader with place := .inTag (tag.add name value.reverse) }
    else { reader with place := .quoted tag name quote (byte :: value) }
  | .unquoted tag name value =>
    if byte = 0x3E then reader.close (tag.add name value.reverse)
    else if byte = 0x20 then { reader with place := .inTag (tag.add name value.reverse) }
    else { reader with place := .unquoted tag name (byte :: value) }

/-- The reader is taken apart so that each step is carried out before the next one. -/
def read : Reader → List UInt8 → Reader
  | reader, [] => reader
  | ⟨tokens, place⟩, byte :: page => read (step ⟨tokens, place⟩ byte) page

/-- The tokens in the order of the page, with the text at its end. -/
def finished : List Token :=
  match reader.place with
  | .text content => (reader.closeText content).reverse
  | _ => reader.tokens.reverse

variable {reader : Reader} {text : List UInt8}

theorem read_cons (byte : UInt8) : reader.read (byte :: text) = (reader.step byte).read text := rfl

theorem read_append (front back : List UInt8) : reader.read (front ++ back) = (reader.read front).read back := by
  induction front generalizing reader with
  | nil => rfl
  | cons byte front ih => exact ih

/-- A text without markup is read to its end. -/
theorem read_text {tokens : List Token} {content : List UInt8} (htext : ∀ byte ∈ text, isMarkup byte = false) :
    (Reader.mk tokens (.text content)).read text = ⟨tokens, .text (text.reverse ++ content)⟩ := by
  induction text generalizing content with
  | nil => rfl
  | cons byte text ih =>
    obtain ⟨hbyte, hrest⟩ := List.forall_mem_cons.mp htext
    have hplain : byte ≠ 0x3C := by
      rintro rfl
      exact absurd hbyte (by decide)
    rw [read_cons, step]
    dsimp only
    rw [if_neg hplain]
    exact (ih hrest).trans (by rw [List.reverse_cons, List.append_assoc, List.singleton_append])

/-- So is a quoted value. -/
theorem read_quoted {tokens : List Token} {tag : OpenTag} {name value : List UInt8} {quote : UInt8}
    (hquote : isMarkup quote = true) (htext : ∀ byte ∈ text, isMarkup byte = false) :
    (Reader.mk tokens (.quoted tag name quote value)).read text =
      ⟨tokens, .quoted tag name quote (text.reverse ++ value)⟩ := by
  induction text generalizing value with
  | nil => rfl
  | cons byte text ih =>
    obtain ⟨hbyte, hrest⟩ := List.forall_mem_cons.mp htext
    have hplain : byte ≠ quote := by
      rintro rfl
      exact Bool.false_ne_true (hbyte.symm.trans hquote)
    rw [read_cons, step]
    dsimp only
    rw [if_neg hplain]
    exact (ih hrest).trans (by rw [List.reverse_cons, List.append_assoc, List.singleton_append])

/-- The reader after some tokens, the last one first. -/
def behind (earlier : List Token) (reader : Reader) : Reader := { reader with tokens := reader.tokens ++ earlier }

theorem behind_closeText (earlier : List Token) (content : List UInt8) :
    (reader.behind earlier).closeText content = reader.closeText content ++ earlier := by
  unfold closeText behind
  split <;> rfl

theorem behind_step (earlier : List Token) (byte : UInt8) :
    (reader.behind earlier).step byte = (reader.step byte).behind earlier := by
  obtain ⟨tokens, place⟩ := reader
  unfold step
  cases place with
  | text content =>
    change (if byte = 0x3C then _ else _) = behind earlier (if byte = 0x3C then _ else _)
    rw [apply_ite (behind earlier), behind_closeText]
    rfl
  | _ =>
    dsimp only [behind]
    split_ifs
    all_goals rfl

/-- What a reader makes of a text does not depend on what it has read. -/
theorem behind_read (earlier : List Token) (text : List UInt8) (reader : Reader) :
    (reader.behind earlier).read text = (reader.read text).behind earlier := by
  induction text generalizing reader with
  | nil => rfl
  | cons byte text ih =>
    rw [read_cons, behind_step]
    exact ih (reader.step byte)

theorem behind_finished (earlier : List Token) (reader : Reader) :
    (reader.behind earlier).finished = earlier.reverse ++ reader.finished := by
  obtain ⟨tokens, place⟩ := reader
  cases place with
  | text content => exact (congrArg List.reverse (behind_closeText earlier content)).trans List.reverse_append
  | _ => exact List.reverse_append

theorem behind_start (earlier : List Token) : start.behind earlier = ⟨earlier, .text []⟩ := rfl

/-- A text that ends where it begins, between two tags. -/
theorem read_of_start {piece : List UInt8} {tokens more : List Token} (hread : start.read piece = ⟨more, .text []⟩) :
    (Reader.mk tokens (.text [])).read piece = ⟨more ++ tokens, .text []⟩ := by
  rw [← behind_start, behind_read, hread]
  rfl

end Reader

end Html
