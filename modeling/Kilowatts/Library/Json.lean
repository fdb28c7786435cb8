import Mathlib.Algebra.Order.Field.Rat
import Mathlib.Data.Rat.Defs

/-!
A reader of JSON texts, which are sequences of bytes in UTF-8.
-/

/-- Strings are bytes in UTF-8. The members of an object keep their order. -/
inductive Json where
  | null
  | bool (value : Bool)
  | number (value : Rat)
  | string (text : List UInt8)
  | array (elements : List Json)
  | object (members : List (List UInt8 × Json))

/-- Where a reader of UTF-8 stands. Between characters it is at `start`; behind some of the
first bytes of a character, the next byte is bound more narrowly. -/
inductive Utf8 where
  | start
  | tail1
  | tail2
  | tail3
  | afterE0
  | afterED
  | afterF0
  | afterF4
deriving DecidableEq

namespace Utf8

/-- The first byte of a character. -/
def first (byte : UInt8) : Option Utf8 :=
  if byte ≤ 0x7F then some .start
  else if byte < 0xC2 then none
  else if byte ≤ 0xDF then some .tail1
  else if byte = 0xE0 then some .afterE0
  else if byte = 0xED then some .afterED
  else if byte ≤ 0xEF then some .tail2
  else if byte = 0xF0 then some .afterF0
  else if byte ≤ 0xF3 then some .tail3
  else if byte = 0xF4 then some .afterF4
  else none

def step : Utf8 → UInt8 → Option Utf8
  | .start, byte => first byte
  | .tail1, byte => if 0x80 ≤ byte ∧ byte ≤ 0xBF then some .start else none
  | .tail2, byte => if 0x80 ≤ byte ∧ byte ≤ 0xBF then some .tail1 else none
  | .tail3, byte => if 0x80 ≤ byte ∧ byte ≤ 0xBF then some .tail2 else none
  | .afterE0, byte => if 0xA0 ≤ byte ∧ byte ≤ 0xBF then some .tail1 else none
  | .afterED, byte => if 0x80 ≤ byte ∧ byte ≤ 0x9F then some .tail1 else none
  | .afterF0, byte => if 0x90 ≤ byte ∧ byte ≤ 0xBF then some .tail2 else none
  | .afterF4, byte => if 0x80 ≤ byte ∧ byte ≤ 0x8F then some .tail2 else none

/-- The bytes end a character that is read so far, and hold whole characters after it. -/
def completes (state : Utf8) (bytes : List UInt8) : Bool := bytes.foldlM step state = some .start

def isValid (bytes : List UInt8) : Bool := start.completes bytes

/-- An ASCII character is never part of another one. -/
theorem step_ascii {byte : UInt8} (hascii : byte < 0x80) (state : Utf8) :
    state.step byte = if state = .start then some .start else none := by
  have hlt : byte.toNat < 128 := hascii
  have htail : ∀ low : UInt8, 128 ≤ low.toNat → ∀ high, ¬ (low ≤ byte ∧ byte ≤ high) := by
    intro low hlow high hwithin
    have hle : low.toNat ≤ byte.toNat := hwithin.1
    omega
  cases state with
  | start => exact if_pos (Nat.le_of_lt_succ hlt)
  | tail1 => exact if_neg (htail 0x80 (by decide) _)
  | tail2 => exact if_neg (htail 0x80 (by decide) _)
  | tail3 => exact if_neg (htail 0x80 (by decide) _)
  | afterE0 => exact if_neg (htail 0xA0 (by decide) _)
  | afterED => exact if_neg (htail 0x80 (by decide) _)
  | afterF0 => exact if_neg (htail 0x90 (by decide) _)
  | afterF4 => exact if_neg (htail 0x80 (by decide) _)

end Utf8

namespace Json

section Strings

/-- Where the reader of a string stands: between or within characters, behind a backslash, or
within the number of a character with `digits` more to read. A character outside the basic
plane is written as two numbers, and `high` is the first of them. -/
inductive StringState where
  | plain (utf8 : Utf8)
  | escaped
  | unicode (digits code : Nat) (high : Option Nat)
  | paired (high : Nat)
  | pairedEscape (high : Nat)
deriving DecidableEq

def hexDigit (byte : UInt8) : Option Nat :=
  if 0x30 ≤ byte ∧ byte ≤ 0x39 then some (byte.toNat - 0x30)
  else if 0x41 ≤ byte ∧ byte ≤ 0x46 then some (byte.toNat - 0x37)
  else if 0x61 ≤ byte ∧ byte ≤ 0x66 then some (byte.toNat - 0x57)
  else none

/-- The character that stands behind a backslash for another one. -/
def simpleEscape (byte : UInt8) : Option UInt8 :=
  if byte = 0x22 ∨ byte = 0x5C ∨ byte = 0x2F then some byte
  else if byte = 0x62 then some 0x08
  else if byte = 0x66 then some 0x0C
  else if byte = 0x6E then some 0x0A
  else if byte = 0x72 then some 0x0D
  else if byte = 0x74 then some 0x09
  else none

/-- What follows the last digit of a number. -/
def character (code : Nat) : Option Nat → Option (StringState × List UInt8)
  | none =>
    if 0xD800 ≤ code ∧ code ≤ 0xDBFF then some (.paired code, [])
    else if 0xDC00 ≤ code ∧ code ≤ 0xDFFF then none
    else some (.plain .start, String.utf8EncodeChar (Char.ofNat code))
  | some high =>
    if 0xDC00 ≤ code ∧ code ≤ 0xDFFF then
      some (.plain .start, String.utf8EncodeChar (Char.ofNat (0x10000 + (high - 0xD800) * 0x400 + (code - 0xDC00))))
    else none

/-- Reads one byte, and returns what it adds to the string. Control characters are refused. -/
def StringState.step : StringState → UInt8 → Option (StringState × List UInt8)
  | .plain utf8, byte =>
    if byte = 0x5C then if utf8 = .start then some (.escaped, []) else none
    else if byte < 0x20 then none
    else (utf8.step byte).map fun next => (.plain next, [byte])
  | .escaped, byte =>
    if byte = 0x75 then some (.unicode 3 0 none, [])
    else (simpleEscape byte).map fun meant => (.plain .start, [meant])
  | .unicode digits code high, byte =>
    (hexDigit byte).bind fun digit =>
      match digits with
      | 0 => character (16 * code + digit) high
      | digits + 1 => some (.unicode digits (16 * code + digit) high, [])
  | .paired high, byte => if byte = 0x5C then some (.pairedEscape high, []) else none
  | .pairedEscape high, byte => if byte = 0x75 then some (.unicode 3 0 (some high), []) else none

/-- The rest of a string up to its quote, and what follows it. -/
def stringBody : StringState → List UInt8 → Option (List UInt8 × List UInt8)
  | _, [] => none
  | state, byte :: rest =>
    if byte = 0x22 ∧ state = .plain .start then some ([], rest)
    else
      match state.step byte with
      | none => none
      | some (next, output) => (stringBody next rest).map fun (text, rest) => (output ++ text, rest)

end Strings

section Numbers

def isDigit (byte : UInt8) : Bool := 0x30 ≤ byte && byte ≤ 0x39

def naturalOf (digits : List UInt8) : Nat := digits.foldl (fun value digit => 10 * value + (digit.toNat - 0x30)) 0

/-- A sign, where one may stand. -/
def minus : List UInt8 → Bool × List UInt8
  | [] => (false, [])
  | byte :: rest => if byte = 0x2D then (true, rest) else (false, byte :: rest)

def fractionPart : List UInt8 → Option (List UInt8 × List UInt8)
  | [] => some ([], [])
  | byte :: rest =>
    if byte = 0x2E then
      if rest.takeWhile isDigit = [] then none else some (rest.takeWhile isDigit, rest.dropWhile isDigit)
    else some ([], byte :: rest)

def exponentPart : List UInt8 → Option (Int × List UInt8)
  | [] => some (0, [])
  | byte :: rest =>
    if byte = 0x65 ∨ byte = 0x45 then
      let (negative, rest) := if rest.head? = some 0x2B then (false, rest.tail) else minus rest
      let exponent : Int := naturalOf (rest.takeWhile isDigit)
      if rest.takeWhile isDigit = [] then none
      else some (if negative then -exponent else exponent, rest.dropWhile isDigit)
    else some (0, byte :: rest)

/-- No digit, or a zero with more digits behind it. -/
def isMalformed (whole : List UInt8) : Bool := whole = [] || (whole.head? = some 0x30 && whole.length != 1)

def readNumber (input : List UInt8) : Option (Rat × List UInt8) :=
  let (negative, input) := minus input
  let whole := input.takeWhile isDigit
  if isMalformed whole then none
  else
    (fractionPart (input.dropWhile isDigit)).bind fun (fraction, input) =>
      (exponentPart input).map fun (exponent, rest) =>
        let magnitude : Rat := naturalOf (whole ++ fraction) / 10 ^ fraction.length * 10 ^ exponent
        (if negative then -magnitude else magnitude, rest)

end Numbers

section Values

variable {α : Type}

def isSpace (byte : UInt8) : Bool := byte = 0x20 || byte = 0x09 || byte = 0x0A || byte = 0x0D

def skip (input : List UInt8) : List UInt8 := input.dropWhile isSpace

/-- Items with commas between them, up to the closing byte. -/
def items (item : List UInt8 → Option (α × List UInt8)) (close : UInt8) :
    (fuel : Nat) → List UInt8 → Option (List α × List UInt8)
  | 0, _ => none
  | fuel + 1, input =>
    (item input).bind fun (first, rest) =>
      match skip rest with
      | [] => none
      | byte :: rest =>
        if byte = 0x2C then (items item close fuel rest).map fun (others, rest) => (first :: others, rest)
        else if byte = close then some ([first], rest)
        else none

/-- Items or none, up to the closing byte. -/
def listing (item : List UInt8 → Option (α × List UInt8)) (close : UInt8) (input : List UInt8) :
    Option (List α × List UInt8) :=
  match skip input with
  | [] => none
  | byte :: rest => if byte = close then some ([], rest) else items item close input.length (byte :: rest)

/-- A string, a colon and a value. -/
def member (value : List UInt8 → Option (Json × List UInt8)) (input : List UInt8) :
    Option ((List UInt8 × Json) × List UInt8) :=
  match skip input with
  | [] => none
  | byte :: rest =>
    if byte = 0x22 then
      (stringBody (.plain .start) rest).bind fun (key, rest) =>
        match skip rest with
        | [] => none
        | byte :: rest =>
          if byte = 0x3A then (value rest).map fun (json, rest) => ((key, json), rest) else none
    else none

/-- The rest of a fixed word. -/
def word (letters : List UInt8) (json : Json) (input : List UInt8) : Option (Json × List UInt8) :=
  if letters.isPrefixOf input then some (json, input.drop letters.length) else none

/-- A value no deeper than `fuel`, and what follows it. -/
def value : (fuel : Nat) → List UInt8 → Option (Json × List UInt8)
  | 0, _ => none
  | fuel + 1, input =>
    match skip input with
    | [] => none
    | byte :: rest =>
      if byte = 0x7B then (listing (member (value fuel)) 0x7D rest).map fun (members, rest) => (.object members, rest)
      else if byte = 0x5B then (listing (value fuel) 0x5D rest).map fun (elements, rest) => (.array elements, rest)
      else if byte = 0x22 then (stringBody (.plain .start) rest).map fun (text, rest) => (.string text, rest)
      else if byte = 0x6E then word [0x75, 0x6C, 0x6C] .null rest
      else if byte = 0x74 then word [0x72, 0x75, 0x65] (.bool true) rest
      else if byte = 0x66 then word [0x61, 0x6C, 0x73, 0x65] (.bool false) rest
      else (readNumber (byte :: rest)).map fun (magnitude, rest) => (.number magnitude, rest)

/-- One value with nothing but space around it. A text is longer than its value is deep. -/
def parse (text : List UInt8) : Option Json :=
  match value text.length text with
  | none => none
  | some (json, rest) => if skip rest = [] then some json else none

end Values

end Json
