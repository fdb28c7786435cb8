import Mathlib.Tactic.SplitIfs
import Kilowatts.Library.Json

/-!
`sscanf` of the C library, for `%x` with a width, for `%c`, and for characters that stand
for themselves and are not blanks.
-/

namespace ScanFormat

open Json (hexDigit)

/-- `isspace` -/
def isSpace (byte : UInt8) : Bool := byte = 0x20 || (0x09 ≤ byte && byte ≤ 0x0D)

inductive Directive where
  | hex (width : Nat)
  | character
  | literal (byte : UInt8)
deriving DecidableEq

/-- The digits of a number that the width leaves room for. -/
def scanDigits (width : Nat) (input : List UInt8) : Option (Nat × List UInt8) :=
  let digits := (input.take width).takeWhile fun byte => (hexDigit byte).isSome
  if digits.isEmpty then none
  else some (digits.foldl (fun number digit => 16 * number + (hexDigit digit).getD 0) 0, input.drop digits.length)

/-- `0x` belongs to the number, but is not a number without digits behind it. -/
def scanUnsigned (width : Nat) : List UInt8 → Option (Nat × List UInt8)
  | zero :: mark :: rest =>
    if 2 ≤ width ∧ zero = 0x30 ∧ (mark = 0x78 ∨ mark = 0x58) then scanDigits (width - 2) rest
    else scanDigits width (zero :: mark :: rest)
  | input => scanDigits width input

/-- A sign belongs to the number too, and a negative number is that of the same bits. -/
def scanHex (width : Nat) (input : List UInt8) : Option (UInt32 × List UInt8) :=
  match input.dropWhile isSpace with
  | [] => none
  | first :: rest =>
    if first = 0x2B then (scanUnsigned (width - 1) rest).map fun (number, rest) => (UInt32.ofNat number, rest)
    else if first = 0x2D then (scanUnsigned (width - 1) rest).map fun (number, rest) => (-UInt32.ofNat number, rest)
    else (scanUnsigned width (first :: rest)).map fun (number, rest) => (UInt32.ofNat number, rest)

/-- The values that are assigned, and the rest of the input if every directive is met. -/
def scan : List Directive → List UInt8 → List UInt32 × Option (List UInt8)
  | [], input => ([], some input)
  | .hex width :: format, input =>
    match scanHex width input with
    | none => ([], none)
    | some (value, rest) => (value :: (scan format rest).1, (scan format rest).2)
  | .character :: format, input =>
    match input with
    | [] => ([], none)
    | byte :: rest => (byte.toUInt32 :: (scan format rest).1, (scan format rest).2)
  | .literal wanted :: format, input =>
    match input with
    | [] => ([], none)
    | byte :: rest => if byte = wanted then scan format rest else ([], none)

/-- What `sscanf` assigns. It returns how many values that are, or less than zero if there
is no input for the first. -/
def sscanf (format : List Directive) (input : List UInt8) : List UInt32 := (scan format input).1

/-- How many values a format assigns at most. -/
def Directive.assigns : Directive → Nat
  | hex _ | character => 1
  | literal _ => 0

section Lemmas

variable {format later : List Directive} {input : List UInt8}

theorem scan_append (format later : List Directive) (input : List UInt8) :
    scan (format ++ later) input =
      match (scan format input).2 with
      | none => ((scan format input).1, none)
      | some rest => ((scan format input).1 ++ (scan later rest).1, (scan later rest).2) := by
  induction format generalizing input with
  | nil => rfl
  | cons directive format ih =>
    cases directive with
    | hex width =>
      simp only [List.cons_append, scan]
      cases hhex : scanHex width input with
      | none => rfl
      | some read =>
        obtain ⟨value, rest⟩ := read
        dsimp only
        rw [ih rest]
        cases (scan format rest).2 <;> rfl
    | character =>
      simp only [List.cons_append, scan]
      cases input with
      | nil => rfl
      | cons byte rest =>
        dsimp only
        rw [ih rest]
        cases (scan format rest).2 <;> rfl
    | literal wanted =>
      simp only [List.cons_append, scan]
      cases input with
      | nil => rfl
      | cons byte rest =>
        dsimp only
        split
        · exact ih rest
        · rfl

/-- A format assigns all its values if it is met, and no more of them if it is not. -/
theorem length_scan (format : List Directive) (input : List UInt8) :
    (scan format input).1.length ≤ (format.map Directive.assigns).sum ∧
      ((scan format input).2.isSome → (scan format input).1.length = (format.map Directive.assigns).sum) := by
  induction format generalizing input with
  | nil => exact ⟨Nat.le_refl _, fun _ => rfl⟩
  | cons directive format ih =>
    rw [List.map_cons, List.sum_cons]
    cases directive with
    | hex width =>
      simp only [scan, Directive.assigns]
      cases hhex : scanHex width input with
      | none => exact ⟨Nat.zero_le _, fun hsome => nomatch hsome⟩
      | some read =>
        obtain ⟨hle, heq⟩ := ih read.2
        dsimp only
        rw [List.length_cons]
        exact ⟨by omega, fun hsome => by rw [heq hsome, Nat.add_comm]⟩
    | character =>
      cases input with
      | nil => exact ⟨Nat.zero_le _, fun hsome => nomatch hsome⟩
      | cons byte rest =>
        obtain ⟨hle, heq⟩ := ih rest
        simp only [scan, Directive.assigns]
        rw [List.length_cons]
        exact ⟨by omega, fun hsome => by rw [heq hsome, Nat.add_comm]⟩
    | literal wanted =>
      cases input with
      | nil => exact ⟨Nat.zero_le _, fun hsome => nomatch hsome⟩
      | cons byte rest =>
        simp only [scan, Directive.assigns, Nat.zero_add]
        split
        · exact ih rest
        · exact ⟨Nat.zero_le _, fun hsome => nomatch hsome⟩

/-- A format that ends with a number assigns all its values only if it is met. -/
theorem length_scan_hex_iff (format : List Directive) (width : Nat) (input : List UInt8) :
    (scan (format ++ [.hex width]) input).1.length = ((format ++ [Directive.hex width]).map Directive.assigns).sum ↔
      (scan (format ++ [.hex width]) input).2.isSome := by
  refine ⟨fun hlength => ?_, (length_scan _ _).2⟩
  have hle := (length_scan format input).1
  rw [List.map_append, List.sum_append, scan_append] at hlength
  rw [scan_append]
  cases hrest : (scan format input).2 with
  | none =>
    rw [hrest] at hlength
    simp only [List.map_cons, List.map_nil, Directive.assigns, List.sum_cons, List.sum_nil] at hlength
    omega
  | some rest =>
    rw [hrest] at hlength
    dsimp only at hlength ⊢
    cases hhex : scanHex width rest with
    | none =>
      simp only [scan, hhex, List.append_nil, List.map_cons, List.map_nil, Directive.assigns, List.sum_cons,
        List.sum_nil] at hlength
      omega
    | some read =>
      simp only [scan, hhex]
      rfl

end Lemmas

section TwoCharacters

theorem scanDigits_one (digit : UInt8) (rest : List UInt8) :
    scanDigits 1 (digit :: rest) = (hexDigit digit).map fun number => (number, rest) := by
  cases hdigit : hexDigit digit <;> simp [scanDigits, hdigit]

theorem scanDigits_two (first second : UInt8) (rest : List UInt8) :
    scanDigits 2 (first :: second :: rest) =
      (hexDigit first).map fun high =>
        match hexDigit second with
        | none => (high, second :: rest)
        | some low => (16 * high + low, rest) := by
  cases hfirst : hexDigit first with
  | none => simp [scanDigits, hfirst]
  | some high => cases hsecond : hexDigit second <;> simp [scanDigits, hfirst, hsecond]

theorem scanUnsigned_one (digit : UInt8) (rest : List UInt8) :
    scanUnsigned 1 (digit :: rest) = (hexDigit digit).map fun number => (number, rest) := by
  cases rest with
  | nil => exact scanDigits_one digit []
  | cons next rest =>
    rw [scanUnsigned, if_neg (fun hwidth => absurd hwidth.1 (by decide))]
    exact scanDigits_one digit (next :: rest)

/-- What two characters can be: a digit that nothing follows, a digit behind a sign, or
one or two digits. -/
theorem scanHex_two (input : List UInt8) :
    scanHex 2 input =
      match input.dropWhile isSpace with
      | [] => none
      | [digit] => (hexDigit digit).map fun number => (UInt32.ofNat number, [])
      | first :: second :: rest =>
        if first = 0x2B then (hexDigit second).map fun number => (UInt32.ofNat number, rest)
        else if first = 0x2D then (hexDigit second).map fun number => (-UInt32.ofNat number, rest)
        else if first = 0x30 ∧ (second = 0x78 ∨ second = 0x58) then none
        else
          (hexDigit first).map fun high =>
            match hexDigit second with
            | none => (UInt32.ofNat high, second :: rest)
            | some low => (UInt32.ofNat (16 * high + low), rest) := by
  have hplus : hexDigit 0x2B = none := by decide
  have hminus : hexDigit 0x2D = none := by decide
  rw [scanHex]
  match input.dropWhile isSpace with
  | [] => rfl
  | [digit] =>
    dsimp only
    split_ifs with hsign hsign
    · rw [hsign, hplus]
      rfl
    · rw [hsign, hminus]
      rfl
    · have hunsigned : scanUnsigned 2 [digit] = scanDigits 2 [digit] := rfl
      rw [hunsigned]
      cases hdigit : hexDigit digit <;> simp [scanDigits, hdigit]
  | first :: second :: rest =>
    dsimp only
    split_ifs with hsign hsign hmark
    · rw [scanUnsigned_one, Option.map_map]
      rfl
    · rw [scanUnsigned_one, Option.map_map]
      rfl
    · rw [scanUnsigned, if_pos ⟨Nat.le_refl 2, hmark⟩]
      rfl
    · rw [scanUnsigned, if_neg (fun hall => hmark hall.2), scanDigits_two, Option.map_map]
      congr 1
      funext high
      cases hexDigit second <;> simp

end TwoCharacters

end ScanFormat
