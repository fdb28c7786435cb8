import Kilowatts.LoadManager.PrintedFloats

namespace kilowatts

/-- What Central hands over to be published. Floats stand as their bits, and a null text is `none`. -/
structure SystemStateInputs where
  batterySensorConfigured : Bool
  batteryNominalVoltageVolts : UInt32
  batteryCapacityAmpHours : UInt32
  batteryRatedEnergyWattHours : UInt32
  batteryStoredEnergyWattHours : UInt32
  batteryUsableEnergyWattHours : UInt32
  batteryVoltageVolts : UInt32
  batteryCurrentAmps : UInt32
  P_measured : UInt32
  batteryMeasurementSourceText : Option (List UInt8)
  stateOfChargePercent : UInt32
  stateOfChargeValid : Bool
  stateOfChargeSourceText : Option (List UInt8)
  batteryReserveReached : Bool
  requiredRuntimeConfigured : Bool
  requiredRuntimeHours : UInt32
  remainingRuntimeHours : UInt32
  estimatedRuntimeHours : UInt32
  runtimeEstimateValid : Bool
  requiredRuntimeAchievable : Bool
  P_budget : UInt32
  P_reserve : UInt32
  P_fixed : UInt32
  P_auto_available : UInt32
  P_auto : UInt32
  P_remaining : UInt32
  lastOptimizationEpochSeconds : Int64

namespace SystemStateJson

open Json Decimal

/-- The quoted text; a null text is written as an empty one. -/
def appendString (value : Option (List UInt8)) : List UInt8 := 0x22 :: (escaped (value.getD []) ++ [0x22])

/-- The comma behind a member that is not the last. -/
def comma (hasNext : Bool) : List UInt8 := if hasNext then [0x2C] else []

/-- What `number` prints into its buffer. -/
def line (key : String) (value : UInt32) (hasNext : Bool) : List UInt8 :=
  [ascii "\"", ascii key, ascii "\":",
    if CFloat.ofBits value = .nonFinite then ascii "null" else CFloat.printed 3 value, comma hasNext].flatten

/-- The buffer has 64 bytes, the last of which is zero. -/
def number (key : String) (value : UInt32) (hasNext : Bool) : List UInt8 := (line key value hasNext).take 63

/-- One member with a flag. -/
def boolean (key : String) (value hasNext : Bool) : List UInt8 :=
  [ascii "\"", ascii key, ascii "\":", if value then ascii "true" else ascii "false", comma hasNext].flatten

/-- One member with a text. -/
def text (key : String) (value : Option (List UInt8)) (hasNext : Bool) : List UInt8 :=
  [ascii "\"", ascii key, ascii "\":", appendString value, comma hasNext].flatten

/-- One member with a whole number. -/
def integer (key : String) (value : Int64) (hasNext : Bool) : List UInt8 :=
  [ascii "\"", ascii key, ascii "\":", Decimal.numeral (value.toInt < 0) value.toInt.natAbs none,
    comma hasNext].flatten

section Build

variable (inputs : SystemStateInputs)

/-- The lines of `build` between the braces of `battery`. -/
def battery : List UInt8 :=
  [boolean "sensorConfigured" inputs.batterySensorConfigured true,
    number "nominalVoltageVolts" inputs.batteryNominalVoltageVolts true,
    number "capacityAmpHours" inputs.batteryCapacityAmpHours true,
    number "ratedEnergyWattHours" inputs.batteryRatedEnergyWattHours true,
    number "storedEnergyWattHours" inputs.batteryStoredEnergyWattHours true,
    number "usableEnergyWattHours" inputs.batteryUsableEnergyWattHours true,
    number "voltageVolts" inputs.batteryVoltageVolts true,
    number "currentAmps" inputs.batteryCurrentAmps true,
    number "P_measured" inputs.P_measured true,
    text "measurementSource" inputs.batteryMeasurementSourceText true,
    number "stateOfChargePercent" inputs.stateOfChargePercent true,
    boolean "stateOfChargeValid" inputs.stateOfChargeValid true,
    text "stateOfChargeSource" inputs.stateOfChargeSourceText true,
    boolean "batteryReserveReached" inputs.batteryReserveReached true,
    boolean "requiredRuntimeConfigured" inputs.requiredRuntimeConfigured true,
    number "requiredRuntimeHours" inputs.requiredRuntimeHours true,
    number "remainingRuntimeHours" inputs.remainingRuntimeHours true,
    number "estimatedRuntimeHours" inputs.estimatedRuntimeHours true,
    boolean "runtimeEstimateValid" inputs.runtimeEstimateValid true,
    boolean "requiredRuntimeAchievable" inputs.requiredRuntimeAchievable false].flatten

/-- The lines of `build` between the braces of `powerFlow`. -/
def powerFlow : List UInt8 :=
  [number "P_budget" inputs.P_budget true,
    number "P_reserve" inputs.P_reserve true,
    number "P_fixed" inputs.P_fixed true,
    number "P_auto_available" inputs.P_auto_available true,
    number "P_auto" inputs.P_auto true,
    number "P_remaining" inputs.P_remaining false].flatten

/-- The text of the system state. -/
def build (schemaVersion : UInt32) : List UInt8 :=
  [ascii "\x7b\"schemaVersion\":", digitsOf schemaVersion.toNat, ascii ",",
    ascii "\"battery\":\x7b", battery inputs, ascii "\x7d,",
    ascii "\"powerFlow\":\x7b", powerFlow inputs, ascii "\x7d,",
    integer "lastOptimizationEpochSeconds" inputs.lastOptimizationEpochSeconds false,
    ascii "\x7d"].flatten

end Build

/-- A number in the buffer of `number`. A line that is too long loses its comma. -/
def reading (key : String) (value : UInt32) (hasNext : Bool) (plain : isPlain (ascii key) = true := by decide) :
    Member where
  key := ascii key
  plain
  value :=
    if CFloat.ofBits value = .nonFinite then .null else CFloat.printedDocument (60 - (ascii key).length) 3 value
  comma := hasNext && (line key value hasNext).length ≤ 63

/-- The value of the `battery` member. -/
def batteryDocument (inputs : SystemStateInputs) : Document :=
  .object [
    .next "sensorConfigured" (.bool inputs.batterySensorConfigured),
    reading "nominalVoltageVolts" inputs.batteryNominalVoltageVolts true,
    reading "capacityAmpHours" inputs.batteryCapacityAmpHours true,
    reading "ratedEnergyWattHours" inputs.batteryRatedEnergyWattHours true,
    reading "storedEnergyWattHours" inputs.batteryStoredEnergyWattHours true,
    reading "usableEnergyWattHours" inputs.batteryUsableEnergyWattHours true,
    reading "voltageVolts" inputs.batteryVoltageVolts true,
    reading "currentAmps" inputs.batteryCurrentAmps true,
    reading "P_measured" inputs.P_measured true,
    .next "measurementSource" (.string (inputs.batteryMeasurementSourceText.getD [])),
    reading "stateOfChargePercent" inputs.stateOfChargePercent true,
    .next "stateOfChargeValid" (.bool inputs.stateOfChargeValid),
    .next "stateOfChargeSource" (.string (inputs.stateOfChargeSourceText.getD [])),
    .next "batteryReserveReached" (.bool inputs.batteryReserveReached),
    .next "requiredRuntimeConfigured" (.bool inputs.requiredRuntimeConfigured),
    reading "requiredRuntimeHours" inputs.requiredRuntimeHours true,
    reading "remainingRuntimeHours" inputs.remainingRuntimeHours true,
    reading "estimatedRuntimeHours" inputs.estimatedRuntimeHours true,
    .next "runtimeEstimateValid" (.bool inputs.runtimeEstimateValid),
    .last "requiredRuntimeAchievable" (.bool inputs.requiredRuntimeAchievable)]

/-- The value of the `powerFlow` member. -/
def powerFlowDocument (inputs : SystemStateInputs) : Document :=
  .object [
    reading "P_budget" inputs.P_budget true,
    reading "P_reserve" inputs.P_reserve true,
    reading "P_fixed" inputs.P_fixed true,
    reading "P_auto_available" inputs.P_auto_available true,
    reading "P_auto" inputs.P_auto true,
    reading "P_remaining" inputs.P_remaining false]

theorem isPlain_schemaVersion : isPlain (ascii "schemaVersion") = true := by
  decide

/-- What `build` means to publish. -/
def systemStateDocument (inputs : SystemStateInputs) (schemaVersion : UInt32) : Document :=
  .object [
    .next "schemaVersion" (.natural schemaVersion.toNat) isPlain_schemaVersion,
    .next "battery" (batteryDocument inputs),
    .next "powerFlow" (powerFlowDocument inputs),
    .last "lastOptimizationEpochSeconds" (.integer inputs.lastOptimizationEpochSeconds.toInt)]

theorem boolean_next (key : String) (value : Bool) (plain : isPlain (ascii key) = true) :
    (Member.next key (.bool value) plain).piece.written = boolean key value true := by
  rw [Member.written_next]
  cases value with
  | false => simp [boolean, comma, Document.bool, ascii]
  | true => simp [boolean, comma, Document.bool, ascii]

theorem boolean_last (key : String) (value : Bool) (plain : isPlain (ascii key) = true) :
    (Member.last key (.bool value) plain).piece.written = boolean key value false := by
  rw [Member.written_last]
  cases value with
  | false => simp [boolean, comma, Document.bool, ascii]
  | true => simp [boolean, comma, Document.bool, ascii]

theorem text_next (key : String) (value : Option (List UInt8)) (plain : isPlain (ascii key) = true) :
    (Member.next key (.string (value.getD [])) plain).piece.written = text key value true := by
  rw [Member.written_next]
  simp [text, comma, Document.string, appendString, ascii]

theorem integer_last (key : String) (value : Int64) (plain : isPlain (ascii key) = true) :
    (Member.last key (.integer value.toInt) plain).piece.written = integer key value false := by
  rw [Member.written_last]
  simp [integer, comma, Document.integer, Document.numeral, ascii]

/-- The value of a reading as it is printed, whether or not it fits. -/
def readingText (value : UInt32) : List UInt8 :=
  if CFloat.ofBits value = .nonFinite then ascii "null" else CFloat.printed 3 value

/-- The line is its key, the reading and the comma. -/
theorem line_eq (key : String) (value : UInt32) (hasNext : Bool) :
    line key value hasNext = (0x22 :: (ascii key ++ [0x22, 0x3A])) ++ (readingText value ++ comma hasNext) := by
  simp [line, readingText, ascii]

/-- The length of a line with a comma behind. -/
theorem length_line (key : String) (value : UInt32) :
    (line key value true).length = (ascii key).length + 3 + (readingText value).length + 1 := by
  rw [line_eq, comma, if_pos rfl]
  simp only [List.length_append, List.length_cons, List.length_nil]
  omega

/-- The comma is the first byte that does not fit. -/
theorem take_append_comma (body : List UInt8) (hasNext : Bool) (count : Nat) :
    (body ++ comma hasNext).take count = body.take count ++ comma (hasNext && body.length < count) := by
  cases hasNext with
  | false => simp [comma]
  | true =>
    rw [List.take_append, comma, if_pos rfl, Bool.true_and]
    by_cases hfits : body.length < count
    · have hroom : [0x2C].take (count - body.length) = ([0x2C] : List UInt8) :=
        List.take_of_length_le (show 1 ≤ count - body.length by omega)
      rw [decide_eq_true hfits, hroom]
      rfl
    · have hnone : count - body.length = 0 := by omega
      rw [decide_eq_false hfits, hnone]
      rfl

/-- The buffer keeps what fits behind the key. Needs a key of at most 56 characters. -/
theorem reading_value_text {key : String} (hkey : (ascii key).length ≤ 56) (value : UInt32) (hasNext : Bool)
    (plain : isPlain (ascii key) = true) :
    (reading key value hasNext plain).value.text = (readingText value).take (60 - (ascii key).length) := by
  unfold reading readingText
  dsimp only
  split
  · exact (List.take_of_length_le (show (ascii "null").length ≤ _ by show 4 ≤ _; omega)).symm
  · exact CFloat.printedDocument_text (by omega) 3 value

/-- The document writes what `number` leaves in its buffer. Needs a key of at most 56 characters. -/
theorem reading_written {key : String} (hkey : (ascii key).length ≤ 56) (value : UInt32) (hasNext : Bool)
    (plain : isPlain (ascii key) = true) :
    (reading key value hasNext plain).piece.written = number key value hasNext := by
  have hcomma : (reading key value hasNext plain).comma =
      (hasNext && (readingText value).length < 60 - (ascii key).length) := by
    cases hasNext with
    | false => rfl
    | true =>
      rw [reading, length_line]
      exact congrArg (true && ·) (decide_eq_decide.mpr (by omega))
  have hstart : (0x22 :: (ascii key ++ [0x22, 0x3A])).length = (ascii key).length + 3 := by
    rw [List.length_cons, List.length_append]
    rfl
  have hroom : 63 - ((ascii key).length + 3) = 60 - (ascii key).length := by omega
  have hkept : (0x22 :: (ascii key ++ [0x22, 0x3A])).take 63 = 0x22 :: (ascii key ++ [0x22, 0x3A]) :=
    List.take_of_length_le (by rw [hstart]; omega)
  have hvalue := reading_value_text hkey value hasNext plain
  show (0x22 :: (ascii key ++ 0x22 :: 0x3A :: (reading key value hasNext plain).value.text)) ++
    comma (reading key value hasNext plain).comma = _
  rw [hvalue, hcomma, number, line_eq, List.take_append, hstart, hroom, hkept, take_append_comma]
  simp only [List.cons_append, List.append_assoc, List.nil_append]

/-- The document of the battery writes what the code does, braces included. -/
theorem batteryDocument_text (inputs : SystemStateInputs) :
    (batteryDocument inputs).text = 0x7B :: (battery inputs ++ [0x7D]) := by
  simp (disch := decide) only [batteryDocument, Document.object_text, List.map_cons, List.map_nil, List.flatMap_cons,
    List.flatMap_nil, boolean_next, boolean_last, text_next, reading_written, battery, List.flatten_cons,
    List.flatten_nil]

/-- The document of the power flow writes what the code does, braces included. -/
theorem powerFlowDocument_text (inputs : SystemStateInputs) :
    (powerFlowDocument inputs).text = 0x7B :: (powerFlow inputs ++ [0x7D]) := by
  simp (disch := decide) only [powerFlowDocument, Document.object_text, List.map_cons, List.map_nil,
    List.flatMap_cons, List.flatMap_nil, reading_written, powerFlow, List.flatten_cons, List.flatten_nil]

/-- The whole document is the text that Central publishes. -/
theorem systemStateDocument_text (inputs : SystemStateInputs) (schemaVersion : UInt32) :
    (systemStateDocument inputs schemaVersion).text = build inputs schemaVersion := by
  simp only [systemStateDocument, Document.object_text, List.map_cons, List.map_nil, List.flatMap_cons,
    List.flatMap_nil, Member.written_next, integer_last, Document.natural_text, batteryDocument_text,
    powerFlowDocument_text, List.append_assoc, List.cons_append, List.nil_append, List.append_nil, build,
    List.flatten_cons, List.flatten_nil]
  rfl

section Restored

/-- The line of a number that others follow fits in the buffer of `number`. -/
def fits (key : String) (value : UInt32) : Bool := (line key value true).length ≤ 63

/-- Every reading of the battery fits into its line. -/
def batteryReadable (inputs : SystemStateInputs) : Bool :=
  fits "nominalVoltageVolts" inputs.batteryNominalVoltageVolts && fits "capacityAmpHours" inputs.batteryCapacityAmpHours &&
    fits "ratedEnergyWattHours" inputs.batteryRatedEnergyWattHours &&
    fits "storedEnergyWattHours" inputs.batteryStoredEnergyWattHours &&
    fits "usableEnergyWattHours" inputs.batteryUsableEnergyWattHours &&
    isPrintable (inputs.batteryMeasurementSourceText.getD []) &&
    fits "stateOfChargePercent" inputs.stateOfChargePercent &&
    isPrintable (inputs.stateOfChargeSourceText.getD []) &&
    fits "requiredRuntimeHours" inputs.requiredRuntimeHours &&
    fits "remainingRuntimeHours" inputs.remainingRuntimeHours &&
    fits "estimatedRuntimeHours" inputs.estimatedRuntimeHours

variable {key : String} {value : UInt32}

/-- A reading that is no number is `null`. -/
theorem readingText_of_nonFinite (hvalue : CFloat.ofBits value = .nonFinite) : readingText value = ascii "null" :=
  if_pos hvalue

/-- A finite reading has three decimals. -/
theorem readingText_of_finite {number : Rat} (hvalue : CFloat.ofBits value = .finite number) :
    readingText value = CFloat.printed 3 value :=
  if_neg (by simp [hvalue])

/-- A reading has 44 characters at most. -/
theorem length_readingText_le (value : UInt32) : (readingText value).length ≤ 44 := by
  cases hvalue : CFloat.ofBits value with
  | nonFinite =>
    rw [readingText_of_nonFinite hvalue]
    decide
  | finite number =>
    rw [readingText_of_finite hvalue]
    exact CFloat.length_printed_le hvalue 3

/-- A value that fits is read back as it was printed. -/
theorem reading_value_restored {hasNext : Bool} {plain : isPlain (ascii key) = true}
    (hfits : (readingText value).length ≤ 60 - (ascii key).length) :
    (reading key value hasNext plain).value.Restored := by
  unfold reading
  dsimp only
  cases hvalue : CFloat.ofBits value with
  | nonFinite =>
    rw [if_pos rfl]
    exact Document.restored_null
  | finite number =>
    rw [readingText_of_finite hvalue] at hfits
    rw [if_neg (by simp)]
    exact CFloat.printedDocument_restored_of_fits (by decide) hvalue hfits

/-- A reading with a comma behind is restored if and only if it fits into its line. -/
theorem reading_restored {plain : isPlain (ascii key) = true} :
    ((reading key value true plain).comma = true ∧ (reading key value true plain).value.Restored) ↔
      fits key value = true := by
  have hcomma : (reading key value true plain).comma = fits key value := rfl
  rw [hcomma]
  refine and_iff_left_of_imp fun hfits => reading_value_restored ?_
  rw [fits, decide_eq_true_eq, length_line] at hfits
  omega

/-- A short key leaves room for the longest float. -/
theorem fits_of_short (hkey : (ascii key).length ≤ 15) (value : UInt32) : fits key value = true := by
  have hlength := length_readingText_le value
  rw [fits, decide_eq_true_eq, length_line]
  omega

/-- The battery is restored if and only if each of its readings fits. -/
theorem batteryDocument_restored {inputs : SystemStateInputs} :
    (batteryDocument inputs).Restored ↔ batteryReadable inputs = true := by
  simp (disch := decide) only [batteryDocument, Document.restored_object_cons, Document.restored_object_singleton,
    Member.restored_next, Member.restored_last, Document.restored_bool, Document.restored_string, reading_restored,
    fits_of_short, true_and, and_true, batteryReadable, Bool.and_eq_true, and_assoc]

/-- Only the longest key of the power flow leaves too little room. -/
theorem powerFlowDocument_restored {inputs : SystemStateInputs} :
    (powerFlowDocument inputs).Restored ↔ fits "P_auto_available" inputs.P_auto_available = true := by
  have hlast : (reading "P_remaining" inputs.P_remaining false).value.Restored :=
    reading_value_restored ((length_readingText_le _).trans (by decide))
  have hcomma : (reading "P_remaining" inputs.P_remaining false).comma = false := rfl
  simp (disch := decide) only [powerFlowDocument, Document.restored_object_cons, Document.restored_object_singleton,
    reading_restored, fits_of_short, hcomma, hlast, true_and, and_true]

/-- The two conditions of the parts. -/
theorem systemStateDocument_restored {inputs : SystemStateInputs} {schemaVersion : UInt32} :
    (systemStateDocument inputs schemaVersion).Restored ↔
      batteryReadable inputs = true ∧ fits "P_auto_available" inputs.P_auto_available = true := by
  simp only [systemStateDocument, Document.restored_object_cons, Document.restored_object_singleton,
    Member.restored_next, Member.restored_last, Document.restored_natural, Document.restored_integer,
    batteryDocument_restored, powerFlowDocument_restored, true_and, and_true]

end Restored

end SystemStateJson

end kilowatts
