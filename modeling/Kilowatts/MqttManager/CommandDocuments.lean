import Kilowatts.MqttManager.CommandReaders

namespace kilowatts

open Json (ascii)
open CommissioningRetries (CommissioningAction CommissioningRequest)
open TopologyText (macText)

/-- A finite `float` whose value is like this. -/
def CFloat.Holds (value : CFloat) (property : Rat → Prop) : Prop :=
  ∃ rational, value = .finite rational ∧ BinaryFormat.binary32.nearest rational = some rational ∧ property rational

/-- A simulation command without values. -/
def SimulationCommandRequest.blank (action : SimulationCommandAction) : SimulationCommandRequest :=
  ⟨action, false, .finite 0, .finite 0, false, .finite 0⟩

/-- A text of a `char` array of this size, the zero that ends it aside. -/
def FitsInto (size : Nat) (text : List UInt8) : Prop := text ≠ [] ∧ text.length < size ∧ 0 ∉ text

namespace Command

/-- What every handler is promised. Fields that a request does not use are zero. -/
def IsValid : Command → Prop
  | .load commandId request =>
    commandId ≠ 0 ∧ (request.hasPriority || request.hasMode || request.hasSchedule) = true ∧
      (request.hasPriority = false → request.priority = 0) ∧ (request.hasMode = false → request.mode = .FIXED_OFF) ∧
      (request.hasSchedule = false → request.schedule = .none) ∧
      request.mode.isDeclared = true ∧ request.schedule.isValidSchedule = true
  | .configureLoad request =>
    request.commandId ≠ 0 ∧ request.hasLoadConfiguration = true ∧
      request.loadName = CharBuffer.zero.print request.loadName.text ∧ FitsInto 16 request.loadName.text ∧
      request.powerRatingWatts.Holds (0 ≤ ·) ∧ request.mode.isDeclared = true ∧ request.powerType.isDeclared = true ∧
      request.schedule.isValidSchedule = true
  | .removeLoad request => request.commandId ≠ 0 ∧ request.hasRelayPin = true
  | .commissioning request =>
    request.commandId ≠ 0 ∧ request.hasFriendlyName = true ∧ FitsInto 20 request.friendlyName
  | .decommissionNode commandId _ => commandId ≠ 0
  | .powerPlanning commandId request =>
    commandId ≠ 0 ∧ request.P_budget.Holds (0 < ·) ∧
      request.P_reserve.Holds (fun P_reserve => 0 ≤ P_reserve ∧ request.P_budget.Holds (P_reserve ≤ ·)) ∧
      request.minimumStateOfChargePercent.Holds (fun percent => 0 ≤ percent ∧ percent ≤ 100) ∧
      request.requiredRuntimeHours.Holds (0 ≤ ·)
  | .simulation commandId request =>
    commandId ≠ 0 ∧
      (request = .blank .ENABLE ∨ request = .blank .DISABLE ∨
        request.action = .SET_VALUES ∧ (request.hasElectricalMeasurements || request.hasStateOfChargePercent) = true ∧
          request.batteryVoltageVolts.Holds (fun volts => request.hasElectricalMeasurements = false → volts = 0) ∧
          request.batteryCurrentAmps.Holds (fun amps => request.hasElectricalMeasurements = false → amps = 0) ∧
          request.stateOfChargePercent.Holds fun percent =>
            0 ≤ percent ∧ percent ≤ 100 ∧ (request.hasStateOfChargePercent = false → percent = 0))
  | .system request =>
    request.commandId ≠ 0 ∧
      (request = MqttManager.systemCommandRequest request.commandId .REQUEST_OPTIMIZATION_CYCLE ∨
        request = MqttManager.systemCommandRequest request.commandId .REBOOT_CENTRAL ∨
        request.optimizerIntervalSeconds ≠ 0 ∧
          request = { MqttManager.systemCommandRequest request.commandId .SET_OPTIMIZER_INTERVAL with
            hasOptimizerIntervalSeconds := true
            optimizerIntervalSeconds := request.optimizerIntervalSeconds })

end Command

/-! The document that asks for a command. -/

namespace CommandDocument

/-- A member of an object, under its ASCII key. -/
def member (name : String) (value : CJson) : List UInt8 × CJson := (ascii name, value)

/-- A member that is a text. -/
def text (name value : String) : List UInt8 × CJson := member name (.string (ascii value))

/-- A member that is a natural number. -/
def whole (name : String) (value : Nat) : List UInt8 × CJson := member name (.number (.finite value))

/-- A member that is the text of a MAC address. -/
def mac (name : String) (address : MacAddress) : List UInt8 × CJson := member name (.string (macText address))

/-- The name by which a mode is read; no text stands for an undeclared one. -/
def modeName : LoadMode → String
  | .FIXED_OFF => "FIXED_OFF"
  | .FIXED_ON => "FIXED_ON"
  | .AUTO_OFF => "AUTO_OFF"
  | .AUTO_ON => "AUTO_ON"
  | .undeclared _ _ => ""

/-- The name by which a power type is read. -/
def powerTypeName : LoadPowerType → String
  | .AC => "AC"
  | .DC => "DC"
  | .undeclared _ _ => ""

/-- The object of a schedule, with all five members. -/
def schedule (value : AutoSchedule) : CJson :=
  .object [member "enabled" (.bool value.enabled), whole "startHour" value.startHour.toNat,
    whole "startMinute" value.startMinute.toNat, whole "endHour" value.endHour.toNat,
    whole "endMinute" value.endMinute.toNat]

/-- The members that every document has. -/
def command (type action : String) (commandId : UInt32) (others : List (List UInt8 × CJson)) : CJson :=
  .object (text "type" type :: text "action" action :: whole "commandId" commandId.toNat :: others)

/-- The action of a document about a node. -/
def commissioningAction : CommissioningAction → String
  | .COMMISSION_NODE => "add"
  | .RENAME_NODE => "update"

end CommandDocument

open CommandDocument

/-- Optional members stand in the document exactly when the request has them. -/
def Command.document : Command → CJson
  | .load commandId request =>
    command "load" "update" commandId (mac "nodeMac" request.nodeMacAddress :: whole "relayPin" request.relayPin.toNat ::
      ((if request.hasPriority then [whole "priority" request.priority.toNat] else []) ++
        ((if request.hasMode then [text "mode" (modeName request.mode)] else []) ++
          if request.hasSchedule then [member "schedule" (schedule request.schedule)] else [])))
  | .configureLoad request =>
    command "load" "add" request.commandId [mac "nodeMac" request.nodeMacAddress,
      whole "relayPin" request.relayPin.toNat, member "name" (.string request.loadName.text),
      member "power" (.number request.powerRatingWatts), whole "priority" request.priority.toNat,
      text "mode" (modeName request.mode), text "powerType" (powerTypeName request.powerType),
      member "activeHigh" (.bool request.relayActiveHigh), member "schedule" (schedule request.schedule)]
  | .removeLoad request =>
    command "load" "delete" request.commandId [mac "nodeMac" request.nodeMacAddress,
      whole "relayPin" request.relayPin.toNat]
  | .commissioning request =>
    command "node" (commissioningAction request.action) request.commandId [mac "mac" request.nodeMacAddress,
      member "name" (.string request.friendlyName)]
  | .decommissionNode commandId nodeMacAddress => command "node" "delete" commandId [mac "mac" nodeMacAddress]
  | .powerPlanning commandId request =>
    command "battery" "set" commandId [member "budget" (.number request.P_budget),
      member "reserve" (.number request.P_reserve), member "minSoc" (.number request.minimumStateOfChargePercent),
      member "runtime" (.number request.requiredRuntimeHours)]
  | .simulation commandId request =>
    match request.action with
    | .SET_VALUES =>
      command "sensor" "values" commandId ((if request.hasElectricalMeasurements then
          [member "voltage" (.number request.batteryVoltageVolts), member "current" (.number request.batteryCurrentAmps)]
        else []) ++
        if request.hasStateOfChargePercent then [member "soc" (.number request.stateOfChargePercent)] else [])
    | .ENABLE => command "sensor" "sim" commandId []
    | _ => command "sensor" "ina219" commandId []
  | .system request =>
    match request.action with
    | .REQUEST_OPTIMIZATION_CYCLE => command "system" "optimize" request.commandId []
    | .REBOOT_CENTRAL => command "system" "restart" request.commandId []
    | _ => command "system" "interval" request.commandId [whole "seconds" request.optimizerIntervalSeconds.toNat]

namespace MqttManager

section Readers

variable {item : Option CJson}

/-- A computation succeeds if and only if both of its parts do. -/
theorem ok_bind_iff {ε α β : Type} {first : Except ε α} {next : α → Except ε β} {value : β} :
    (first >>= next) = .ok value ↔ ∃ item, first = .ok item ∧ next item = .ok value := by
  cases first with
  | error => exact ⟨nofun, fun ⟨_, herror, _⟩ => nomatch herror⟩
  | ok item => exact ⟨fun hnext => ⟨item, rfl, hnext⟩, fun ⟨_, hitem, hnext⟩ => Except.ok.inj hitem ▸ hnext⟩

/-- A required value is there. -/
theorem require_eq_ok_iff {α : Type} {value : Option α} {rejection : CommandAcknowledgement} {found : α} :
    require value rejection = .ok found ↔ value = some found := by
  cases value with
  | none => exact ⟨nofun, nofun⟩
  | some => exact ⟨fun hok => congrArg some (Except.ok.inj hok), fun hsome => congrArg _ (Option.some.inj hsome)⟩

/-- An optional member is missing, or it is there and can be read. -/
theorem optional_eq_ok_iff {α : Type} {read : Option CJson → Option α} {rejection : CommandAcknowledgement}
    {found : Option α} :
    optional item read rejection = .ok found ↔
      item = none ∧ found = none ∨ ∃ value, item.isSome = true ∧ read item = some value ∧ found = some value := by
  cases item with
  | none => simp [optional, eq_comm]
  | some item =>
    cases hread : read (some item) with
    | none => simp [optional, require, hread, Except.map]
    | some value => simp [optional, require, hread, Except.map, eq_comm]

theorem isSome_of_optional {α : Type} {read : Option CJson → Option α} {found : Option α}
    (hread : item = none ∧ found = none ∨ ∃ value, item.isSome = true ∧ read item = some value ∧ found = some value) :
    found.isSome = item.isSome := by
  obtain ⟨rfl, rfl⟩ | ⟨value, hitem, -, rfl⟩ := hread
  · rfl
  · rw [hitem, Option.isSome_some]

/-- A zero is refused like a number that is missing. -/
theorem readU32_ne_zero {value : UInt32} (hread : readU32 item = some value) : value ≠ 0 := by
  obtain ⟨whole, hwhole, rfl⟩ := Option.map_eq_some_iff.mp hread
  unfold readWhole at hwhole
  split at hwhole
  · next valuedouble =>
    split_ifs at hwhole with hrefused
    simp only [Bool.or_eq_true, decide_eq_true_eq, not_or, not_le, not_lt, not_not, ne_eq] at hrefused
    obtain ⟨⟨hpos, hle⟩, hfloor⟩ := hrefused
    obtain rfl := Option.some.inj hwhole
    have hfloorPos : 0 < ⌊valuedouble⌋ := by
      rw [← hfloor] at hpos
      exact_mod_cast hpos
    have hfloorLe : ⌊valuedouble⌋ ≤ 4294967295 := by
      rw [← hfloor] at hle
      exact_mod_cast hle
    rw [ne_eq, ← UInt32.toNat_inj, UInt32.toNat_ofNat_of_lt' (by rw [UInt32.size]; omega)]
    show ⌊valuedouble⌋.toNat ≠ 0
    omega
  · cases hwhole

/-- What is read as a float is one. -/
theorem readFloat_nearest {value : Rat} (hread : readFloat item = some value) :
    BinaryFormat.binary32.nearest value = some value := by
  unfold readFloat at hread
  split at hread
  · next valuedouble =>
    rw [CFloat.ofDouble] at hread
    cases hnearest : BinaryFormat.binary32.nearest valuedouble with
    | none =>
      rw [hnearest] at hread
      cases hread
    | some rounded =>
      rw [hnearest] at hread
      obtain rfl := Option.some.inj hread
      exact BinaryFormat.exists_nearest_iff.mp ⟨valuedouble, hnearest⟩
  · cases hread

/-- A text ends in front of its first zero. -/
theorem zero_notMem_valueString {text : List UInt8} (hread : valueString item = some text) : 0 ∉ text := by
  unfold valueString at hread
  split at hread
  · obtain rfl := Option.some.inj hread
    intro hzero
    simpa using List.mem_takeWhile_imp hzero
  · cases hread

/-- A text that is read fits into its buffer, with the zero behind. -/
theorem readString_fits {size : Nat} {text : List UInt8} (hread : readString size item = some text) :
    FitsInto size text := by
  obtain ⟨hstring, hfits⟩ := Option.filter_eq_some_iff.mp hread
  simp only [Bool.and_eq_true, decide_eq_true_eq] at hfits
  exact ⟨hfits.1, hfits.2, zero_notMem_valueString hstring⟩

/-- Only the names of the four modes are read. -/
theorem readMode_isDeclared {mode : LoadMode} (hread : readMode item = some mode) : mode.isDeclared = true := by
  obtain ⟨text, -, hparsed⟩ := Option.bind_eq_some_iff.mp hread
  unfold parseMode at hparsed
  split_ifs at hparsed <;> exact Option.some.inj hparsed ▸ rfl

/-- Only the names of the two power types are read. -/
theorem readPowerType_isDeclared {powerType : LoadPowerType} (hread : readPowerType item = some powerType) :
    powerType.isDeclared = true := by
  obtain ⟨text, -, hparsed⟩ := Option.bind_eq_some_iff.mp hread
  unfold parsePowerType at hparsed
  split_ifs at hparsed <;> exact Option.some.inj hparsed ▸ rfl

/-- A schedule that is read is a valid one. -/
theorem parseSchedule_isValid {schedule : AutoSchedule} (hparsed : parseSchedule item = some schedule) :
    schedule.isValidSchedule = true := by
  unfold parseSchedule at hparsed
  split at hparsed
  · exact Option.some.inj hparsed ▸ rfl
  · simp only [Option.bind_eq_bind, Option.bind_eq_some_iff, Option.pure_def] at hparsed
    obtain ⟨enabled, -, hparsed⟩ := hparsed
    split_ifs at hparsed with hdisabled
    · exact Option.some.inj hparsed ▸ rfl
    simp only [Option.bind_eq_some_iff] at hparsed
    obtain ⟨startHour, -, startMinute, -, endHour, -, endMinute, -, hparsed⟩ := hparsed
    split_ifs at hparsed with hrange hsame
    obtain rfl := Option.some.inj hparsed
    simp only [not_or, UInt8.not_lt, UInt8.le_iff_toNat_le] at hrange
    rw [← UInt8.toNat_inj, ← UInt8.toNat_inj] at hsame
    simp only [AutoSchedule.isValidSchedule, AutoSchedule.make, AutoSchedule.timesInRange, AutoSchedule.startMinutes,
      AutoSchedule.endMinutes, if_true, Bool.not_true, Bool.false_or, Bool.and_eq_true, decide_eq_true_eq, bne_iff_ne,
      UInt8.le_iff_toNat_le]
    obtain ⟨hstartHour, hstartMinute, hendHour, hendMinute⟩ := hrange
    change startMinute.toNat ≤ 59 at hstartMinute
    change endMinute.toNat ≤ 59 at hendMinute
    exact ⟨⟨⟨⟨hstartHour, hstartMinute⟩, hendHour⟩, hendMinute⟩, by omega⟩
  · cases hparsed

/-- A natural number within the bounds is read back. -/
theorem readWhole_whole {tooSmall : Rat → Bool} {largest value : Nat} (hsmall : tooSmall value = false)
    (hlarge : value ≤ largest) : readWhole tooSmall largest (some (.number (.finite value))) = some value := by
  have hrefused : ¬ (tooSmall value || largest < (value : Rat) || (⌊(value : Rat)⌋ : Rat) ≠ value) = true := by
    simp [hsmall, hlarge]
  rw [readWhole, if_neg hrefused, Int.floor_natCast, Int.toNat_natCast]

/-- Every byte is read back. -/
theorem readU8_whole (value : UInt8) : readU8 (some (.number (.finite value.toNat))) = some value := by
  rw [readU8, readWhole_whole (by simp) (Nat.le_of_lt_succ value.toNat_lt), Option.map_some, UInt8.ofNat_toNat]

/-- Every 16-bit number is read back. -/
theorem readU16_whole (value : UInt16) : readU16 (some (.number (.finite value.toNat))) = some value := by
  rw [readU16, readWhole_whole (by simp) (Nat.le_of_lt_succ value.toNat_lt), Option.map_some, UInt16.ofNat_toNat]

/-- Every 32-bit number but zero is read back. -/
theorem readU32_whole {value : UInt32} (hne : value ≠ 0) : readU32 (some (.number (.finite value.toNat))) = some value := by
  have hpos : value.toNat ≠ 0 := fun hzero => hne (UInt32.toNat_inj.mp hzero)
  rw [readU32, readWhole_whole (by simpa using hpos) (Nat.le_of_lt_succ value.toNat_lt),
    Option.map_some, UInt32.ofNat_toNat]

/-- A number that is a float is read back. -/
theorem readFloat_number {value : CFloat} {property : Rat → Prop} (hvalue : value.Holds property) :
    ∃ rational, value = .finite rational ∧ readFloat (some (.number value)) = some rational ∧ property rational := by
  obtain ⟨rational, rfl, hnearest, hproperty⟩ := hvalue
  exact ⟨rational, rfl, by rw [readFloat, CFloat.ofDouble, hnearest]; rfl, hproperty⟩

/-- A text without a zero is read back. -/
theorem valueString_string {text : List UInt8} (hzero : 0 ∉ text) : valueString (some (.string text)) = some text := by
  rw [valueString, CJson.cString, List.takeWhile_eq_self_iff.mpr fun byte hbyte => decide_eq_true ?_]
  rintro rfl
  exact hzero hbyte

/-- A text that fits into the buffer is read back. -/
theorem readString_string {size : Nat} {text : List UInt8} (hfits : FitsInto size text) :
    readString size (some (.string text)) = some text := by
  obtain ⟨hnonempty, hlength, hzero⟩ := hfits
  rw [readString, valueString_string hzero]
  exact Option.filter_some_pos (by simp [hnonempty, hlength])

/-- The text of a MAC address is read back. -/
theorem parseMac_mac (address : MacAddress) : parseMac (valueString (some (.string (macText address)))) = some address := by
  have hzero : 0 ∉ macText address := by
    have htext := MacParsers.formatMacAddressText_text (CharBuffer.zero : CharBuffer (18 + 0)) address
    rw [← htext]
    exact CharBuffer.zero_notMem_text _
  rw [valueString_string hzero]
  show MacParsers.addressOf (ScanFormat.scan MacParsers.macFormat (macText address)).1 = some address
  rw [MacParsers.scan_macText, MacParsers.addressOf_toList]

/-- The name of a mode is read back. Needs a declared mode. -/
theorem readMode_modeName {mode : LoadMode} (hdeclared : mode.isDeclared = true) :
    readMode (some (.string (ascii (modeName mode)))) = some mode := by
  cases mode with
  | undeclared => cases hdeclared
  | _ => decide +kernel

/-- The name of a power type is read back. Needs a declared one. -/
theorem readPowerType_powerTypeName {powerType : LoadPowerType} (hdeclared : powerType.isDeclared = true) :
    readPowerType (some (.string (ascii (powerTypeName powerType)))) = some powerType := by
  cases powerType with
  | undeclared => cases hdeclared
  | _ => decide +kernel

/-- The first member with the name is found; a name ends at its first zero. -/
theorem getObjectItem_member (key name : String) (value : CJson) (rest : List (List UInt8 × CJson)) :
    (CJson.object (member key value :: rest)).getObjectItemCaseSensitive name =
      if CJson.cString (ascii key) = ascii name then some value
      else (CJson.object rest).getObjectItemCaseSensitive name := by
  simp only [CJson.getObjectItemCaseSensitive, List.find?_cons, member]
  by_cases hkey : CJson.cString (ascii key) = ascii name
  · rw [if_pos hkey, decide_eq_true hkey]
    rfl
  · rw [if_neg hkey, decide_eq_false hkey]

/-- The object of a schedule is read back. Needs that the schedule is valid. -/
theorem parseSchedule_schedule {value : AutoSchedule} (hvalid : value.isValidSchedule = true) :
    parseSchedule (some (schedule value)) = some value := by
  cases henabled : value.enabled with
  | false =>
    rw [AutoSchedule.eq_none_of_disabled henabled]
    rfl
  | true =>
    obtain ⟨enabled, startHour, startMinute, endHour, endMinute, hblank⟩ := value
    obtain rfl : enabled = true := henabled
    simp only [AutoSchedule.isValidSchedule, AutoSchedule.timesInRange, AutoSchedule.startMinutes,
      AutoSchedule.endMinutes, Bool.not_true, Bool.false_or, Bool.and_eq_true, decide_eq_true_eq, bne_iff_ne] at hvalid
    obtain ⟨⟨⟨⟨hstartHour, hstartMinute⟩, hendHour⟩, hendMinute⟩, hdifferent⟩ := hvalid
    have hrange : ¬ (23 < startHour ∨ 59 < startMinute ∨ 23 < endHour ∨ 59 < endMinute) := by
      simp only [not_or, UInt8.not_lt]
      exact ⟨hstartHour, hstartMinute, hendHour, hendMinute⟩
    have hsame : ¬ (startHour = endHour ∧ startMinute = endMinute) := by
      rintro ⟨rfl, rfl⟩
      exact hdifferent rfl
    simp +decide only [parseSchedule, schedule, whole, getObjectItem_member, if_true, if_false, valueBool, readU8_whole,
      Option.bind_eq_bind, Option.bind_some, Option.pure_def, hrange, hsame]
    rfl

end Readers

section Validity

variable {root : CJson} {read : Command} {commandId : UInt32} {nodeMacAddress : MacAddress} {relayPin : UInt8}

/-- What the reader of a commissioning returns is valid. Needs a command id, which is read in front of
it. -/
theorem isValid_of_readCommissioning {action : CommissioningAction} (hne : commandId ≠ 0)
    (hread : readCommissioning root commandId action nodeMacAddress = .ok read) : read.IsValid := by
  simp only [readCommissioning, ok_bind_iff, require_eq_ok_iff] at hread
  obtain ⟨friendlyName, hname, hread⟩ := hread
  obtain rfl := Except.ok.inj hread
  exact ⟨hne, rfl, readString_fits hname⟩

/-- Each action of a node's document is valid once it is read. -/
theorem isValid_of_readNodeCommand (hread : readNodeCommand root = .ok read) : read.IsValid := by
  simp only [readNodeCommand, ok_bind_iff, require_eq_ok_iff] at hread
  obtain ⟨commandId, hid, action, -, nodeMacAddress, -, hread⟩ := hread
  have hne := readU32_ne_zero hid
  split_ifs at hread
  · exact isValid_of_readCommissioning hne hread
  · exact isValid_of_readCommissioning hne hread
  · obtain rfl := Except.ok.inj hread
    exact hne

theorem getD_of_missing {α : Type} {found : Option α} {value : α} (hmissing : found.isSome = false) :
    found.getD value = value := by
  rw [Option.isSome_eq_false_iff, Option.isNone_iff_eq_none] at hmissing
  rw [hmissing, Option.getD_none]

/-- Needs a command id; the members that are missing leave zeros. -/
theorem isValid_of_readLoadUpdate (hne : commandId ≠ 0)
    (hread : readLoadUpdate root commandId nodeMacAddress relayPin = .ok read) : read.IsValid := by
  simp only [readLoadUpdate, ok_bind_iff, optional_eq_ok_iff] at hread
  obtain ⟨priority, -, mode, hmode, schedule, hschedule, hread⟩ := hread
  split_ifs at hread with hnothing
  · cases hread
  obtain rfl := Except.ok.inj hread
  have hdeclared : (mode.getD .FIXED_OFF).isDeclared = true := by
    obtain ⟨-, rfl⟩ | ⟨value, -, hparsed, rfl⟩ := hmode
    · rfl
    · exact readMode_isDeclared hparsed
  have hvalid : (schedule.getD .none).isValidSchedule = true := by
    obtain ⟨-, rfl⟩ | ⟨value, -, hparsed, rfl⟩ := hschedule
    · rfl
    · exact parseSchedule_isValid hparsed
  rw [← Bool.not_or, ← Bool.not_or, Bool.not_eq_true, Bool.not_eq_false'] at hnothing
  exact ⟨hne, hnothing, getD_of_missing, getD_of_missing, getD_of_missing, hdeclared, hvalid⟩

/-- Needs a command id; the name and the rating are those of the document. -/
theorem isValid_of_readLoadConfiguration (hne : commandId ≠ 0)
    (hread : readLoadConfiguration root commandId nodeMacAddress relayPin = .ok read) : read.IsValid := by
  simp only [readLoadConfiguration, ok_bind_iff, require_eq_ok_iff, Option.filter_eq_some_iff] at hread
  obtain ⟨loadName, hname, powerRatingWatts, ⟨hpower, hnonneg⟩, priority, -, mode, hmode, powerType, hpowerType,
    relayActiveHigh, -, schedule, hschedule, hread⟩ := hread
  obtain rfl := Except.ok.inj hread
  have hfits := readString_fits hname
  have htext : CharBuffer.text (CharBuffer.zero.print loadName : CharBuffer 16) = loadName := by
    rw [CharBuffer.print_text (by decide) hfits.2.2, List.take_of_length_le (Nat.le_of_lt_succ hfits.2.1)]
  have hrating : 0 ≤ powerRatingWatts := by simpa using hnonneg
  refine ⟨hne, rfl, ?_, ?_, ⟨_, rfl, readFloat_nearest hpower, hrating⟩, readMode_isDeclared hmode,
    readPowerType_isDeclared hpowerType, parseSchedule_isValid hschedule⟩
  · rw [htext]
  · rw [htext]
    exact hfits

/-- Each action of a load's document is valid once it is read. -/
theorem isValid_of_readLoadCommand (hread : readLoadCommand root = .ok read) : read.IsValid := by
  simp only [readLoadCommand, ok_bind_iff, require_eq_ok_iff] at hread
  obtain ⟨commandId, hid, action, -, nodeMacAddress, -, relayPin, -, hread⟩ := hread
  have hne := readU32_ne_zero hid
  split_ifs at hread
  · exact isValid_of_readLoadUpdate hne hread
  · obtain rfl := Except.ok.inj hread
    exact ⟨hne, rfl⟩
  · exact isValid_of_readLoadConfiguration hne hread

/-- What is read of an optional number is a `float`, and zero if there is none. -/
theorem holds_of_optional (property : Rat → Prop) {item : Option CJson} {number found : Option Rat}
    (hread : item = none ∧ found = none ∨ ∃ value, item.isSome = true ∧ number = some value ∧ found = some value)
    (hzero : property 0)
    (hnumber : ∀ value, number = some value → BinaryFormat.binary32.nearest value = some value ∧ property value) :
    (CFloat.finite (found.getD 0)).Holds fun value => property value ∧ (found.isSome = false → value = 0) := by
  obtain ⟨-, rfl⟩ | ⟨value, -, hread, rfl⟩ := hread
  · exact ⟨0, rfl, by decide +kernel, hzero, fun _ => rfl⟩
  · obtain ⟨hnearest, hproperty⟩ := hnumber value hread
    exact ⟨value, rfl, hnearest, hproperty, fun hmissing => nomatch hmissing⟩

/-- The reserve is within the budget once it is read. -/
theorem isValid_of_readBatteryCommand (hread : readBatteryCommand root = .ok read) : read.IsValid := by
  simp only [readBatteryCommand, ok_bind_iff, require_eq_ok_iff] at hread
  obtain ⟨commandId, hid, action, -, hread⟩ := hread
  split_ifs at hread
  · cases hread
  simp only [ok_bind_iff, require_eq_ok_iff, optional_eq_ok_iff] at hread
  obtain ⟨P_budget, hbudget, P_reserve, hreserve, percent, hpercent, runtime, hruntime, hread⟩ := hread
  split_ifs at hread with hinvalid
  · cases hread
  obtain rfl := Except.ok.inj hread
  simp only [not_or, not_le, not_lt] at hinvalid
  obtain ⟨hpositive, hnonneg, hwithin, hlow, hhigh, hhours⟩ := hinvalid
  obtain ⟨hours, hfinite, hnearest, -⟩ := holds_of_optional (fun _ => True) hruntime trivial
    fun value hvalue => ⟨readFloat_nearest hvalue, trivial⟩
  exact ⟨readU32_ne_zero hid, ⟨P_budget, rfl, readFloat_nearest hbudget, hpositive⟩,
    ⟨P_reserve, rfl, readFloat_nearest hreserve, hnonneg, P_budget, rfl, readFloat_nearest hbudget, hwithin⟩,
    ⟨percent, rfl, readFloat_nearest hpercent, hlow, hhigh⟩,
    ⟨hours, hfinite, hnearest, CFloat.finite.inj hfinite ▸ hhours⟩⟩

/-- Needs a command id; the readings that are missing leave zeros. -/
theorem isValid_of_readSensorValues (hne : commandId ≠ 0) (hread : readSensorValues root commandId = .ok read) :
    read.IsValid := by
  simp only [readSensorValues] at hread
  split_ifs at hread with hdifferent
  · cases hread
  simp only [ok_bind_iff, optional_eq_ok_iff] at hread
  obtain ⟨voltage, hvoltage, current, hcurrent, percent, hpercent, hread⟩ := hread
  split_ifs at hread with hnothing
  · cases hread
  obtain rfl := Except.ok.inj hread
  have hsame : current.isSome = voltage.isSome := by
    rw [isSome_of_optional hvoltage, isSome_of_optional hcurrent]
    exact (not_not.mp hdifferent).symm
  rw [hsame, Bool.and_self, ← Bool.not_or, Bool.not_eq_true, Bool.not_eq_false'] at hnothing
  obtain ⟨volts, hvolts, hnearestVolts, -, hnoVolts⟩ := holds_of_optional (fun _ => True) hvoltage trivial
    fun value hvalue => ⟨readFloat_nearest hvalue, trivial⟩
  obtain ⟨amps, hamps, hnearestAmps, -, hnoAmps⟩ := holds_of_optional (fun _ => True) hcurrent trivial
    fun value hvalue => ⟨readFloat_nearest hvalue, trivial⟩
  obtain ⟨soc, hsoc, hnearestSoc, ⟨hlow, hhigh⟩, hnoSoc⟩ := holds_of_optional
    (fun percent => 0 ≤ percent ∧ percent ≤ 100) hpercent (by decide) fun value hvalue => by
      obtain ⟨hvalue, hwithin⟩ := Option.filter_eq_some_iff.mp hvalue
      simp only [not_or, not_lt, decide_eq_true_eq] at hwithin
      exact ⟨readFloat_nearest hvalue, hwithin⟩
  rw [hsame, Bool.and_self]
  rw [hsame] at hnoAmps
  exact ⟨hne, .inr (.inr ⟨rfl, hnothing, ⟨volts, hvolts, hnearestVolts, hnoVolts⟩,
    ⟨amps, hamps, hnearestAmps, hnoAmps⟩, ⟨soc, hsoc, hnearestSoc, hlow, hhigh, hnoSoc⟩⟩)⟩

/-- Each action of a sensor's document is valid once it is read. -/
theorem isValid_of_readSensorCommand (hread : readSensorCommand root = .ok read) : read.IsValid := by
  simp only [readSensorCommand, ok_bind_iff, require_eq_ok_iff] at hread
  obtain ⟨commandId, hid, action, -, hread⟩ := hread
  have hne := readU32_ne_zero hid
  split_ifs at hread
  · obtain rfl := Except.ok.inj hread
    exact ⟨hne, .inl rfl⟩
  · obtain rfl := Except.ok.inj hread
    exact ⟨hne, .inr (.inl rfl)⟩
  · exact isValid_of_readSensorValues hne hread

/-- Each action of the system's document is valid once it is read. -/
theorem isValid_of_readSystemCommand (hread : readSystemCommand root = .ok read) : read.IsValid := by
  simp only [readSystemCommand, ok_bind_iff, require_eq_ok_iff] at hread
  obtain ⟨commandId, hid, action, -, hread⟩ := hread
  have hne := readU32_ne_zero hid
  split_ifs at hread
  · obtain rfl := Except.ok.inj hread
    exact ⟨hne, .inl rfl⟩
  · obtain rfl := Except.ok.inj hread
    exact ⟨hne, .inr (.inl rfl)⟩
  · simp only [ok_bind_iff, require_eq_ok_iff] at hread
    obtain ⟨seconds, hseconds, hread⟩ := hread
    obtain rfl := Except.ok.inj hread
    exact ⟨hne, .inr (.inr ⟨readU32_ne_zero hseconds, rfl⟩)⟩

/-- Whatever is read as a command is one that a handler may be given. -/
theorem isValid_of_readCommand (hread : readCommand root = .ok read) : read.IsValid := by
  unfold readCommand at hread
  dsimp only at hread
  split_ifs at hread
  · exact isValid_of_readNodeCommand hread
  · exact isValid_of_readLoadCommand hread
  · exact isValid_of_readBatteryCommand hread
  · exact isValid_of_readSensorCommand hread
  · exact isValid_of_readSystemCommand hread

end Validity

section Documents

variable {commandId : UInt32} {nodeMacAddress : MacAddress} {relayPin : UInt8}

/-- A text of the source is read back. Needs that it holds no zero. -/
theorem valueString_ascii {text : String} (hplain : CJson.cString (ascii text) = ascii text) :
    valueString (some (.string (ascii text))) = some (ascii text) := by
  rw [valueString, hplain]

theorem require_some {α : Type} (value : α) (rejection : CommandAcknowledgement) :
    require (some value) rejection = .ok value := rfl

theorem ok_bind {ε α β : Type} (item : α) (next : α → Except ε β) : (Except.ok item >>= next) = next item := rfl

theorem optional_some {α : Type} {read : Option CJson → Option α} {item : CJson} {value : α}
    (hread : read (some item) = some value) (rejection : CommandAcknowledgement) :
    optional (some item) read rejection = .ok (some value) := by
  rw [optional, hread, require_some, Except.map]

/-- Members that a document has only if this flag is set. -/
theorem optional_members {α : Type} {read : Option CJson → Option α} {item : CJson} {value : α}
    (hread : read (some item) = some value) (flag : Bool) (rejection : CommandAcknowledgement) :
    optional (if flag = true then some item else none) read rejection = .ok (if flag = true then some value else none) := by
  cases flag with
  | false => rfl
  | true => exact optional_some hread rejection

/-- The members in front are found first. -/
theorem getObjectItem_append (first rest : List (List UInt8 × CJson)) (name : String) :
    (CJson.object (first ++ rest)).getObjectItemCaseSensitive name =
      ((CJson.object first).getObjectItemCaseSensitive name).or
        ((CJson.object rest).getObjectItemCaseSensitive name) := by
  simp only [CJson.getObjectItemCaseSensitive, List.find?_append, Option.map_or]

/-- Members that are there under a condition. -/
theorem getObjectItem_ite (flag : Bool) (members : List (List UInt8 × CJson)) (name : String) :
    (CJson.object (if flag = true then members else [])).getObjectItemCaseSensitive name =
      if flag = true then (CJson.object members).getObjectItemCaseSensitive name else none := by
  cases flag <;> rfl

theorem getObjectItem_nil (name : String) : (CJson.object []).getObjectItemCaseSensitive name = none := rfl

theorem isSome_ite {α : Type} (flag : Bool) (value : α) : (if flag = true then some value else none).isSome = flag := by
  cases flag <;> rfl

theorem getD_ite {α : Type} {flag : Bool} {value default : α} (hblank : flag = false → value = default) :
    (if flag = true then some value else none).getD default = value := by
  cases flag with
  | false => exact (hblank rfl).symm
  | true => rfl

/-- The document of a decommissioning is read back. -/
theorem readCommand_decommissionNode (hne : commandId ≠ 0) :
    readCommand (Command.decommissionNode commandId nodeMacAddress).document =
      .ok (.decommissionNode commandId nodeMacAddress) := by
  simp +decide only [Command.document, command, text, whole, mac, readCommand, readNodeCommand, getObjectItem_member,
    valueString_ascii, parseMac_mac, readU32_whole hne, require_some, ok_bind, if_true, if_false, Option.getD_some]
  rfl

/-- The document of a commissioning is read back. -/
theorem readCommand_commissioning {request : CommissioningRequest} (hvalid : (Command.commissioning request).IsValid) :
    readCommand (Command.commissioning request).document = .ok (.commissioning request) := by
  obtain ⟨commandId, action, nodeMacAddress, hasFriendlyName, friendlyName⟩ := request
  obtain ⟨hne, rfl, hfits⟩ := hvalid
  cases action with
  | COMMISSION_NODE =>
    simp +decide only [Command.document, commissioningAction, command, text, whole, mac, readCommand, readNodeCommand,
      readCommissioning, getObjectItem_member, valueString_ascii, parseMac_mac, readU32_whole hne,
      readString_string hfits, require_some, ok_bind, if_true, if_false, Option.getD_some]
    rfl
  | RENAME_NODE =>
    simp +decide only [Command.document, commissioningAction, command, text, whole, mac, readCommand, readNodeCommand,
      readCommissioning, getObjectItem_member, valueString_ascii, parseMac_mac, readU32_whole hne,
      readString_string hfits, require_some, ok_bind, if_true, if_false, Option.getD_some]
    rfl

/-- The document of a removal is read back. -/
theorem readCommand_removeLoad {request : RemoveLoadRequest} (hvalid : (Command.removeLoad request).IsValid) :
    readCommand (Command.removeLoad request).document = .ok (.removeLoad request) := by
  obtain ⟨commandId, nodeMacAddress, hasRelayPin, relayPin⟩ := request
  obtain ⟨hne, rfl⟩ := hvalid
  simp +decide only [Command.document, command, text, whole, mac, readCommand, readLoadCommand, getObjectItem_member,
    valueString_ascii, parseMac_mac, readU32_whole hne, readU8_whole, require_some, ok_bind, if_true, if_false,
    Option.getD_some]
  rfl

/-- The document of a configuration is read back. -/
theorem readCommand_configureLoad {request : ConfigCommandRequest} (hvalid : (Command.configureLoad request).IsValid) :
    readCommand (Command.configureLoad request).document = .ok (.configureLoad request) := by
  obtain ⟨commandId, nodeMacAddress, hasLoadConfiguration, loadName, relayPin, relayActiveHigh, mode, priority,
    powerType, powerRatingWatts, value⟩ := request
  obtain ⟨hne, rfl, hprinted, hfits, hrating, hmode, hpowerType, hschedule⟩ := hvalid
  obtain ⟨watts, rfl, hread, hnonneg⟩ := readFloat_number hrating
  have hfilter : (readFloat (some (.number (.finite watts)))).filter (fun power => ¬ power < 0) = some watts := by
    rw [hread]
    exact Option.filter_some_pos (by simpa using hnonneg)
  simp +decide only [Command.document, command, text, whole, mac, readCommand, readLoadCommand, readLoadConfiguration,
    getObjectItem_member, valueString_ascii, parseMac_mac, readU32_whole hne, readU8_whole, readU16_whole,
    readString_string hfits, hfilter, readMode_modeName hmode, readPowerType_powerTypeName hpowerType, valueBool,
    parseSchedule_schedule hschedule, require_some, ok_bind, if_true, if_false, Option.getD_some, ← hprinted]
  rfl

/-- The document of an update is read back, whichever members it has. -/
theorem readCommand_load {request : LoadCommandRequest} (hvalid : (Command.load commandId request).IsValid) :
    readCommand (Command.load commandId request).document = .ok (.load commandId request) := by
  obtain ⟨nodeMacAddress, relayPin, hasPriority, priority, hasMode, mode, hasSchedule, value⟩ := request
  obtain ⟨hne, hany, hpriority, hmode, hschedule, hdeclared, hvalid⟩ := hvalid
  dsimp only at hany hdeclared hvalid
  have hrefused : ¬ (!hasPriority && !hasMode && !hasSchedule) = true := by
    rw [← Bool.not_or, ← Bool.not_or, hany]
    decide
  simp +decide only [Command.document, command, text, whole, mac, readCommand, readLoadCommand, readLoadUpdate,
    getObjectItem_member, getObjectItem_append, getObjectItem_ite, getObjectItem_nil, valueString_ascii, parseMac_mac,
    readU32_whole hne, readU8_whole, optional_members (readU16_whole _), optional_members (readMode_modeName hdeclared),
    optional_members (parseSchedule_schedule hvalid), isSome_ite, getD_ite hpriority, getD_ite hmode, getD_ite hschedule,
    require_some, ok_bind, if_true, if_false, ite_self, Option.or_none, Option.none_or, Option.getD_some, hrefused]
  rfl

/-- The document of a plan is read back. -/
theorem readCommand_powerPlanning {request : PowerPlanningCommandRequest}
    (hvalid : (Command.powerPlanning commandId request).IsValid) :
    readCommand (Command.powerPlanning commandId request).document = .ok (.powerPlanning commandId request) := by
  obtain ⟨P_budget, P_reserve, percent, hours⟩ := request
  obtain ⟨hne, hbudget, hreserve, hpercent, hhours⟩ := hvalid
  obtain ⟨budget, rfl, hreadBudget, hpositive⟩ := readFloat_number hbudget
  obtain ⟨reserve, rfl, hreadReserve, hnonneg, within, hsame, -, hwithin⟩ := readFloat_number hreserve
  obtain ⟨percent, rfl, hreadPercent, hlow, hhigh⟩ := readFloat_number hpercent
  obtain ⟨hours, rfl, hreadHours, hduration⟩ := readFloat_number hhours
  obtain rfl : within = budget := (CFloat.finite.inj hsame).symm
  have haccepted : ¬ (within ≤ 0 ∨ reserve < 0 ∨ within < reserve ∨ percent < 0 ∨ 100 < percent ∨ hours < 0) := by
    simp only [not_or, not_le, not_lt]
    exact ⟨hpositive, hnonneg, hwithin, hlow, hhigh, hduration⟩
  simp +decide only [Command.document, command, text, whole, readCommand, readBatteryCommand, getObjectItem_member,
    valueString_ascii, readU32_whole hne, hreadBudget, hreadReserve, hreadPercent, optional_some hreadHours,
    require_some, ok_bind, if_true, if_false, Option.getD_some, haccepted]
  rfl

/-- The document of a simulation is read back, for each of its actions. -/
theorem readCommand_simulation {request : SimulationCommandRequest}
    (hvalid : (Command.simulation commandId request).IsValid) :
    readCommand (Command.simulation commandId request).document = .ok (.simulation commandId request) := by
  obtain ⟨hne, rfl | rfl | hvalues⟩ := hvalid
  · simp +decide only [Command.document, SimulationCommandRequest.blank, command, text, whole, readCommand,
      readSensorCommand, getObjectItem_member, valueString_ascii, readU32_whole hne, require_some, ok_bind, if_true,
      if_false, Option.getD_some]
    rfl
  · simp +decide only [Command.document, SimulationCommandRequest.blank, command, text, whole, readCommand,
      readSensorCommand, getObjectItem_member, valueString_ascii, readU32_whole hne, require_some, ok_bind, if_true,
      if_false, Option.getD_some]
    rfl
  · obtain ⟨action, hasElectricalMeasurements, volts, amps, hasStateOfChargePercent, percent⟩ := request
    obtain ⟨rfl, hany, hvolts, hamps, hpercent⟩ := hvalues
    obtain ⟨volts, rfl, hreadVolts, hnoVolts⟩ := readFloat_number hvolts
    obtain ⟨amps, rfl, hreadAmps, hnoAmps⟩ := readFloat_number hamps
    obtain ⟨percent, rfl, hreadPercent, hlow, hhigh, hnoPercent⟩ := readFloat_number hpercent
    have hreadSoc : readStateOfCharge (some (.number (.finite percent))) = some percent := by
      rw [readStateOfCharge, hreadPercent]
      exact Option.filter_some_pos (by simp [hlow, hhigh])
    dsimp only at hany
    have hrefused : ¬ (!hasElectricalMeasurements && !hasStateOfChargePercent) = true := by
      rw [← Bool.not_or, hany]
      decide
    simp +decide only [Command.document, command, text, whole, readCommand, readSensorCommand, readSensorValues,
      getObjectItem_member, getObjectItem_append, getObjectItem_ite, getObjectItem_nil, valueString_ascii,
      readU32_whole hne, optional_members hreadVolts, optional_members hreadAmps, optional_members hreadSoc, isSome_ite,
      getD_ite hnoVolts, getD_ite hnoAmps, getD_ite hnoPercent, require_some, ok_bind, if_true, if_false, ite_self,
      Option.or_none, Option.none_or, Option.getD_some, Bool.and_self, ne_self_iff_false, hrefused]
    rfl

/-- The document of a system command is read back, for each of its actions. -/
theorem readCommand_system {request : SystemCommandRequest} (hvalid : (Command.system request).IsValid) :
    readCommand (Command.system request).document = .ok (.system request) := by
  obtain ⟨hne, hrequest | hrequest | ⟨hseconds, hrequest⟩⟩ := hvalid
  · rw [hrequest]
    simp +decide only [Command.document, systemCommandRequest, command, text, whole, readCommand, readSystemCommand,
      getObjectItem_member, valueString_ascii, readU32_whole hne, require_some, ok_bind, if_true, if_false,
      Option.getD_some]
    rfl
  · rw [hrequest]
    simp +decide only [Command.document, systemCommandRequest, command, text, whole, readCommand, readSystemCommand,
      getObjectItem_member, valueString_ascii, readU32_whole hne, require_some, ok_bind, if_true, if_false,
      Option.getD_some]
    rfl
  · rw [hrequest]
    simp +decide only [Command.document, systemCommandRequest, command, text, whole, readCommand, readSystemCommand,
      getObjectItem_member, valueString_ascii, readU32_whole hne, readU32_whole hseconds, require_some, ok_bind,
      if_true, if_false, Option.getD_some]
    rfl

/-- Every valid command is read back from its document. -/
theorem readCommand_document {read : Command} (hvalid : read.IsValid) : readCommand read.document = .ok read := by
  cases read with
  | load => exact readCommand_load hvalid
  | configureLoad => exact readCommand_configureLoad hvalid
  | removeLoad => exact readCommand_removeLoad hvalid
  | commissioning => exact readCommand_commissioning hvalid
  | decommissionNode => exact readCommand_decommissionNode hvalid
  | powerPlanning => exact readCommand_powerPlanning hvalid
  | simulation => exact readCommand_simulation hvalid
  | system => exact readCommand_system hvalid

/-- The documents ask for exactly the valid commands, and what a document asks for can be asked for with the
document of that command. In particular, none of them restores the factory settings. Nothing is assumed
about the documents that are read. -/
theorem readCommand_document_iff (read : Command) :
    (readCommand read.document = .ok read ↔ read.IsValid) ∧
      ∀ root, readCommand root = .ok read → readCommand read.document = .ok read := by
  have hiff : readCommand read.document = .ok read ↔ read.IsValid := ⟨isValid_of_readCommand, readCommand_document⟩
  exact ⟨hiff, fun root hread => hiff.mpr (isValid_of_readCommand hread)⟩

end Documents

end MqttManager

end kilowatts
