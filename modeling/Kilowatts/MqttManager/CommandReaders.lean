import Kilowatts.Central.CommissioningRetries
import Kilowatts.Central.HardwareCommands
import Kilowatts.Central.SetupCommands
import Kilowatts.Central.SimulationCommands
import Kilowatts.Library.BinaryFloat
import Kilowatts.Library.JsonDocument
import Kilowatts.MqttManager.MacParsers

namespace kilowatts

open Json (ascii)
open CommissioningRetries (CommissioningAction CommissioningRequest)

/-- What `cJSON_ParseWithLength` builds of a text. The number of an item is a `double`, with the
same checks as a `float`. -/
inductive CJson where
  | null
  | bool (value : Bool)
  | number (valuedouble : CFloat)
  | string (valuestring : List UInt8)
  | array (elements : List CJson)
  | object (members : List (List UInt8 × CJson))

namespace CJson

/-- An escape can put a zero into a string, which ends it for every reader. -/
def cString (bytes : List UInt8) : List UInt8 := bytes.takeWhile (· ≠ 0)

/-- The first member of this name. Only an object has any. -/
def getObjectItemCaseSensitive (object : CJson) (name : String) : Option CJson :=
  match object with
  | .object members => (members.find? fun member => cString member.1 = ascii name).map Prod.snd
  | _ => none

end CJson

/-- `static_cast<float>` of a `double`. -/
def CFloat.ofDouble (value : Rat) : CFloat := (BinaryFormat.binary32.nearest value).elim .nonFinite .finite

/-- What `publishAcknowledgement` is called with. The target, if there is one, stands for its text. -/
structure CommandAcknowledgement where
  commandId : UInt32
  commandType : String
  status : AckStatus
  reason : String
  target : Option MacAddress
deriving DecidableEq

/-- A command for the handlers of Central. Those for `configCommandHandler` are told apart by the
action of the request. -/
inductive Command where
  | load (commandId : UInt32) (request : LoadCommandRequest)
  | configureLoad (request : ConfigCommandRequest)
  | removeLoad (request : RemoveLoadRequest)
  | commissioning (request : CommissioningRequest)
  | decommissionNode (commandId : UInt32) (nodeMacAddress : MacAddress)
  | powerPlanning (commandId : UInt32) (request : PowerPlanningCommandRequest)
  | simulation (commandId : UInt32) (request : SimulationCommandRequest)
  | system (request : SystemCommandRequest)
deriving DecidableEq

namespace Command

def commandId : Command → UInt32
  | .load commandId _ => commandId
  | .configureLoad request => request.commandId
  | .removeLoad request => request.commandId
  | .commissioning request => request.commandId
  | .decommissionNode commandId _ => commandId
  | .powerPlanning commandId _ => commandId
  | .simulation commandId _ => commandId
  | .system request => request.commandId

def commandType : Command → String
  | .load _ _ | .configureLoad _ | .removeLoad _ => "load"
  | .commissioning _ | .decommissionNode _ _ => "node"
  | .powerPlanning _ _ => "battery"
  | .simulation _ _ => "sensor"
  | .system _ => "system"

/-- The address that the acknowledgement shows. -/
def target : Command → Option MacAddress
  | .load _ request => some request.nodeMacAddress
  | .configureLoad request => some request.nodeMacAddress
  | .removeLoad request => some request.nodeMacAddress
  | .commissioning request => some request.nodeMacAddress
  | .decommissionNode _ nodeMacAddress => some nodeMacAddress
  | .powerPlanning _ _ | .simulation _ _ | .system _ => none

end Command

namespace MqttManager

section Items

/-- `readU8`, `readU16` and `readU32` differ in the numbers that they refuse as too small, and in
the largest. -/
def readWhole (tooSmall : Rat → Bool) (largest : Nat) (item : Option CJson) : Option Nat :=
  match item with
  | some (.number (.finite valuedouble)) =>
    if tooSmall valuedouble || largest < valuedouble || (⌊valuedouble⌋ : Rat) ≠ valuedouble then none
    else some ⌊valuedouble⌋.toNat
  | _ => none

def readU8 (item : Option CJson) : Option UInt8 := (readWhole (· < 0) 255 item).map UInt8.ofNat

def readU16 (item : Option CJson) : Option UInt16 := (readWhole (· < 0) 65535 item).map UInt16.ofNat

def readU32 (item : Option CJson) : Option UInt32 := (readWhole (· ≤ 0) 4294967295 item).map UInt32.ofNat

/-- The value of the `float`, which is finite. -/
def readFloat (item : Option CJson) : Option Rat :=
  match item with
  | some (.number (.finite valuedouble)) => (CFloat.ofDouble valuedouble).exact
  | _ => none

/-- `valuestring` of an item that `cJSON_IsString` accepts. -/
def valueString (item : Option CJson) : Option (List UInt8) :=
  match item with
  | some (.string valuestring) => some (CJson.cString valuestring)
  | _ => none

/-- `cJSON_IsTrue` of an item that `cJSON_IsBool` accepts. -/
def valueBool (item : Option CJson) : Option Bool :=
  match item with
  | some (.bool value) => some value
  | _ => none

/-- `size` counts the zero that ends the text. -/
def readString (size : Nat) (item : Option CJson) : Option (List UInt8) :=
  (valueString item).filter fun text => text ≠ [] && text.length < size

def parseMode (text : List UInt8) : Option LoadMode :=
  if text = ascii "FIXED_OFF" then some .FIXED_OFF
  else if text = ascii "FIXED_ON" then some .FIXED_ON
  else if text = ascii "AUTO_OFF" then some .AUTO_OFF
  else if text = ascii "AUTO_ON" then some .AUTO_ON
  else none

def parsePowerType (text : List UInt8) : Option LoadPowerType :=
  if text = ascii "AC" then some .AC
  else if text = ascii "DC" then some .DC
  else none

def readMode (item : Option CJson) : Option LoadMode := (valueString item).bind parseMode

def readPowerType (item : Option CJson) : Option LoadPowerType := (valueString item).bind parsePowerType

def parseSchedule : Option CJson → Option AutoSchedule
  | none => some .none
  | some (.object members) => do
    let object := CJson.object members
    let enabled ← valueBool (object.getObjectItemCaseSensitive "enabled")
    if !enabled then return .none
    let startHour ← readU8 (object.getObjectItemCaseSensitive "startHour")
    let startMinute ← readU8 (object.getObjectItemCaseSensitive "startMinute")
    let endHour ← readU8 (object.getObjectItemCaseSensitive "endHour")
    let endMinute ← readU8 (object.getObjectItemCaseSensitive "endMinute")
    if 23 < startHour ∨ 59 < startMinute ∨ 23 < endHour ∨ 59 < endMinute then none
    else if startHour = endHour ∧ startMinute = endMinute then none
    else return .make true startHour startMinute endHour endMinute
  | some _ => none

end Items

section Messages

/-- What the handlers of messages acknowledge by themselves. -/
def rejected (commandType : String) (commandId : UInt32) (reason : String) (target : Option MacAddress) :
    CommandAcknowledgement := ⟨commandId, commandType, .REJECTED, reason, target⟩

def require {α : Type} (value : Option α) (rejection : CommandAcknowledgement) : Except CommandAcknowledgement α :=
  value.elim (.error rejection) .ok

/-- A member that may be missing, but not be wrong. -/
def optional {α : Type} (item : Option CJson) (read : Option CJson → Option α) (rejection : CommandAcknowledgement) :
    Except CommandAcknowledgement (Option α) :=
  match item with
  | none => .ok none
  | some item => (require (read (some item)) rejection).map some

variable (root : CJson)

/-- The name that the `add` and `update` branches need. -/
def readCommissioning (commandId : UInt32) (action : CommissioningAction) (nodeMacAddress : MacAddress) :
    Except CommandAcknowledgement Command := do
  let friendlyName ← require (readString 20 (root.getObjectItemCaseSensitive "name"))
    (rejected "node" commandId "name required" none)
  return .commissioning ⟨commandId, action, nodeMacAddress, true, friendlyName⟩

/-- `handleNodeCommandMessage` up to the handler. -/
def readNodeCommand : Except CommandAcknowledgement Command := do
  let missing := rejected "node" 0 "commandId, action and mac required" none
  let commandId ← require (readU32 (root.getObjectItemCaseSensitive "commandId")) missing
  let action ← require (valueString (root.getObjectItemCaseSensitive "action")) missing
  let nodeMacAddress ← require (parseMac (valueString (root.getObjectItemCaseSensitive "mac"))) missing
  if action = ascii "add" then readCommissioning root commandId .COMMISSION_NODE nodeMacAddress
  else if action = ascii "update" then readCommissioning root commandId .RENAME_NODE nodeMacAddress
  else if action = ascii "delete" then return .decommissionNode commandId nodeMacAddress
  else throw (rejected "node" commandId "action must be add, update or delete" none)

/-- The `update` branch. Fields without a member keep what `LoadCommandRequest{}` holds. -/
def readLoadUpdate (commandId : UInt32) (nodeMacAddress : MacAddress) (relayPin : UInt8) :
    Except CommandAcknowledgement Command := do
  let refused (reason : String) := rejected "load" commandId reason (some nodeMacAddress)
  let priority ← optional (root.getObjectItemCaseSensitive "priority") readU16 (refused "invalid priority")
  let mode ← optional (root.getObjectItemCaseSensitive "mode") readMode (refused "invalid mode")
  let schedule ← optional (root.getObjectItemCaseSensitive "schedule") parseSchedule (refused "invalid schedule")
  if !priority.isSome && !mode.isSome && !schedule.isSome then throw (refused "provide priority, mode or schedule")
  return .load commandId {
    nodeMacAddress, relayPin
    hasPriority := priority.isSome
    priority := priority.getD 0
    hasMode := mode.isSome
    mode := mode.getD .FIXED_OFF
    hasSchedule := schedule.isSome
    schedule := schedule.getD .none }

/-- The `add` branch. -/
def readLoadConfiguration (commandId : UInt32) (nodeMacAddress : MacAddress) (relayPin : UInt8) :
    Except CommandAcknowledgement Command := do
  let invalid := rejected "load" commandId "invalid load settings" (some nodeMacAddress)
  let loadName ← require (readString 16 (root.getObjectItemCaseSensitive "name")) invalid
  let powerRatingWatts ←
    require ((readFloat (root.getObjectItemCaseSensitive "power")).filter fun power => ¬ power < 0) invalid
  let priority ← require (readU16 (root.getObjectItemCaseSensitive "priority")) invalid
  let mode ← require (readMode (root.getObjectItemCaseSensitive "mode")) invalid
  let powerType ← require (readPowerType (root.getObjectItemCaseSensitive "powerType")) invalid
  let relayActiveHigh ← require (valueBool (root.getObjectItemCaseSensitive "activeHigh")) invalid
  let schedule ← require (parseSchedule (root.getObjectItemCaseSensitive "schedule")) invalid
  return .configureLoad {
    commandId, nodeMacAddress
    hasLoadConfiguration := true
    loadName := CharBuffer.zero.print loadName
    relayPin, relayActiveHigh, mode, priority, powerType
    powerRatingWatts := .finite powerRatingWatts
    schedule }

/-- `handleLoadCommandMessage` up to the handlers. -/
def readLoadCommand : Except CommandAcknowledgement Command := do
  let missing := rejected "load" 0 "commandId, action, nodeMac and relayPin required" none
  let commandId ← require (readU32 (root.getObjectItemCaseSensitive "commandId")) missing
  let action ← require (valueString (root.getObjectItemCaseSensitive "action")) missing
  let nodeMacAddress ← require (parseMac (valueString (root.getObjectItemCaseSensitive "nodeMac"))) missing
  let relayPin ← require (readU8 (root.getObjectItemCaseSensitive "relayPin")) missing
  if action = ascii "update" then readLoadUpdate root commandId nodeMacAddress relayPin
  else if action = ascii "delete" then return .removeLoad ⟨commandId, nodeMacAddress, true, relayPin⟩
  else if action = ascii "add" then readLoadConfiguration root commandId nodeMacAddress relayPin
  else throw (rejected "load" commandId "action must be add, update or delete" (some nodeMacAddress))

/-- `handleBatteryCommandMessage` up to the handler. Its first rejection tells the id, if there is one. -/
def readBatteryCommand : Except CommandAcknowledgement Command := do
  let readId := readU32 (root.getObjectItemCaseSensitive "commandId")
  let missing := rejected "battery" (readId.getD 0) "use action=set with budget, reserve and minSoc" none
  let commandId ← require readId missing
  let action ← require (valueString (root.getObjectItemCaseSensitive "action")) missing
  if action ≠ ascii "set" then throw missing
  let P_budget ← require (readFloat (root.getObjectItemCaseSensitive "budget")) missing
  let P_reserve ← require (readFloat (root.getObjectItemCaseSensitive "reserve")) missing
  let minimumStateOfChargePercent ← require (readFloat (root.getObjectItemCaseSensitive "minSoc")) missing
  let runtime ← optional (root.getObjectItemCaseSensitive "runtime") readFloat
    (rejected "battery" commandId "invalid runtime" none)
  let requiredRuntimeHours := runtime.getD 0
  if P_budget ≤ 0 ∨ P_reserve < 0 ∨ P_budget < P_reserve ∨ minimumStateOfChargePercent < 0 ∨
      100 < minimumStateOfChargePercent ∨ requiredRuntimeHours < 0 then
    throw (rejected "battery" commandId "invalid battery settings" none)
  return .powerPlanning commandId
    ⟨.finite P_budget, .finite P_reserve, .finite minimumStateOfChargePercent, .finite requiredRuntimeHours⟩

def readStateOfCharge (item : Option CJson) : Option Rat :=
  (readFloat item).filter fun percent => ¬ (percent < 0 ∨ 100 < percent)

/-- The `values` branch. -/
def readSensorValues (commandId : UInt32) : Except CommandAcknowledgement Command := do
  let invalid := rejected "sensor" commandId "invalid sensor values" none
  let voltage := root.getObjectItemCaseSensitive "voltage"
  let current := root.getObjectItemCaseSensitive "current"
  if voltage.isSome ≠ current.isSome then throw invalid
  let batteryVoltageVolts ← optional voltage readFloat invalid
  let batteryCurrentAmps ← optional current readFloat invalid
  let stateOfChargePercent ← optional (root.getObjectItemCaseSensitive "soc") readStateOfCharge invalid
  let hasElectricalMeasurements := batteryVoltageVolts.isSome && batteryCurrentAmps.isSome
  if !hasElectricalMeasurements && !stateOfChargePercent.isSome then
    throw (rejected "sensor" commandId "provide voltage/current or soc" none)
  return .simulation commandId {
    action := .SET_VALUES
    hasElectricalMeasurements
    batteryVoltageVolts := .finite (batteryVoltageVolts.getD 0)
    batteryCurrentAmps := .finite (batteryCurrentAmps.getD 0)
    hasStateOfChargePercent := stateOfChargePercent.isSome
    stateOfChargePercent := .finite (stateOfChargePercent.getD 0) }

/-- `handleSensorCommandMessage` up to the handler. -/
def readSensorCommand : Except CommandAcknowledgement Command := do
  let missing := rejected "sensor" 0 "invalid commandId/action" none
  let commandId ← require (readU32 (root.getObjectItemCaseSensitive "commandId")) missing
  let action ← require (valueString (root.getObjectItemCaseSensitive "action")) missing
  if action = ascii "sim" then
    return .simulation commandId ⟨.ENABLE, false, .finite 0, .finite 0, false, .finite 0⟩
  else if action = ascii "ina219" then
    return .simulation commandId ⟨.DISABLE, false, .finite 0, .finite 0, false, .finite 0⟩
  else if action = ascii "values" then readSensorValues root commandId
  else throw (rejected "sensor" commandId "action must be ina219, sim or values" none)

/-- `SystemCommandRequest{}` with its first two fields set. -/
def systemCommandRequest (commandId : UInt32) (action : SystemCommandAction) : SystemCommandRequest :=
  ⟨commandId, action, CharBuffer.zero, Vector.replicate 6 0, false, false, 0⟩

/-- `handleSystemCommandMessage` up to the handler. -/
def readSystemCommand : Except CommandAcknowledgement Command := do
  let missing := rejected "system" 0 "invalid commandId/action" none
  let commandId ← require (readU32 (root.getObjectItemCaseSensitive "commandId")) missing
  let action ← require (valueString (root.getObjectItemCaseSensitive "action")) missing
  if action = ascii "optimize" then return .system (systemCommandRequest commandId .REQUEST_OPTIMIZATION_CYCLE)
  else if action = ascii "restart" then return .system (systemCommandRequest commandId .REBOOT_CENTRAL)
  else if action = ascii "interval" then
    let seconds ← require (readU32 (root.getObjectItemCaseSensitive "seconds"))
      (rejected "system" commandId "seconds required" none)
    return .system { systemCommandRequest commandId .SET_OPTIMIZER_INTERVAL with
      hasOptimizerIntervalSeconds := true
      optimizerIntervalSeconds := seconds }
  else throw (rejected "system" commandId "action must be optimize, restart or interval" none)

/-- The part of `onDataReceived` behind the parser. -/
def readCommand : Except CommandAcknowledgement Command :=
  let commandType := (valueString (root.getObjectItemCaseSensitive "type")).getD []
  if commandType = ascii "node" then readNodeCommand root
  else if commandType = ascii "load" then readLoadCommand root
  else if commandType = ascii "battery" then readBatteryCommand root
  else if commandType = ascii "sensor" then readSensorCommand root
  else if commandType = ascii "system" then readSystemCommand root
  else .error (rejected "command" 0 "type must be node, load, battery, sensor or system" none)

end Messages

end MqttManager

end kilowatts
