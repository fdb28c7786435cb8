import Kilowatts.Library.CharBuffer
import Kilowatts.LoadManager.Load

namespace kilowatts

inductive HardwareConfigurationFailureReason where
  | NONE
  | NODE_NOT_COMMISSIONED
  | UNSUPPORTED_RELAY_PIN
  | DUPLICATE_RELAY_PIN
  | INVALID_POWER_RATING
  | INVALID_CONFIGURATION
  | HARDWARE_INITIALIZATION_FAILED
  | PERSISTENCE_FAILED
  | CAPACITY_REACHED
deriving DecidableEq

namespace HardwareConfigurationFailureReason

/-- `static_cast<HardwareConfigurationFailureReason>(byte)`, where that value is declared. -/
def ofByte? (byte : UInt8) : Option HardwareConfigurationFailureReason :=
  [NONE, NODE_NOT_COMMISSIONED, UNSUPPORTED_RELAY_PIN, DUPLICATE_RELAY_PIN, INVALID_POWER_RATING,
    INVALID_CONFIGURATION, HARDWARE_INITIALIZATION_FAILED, PERSISTENCE_FAILED, CAPACITY_REACHED][byte.toNat]?

/-- `hardwareConfigurationFailureText`, which Central and Smart Nodes both have. -/
def text : HardwareConfigurationFailureReason → String
  | NONE => "applied"
  | NODE_NOT_COMMISSIONED => "Node is not commissioned"
  | UNSUPPORTED_RELAY_PIN => "relay pin is not supported"
  | DUPLICATE_RELAY_PIN => "relay pin is already configured"
  | INVALID_POWER_RATING => "invalid Load power rating"
  | INVALID_CONFIGURATION => "invalid Load configuration"
  | HARDWARE_INITIALIZATION_FAILED => "relay hardware initialization failed"
  | PERSISTENCE_FAILED => "Node could not persist configuration"
  | CAPACITY_REACHED => "Node configuration capacity reached"

/-- `static_cast<std::uint8_t>(reason)`. -/
def toByte : HardwareConfigurationFailureReason → UInt8
  | NONE => 0
  | NODE_NOT_COMMISSIONED => 1
  | UNSUPPORTED_RELAY_PIN => 2
  | DUPLICATE_RELAY_PIN => 3
  | INVALID_POWER_RATING => 4
  | INVALID_CONFIGURATION => 5
  | HARDWARE_INITIALIZATION_FAILED => 6
  | PERSISTENCE_FAILED => 7
  | CAPACITY_REACHED => 8

/-- `hardwareConfigurationFailureText` of a reason that arrived as a byte. -/
def textOfByte (byte : UInt8) : String :=
  match ofByte? byte with
  | some reason => reason.text
  | none => "unknown hardware configuration failure"

/-- The text of a failure survives its packet. -/
theorem textOfByte_toByte (reason : HardwareConfigurationFailureReason) : textOfByte reason.toByte = reason.text := by
  cases reason <;> rfl

end HardwareConfigurationFailureReason

/-- Configures or replaces one Load on the destination Node. The start of the
window has a second name each, `scheduleHour` and `scheduleMinute`, in one
anonymous union with its field. -/
structure ConfigureLoadCommandPacket where
  commandId : UInt32
  loadName : CharBuffer 16
  relayPin : UInt8
  relayActiveHigh : UInt8
  mode : UInt8
  powerType : UInt8
  priority : UInt16
  powerRatingWatts : CFloat
  scheduleEnabled : UInt8
  scheduleStartHour : UInt8
  scheduleStartMinute : UInt8
  scheduleEndHour : UInt8
  scheduleEndMinute : UInt8
deriving DecidableEq

namespace ConfigureLoadCommandPacket

/-- `ConfigureLoadCommandPacket packet{}`. -/
def zero : ConfigureLoadCommandPacket where
  commandId := 0
  loadName := .zero
  relayPin := 0
  relayActiveHigh := 0
  mode := 0
  powerType := 0
  priority := 0
  powerRatingWatts := .finite 0
  scheduleEnabled := 0
  scheduleStartHour := 0
  scheduleStartMinute := 0
  scheduleEndHour := 0
  scheduleEndMinute := 0

end ConfigureLoadCommandPacket

structure RemoveLoadCommandPacket where
  commandId : UInt32
  relayPin : UInt8
deriving DecidableEq

/-- Also a `RemoveLoadAcknowledgementPacket`, which has the same fields and is sent
under the same message type. -/
structure ConfigureLoadAcknowledgementPacket where
  commandId : UInt32
  relayPin : UInt8
  success : UInt8
  failureReason : UInt8
deriving DecidableEq

/-- What a CONFIGURE_LOAD_COMMAND message carries. A Node tells the two apart by their
length. -/
inductive HardwareConfigurationMessage where
  | configureLoad (command : ConfigureLoadCommandPacket)
  | removeLoad (command : RemoveLoadCommandPacket)
deriving DecidableEq

namespace HardwareConfigurationMessage

def commandId : HardwareConfigurationMessage → UInt32
  | .configureLoad command => command.commandId
  | .removeLoad command => command.commandId

def relayPin : HardwareConfigurationMessage → UInt8
  | .configureLoad command => command.relayPin
  | .removeLoad command => command.relayPin

def isRemoval : HardwareConfigurationMessage → Bool
  | .configureLoad _ => false
  | .removeLoad _ => true

end HardwareConfigurationMessage

/-- `NodeLoadHardwareStore::LoadConfiguration`, the hardware configuration of one
Load of a Node. -/
structure LoadConfiguration where
  name : CharBuffer 16
  relayPin : UInt8
  relayActiveHigh : Bool
  powerRatingWatts : CFloat
  powerType : LoadPowerType
  mode : LoadMode
  priority : UInt16
  schedule : AutoSchedule
deriving DecidableEq

namespace LoadConfiguration

/-- `LoadConfiguration configuration{}`. -/
def zero : LoadConfiguration where
  name := .zero
  relayPin := 0
  relayActiveHigh := false
  powerRatingWatts := .finite 0
  powerType := .AC
  mode := .FIXED_OFF
  priority := 0
  schedule := .none

end LoadConfiguration

end kilowatts
