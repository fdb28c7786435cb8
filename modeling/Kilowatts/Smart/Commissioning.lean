import Kilowatts.NodeManager.CommissioningRegistry
import Kilowatts.NodeManager.NodeIdentityStore

namespace kilowatts

/-- What a Node tells Central of itself. The readings stand as Central stores them. -/
structure IdentityReportPacket where
  role : UInt8
  lifecycleState : UInt8
  firmwareVersion : List UInt8
  chipModel : List UInt8
  relayCapabilityCount : UInt8
  relayPins : Vector UInt8 MAX_RELAY_GPIO_CAPABILITIES
  diagnostics : Diagnostics
deriving DecidableEq

structure CommissionCommandPacket where
  commandId : UInt32
  friendlyName : List UInt8
deriving DecidableEq

structure CommissionAckPacket where
  commandId : UInt32
  success : UInt8
  resultingState : UInt8
deriving DecidableEq

structure DecommissionCommandPacket where
  commandId : UInt32
deriving DecidableEq

structure DecommissionAckPacket where
  commandId : UInt32
  success : UInt8
deriving DecidableEq

def FACTORY_RESET_CONFIRM_TOKEN : UInt8 := 0x5A

structure FactoryResetCommandPacket where
  commandId : UInt32
  confirmToken : UInt8
deriving DecidableEq

namespace Commissioning

/-- The commands that concern the identity of a Node. -/
inductive NodeCommand where
  | commission (packet : CommissionCommandPacket)
  | decommission (packet : DecommissionCommandPacket)
  | factoryReset (packet : FactoryResetCommandPacket)
deriving DecidableEq

inductive NodeAcknowledgement where
  | commission (packet : CommissionAckPacket)
  | decommission (packet : DecommissionAckPacket)
deriving DecidableEq

def NodeCommand.commandId : NodeCommand → UInt32
  | .commission packet => packet.commandId
  | .decommission packet => packet.commandId
  | .factoryReset packet => packet.commandId

def NodeAcknowledgement.commandId : NodeAcknowledgement → UInt32
  | .commission packet => packet.commandId
  | .decommission packet => packet.commandId

/-- What a Node meets while it handles a command. `found` is the identity that the boot
after a factory reset finds in the flash. -/
structure NodeAnswers where
  loadsCleared : Bool
  identityTaken : Bool
  persisted : Bool
  ackSent : Bool
  found : Option NodeIdentityStore
deriving DecidableEq

/-- What a Node reads of its chip. -/
structure ChipReadings where
  firmwareVersion : List UInt8
  chipModel : List UInt8
  diagnostics : Diagnostics
deriving DecidableEq

/-- `sendIdentityReport`. -/
def identityReport (chip : ChipReadings) (identityStore : NodeIdentityStore) : IdentityReportPacket where
  role := 1
  lifecycleState := identityStore.lifecycleState.toByte
  firmwareVersion := copyTruncated FIRMWARE_VERSION_BUFFER_SIZE chip.firmwareVersion
  chipModel := copyTruncated CHIP_MODEL_BUFFER_SIZE chip.chipModel
  relayCapabilityCount := 0
  relayPins := Vector.replicate MAX_RELAY_GPIO_CAPABILITIES 0
  diagnostics := chip.diagnostics

/-- Without the mutex, the acknowledgement reports UNCOMMISSIONED whatever the Node is. -/
def handleCommissionCommand (answers : NodeAnswers) (command : CommissionCommandPacket)
    (identityStore : NodeIdentityStore) : NodeIdentityStore × CommissionAckPacket :=
  if !answers.identityTaken then
    (identityStore, ⟨command.commandId, 0, NodeLifecycleState.UNCOMMISSIONED.toByte⟩)
  else
    let (applied, accepted) := identityStore.applyCommission command.friendlyName
    if accepted && !answers.persisted then
      (identityStore, ⟨command.commandId, 0, identityStore.lifecycleState.toByte⟩)
    else (applied, ⟨command.commandId, if accepted then 1 else 0, applied.lifecycleState.toByte⟩)

/-- The identity is cleared only after the loads were. -/
def handleDecommissionCommand (answers : NodeAnswers) (command : DecommissionCommandPacket)
    (identityStore : NodeIdentityStore) : NodeIdentityStore × DecommissionAckPacket :=
  if answers.loadsCleared && answers.identityTaken && answers.persisted then
    (.applyDecommission, ⟨command.commandId, 1⟩)
  else (identityStore, ⟨command.commandId, 0⟩)

/-- The identity with which `runApp` starts. -/
def runApp (found : Option NodeIdentityStore) : NodeIdentityStore :=
  match found with
  | none => .make
  | some persisted => .loadPersisted persisted

/-- `performSmartFactoryReset` erases the flash, does not ask whether that worked and boots again. -/
def handleFactoryResetCommand (answers : NodeAnswers) (command : FactoryResetCommandPacket)
    (identityStore : NodeIdentityStore) : NodeIdentityStore :=
  if command.confirmToken = FACTORY_RESET_CONFIRM_TOKEN then runApp answers.found else identityStore

/-- A command, with what is sent back. -/
def handleCommand (answers : NodeAnswers) (command : NodeCommand) (identityStore : NodeIdentityStore) :
    NodeIdentityStore × List NodeAcknowledgement :=
  match command with
  | .commission packet =>
    let (identityStore, ack) := handleCommissionCommand answers packet identityStore
    (identityStore, if answers.ackSent then [.commission ack] else [])
  | .decommission packet =>
    let (identityStore, ack) := handleDecommissionCommand answers packet identityStore
    (identityStore, if answers.ackSent then [.decommission ack] else [])
  | .factoryReset packet => (handleFactoryResetCommand answers packet identityStore, [])

section Node

variable (answers : NodeAnswers) (identityStore : NodeIdentityStore)

theorem handleCommissionCommand_commandId (command : CommissionCommandPacket) :
    (handleCommissionCommand answers command identityStore).2.commandId = command.commandId := by
  simp only [handleCommissionCommand]
  split
  · rfl
  · split <;> rfl

theorem applyCommission_isCommissioned (friendlyName : List UInt8) :
    (identityStore.applyCommission friendlyName).1.isCommissioned = true ∨
      (identityStore.applyCommission friendlyName).1 = identityStore := by
  unfold NodeIdentityStore.applyCommission
  split
  · exact .inr rfl
  split
  · exact .inl rfl
  split
  · rename_i hcommissioned
    exact .inl hcommissioned
  · exact .inr rfl

/-- A commission command never takes a Node out of commission. -/
theorem handleCommissionCommand_isCommissioned (command : CommissionCommandPacket) :
    (handleCommissionCommand answers command identityStore).1.isCommissioned = true ∨
      (handleCommissionCommand answers command identityStore).1.isCommissioned = identityStore.isCommissioned := by
  simp only [handleCommissionCommand]
  split
  · exact .inr rfl
  split
  · exact .inr rfl
  · exact (applyCommission_isCommissioned identityStore command.friendlyName).imp_right
      (congrArg NodeIdentityStore.isCommissioned)

/-- The acknowledgement is honest, unless the mutex of a commissioned Node was not taken. -/
theorem handleCommissionCommand_honest {answers : NodeAnswers} {identityStore : NodeIdentityStore}
    (htaken : answers.identityTaken = true ∨ identityStore.isCommissioned = false) (command : CommissionCommandPacket) :
    isCommissionedLifecycle
        (.ofByte (handleCommissionCommand answers command identityStore).2.resultingState) =
      (handleCommissionCommand answers command identityStore).1.isCommissioned := by
  simp only [handleCommissionCommand]
  split
  · rename_i hbusy
    rw [htaken.resolve_left (by simpa using hbusy), NodeLifecycleState.ofByte_toByte]
    rfl
  split
  · rw [NodeLifecycleState.ofByte_toByte]
    rfl
  · rw [NodeLifecycleState.ofByte_toByte]
    rfl

theorem handleDecommissionCommand_isCommissioned {answers : NodeAnswers} {identityStore : NodeIdentityStore}
    (hcleared : (answers.loadsCleared && answers.identityTaken && answers.persisted) = true ∨
      identityStore.isCommissioned = false) (command : DecommissionCommandPacket) :
    (handleDecommissionCommand answers command identityStore).1.isCommissioned = false := by
  unfold handleDecommissionCommand
  split
  · rfl
  · rename_i hkept
    exact hcleared.resolve_left hkept

end Node

end Commissioning

end kilowatts
