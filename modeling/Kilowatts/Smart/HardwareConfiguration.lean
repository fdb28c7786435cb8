import Kilowatts.Central.ConfigureLoad
import Kilowatts.NodeManager.NodeLoadHardwareStore

namespace kilowatts

open HardwareConfigurationFailureReason

/-- What a Smart Node finds when a command of Central arrives: whether it is
commissioned, whether `nodeMutex` is obtained in time, and the answers of its hardware. -/
structure CommandAnswers where
  commissioned : Bool
  nodeTaken : Bool
  configuring : ConfigureAnswers
  removing : RemoveAnswers

def CommandAnswers.succeeding : CommandAnswers := ⟨true, true, .succeeding, .succeeding⟩

namespace NodeHardware

def applyConfigureLoadCommand (answers : CommandAnswers) (command : ConfigureLoadCommandPacket)
    (hardware : NodeHardware) : NodeHardware × HardwareConfigurationFailureReason :=
  if !answers.commissioned then (hardware, NODE_NOT_COMMISSIONED)
  else if !answers.nodeTaken then (hardware, HARDWARE_INITIALIZATION_FAILED)
  else hardware.configureNewLoad answers.configuring command.loadConfiguration

def applyRemoveLoadCommand (answers : CommandAnswers) (command : RemoveLoadCommandPacket) (hardware : NodeHardware) :
    NodeHardware × HardwareConfigurationFailureReason :=
  if !answers.commissioned then (hardware, NODE_NOT_COMMISSIONED)
  else if !answers.nodeTaken then (hardware, HARDWARE_INITIALIZATION_FAILED)
  else hardware.removeLoad answers.removing command.relayPin

def applyMessage (answers : CommandAnswers) (message : HardwareConfigurationMessage) (hardware : NodeHardware) :
    NodeHardware × HardwareConfigurationFailureReason :=
  match message with
  | .configureLoad command => hardware.applyConfigureLoadCommand answers command
  | .removeLoad command => hardware.applyRemoveLoadCommand answers command

/-- The Node afterwards, and the acknowledgement that it sends to Central. -/
def handleHardwareConfigurationMessage (answers : CommandAnswers) (message : HardwareConfigurationMessage)
    (hardware : NodeHardware) : NodeHardware × ConfigureLoadAcknowledgementPacket :=
  let (hardware, reason) := hardware.applyMessage answers message
  (hardware, ⟨message.commandId, message.relayPin, if reason = NONE then 1 else 0, reason.toByte⟩)

end NodeHardware

end kilowatts
