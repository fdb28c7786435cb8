import Kilowatts.Central.LoadCommand
import Kilowatts.Smart.HardwareConfiguration

namespace kilowatts

/-- The part of `ConfigCommandRequest` that belongs to REMOVE_LOAD. -/
structure RemoveLoadRequest where
  commandId : UInt32
  nodeMacAddress : MacAddress
  hasRelayPin : Bool
  relayPin : UInt8
deriving DecidableEq

/-- What the REMOVE_LOAD branch does with a request: it refuses it with a reason,
removes a Load of Central, or sends a packet on its way. -/
inductive RemoveLoadAction where
  | refuse (reason : String)
  | removeLocally (relayPin : UInt8)
  | send (nextHop : MacAddress) (packet : RemoveLoadCommandPacket)
deriving DecidableEq

/-- The REMOVE_LOAD branch of `handleConfigCommand`, up to the store or the radio. -/
def handleRemoveLoad (localMac : MacAddress) (registry : CentralNodeRegistry)
    (commissioningRegistry : NodeCommissioningRegistry) (stateTaken : Bool) (request : RemoveLoadRequest) :
    RemoveLoadAction :=
  if !request.hasRelayPin then .refuse "relayPin required"
  else if request.nodeMacAddress = localMac then
    if !stateTaken then .refuse "state is busy" else .removeLocally request.relayPin
  else if !stateTaken then .refuse "state is busy"
  else if !commissioningRegistry.isCommissionedSmartNode request.nodeMacAddress then
    .refuse "Smart Node is not commissioned"
  else
    match registry.findNextHopFromCentral localMac request.nodeMacAddress with
    | none => .refuse "no ESP-NOW route to Smart Node"
    | some nextHop => .send nextHop ⟨request.commandId, request.relayPin⟩

/-- The packet names the pin and the id of the request. -/
theorem handleRemoveLoad_packet {localMac : MacAddress} {registry : CentralNodeRegistry}
    {commissioningRegistry : NodeCommissioningRegistry} {stateTaken : Bool} {request : RemoveLoadRequest}
    {nextHop : MacAddress} {packet : RemoveLoadCommandPacket}
    (haction : handleRemoveLoad localMac registry commissioningRegistry stateTaken request = .send nextHop packet) :
    packet = ⟨request.commandId, request.relayPin⟩ := by
  unfold handleRemoveLoad at haction
  split at haction
  · cases haction
  split at haction
  · split at haction <;> cases haction
  split at haction
  · cases haction
  split at haction
  · cases haction
  split at haction
  · cases haction
  · exact (RemoveLoadAction.send.inj haction).2.symm

/-- What Central keeps of a command until it is answered. -/
structure PendingHardwareCommand where
  commandId : UInt32
  nodeMacAddress : MacAddress
  relayPin : UInt8
  remove : Bool
deriving DecidableEq

/-- What is told of a command on the topic of acknowledgements. -/
inductive AckStatus where
  | ACCEPTED
  | APPLIED
  | REJECTED
  | FAILED
deriving DecidableEq

/-- The arguments of `publishAcknowledgement`. The target stands for its text. -/
structure PublishedAcknowledgement where
  commandId : UInt32
  commandType : String
  status : AckStatus
  reason : String
  target : MacAddress
deriving DecidableEq

/-- What the remote load commands and their acknowledgements work on under
`stateMutex`. -/
structure HardwareCommandState where
  commandState : LoadCommandState
  pendingHardwareCommands : List PendingHardwareCommand

namespace HardwareCommandState

/-- The first pending command with this id. -/
def findPendingHardwareCommand (state : HardwareCommandState) (commandId : UInt32) : Option PendingHardwareCommand :=
  KeyedList.lookup PendingHardwareCommand.commandId state.pendingHardwareCommands commandId

/-- All pending commands with this id are dropped. -/
def removePendingHardwareCommand (commandId : UInt32) (state : HardwareCommandState) : HardwareCommandState :=
  { state with pendingHardwareCommands := state.pendingHardwareCommands.filter fun item => item.commandId != commandId }

/-- The removal of the load and of its entry. The answers of the flash are not looked at. -/
def removeLoad (answers : FlashAnswers) (macAddress : MacAddress) (relayPin : UInt8) (state : HardwareCommandState) :
    HardwareCommandState :=
  let store := state.commandState.centralLoadConfigurationStore
  { state with
    commandState := { state.commandState with
      registry := (state.commandState.registry.removeLoad macAddress relayPin).1
      centralLoadConfigurationStore :=
        ({ store with memory := (store.memory.removeConfiguration macAddress relayPin).1 }.persist answers).1 } }

/-- What is published for a command that an acknowledgement settles. -/
def finalAcknowledgement (originMac : MacAddress) (acknowledgement : ConfigureLoadAcknowledgementPacket)
    (remove : Bool) : PublishedAcknowledgement where
  commandId := acknowledgement.commandId
  commandType := if remove then "REMOVE_LOAD" else "CONFIGURE_LOAD"
  status := if acknowledgement.success != 0 then .APPLIED else .FAILED
  reason :=
    if acknowledgement.success != 0 then "applied"
    else HardwareConfigurationFailureReason.textOfByte acknowledgement.failureReason
  target := originMac

/-- `stateTaken` tells whether `stateMutex` was obtained in time. Nothing is published
for an acknowledgement that no pending command matches. -/
def handleHardwareConfigurationAcknowledgement (stateTaken : Bool) (answers : FlashAnswers) (originMac : MacAddress)
    (acknowledgement : ConfigureLoadAcknowledgementPacket) (state : HardwareCommandState) :
    HardwareCommandState × Option PublishedAcknowledgement :=
  if !stateTaken then (state, none)
  else
    match state.findPendingHardwareCommand acknowledgement.commandId with
    | none => (state, none)
    | some pending =>
      if pending.nodeMacAddress = originMac ∧ pending.relayPin = acknowledgement.relayPin then
        let removed :=
          if acknowledgement.success != 0 && pending.remove then
            state.removeLoad answers originMac acknowledgement.relayPin
          else state
        (removed.removePendingHardwareCommand acknowledgement.commandId,
          some (finalAcknowledgement originMac acknowledgement pending.remove))
      else (state, none)

end HardwareCommandState

/-- A command that Central accepted, on its way to a Node. -/
structure RemoteCommand where
  nodeMacAddress : MacAddress
  message : HardwareConfigurationMessage
deriving DecidableEq

namespace RemoteCommand

def commandId (command : RemoteCommand) : UInt32 := command.message.commandId

def loadId (command : RemoteCommand) : Load.Id := ⟨command.nodeMacAddress, command.message.relayPin⟩

/-- The pending entry of the command, if it has one. -/
def entry (command : RemoteCommand) : PendingHardwareCommand :=
  ⟨command.commandId, command.nodeMacAddress, command.message.relayPin, command.message.isRemoval⟩

end RemoteCommand

/-- An acknowledgement on its way to Central, with what it acknowledges: whether a
removal, and how often a load had been configured on the pin before. -/
structure SentAcknowledgement where
  originMac : MacAddress
  packet : ConfigureLoadAcknowledgementPacket
  removal : Bool
  configurations : Nat
deriving DecidableEq

namespace SentAcknowledgement

def loadId (acknowledgement : SentAcknowledgement) : Load.Id :=
  ⟨acknowledgement.originMac, acknowledgement.packet.relayPin⟩

/-- The acknowledgement has the id, the Node and the pin of the pending command. -/
def Matches (acknowledgement : SentAcknowledgement) (pending : PendingHardwareCommand) : Prop :=
  pending.commandId = acknowledgement.packet.commandId ∧ pending.nodeMacAddress = acknowledgement.originMac ∧
    pending.relayPin = acknowledgement.packet.relayPin

instance (acknowledgement : SentAcknowledgement) (pending : PendingHardwareCommand) :
    Decidable (acknowledgement.Matches pending) :=
  inferInstanceAs (Decidable (_ ∧ _ ∧ _))

end SentAcknowledgement

/-- Central, the Smart Nodes and what is on its way between them. A message stays on
its way for good: it may arrive late, more than once, or never. `dispatching` are the
removals that were sent, but whose pending entry is not made yet. -/
structure RemoteCommands where
  central : HardwareCommandState
  dispatching : List PendingHardwareCommand
  sent : List RemoteCommand
  nodes : MacAddress → NodeHardware
  acknowledgements : List SentAcknowledgement
  received : List SentAcknowledgement
  published : List PublishedAcknowledgement
  configurations : Load.Id → Nat

/-- What happens to remote load commands. On the console of a Node, a load is
configured or updated. The rest changes no pending command and configures no load. -/
inductive RemoteEvent where
  | configureLoad (request : ConfigCommandRequest)
  | removeLoad (request : RemoveLoadRequest)
  | pushPending (pending : PendingHardwareCommand) (stateTaken : Bool)
  | execute (command : RemoteCommand) (answers : CommandAnswers)
  | configureOnConsole (id : Load.Id) (hardware : NodeHardware)
  | acknowledge (acknowledgement : SentAcknowledgement) (stateTaken : Bool) (flash : FlashAnswers)
  | restart (commandState : LoadCommandState)
  | other (commandState : LoadCommandState) (nodes : MacAddress → NodeHardware)

namespace RemoteCommands

/-- A command is sent. Only a removal gets a pending entry, once it was sent. -/
def send (command : RemoteCommand) (system : RemoteCommands) : RemoteCommands :=
  { system with
    sent := system.sent ++ [command]
    dispatching :=
      if command.message.isRemoval then system.dispatching ++ [command.entry] else system.dispatching }

/-- The entry of a sent removal becomes pending, unless `stateMutex` is not obtained in
time. -/
def pushPending (pending : PendingHardwareCommand) (stateTaken : Bool) (system : RemoteCommands) : RemoteCommands :=
  { system with
    dispatching := system.dispatching.erase pending
    central := { system.central with
      pendingHardwareCommands :=
        if stateTaken then system.central.pendingHardwareCommands ++ [pending]
        else system.central.pendingHardwareCommands } }

/-- What a Node makes of a command, and its acknowledgement. -/
def outcome (command : RemoteCommand) (answers : CommandAnswers) (system : RemoteCommands) :
    NodeHardware × ConfigureLoadAcknowledgementPacket :=
  (system.nodes command.nodeMacAddress).handleHardwareConfigurationMessage answers command.message

/-- The pin of a Node on which an event configures a load. -/
def configures (system : RemoteCommands) : RemoteEvent → Option Load.Id
  | .execute command answers =>
    if (system.outcome command answers).2.success != 0 && !command.message.isRemoval then some command.loadId else none
  | .configureOnConsole id _ => some id
  | _ => none

/-- A Node executes a command and sends its acknowledgement. -/
def execute (command : RemoteCommand) (answers : CommandAnswers) (system : RemoteCommands) : RemoteCommands :=
  { system with
    nodes := Function.update system.nodes command.nodeMacAddress (system.outcome command answers).1
    acknowledgements := system.acknowledgements ++
      [⟨command.nodeMacAddress, (system.outcome command answers).2, command.message.isRemoval,
        system.configurations command.loadId⟩]
    configurations :=
      match system.configures (.execute command answers) with
      | some id => Function.update system.configurations id (system.configurations id + 1)
      | none => system.configurations }

/-- An acknowledgement reaches Central. -/
def acknowledge (acknowledgement : SentAcknowledgement) (stateTaken : Bool) (flash : FlashAnswers)
    (system : RemoteCommands) : RemoteCommands :=
  let (central, published) := system.central.handleHardwareConfigurationAcknowledgement stateTaken flash
    acknowledgement.originMac acknowledgement.packet
  { system with
    central
    received := system.received ++ [acknowledgement]
    published := system.published ++ published.toList }

end RemoteCommands

/-- The steps of Central and the Nodes. A command whose send fails is not accepted, and
nothing of it is on its way. The override store has no two entries of one load. -/
inductive RemoteStep (localMac : MacAddress) : RemoteCommands → RemoteEvent → RemoteCommands → Prop where
  | configureLoad {before : RemoteCommands} {request : ConfigCommandRequest} {nextHop : MacAddress}
      {packet : ConfigureLoadCommandPacket}
      (haction : handleConfigureLoad localMac before.central.commandState.registry
        before.central.commandState.commissioningRegistry true request = .send nextHop packet) :
      RemoteStep localMac before (.configureLoad request)
        (before.send ⟨request.nodeMacAddress, .configureLoad packet⟩)
  | removeLoad {before : RemoteCommands} {request : RemoveLoadRequest} {nextHop : MacAddress}
      {packet : RemoveLoadCommandPacket}
      (haction : handleRemoveLoad localMac before.central.commandState.registry
        before.central.commandState.commissioningRegistry true request = .send nextHop packet) :
      RemoteStep localMac before (.removeLoad request)
        (before.send ⟨request.nodeMacAddress, .removeLoad packet⟩)
  | pushPending {before : RemoteCommands} {pending : PendingHardwareCommand} {stateTaken : Bool}
      (hdispatching : pending ∈ before.dispatching) :
      RemoteStep localMac before (.pushPending pending stateTaken) (before.pushPending pending stateTaken)
  | execute {before : RemoteCommands} {command : RemoteCommand} {answers : CommandAnswers}
      (hsent : command ∈ before.sent) :
      RemoteStep localMac before (.execute command answers) (before.execute command answers)
  | configureOnConsole {before : RemoteCommands} {id : Load.Id} {hardware : NodeHardware} :
      RemoteStep localMac before (.configureOnConsole id hardware)
        { before with
          nodes := Function.update before.nodes id.macAddress hardware
          configurations := Function.update before.configurations id (before.configurations id + 1) }
  | acknowledge {before : RemoteCommands} {acknowledgement : SentAcknowledgement} {stateTaken : Bool}
      {flash : FlashAnswers} (hsent : acknowledgement ∈ before.acknowledgements) :
      RemoteStep localMac before (.acknowledge acknowledgement stateTaken flash)
        (before.acknowledge acknowledgement stateTaken flash)
  | restart {before : RemoteCommands} {commandState : LoadCommandState}
      (hdistinct : commandState.centralLoadConfigurationStore.memory.Distinct) :
      RemoteStep localMac before (.restart commandState)
        { before with central := ⟨commandState, []⟩, dispatching := [] }
  | other {before : RemoteCommands} {commandState : LoadCommandState} {nodes : MacAddress → NodeHardware}
      (hdistinct : commandState.centralLoadConfigurationStore.memory.Distinct) :
      RemoteStep localMac before (.other commandState nodes)
        { before with central := { before.central with commandState }, nodes }

section Acknowledgements

variable {state : HardwareCommandState} {stateTaken : Bool} {acknowledgement : SentAcknowledgement}
  {pending : PendingHardwareCommand}

/-- The acknowledgement settles a pending command: the first one with its id, which is
for its Node and its pin. -/
structure Settles (state : HardwareCommandState) (stateTaken : Bool) (acknowledgement : SentAcknowledgement)
    (pending : PendingHardwareCommand) : Prop where
  stateTaken : stateTaken = true
  found : state.findPendingHardwareCommand acknowledgement.packet.commandId = some pending
  matching : acknowledgement.Matches pending

/-- A removal that succeeded drops the settings of the load as well. -/
theorem Settles.handleHardwareConfigurationAcknowledgement (hsettles : Settles state stateTaken acknowledgement pending)
    (flash : FlashAnswers) :
    state.handleHardwareConfigurationAcknowledgement stateTaken flash acknowledgement.originMac acknowledgement.packet =
      ((if acknowledgement.packet.success != 0 && pending.remove then
          state.removeLoad flash acknowledgement.originMac acknowledgement.packet.relayPin
        else state).removePendingHardwareCommand acknowledgement.packet.commandId,
        some (HardwareCommandState.finalAcknowledgement acknowledgement.originMac acknowledgement.packet
          pending.remove)) := by
  obtain ⟨-, hmac, hpin⟩ := hsettles.matching
  simp only [HardwareCommandState.handleHardwareConfigurationAcknowledgement, hsettles.stateTaken, hsettles.found, hmac,
    hpin, Bool.not_true, Bool.false_eq_true, if_false, and_self, if_true]

/-- An acknowledgement that settles nothing changes nothing. -/
theorem handleHardwareConfigurationAcknowledgement_of_not_settles
    (hunknown : ∀ pending, ¬ Settles state stateTaken acknowledgement pending) (flash : FlashAnswers) :
    state.handleHardwareConfigurationAcknowledgement stateTaken flash acknowledgement.originMac acknowledgement.packet =
      (state, none) := by
  unfold HardwareCommandState.handleHardwareConfigurationAcknowledgement
  split
  · rfl
  rename_i htaken
  split
  · rfl
  rename_i pending hfind
  refine if_neg fun hmatching => hunknown pending ⟨by simpa using htaken, hfind, ?_, hmatching⟩
  exact KeyedList.key_of_lookup hfind

theorem Settles.mem (hsettles : Settles state stateTaken acknowledgement pending) :
    pending ∈ state.pendingHardwareCommands :=
  KeyedList.mem_of_lookup hsettles.found

end Acknowledgements

/-- Nothing was commanded yet. -/
structure Idle (system : RemoteCommands) : Prop where
  pending : system.central.pendingHardwareCommands = []
  dispatching : system.dispatching = []
  sent : system.sent = []
  acknowledgements : system.acknowledgements = []
  received : system.received = []
  published : system.published = []
  distinct : system.central.commandState.centralLoadConfigurationStore.memory.Distinct

end kilowatts
