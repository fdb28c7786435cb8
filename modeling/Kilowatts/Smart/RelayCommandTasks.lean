import Kilowatts.Central.RelayDispatch
import Kilowatts.EspNowCommunication.PacketReceiver
import Kilowatts.Library.OrderedLine
import Kilowatts.RelayManager.RelayController

namespace kilowatts

open PackedLayout
open PacketReceiver (ReceivedMessage Receiver)
open RelayDispatch (RELAY_COMMAND_STATE_ON)
open WireFormat (RawReceivedPacket MAX_MESSAGE_SIZE)

/-- The fields of a relay command. -/
structure RelayCommandPacket where
  relayPin : UInt8
  desiredState : UInt8
  commandId : UInt32
deriving DecidableEq

namespace RelayCommandPacket

/-- The padding in front of the id. -/
abbrev Padding := Vector UInt8 2

/-- The fields of a command, in the order of the struct, with the padding. -/
def fields : RelayCommandPacket × Padding ≃ UInt8 × UInt8 × Padding × UInt32 where
  toFun packet := (packet.1.relayPin, packet.1.desiredState, packet.2, packet.1.commandId)
  invFun := fun (relayPin, desiredState, padding, commandId) => (⟨relayPin, desiredState, commandId⟩, padding)
  left_inv _ := rfl
  right_inv _ := rfl

/-- The layout of the struct. -/
def layout : PackedLayout (RelayCommandPacket × Padding) :=
  .named fields (uint8.pair (uint8.pair ((array 2).pair uint32)))

/-- The struct has 8 bytes, two of them padding. -/
theorem layout_size : layout.size = 8 := rfl

/-- Any other byte switches the relay off. -/
def desiredOn (packet : RelayCommandPacket) : Bool := packet.desiredState = RELAY_COMMAND_STATE_ON

end RelayCommandPacket

/-- Why a command was not carried out. -/
inductive RelayCommandFailureReason where
  | NONE
  | RELAY_PIN_NOT_REGISTERED
  | GPIO_WRITE_FAILED
  | SAFETY_RECHECK_FAILED
deriving DecidableEq

/-- The enumerator's value. -/
def RelayCommandFailureReason.toByte : RelayCommandFailureReason → UInt8
  | .NONE => 0
  | .RELAY_PIN_NOT_REGISTERED => 1
  | .GPIO_WRITE_FAILED => 2
  | .SAFETY_RECHECK_FAILED => 3

deriving instance DecidableEq for RelayCommandAcknowledgementPacket

/-- The whole packet. Central does not read the reason. -/
structure RelayAcknowledgement extends RelayCommandAcknowledgementPacket where
  failureReason : UInt8
deriving DecidableEq

/-- The command that is acknowledged. -/
def RelayAcknowledgement.command (acknowledgement : RelayAcknowledgement) : RelayCommandPacket :=
  ⟨acknowledgement.relayPin, acknowledgement.requestedState, acknowledgement.commandId⟩

/-- Where `relayControlTask` is with the command that it holds. -/
inductive RelayControl where
  | waiting
  | received (command : RelayCommandPacket)
  | checked (command : RelayCommandPacket) (registered : Bool)
  | switched (command : RelayCommandPacket) (registered success : Bool)
deriving DecidableEq

/-- The command that the control task has taken. -/
def RelayControl.command : RelayControl → Option RelayCommandPacket
  | .waiting => none
  | .received command | .checked command _ | .switched command _ _ => some command

/-- What the other tasks of a Node do to its relays. -/
inductive RelayCall where
  | addRelay (configuration : RelayConfiguration) (answers : GpioAnswers)
  | removeRelay (relayPin : UInt8)
  | setRelayState (relayPin : UInt8) (on written : Bool)
deriving DecidableEq

/-- A call that another task makes to the relay controller. -/
def RelayController.call (controller : RelayController) : RelayCall → RelayController
  | .addRelay configuration answers => (controller.addRelay configuration answers).1
  | .removeRelay relayPin => (controller.removeRelay relayPin).1
  | .setRelayState relayPin on written => (controller.setRelayState relayPin on written).1

/-- The tasks of a Smart Node that a relay command passes through, each with what it holds, and
the queues between them. `acknowledgements` are those that were given to `sendToCentral`. -/
structure RelayTasks where
  localMac : MacAddress
  rawReceivedPackets : List RawReceivedPacket
  servicing : Option RawReceivedPacket
  receiver : Receiver
  handling : Option ReceivedMessage
  relayCommandQueue : List RelayCommandPacket
  control : RelayControl
  relays : RelayController
  acknowledgements : List RelayAcknowledgement

/-- One step of a task. Switching takes the answer of `gpio_set_level`. -/
inductive RelayTaskEvent where
  | receiveCallback (packet : RawReceivedPacket)
  | serviceReceives
  | serviceProcesses
  | communicationReceives
  | communicationHandles
  | relayCommandQueueTimesOut
  | controlReceives
  | controlChecks
  | controlSwitches (written : Bool)
  | controlAcknowledges
  | otherTask (call : RelayCall)
  | restart
deriving DecidableEq

namespace RelayTasks

/-- The packets that the radio callback can leave for the service task. -/
def RAW_QUEUE_LENGTH : Nat := 12

/-- The commands that can wait for the control task. -/
def RELAY_COMMAND_QUEUE_LENGTH : Nat := 8

/-- The relay command that `espNowCommunicationTask` takes out of a message. -/
def relayCommand (localMac : MacAddress) (received : ReceivedMessage) : Option RelayCommandPacket :=
  let header := received.message.header
  if header.destinationMacAddress = localMac ∧ header.messageType = MessageType.RELAY_COMMAND.toByte ∧
      header.payloadLength.toNat = RelayCommandPacket.layout.size then
    some (RelayCommandPacket.layout.decode received.message.payload.toList).1
  else none

/-- The acknowledgement of a command, with the reason when it failed. -/
def acknowledgement (command : RelayCommandPacket) (registered success : Bool) : RelayAcknowledgement where
  relayPin := command.relayPin
  commandId := command.commandId
  requestedState := command.desiredState
  success := if success then 1 else 0
  failureReason :=
    (if success then RelayCommandFailureReason.NONE
      else if !registered then .RELAY_PIN_NOT_REGISTERED
      else .GPIO_WRITE_FAILED).toByte

/-- A Node that has just booted. What was written to its pins and what it acknowledged before is
remembered here, not there. -/
def boot (localMac : MacAddress) (writes : List GpioWrite) (acknowledgements : List RelayAcknowledgement) :
    RelayTasks where
  localMac
  rawReceivedPackets := []
  servicing := none
  receiver := ⟨.boot localMac, [], []⟩
  handling := none
  relayCommandQueue := []
  control := .waiting
  relays := { RelayController.empty with writes }
  acknowledgements

variable (tasks : RelayTasks)

/-- `none` when the task cannot take the step. A queue that is full makes only
`espNowCommunicationTask` wait, and it gives up after a while. -/
def next : RelayTaskEvent → Option RelayTasks
  | .receiveCallback packet =>
    if packet.data.length = 0 ∨ MAX_MESSAGE_SIZE < packet.data.length then some tasks
    else if tasks.rawReceivedPackets.length < RAW_QUEUE_LENGTH then
      some { tasks with rawReceivedPackets := tasks.rawReceivedPackets ++ [packet] }
    else some tasks
  | .serviceReceives =>
    match tasks.servicing, tasks.rawReceivedPackets with
    | none, packet :: rawReceivedPackets => some { tasks with servicing := some packet, rawReceivedPackets }
    | _, _ => none
  | .serviceProcesses =>
    tasks.servicing.map fun packet =>
      { tasks with servicing := none, receiver := (tasks.receiver.processRawReceivedPacket packet).1 }
  | .communicationReceives =>
    match tasks.handling, tasks.receiver.applicationMessages with
    | none, received :: applicationMessages =>
      some { tasks with handling := some received, receiver := { tasks.receiver with applicationMessages } }
    | _, _ => none
  | .communicationHandles =>
    match tasks.handling with
    | none => none
    | some received =>
      match relayCommand tasks.localMac received with
      | none => some { tasks with handling := none }
      | some command =>
        if tasks.relayCommandQueue.length < RELAY_COMMAND_QUEUE_LENGTH then
          some { tasks with handling := none, relayCommandQueue := tasks.relayCommandQueue ++ [command] }
        else none
  | .relayCommandQueueTimesOut =>
    if (tasks.handling.bind (relayCommand tasks.localMac)).isSome ∧
        tasks.relayCommandQueue.length = RELAY_COMMAND_QUEUE_LENGTH then some { tasks with handling := none }
    else none
  | .controlReceives =>
    match tasks.control, tasks.relayCommandQueue with
    | .waiting, command :: relayCommandQueue => some { tasks with control := .received command, relayCommandQueue }
    | _, _ => none
  | .controlChecks =>
    match tasks.control with
    | .received command =>
      some { tasks with control := .checked command (tasks.relays.isRelayRegistered command.relayPin) }
    | _ => none
  | .controlSwitches written =>
    match tasks.control with
    | .checked command registered =>
      if !registered then some { tasks with control := .switched command registered false }
      else
        let (relays, success) := tasks.relays.setRelayState command.relayPin command.desiredOn written
        some { tasks with relays, control := .switched command registered success }
    | _ => none
  | .controlAcknowledges =>
    match tasks.control with
    | .switched command registered success =>
      some { tasks with
        control := .waiting
        acknowledgements := tasks.acknowledgements ++ [acknowledgement command registered success] }
    | _ => none
  | .otherTask call => some { tasks with relays := tasks.relays.call call }
  | .restart => some (boot tasks.localMac tasks.relays.writes tasks.acknowledgements)

/-- A step of the executable model. -/
def Step (before : RelayTasks) (event : RelayTaskEvent) (after : RelayTasks) : Prop := before.next event = some after

/-- The relay command that a packet carries to the Node. -/
def packetCommand (localMac : MacAddress) (packet : RawReceivedPacket) : Option RelayCommandPacket :=
  (Receiver.applicationMessage packet).bind (relayCommand localMac)

/-- The commands that reach the radio of the Node. -/
def received (localMac : MacAddress) : RelayTaskEvent → List RelayCommandPacket
  | .receiveCallback packet => (packetCommand localMac packet).toList
  | _ => []

/-- The commands that have been acknowledged, and behind them those under way, the oldest first. -/
def line : List RelayCommandPacket :=
  tasks.acknowledgements.map RelayAcknowledgement.command ++ (tasks.control.command.toList ++ (tasks.relayCommandQueue ++
    ((tasks.handling.bind (relayCommand tasks.localMac)).toList ++
      (tasks.receiver.applicationMessages.filterMap (relayCommand tasks.localMac) ++
        ((tasks.servicing.bind (packetCommand tasks.localMac)).toList ++
          tasks.rawReceivedPackets.filterMap (packetCommand tasks.localMac))))))

/-- The step goes on with what is under way. -/
def advances : RelayTaskEvent → Bool
  | .receiveCallback _ | .otherTask _ | .restart => false
  | _ => true

/-- No queue is full that the step puts something into, and the Node goes on. -/
def lossless : RelayTaskEvent → Bool
  | .receiveCallback _ => tasks.rawReceivedPackets.length < RAW_QUEUE_LENGTH
  | .serviceProcesses => tasks.receiver.applicationMessages.length < Receiver.APPLICATION_QUEUE_LENGTH
  | .relayCommandQueueTimesOut | .restart => false
  | _ => true

/-- A step at which no queue overflows. -/
structure LosslessStep (before : RelayTasks) (event : RelayTaskEvent) (after : RelayTasks) : Prop where
  next : before.next event = some after
  lossless : before.lossless event = true

/-- In this run, when so many acknowledgements had been given, the relay task wrote the level of the
command to its pin and `gpio_set_level` took it. -/
def Switched (localMac : MacAddress) (events : List RelayTaskEvent) (last : RelayTasks) (position : Nat)
    (command : RelayCommandPacket) : Prop :=
  ∃ before after, Run.Takes Step (boot localMac [] []) events last before (.controlSwitches true) after ∧
    before.control = .checked command true ∧ before.acknowledgements.length = position ∧
    after.relays.writes = before.relays.writes ++ [⟨command.relayPin, command.desiredOn⟩]

/-- Success is only reported of a level that was written for this acknowledgement, the one in this
position, and a reason is only given for a failure. -/
structure Truthful (localMac : MacAddress) (events : List RelayTaskEvent) (last : RelayTasks) (position : Nat)
    (acknowledgement : RelayAcknowledgement) : Prop where
  reason : acknowledgement.success ≠ 0 ↔ acknowledgement.failureReason = RelayCommandFailureReason.NONE.toByte
  written : acknowledgement.success ≠ 0 → Switched localMac events last position acknowledgement.command

/-- Every acknowledgement is truthful, and the one that comes next will be. -/
structure Sound (localMac : MacAddress) (events : List RelayTaskEvent) (last : RelayTasks) : Prop where
  acknowledgements : ∀ position acknowledgement, last.acknowledgements[position]? = some acknowledgement →
    Truthful localMac events last position acknowledgement
  switched : ∀ command registered, last.control = .switched command registered true →
    Switched localMac events last last.acknowledgements.length command

/-- Nothing is under way. -/
structure Idle : Prop where
  rawReceivedPackets : tasks.rawReceivedPackets = []
  servicing : tasks.servicing = none
  applicationMessages : tasks.receiver.applicationMessages = []
  handling : tasks.handling = none
  relayCommandQueue : tasks.relayCommandQueue = []
  control : tasks.control = .waiting

/-- The steps that the control task still has to do for its command. -/
def RelayControl.work : RelayControl → Nat
  | .waiting => 0
  | .received _ => 3
  | .checked _ _ => 2
  | .switched _ _ _ => 1

/-- How many steps the tasks can take with what is under way. -/
def work : Nat :=
  8 * tasks.rawReceivedPackets.length + 7 * tasks.servicing.toList.length +
    6 * tasks.receiver.applicationMessages.length + 5 * tasks.handling.toList.length +
      4 * tasks.relayCommandQueue.length + RelayControl.work tasks.control

section Steps

variable {before after : RelayTasks} {event : RelayTaskEvent}

/-- What each step leaves, and what the task found that took it. -/
inductive Moves (before : RelayTasks) : RelayTaskEvent → RelayTasks → Prop where
  | ignored (packet : RawReceivedPacket)
      (hsize : packet.data.length = 0 ∨ MAX_MESSAGE_SIZE < packet.data.length) :
      Moves before (.receiveCallback packet) before
  | arrived (packet : RawReceivedPacket) :
      Moves before (.receiveCallback packet)
        { before with rawReceivedPackets := before.rawReceivedPackets ++ [packet] }
  | dropped (packet : RawReceivedPacket) (hfull : ¬ before.rawReceivedPackets.length < RAW_QUEUE_LENGTH) :
      Moves before (.receiveCallback packet) before
  | serviced (packet : RawReceivedPacket) (rawReceivedPackets : List RawReceivedPacket)
      (hidle : before.servicing = none) (hnext : before.rawReceivedPackets = packet :: rawReceivedPackets) :
      Moves before .serviceReceives { before with servicing := some packet, rawReceivedPackets }
  | processed (packet : RawReceivedPacket) (hservicing : before.servicing = some packet) :
      Moves before .serviceProcesses
        { before with servicing := none, receiver := (before.receiver.processRawReceivedPacket packet).1 }
  | taken (received : ReceivedMessage) (applicationMessages : List ReceivedMessage) (hidle : before.handling = none)
      (hnext : before.receiver.applicationMessages = received :: applicationMessages) :
      Moves before .communicationReceives
        { before with handling := some received, receiver := { before.receiver with applicationMessages } }
  | handled (received : ReceivedMessage) (hhandling : before.handling = some received)
      (hother : relayCommand before.localMac received = none) :
      Moves before .communicationHandles { before with handling := none }
  | queued (received : ReceivedMessage) (command : RelayCommandPacket) (hhandling : before.handling = some received)
      (hcommand : relayCommand before.localMac received = some command) :
      Moves before .communicationHandles
        { before with handling := none, relayCommandQueue := before.relayCommandQueue ++ [command] }
  | timedOut : Moves before .relayCommandQueueTimesOut { before with handling := none }
  | begun (command : RelayCommandPacket) (relayCommandQueue : List RelayCommandPacket)
      (hidle : before.control = .waiting) (hnext : before.relayCommandQueue = command :: relayCommandQueue) :
      Moves before .controlReceives { before with control := .received command, relayCommandQueue }
  | checked (command : RelayCommandPacket) (hcontrol : before.control = .received command) :
      Moves before .controlChecks
        { before with control := .checked command (before.relays.isRelayRegistered command.relayPin) }
  | refused (command : RelayCommandPacket) (written : Bool) (hcontrol : before.control = .checked command false) :
      Moves before (.controlSwitches written) { before with control := .switched command false false }
  | switched (command : RelayCommandPacket) (written : Bool) (hcontrol : before.control = .checked command true) :
      Moves before (.controlSwitches written)
        { before with
          relays := (before.relays.setRelayState command.relayPin command.desiredOn written).1
          control := .switched command true
            (before.relays.setRelayState command.relayPin command.desiredOn written).2 }
  | acknowledged (command : RelayCommandPacket) (registered success : Bool)
      (hcontrol : before.control = .switched command registered success) :
      Moves before .controlAcknowledges
        { before with
          control := .waiting
          acknowledgements := before.acknowledgements ++ [acknowledgement command registered success] }
  | called (call : RelayCall) : Moves before (.otherTask call) { before with relays := before.relays.call call }
  | restarted : Moves before .restart (boot before.localMac before.relays.writes before.acknowledgements)

/-- Every step is one of the moves. -/
theorem moves_of_next (hnext : before.next event = some after) : Moves before event after := by
  cases event with
  | receiveCallback packet =>
    simp only [next] at hnext
    split at hnext
    · next hsize =>
      obtain rfl := Option.some.inj hnext
      exact .ignored packet hsize
    split at hnext
    · obtain rfl := Option.some.inj hnext
      exact .arrived packet
    · next hfull =>
      obtain rfl := Option.some.inj hnext
      exact .dropped packet hfull
  | serviceReceives =>
    simp only [next] at hnext
    split at hnext
    · next packet rawReceivedPackets hidle hqueue =>
      obtain rfl := Option.some.inj hnext
      exact .serviced packet rawReceivedPackets hidle hqueue
    · cases hnext
  | serviceProcesses =>
    obtain ⟨packet, hservicing, rfl⟩ := Option.map_eq_some_iff.mp hnext
    exact .processed packet hservicing
  | communicationReceives =>
    simp only [next] at hnext
    split at hnext
    · next received applicationMessages hidle hqueue =>
      obtain rfl := Option.some.inj hnext
      exact .taken received applicationMessages hidle hqueue
    · cases hnext
  | communicationHandles =>
    simp only [next] at hnext
    split at hnext
    · cases hnext
    next received hhandling =>
    split at hnext
    · next hother =>
      obtain rfl := Option.some.inj hnext
      exact .handled received hhandling hother
    next command hcommand =>
    split at hnext
    · obtain rfl := Option.some.inj hnext
      exact .queued received command hhandling hcommand
    · cases hnext
  | relayCommandQueueTimesOut =>
    simp only [next] at hnext
    split at hnext
    · obtain rfl := Option.some.inj hnext
      exact .timedOut
    · cases hnext
  | controlReceives =>
    simp only [next] at hnext
    split at hnext
    · next command relayCommandQueue hidle hqueue =>
      obtain rfl := Option.some.inj hnext
      exact .begun command relayCommandQueue hidle hqueue
    · cases hnext
  | controlChecks =>
    simp only [next] at hnext
    split at hnext
    · next command hcontrol =>
      obtain rfl := Option.some.inj hnext
      exact .checked command hcontrol
    · cases hnext
  | controlSwitches written =>
    simp only [next] at hnext
    split at hnext
    · next command registered hcontrol =>
      cases registered with
      | false =>
        obtain rfl := Option.some.inj hnext
        exact .refused command written hcontrol
      | true =>
        obtain rfl := Option.some.inj hnext
        exact .switched command written hcontrol
    · cases hnext
  | controlAcknowledges =>
    simp only [next] at hnext
    split at hnext
    · next command registered success hcontrol =>
      obtain rfl := Option.some.inj hnext
      exact .acknowledged command registered success hcontrol
    · cases hnext
  | otherTask call =>
    obtain rfl := Option.some.inj hnext
    exact .called call
  | restart =>
    obtain rfl := Option.some.inj hnext
    exact .restarted

/-- No step changes the Node's address. -/
theorem localMac_next (hnext : before.next event = some after) : after.localMac = before.localMac := by
  cases moves_of_next hnext <;> rfl

/-- A packet of no length, or of too great a one, is no command. -/
theorem packetCommand_of_size {localMac : MacAddress} {packet : RawReceivedPacket}
    (hsize : packet.data.length = 0 ∨ MAX_MESSAGE_SIZE < packet.data.length) : packetCommand localMac packet = none := by
  have hheader : WireFormat.MessageHeader.layout.size = 24 := rfl
  rw [packetCommand, Receiver.applicationMessage, WireFormat.checkedMessage, if_pos (by omega), Option.filter_none,
    Option.map_none, Option.bind_none]

/-- What the service task does to a packet, it does to the command in it. -/
theorem processRawReceivedPacket_commands (localMac : MacAddress) (packet : RawReceivedPacket) (receiver : Receiver) :
    (receiver.processRawReceivedPacket packet).1.applicationMessages.filterMap (relayCommand localMac) =
        receiver.applicationMessages.filterMap (relayCommand localMac) ++ (packetCommand localMac packet).toList ∨
      ¬ receiver.applicationMessages.length < Receiver.APPLICATION_QUEUE_LENGTH ∧
        (receiver.processRawReceivedPacket packet).1.applicationMessages = receiver.applicationMessages := by
  rw [Receiver.processRawReceivedPacket_applicationMessages, packetCommand]
  cases Receiver.applicationMessage packet with
  | none => exact .inl (List.append_nil _).symm
  | some received =>
    dsimp only
    by_cases hroom : receiver.applicationMessages.length < Receiver.APPLICATION_QUEUE_LENGTH
    · rw [if_pos hroom]
      exact .inl (OrderedLine.filterMap_concat _ _ _)
    · rw [if_neg hroom]
      exact .inr ⟨hroom, rfl⟩

/-- A step keeps the line, with what has just arrived, or it is one that can lose something. -/
theorem line_next (hnext : before.next event = some after) :
    after.line = before.line ++ received before.localMac event ∨
      before.lossless event = false ∧ after.line.Sublist (before.line ++ received before.localMac event) := by
  cases moves_of_next hnext with
  | ignored packet hsize => simp [received, packetCommand_of_size hsize]
  | arrived packet => simp [line, received, OrderedLine.filterMap_concat, -List.filterMap_append]
  | dropped packet hfull => exact .inr ⟨decide_eq_false hfull, List.sublist_append_left _ _⟩
  | serviced packet rest hidle hqueue => simp [line, received, hidle, hqueue, OrderedLine.filterMap_cons]
  | processed packet hservicing =>
    obtain hkept | ⟨hfull, hsame⟩ := processRawReceivedPacket_commands before.localMac packet before.receiver
    · simp [line, received, hservicing, hkept]
    · refine .inr ⟨decide_eq_false hfull, ?_⟩
      simp [line, received, hservicing, hsame]
  | taken message rest hidle hqueue => simp [line, received, hidle, hqueue, OrderedLine.filterMap_cons]
  | handled message hhandling hother => simp [line, received, hhandling, hother]
  | queued message command hhandling hcommand => simp [line, received, hhandling, hcommand]
  | timedOut =>
    refine .inr ⟨rfl, ?_⟩
    simp [line, received]
  | begun command rest hidle hqueue => simp [line, received, hidle, hqueue, RelayControl.command]
  | checked command hcontrol => simp [line, received, hcontrol, RelayControl.command]
  | refused command written hcontrol => simp [line, received, hcontrol, RelayControl.command]
  | switched command written hcontrol => simp [line, received, hcontrol, RelayControl.command]
  | acknowledged command registered success hcontrol =>
    simp [line, received, hcontrol, RelayControl.command, acknowledgement, RelayAcknowledgement.command]
  | called call => simp [line, received]
  | restarted =>
    refine .inr ⟨rfl, ?_⟩
    simp [line, received, boot, RelayControl.command]

/-- A relay that could be switched had the level written to its pin, and took it. -/
theorem writes_of_switched {controller : RelayController} {relayPin : UInt8} {on written : Bool}
    (hswitched : (controller.setRelayState relayPin on written).2 = true) :
    written = true ∧
      (controller.setRelayState relayPin on written).1.writes = controller.writes ++ [⟨relayPin, on⟩] := by
  unfold RelayController.setRelayState at hswitched ⊢
  cases hfind : controller.findRelay relayPin with
  | none => simp [hfind] at hswitched
  | some relay =>
    simp only [hfind, RelayController.writeGpioLevel] at hswitched ⊢
    cases happlied : relay.hardwareApplied with
    | false => simp [happlied] at hswitched
    | true => simpa [happlied, show relay.relayPin = relayPin from KeyedList.key_of_lookup hfind] using hswitched

/-- No acknowledgement is taken back. -/
theorem acknowledgements_next (hnext : before.next event = some after) :
    before.acknowledgements ⊆ after.acknowledgements := by
  cases moves_of_next hnext with
  | acknowledged => exact List.subset_append_left _ _
  | _ => exact List.Subset.refl _

/-- Without work in the queues, the line is what has been acknowledged. -/
theorem Idle.line (hidle : before.Idle) : before.line = before.acknowledgements.map RelayAcknowledgement.command := by
  simp [RelayTasks.line, hidle.rawReceivedPackets, hidle.servicing, hidle.applicationMessages, hidle.handling,
    hidle.relayCommandQueue, hidle.control, RelayControl.command]

end Steps

section Runs

variable {localMac : MacAddress} {events : List RelayTaskEvent} {last : RelayTasks}

/-- A later step does not undo that a command was switched. -/
theorem Switched.snoc {position : Nat} {command : RelayCommandPacket} {event : RelayTaskEvent} {after : RelayTasks}
    (hswitched : Switched localMac events last position command) (hstep : Step last event after) :
    Switched localMac (events ++ [event]) after position command := by
  obtain ⟨before, written, htakes, hwritten⟩ := hswitched
  exact ⟨before, written, htakes.snoc hstep, hwritten⟩

/-- Steps that acknowledge nothing. -/
theorem Sound.of_acknowledgements {event : RelayTaskEvent} {after : RelayTasks} (hsound : Sound localMac events last)
    (hstep : Step last event after) (hsame : after.acknowledgements = last.acknowledgements)
    (hcontrol : ∀ command registered, after.control = .switched command registered true →
      last.control = .switched command registered true ∨
        Switched localMac (events ++ [event]) after last.acknowledgements.length command) :
    Sound localMac (events ++ [event]) after := by
  refine ⟨fun position acknowledgement hgiven => ?_, fun command registered hswitched => ?_⟩
  · obtain ⟨hreason, hwritten⟩ := hsound.acknowledgements position acknowledgement (hsame ▸ hgiven)
    exact ⟨hreason, fun hsuccess => (hwritten hsuccess).snoc hstep⟩
  · rw [hsame]
    obtain hbefore | hnow := hcontrol command registered hswitched
    · exact (hsound.switched command registered hbefore).snoc hstep
    · exact hnow

/-- Every step keeps acknowledgements sound. -/
theorem Sound.next {event : RelayTaskEvent} {after : RelayTasks} (hsound : Sound localMac events last)
    (hrun : Run Step (boot localMac [] []) events last) (hstep : Step last event after) :
    Sound localMac (events ++ [event]) after := by
  cases moves_of_next hstep with
  | switched command written hcontrol =>
    refine hsound.of_acknowledgements hstep rfl fun other registered hswitched => .inr ?_
    obtain ⟨rfl, -, hsuccess⟩ := RelayControl.switched.inj hswitched
    obtain ⟨rfl, hwrites⟩ := writes_of_switched hsuccess
    exact ⟨last, _, Run.takes_snoc hrun hstep, hcontrol, rfl, hwrites⟩
  | acknowledged command registered success hcontrol =>
    refine ⟨fun position given hgiven => ?_, nofun⟩
    rw [List.getElem?_append] at hgiven
    split at hgiven
    · obtain ⟨hreason, hwritten⟩ := hsound.acknowledgements position given hgiven
      exact ⟨hreason, fun hsuccess => (hwritten hsuccess).snoc hstep⟩
    · next hbehind =>
      rw [List.getElem?_singleton] at hgiven
      obtain ⟨hposition, hsame⟩ := Option.ite_none_right_eq_some.mp hgiven
      obtain rfl := Option.some.inj hsame
      cases success with
      | false =>
        refine ⟨?_, fun hsuccess => absurd rfl hsuccess⟩
        cases registered <;> simp [acknowledgement, RelayCommandFailureReason.toByte]
      | true =>
        have hlast : position = last.acknowledgements.length := by omega
        refine ⟨?_, fun _ => hlast ▸ (hsound.switched command registered hcontrol).snoc hstep⟩
        simp [acknowledgement, RelayCommandFailureReason.toByte]
  | begun | checked | refused => exact hsound.of_acknowledgements hstep rfl nofun
  | restarted => exact hsound.of_acknowledgements hstep rfl nofun
  | _ => exact hsound.of_acknowledgements hstep rfl fun _ _ => .inl

/-- A run from a boot leaves every acknowledgement truthful. -/
theorem sound_of_run (hrun : Run Step (boot localMac [] []) events last) : Sound localMac events last := by
  induction hrun with
  | nil => exact ⟨nofun, nofun⟩
  | snoc run hstep ih => exact ih.next run hstep

/-- A run from a boot keeps the address of the boot. -/
theorem localMac_of_run {step : RelayTasks → RelayTaskEvent → RelayTasks → Prop}
    (hnext : ∀ before event after, step before event after → before.next event = some after)
    (hrun : Run step (boot localMac [] []) events last) :
    Run (fun before event after => before.localMac = localMac ∧ step before event after) (boot localMac [] []) events
      last := by
  have hpreserved : ∀ before event after, before.localMac = localMac → step before event after →
      after.localMac = localMac :=
    fun before event after haddress hstep => (localMac_next (hnext before event after hstep)).trans haddress
  exact hrun.mono hpreserved (fun _ _ _ haddress hstep => ⟨haddress, hstep⟩) rfl

/-- What is in line has been received, in this order. -/
theorem line_sublist (hrun : Run Step (boot localMac [] []) events last) :
    last.line.Sublist (events.flatMap (received localMac)) := by
  have hstep : ∀ before event after, before.localMac = localMac ∧ Step before event after →
      after.line.Sublist (before.line ++ received localMac event) := by
    rintro before event after ⟨rfl, hnext⟩
    obtain hkept | ⟨-, hlost⟩ := line_next hnext
    · exact hkept ▸ List.Sublist.refl _
    · exact hlost
  exact OrderedLine.sublist_of_run hstep (localMac_of_run (fun _ _ _ => id) hrun)

/-- Without overflows, everything that has been received is in line. -/
theorem line_eq (hrun : Run LosslessStep (boot localMac [] []) events last) :
    last.line = events.flatMap (received localMac) := by
  have hstep : ∀ before event after, before.localMac = localMac ∧ LosslessStep before event after →
      after.line = before.line ++ received localMac event := by
    rintro before event after ⟨rfl, hnext, hlossless⟩
    obtain hkept | ⟨hlossy, -⟩ := line_next hnext
    · exact hkept
    · exact nomatch hlossy.symm.trans hlossless
  exact OrderedLine.eq_of_run hstep (localMac_of_run (fun _ _ _ hstep => hstep.next) hrun)

/-- Whatever the order in which the tasks of a Node run, and whenever it restarts: it acknowledges
the relay commands that it received in their order, none of them twice. A success is only reported
after the level was written to the pin and taken, by a step of its own, since the acknowledgement
before it. If no queue was full and the Node did not restart, it has acknowledged all commands when
nothing is under way any more. -/
theorem commands_acknowledged_in_order (localMac : MacAddress) (events : List RelayTaskEvent) (last : RelayTasks) :
    (Run Step (boot localMac [] []) events last →
      (last.acknowledgements.map RelayAcknowledgement.command).Sublist (events.flatMap (received localMac)) ∧
        ∀ position acknowledgement, last.acknowledgements[position]? = some acknowledgement →
          Truthful localMac events last position acknowledgement) ∧
    (Run LosslessStep (boot localMac [] []) events last → last.Idle →
      last.acknowledgements.map RelayAcknowledgement.command = events.flatMap (received localMac)) := by
  refine ⟨fun hrun => ⟨?_, ?_⟩, fun hrun hidle => ?_⟩
  · exact (List.sublist_append_left _ _).trans (line_sublist hrun)
  · exact (sound_of_run hrun).acknowledgements
  · exact hidle.line ▸ line_eq hrun

end Runs

section Wire

/-- A command that `sendTo` puts on the air is the command that its destination takes out. -/
theorem packetCommand_of_sent {sender : WireFormat.Sender} {destination nextHop : MacAddress}
    {command : RelayCommandPacket} {commandPadding : RelayCommandPacket.Padding} {message : WireFormat.Message}
    {padding : WireFormat.MessageHeader.Padding} {packet : RawReceivedPacket}
    (hbuild : WireFormat.buildMessage sender destination .RELAY_COMMAND
      (some (RelayCommandPacket.layout.encode (command, commandPadding))) RelayCommandPacket.layout.size =
        some message)
    (hsent : WireFormat.sendMessageTo sender nextHop padding message = some packet.data) :
    packetCommand destination packet = some command := by
  have hbuilt := WireFormat.built_of_buildMessage hbuild
  have hlength := RelayCommandPacket.layout.length_encode (command, commandPadding)
  have hpayload : (RelayCommandPacket.layout.decode message.payload.toList).1 = command := by
    rw [hbuilt.payload, Option.getD_some, List.take_of_length_le hlength.le, PackedLayout.decode_append]
  rw [packetCommand, Receiver.applicationMessage_of_sent hbuilt rfl hsent, Option.bind_some, relayCommand]
  dsimp only
  rw [hbuilt.payloadLength_toNat, hbuilt.header, if_pos ⟨rfl, rfl, rfl⟩, hpayload]

end Wire

section Switched

def fanAddress : MacAddress := Vector.replicate 6 3

/-- Central asks for the relay at pin 4 to be ON, as its command 7. -/
def fanPacket : RawReceivedPacket :=
  ⟨Vector.replicate 6 1, -60, [1, MessageType.RELAY_COMMAND.toByte, 8, 0, 0, 0, 0, 0] ++ List.replicate 6 1 ++
    List.replicate 6 3 ++ [16, 0, 0, 0] ++ [4, 1, 0, 0, 7, 0, 0, 0]⟩

def fanEvents : List RelayTaskEvent :=
  [.otherTask (.addRelay ⟨4, true, false⟩ .succeeding), .receiveCallback fanPacket, .serviceReceives,
    .serviceProcesses, .communicationReceives, .communicationHandles, .controlReceives, .controlChecks,
    .controlSwitches true, .controlAcknowledges]

/-- The relay is switched ON, and Central is told. -/
theorem commands_acknowledged_fan :
    ∃ last, Run LosslessStep (boot fanAddress [] []) fanEvents last ∧
      last.acknowledgements.map RelayAcknowledgement.command = [⟨4, 1, 7⟩] ∧
      Switched fanAddress fanEvents last 0 ⟨4, 1, 7⟩ := by
  have hends : (fanEvents.foldlM
      (fun (before : RelayTasks) event => if before.lossless event then before.next event else none)
      (boot fanAddress [] [])).any (fun (last : RelayTasks) => decide (last.rawReceivedPackets = [] ∧ last.servicing = none ∧
        last.receiver.applicationMessages = [] ∧ last.handling = none ∧ last.relayCommandQueue = [] ∧
          last.control = .waiting ∧ last.acknowledgements = [acknowledgement ⟨4, 1, 7⟩ true true])) = true := by
    decide +kernel
  obtain ⟨last, hlast, hidle⟩ := (Option.any_eq_true _ _).mp hends
  obtain ⟨hpackets, hservicing, hmessages, hhandling, hcommands, hcontrol, hgiven⟩ := of_decide_eq_true hidle
  have hrun : Run LosslessStep (boot fanAddress [] []) fanEvents last := by
    refine Run.of_foldlM (fun before event after hnext => ?_) hlast
    split at hnext
    · next hlossless => exact ⟨hnext, hlossless⟩
    · cases hnext
  have hsteps : Run Step (boot fanAddress [] []) fanEvents last :=
    hrun.mono (fun _ _ _ _ _ => trivial) (fun _ _ _ _ hstep => hstep.next) trivial
  obtain ⟨hacknowledged, hcomplete⟩ := commands_acknowledged_in_order fanAddress fanEvents last
  have hreceived : fanEvents.flatMap (received fanAddress) = [⟨4, 1, 7⟩] := by decide +kernel
  have htruthful := (hacknowledged hsteps).2 0 _ (by rw [hgiven]; rfl)
  exact ⟨last, hrun,
    (hcomplete hrun ⟨hpackets, hservicing, hmessages, hhandling, hcommands, hcontrol⟩).trans hreceived,
    htruthful.written (by decide)⟩

end Switched

section Progress

variable {before after : RelayTasks} {event : RelayTaskEvent}

/-- A packet adds one message at most. -/
theorem length_processRawReceivedPacket_le (packet : RawReceivedPacket) (receiver : Receiver) :
    (receiver.processRawReceivedPacket packet).1.applicationMessages.length ≤
      receiver.applicationMessages.length + 1 := by
  rw [Receiver.processRawReceivedPacket_applicationMessages]
  split
  · omega
  split
  · rw [List.length_append, List.length_singleton]
  · omega

/-- A step that advances the queues takes work away. -/
theorem work_lt (hadvances : advances event = true) (hnext : before.next event = some after) :
    after.work < before.work := by
  cases moves_of_next hnext with
  | ignored | arrived | dropped | called | restarted => cases hadvances
  | serviced packet rest hidle hqueue =>
    simp only [work, hidle, hqueue, List.length_cons, Option.toList_some, Option.toList_none, List.length_nil]
    omega
  | processed packet hservicing =>
    have hlength := length_processRawReceivedPacket_le packet before.receiver
    simp only [work, hservicing, List.length_cons, Option.toList_some, Option.toList_none, List.length_nil]
    omega
  | taken received rest hidle hqueue =>
    simp only [work, hidle, hqueue, List.length_cons, Option.toList_some, Option.toList_none, List.length_nil]
    omega
  | handled received hhandling =>
    simp only [work, hhandling, List.length_cons, Option.toList_some, Option.toList_none, List.length_nil]
    omega
  | queued received command hhandling =>
    simp only [work, hhandling, List.length_append, List.length_cons, Option.toList_some, Option.toList_none,
      List.length_nil]
    omega
  | timedOut =>
    obtain ⟨⟨hcommand, -⟩, -⟩ := Option.ite_none_right_eq_some.mp hnext
    obtain ⟨command, hcommand⟩ := Option.isSome_iff_exists.mp hcommand
    obtain ⟨received, hhandling, -⟩ := Option.bind_eq_some_iff.mp hcommand
    simp only [work, hhandling, List.length_cons, Option.toList_some, Option.toList_none, List.length_nil]
    omega
  | begun command rest hidle hqueue =>
    simp only [work, RelayControl.work, hidle, hqueue, List.length_cons]
    omega
  | checked command hcontrol | refused command written hcontrol | switched command written hcontrol =>
    simp only [work, RelayControl.work, hcontrol]
    omega
  | acknowledged command registered success hcontrol =>
    simp only [work, RelayControl.work, hcontrol]
    omega

/-- Whoever is furthest ahead can go on, and loses nothing. -/
theorem exists_lossless_advance (hbusy : ¬ before.Idle) :
    ∃ event after, advances event = true ∧ LosslessStep before event after := by
  cases hcontrol : before.control with
  | received command => exact ⟨.controlChecks, _, rfl, by simp only [next, hcontrol]; rfl, rfl⟩
  | checked command registered =>
    cases registered with
    | false => exact ⟨.controlSwitches true, _, rfl, by simp only [next, hcontrol]; rfl, rfl⟩
    | true => exact ⟨.controlSwitches true, _, rfl, by simp only [next, hcontrol]; rfl, rfl⟩
  | switched command registered success =>
    exact ⟨.controlAcknowledges, _, rfl, by simp only [next, hcontrol]; rfl, rfl⟩
  | waiting =>
    cases hcommands : before.relayCommandQueue with
    | cons command rest => exact ⟨.controlReceives, _, rfl, by simp only [next, hcontrol, hcommands]; rfl, rfl⟩
    | nil =>
      cases hhandling : before.handling with
      | some received =>
        have hroom : before.relayCommandQueue.length < RELAY_COMMAND_QUEUE_LENGTH := by
          rw [hcommands]
          decide
        cases hcommand : relayCommand before.localMac received with
        | none => exact ⟨.communicationHandles, _, rfl, by simp only [next, hhandling, hcommand]; rfl, rfl⟩
        | some command =>
          have hqueued : before.next .communicationHandles =
              some { before with handling := none, relayCommandQueue := before.relayCommandQueue ++ [command] } := by
            simp only [next, hhandling, hcommand, if_pos hroom]
          exact ⟨.communicationHandles, _, rfl, hqueued, rfl⟩
      | none =>
        cases hmessages : before.receiver.applicationMessages with
        | cons received rest =>
          exact ⟨.communicationReceives, _, rfl, by simp only [next, hhandling, hmessages]; rfl, rfl⟩
        | nil =>
          have hroom : before.receiver.applicationMessages.length < Receiver.APPLICATION_QUEUE_LENGTH := by
            rw [hmessages]
            decide
          cases hservicing : before.servicing with
          | some packet =>
            exact ⟨.serviceProcesses, _, rfl, by simp only [next, hservicing, Option.map_some]; rfl, decide_eq_true hroom⟩
          | none =>
            cases hpackets : before.rawReceivedPackets with
            | cons packet rest =>
              exact ⟨.serviceReceives, _, rfl, by simp only [next, hservicing, hpackets]; rfl, rfl⟩
            | nil => exact absurd ⟨hpackets, hservicing, hmessages, hhandling, hcommands, hcontrol⟩ hbusy

/-- A step of a task that the radio did not cause and that loses nothing. -/
structure Advance (before : RelayTasks) (event : RelayTaskEvent) (after : RelayTasks) : Prop where
  step : LosslessStep before event after
  advances : advances event = true

/-- The queues can always be emptied. -/
theorem exists_drained (tasks : RelayTasks) : ∃ events last, Run Advance tasks events last ∧ last.Idle := by
  induction hwork : tasks.work using Nat.strongRecOn generalizing tasks with
  | ind work ih =>
    by_cases hidle : tasks.Idle
    · exact ⟨[], tasks, .nil _, hidle⟩
    · obtain ⟨event, after, hadvances, hstep⟩ := exists_lossless_advance hidle
      obtain ⟨events, last, hrun, hlast⟩ := ih after.work (hwork ▸ work_lt hadvances hstep.next) after rfl
      exact ⟨[event] ++ events, last, (Run.single ⟨hstep, hadvances⟩).append hrun, hlast⟩

/-- There are no more advancing steps than there is work. -/
theorem work_add_length_le {events : List RelayTaskEvent} {tasks last : RelayTasks}
    (hrun : Run (fun before event after => Step before event after ∧ advances event = true) tasks events last) :
    last.work + events.length ≤ tasks.work := by
  induction hrun with
  | nil => exact Nat.le_refl _
  | snoc run hstep ih =>
    have hless := work_lt hstep.2 hstep.1
    rw [List.length_append, List.length_singleton]
    omega

/-- Steps that advance the queues receive nothing. -/
theorem received_of_advances {localMac : MacAddress} (hadvances : advances event = true) :
    received localMac event = [] := by
  cases event with
  | receiveCallback packet => cases hadvances
  | _ => rfl

/-- The queues never block the tasks: whatever they have done so far, they take no more steps than
`work` without the radio, and there is an order in which they acknowledge every command that is
under way. The mutexes that guard the relays and the radio are left out, so this says nothing about
a task that waits for one of them. -/
theorem tasks_go_on (tasks : RelayTasks) :
    (∀ events last, Run (fun before event after => Step before event after ∧ advances event = true) tasks events last →
      events.length ≤ tasks.work) ∧
    ∃ events last, Run Advance tasks events last ∧ last.Idle ∧
      last.acknowledgements.map RelayAcknowledgement.command = tasks.line := by
  refine ⟨fun events last hrun => ?_, ?_⟩
  · have hwork := work_add_length_le hrun
    omega
  · obtain ⟨events, last, hrun, hidle⟩ := exists_drained tasks
    refine ⟨events, last, hrun, hidle, ?_⟩
    have hstep : ∀ before event after, Advance before event after → after.line = before.line := by
      rintro before event after ⟨⟨hnext, hlossless⟩, hadvances⟩
      obtain hkept | ⟨hlossy, -⟩ := line_next hnext
      · rw [hkept, received_of_advances hadvances, List.append_nil]
      · exact nomatch hlossy.symm.trans hlossless
    rw [← hidle.line]
    exact hrun.invariant (fun before event after hsame hnext => (hstep before event after hnext).trans hsame) rfl

end Progress

end RelayTasks

end kilowatts
