import Kilowatts.EspNowCommunication.UpstreamSelection
import Kilowatts.Library.CharBuffer
import Kilowatts.Library.KeyedList

namespace kilowatts.PacketReceiver

open PackedLayout
open WireFormat (MessageHeader RawReceivedPacket Sender checkedMessage declaredLength WellFormed)
open UpstreamSelection (RouteState DiscoveryResponse)
open EspNowCommunication (DEFAULT_HOP_LIMIT MAX_PAYLOAD_SIZE PROTOCOL_VERSION)
open Discovery (UNKNOWN_HOP_COUNT)

/-- The payload by which a Node announces itself to its upstream. -/
structure ConnectionHandshake where
  nodeName : CharBuffer 20
  hopCountToCentral : UInt16
  centralMacAddress : MacAddress
deriving DecidableEq

namespace ConnectionHandshake

/-- The fields of a handshake, in the order of the struct. -/
def fields : ConnectionHandshake ≃ CharBuffer 20 × UInt16 × MacAddress where
  toFun handshake := (handshake.nodeName, handshake.hopCountToCentral, handshake.centralMacAddress)
  invFun := fun (nodeName, hopCountToCentral, centralMacAddress) => ⟨nodeName, hopCountToCentral, centralMacAddress⟩
  left_inv _ := rfl
  right_inv _ := rfl

/-- The packed layout of the struct. -/
def layout : PackedLayout ConnectionHandshake := .named fields ((array 20).pair (uint16.pair (array 6)))

/-- The packed struct has 28 bytes. -/
theorem layout_size : layout.size = 28 := rfl

end ConnectionHandshake

/-- What a Node keeps of a Node that has it as its upstream. -/
structure DirectDownstreamNodeInfo where
  nodeName : CharBuffer 20
  macAddress : MacAddress
  signalStrengthDbm : Int8
  signalStrengthKnown : Bool
  hopCountToCentral : UInt16
deriving DecidableEq

/-- A message for the application, with its sender and its signal strength. -/
structure ReceivedMessage where
  senderMacAddress : MacAddress
  signalStrengthDbm : Int8
  message : WireFormat.Message
deriving DecidableEq

/-- What the service task of a Node reads and writes for a packet. -/
structure Receiver where
  routeState : RouteState
  directDownstreamNodes : List DirectDownstreamNodeInfo
  applicationMessages : List ReceivedMessage
deriving DecidableEq

namespace Receiver

/-- The queue is created for this many messages. -/
def APPLICATION_QUEUE_LENGTH : Nat := 12

/-- A text without characters is shown as `Unnamed`. -/
def displayName (nodeName : CharBuffer 20) : List UInt8 :=
  if nodeName.text = [] then "Unnamed".toUTF8.toList else nodeName.text

/-- An unknown Node is appended; of a known one everything but its MAC is replaced. -/
def registerOrUpdateDirectDownstreamNode (nodeName : CharBuffer 20) (nodeMacAddress : MacAddress)
    (signalStrengthDbm : Int8) (signalStrengthKnown : Bool) (hopCountToCentral : UInt16) (receiver : Receiver) : Receiver :=
  let stored := fun (node : DirectDownstreamNodeInfo) =>
    { node with
      nodeName := node.nodeName.print (displayName nodeName)
      signalStrengthDbm
      signalStrengthKnown
      hopCountToCentral }
  if nodeMacAddress ∈ receiver.directDownstreamNodes.map DirectDownstreamNodeInfo.macAddress then
    { receiver with
      directDownstreamNodes := KeyedList.update (·.macAddress) nodeMacAddress stored receiver.directDownstreamNodes }
  else
    { receiver with
      directDownstreamNodes := receiver.directDownstreamNodes ++
        [stored ⟨.zero, nodeMacAddress, 0, false, 0⟩] }

/-- Only a Node that is stored already is refreshed. -/
def refreshDirectDownstreamNodeSignalStrength (nodeMacAddress : MacAddress) (signalStrengthDbm : Int8)
    (receiver : Receiver) : Receiver :=
  { receiver with
    directDownstreamNodes := KeyedList.update (·.macAddress) nodeMacAddress
      (fun node => { node with signalStrengthDbm, signalStrengthKnown := true }) receiver.directDownstreamNodes }

/-- A handshake attaches a Node that is one hop deeper in the same tree. -/
def processConnectionHandshake (packet : RawReceivedPacket) (message : WireFormat.Message) (receiver : Receiver) :
    Receiver :=
  if message.header.destinationMacAddress ≠ receiver.routeState.localMacAddress ∧
      message.header.destinationMacAddress ≠ BROADCAST_MAC_ADDRESS then receiver
  else if message.header.payloadLength.toNat ≠ ConnectionHandshake.layout.size then receiver
  else
    let received := ConnectionHandshake.layout.decode message.payload.toList
    let handshake := { received with nodeName := received.nodeName.set 19 0 }
    let route := receiver.routeState.route
    if packet.senderMacAddress ≠ message.header.originMacAddress then receiver
    else if !(route.centralMacAddressKnown && route.hopCountToCentral != UNKNOWN_HOP_COUNT) then receiver
    else if handshake.hopCountToCentral ≠ route.hopCountToCentral + 1 then receiver
    else if handshake.centralMacAddress ≠ route.centralMacAddress then receiver
    else
      receiver.registerOrUpdateDirectDownstreamNode handshake.nodeName message.header.originMacAddress
        packet.signalStrengthDbm true handshake.hopCountToCentral

/-- A full queue drops the message. -/
def enqueue (received : ReceivedMessage) (receiver : Receiver) : Receiver :=
  if receiver.applicationMessages.length < APPLICATION_QUEUE_LENGTH then
    { receiver with applicationMessages := receiver.applicationMessages ++ [received] }
  else receiver

/-- Also returns the response to a discovery request, with its destination. -/
def processRawReceivedPacket (packet : RawReceivedPacket) (receiver : Receiver) :
    Receiver × Option (MacAddress × DiscoveryResponse) :=
  let refreshed := receiver.refreshDirectDownstreamNodeSignalStrength packet.senderMacAddress packet.signalStrengthDbm
  match checkedMessage packet.data with
  | none => (refreshed, none)
  | some message =>
    if message.header.messageType = MessageType.DISCOVERY_REQUEST.toByte then
      (refreshed, refreshed.routeState.processDiscoveryRequest message)
    else if message.header.messageType = MessageType.DISCOVERY_RESPONSE.toByte then
      ({ refreshed with routeState := refreshed.routeState.processDiscoveryResponse packet message }, none)
    else if message.header.messageType = MessageType.HANDSHAKE.toByte then
      (refreshed.processConnectionHandshake packet message, none)
    else (refreshed.enqueue ⟨packet.senderMacAddress, packet.signalStrengthDbm, message⟩, none)

variable {packet : RawReceivedPacket} {receiver : Receiver} {message : WireFormat.Message}

/-- The signal strength is no matter of the queue. -/
@[simp] theorem refresh_applicationMessages (nodeMacAddress : MacAddress) (signalStrengthDbm : Int8) :
    (receiver.refreshDirectDownstreamNodeSignalStrength nodeMacAddress signalStrengthDbm).applicationMessages =
      receiver.applicationMessages := rfl

/-- Nor of the route. -/
@[simp] theorem refresh_routeState (nodeMacAddress : MacAddress) (signalStrengthDbm : Int8) :
    (receiver.refreshDirectDownstreamNodeSignalStrength nodeMacAddress signalStrengthDbm).routeState =
      receiver.routeState := rfl

/-- A handshake only attaches a downstream Node. -/
theorem processConnectionHandshake_rest (packet : RawReceivedPacket) (message : WireFormat.Message)
    (receiver : Receiver) :
    (receiver.processConnectionHandshake packet message).applicationMessages = receiver.applicationMessages ∧
      (receiver.processConnectionHandshake packet message).routeState = receiver.routeState := by
  unfold processConnectionHandshake registerOrUpdateDirectDownstreamNode
  dsimp only
  split_ifs
  all_goals exact ⟨rfl, rfl⟩

/-- A full queue drops the message. -/
theorem enqueue_applicationMessages (received : ReceivedMessage) (receiver : Receiver) :
    (receiver.enqueue received).applicationMessages =
      if receiver.applicationMessages.length < APPLICATION_QUEUE_LENGTH then receiver.applicationMessages ++ [received]
      else receiver.applicationMessages := by
  unfold enqueue
  split <;> rfl

/-- The queue is no matter of the route. -/
@[simp] theorem enqueue_routeState (received : ReceivedMessage) (receiver : Receiver) :
    (receiver.enqueue received).routeState = receiver.routeState := by
  unfold enqueue
  split <;> rfl

/-- What a packet leaves for the application. -/
def applicationMessage (packet : RawReceivedPacket) : Option ReceivedMessage :=
  ((checkedMessage packet.data).filter fun message => message.header.messageType ∉ internalTypes).map
    (⟨packet.senderMacAddress, packet.signalStrengthDbm, ·⟩)

/-- A packet reaches the queue exactly when it is a checked message that is not internal. -/
theorem processRawReceivedPacket_applicationMessages (packet : RawReceivedPacket) (receiver : Receiver) :
    (receiver.processRawReceivedPacket packet).1.applicationMessages =
      match applicationMessage packet with
      | none => receiver.applicationMessages
      | some received =>
        if receiver.applicationMessages.length < APPLICATION_QUEUE_LENGTH then receiver.applicationMessages ++ [received]
        else receiver.applicationMessages := by
  unfold processRawReceivedPacket applicationMessage
  cases hchecked : checkedMessage packet.data with
  | none => rfl
  | some message =>
    dsimp only
    by_cases hinternal : message.header.messageType ∈ internalTypes
    · rw [Option.filter_some_neg (by simpa using hinternal), Option.map_none]
      dsimp only
      simp only [internalTypes, List.mem_cons, List.not_mem_nil, or_false] at hinternal
      split_ifs with hrequest hresponse hhandshake
      · rfl
      · rfl
      · exact (processConnectionHandshake_rest ..).1
      · exact absurd hinternal (by simp [hrequest, hresponse, hhandshake])
    · rw [Option.filter_some_pos (by simpa using hinternal)]
      simp only [internalTypes, List.mem_cons, List.not_mem_nil, or_false, not_or] at hinternal
      rw [if_neg hinternal.2.1, if_neg hinternal.2.2, if_neg hinternal.1]
      exact enqueue_applicationMessages _ _

/-- The response that a packet carries. -/
def discoveryResponse (packet : RawReceivedPacket) : Option (RawReceivedPacket × WireFormat.Message) :=
  ((checkedMessage packet.data).filter fun message =>
    message.header.messageType = MessageType.DISCOVERY_RESPONSE.toByte).map (packet, ·)

/-- A packet touches the route exactly when it is a discovery response. -/
theorem processRawReceivedPacket_routeState (packet : RawReceivedPacket) (receiver : Receiver) :
    (receiver.processRawReceivedPacket packet).1.routeState =
      match discoveryResponse packet with
      | none => receiver.routeState
      | some response => receiver.routeState.processDiscoveryResponse response.1 response.2 := by
  unfold processRawReceivedPacket discoveryResponse
  cases hchecked : checkedMessage packet.data with
  | none => rfl
  | some message =>
    dsimp only
    by_cases hresponse : message.header.messageType = MessageType.DISCOVERY_RESPONSE.toByte
    · rw [Option.filter_some_pos (by simpa using hresponse), if_neg (by rw [hresponse]; decide), if_pos hresponse]
      rfl
    · rw [Option.filter_some_neg (by simpa using hresponse), if_neg hresponse]
      split_ifs
      · rfl
      · exact (processConnectionHandshake_rest ..).2
      · exact enqueue_routeState _ _

/-- Whatever else a Node receives during a discovery, it hears the responses. -/
theorem foldl_processRawReceivedPacket_routeState (packets : List RawReceivedPacket) (receiver : Receiver) :
    (packets.foldl (fun receiver packet => (receiver.processRawReceivedPacket packet).1) receiver).routeState =
      receiver.routeState.hear (packets.filterMap discoveryResponse) := by
  induction packets generalizing receiver with
  | nil => rfl
  | cons packet packets ih =>
    rw [List.foldl_cons, ih, processRawReceivedPacket_routeState]
    cases hresponse : discoveryResponse packet with
    | none => rw [List.filterMap_cons_none hresponse]
    | some response =>
      rw [List.filterMap_cons_some hresponse]
      rfl

/-- A checked message of a type that is not internal is for the application. -/
theorem applicationMessage_of_checked (hchecked : checkedMessage packet.data = some message)
    (htype : message.header.messageType ∉ internalTypes) :
    applicationMessage packet = some ⟨packet.senderMacAddress, packet.signalStrengthDbm, message⟩ := by
  rw [applicationMessage, hchecked, Option.filter_some_pos (by simpa using htype), Option.map_some]

/-- The type is read from the second byte of the packet. -/
theorem applicationMessage_isSome_iff :
    (applicationMessage packet).isSome ↔ WellFormed packet.data ∧ packet.data.getD 1 0 ∉ internalTypes := by
  constructor
  · intro hsome
    rw [applicationMessage, Option.isSome_map] at hsome
    obtain ⟨message, hmessage⟩ := Option.isSome_iff_exists.mp hsome
    obtain ⟨hchecked, htype⟩ := Option.filter_eq_some_iff.mp hmessage
    obtain ⟨hwellFormed, rfl⟩ := WireFormat.checkedMessage_eq_some_iff.mp hchecked
    rw [(WireFormat.ofBytes_header hwellFormed.header _).2.1] at htype
    exact ⟨hwellFormed, of_decide_eq_true htype⟩
  · rintro ⟨hwellFormed, htype⟩
    have hchecked := WireFormat.checkedMessage_eq_some_iff.mpr ⟨hwellFormed, rfl⟩
    rw [← (WireFormat.ofBytes_header hwellFormed.header
      (List.replicate (WireFormat.MAX_MESSAGE_SIZE - packet.data.length) 0)).2.1] at htype
    rw [applicationMessage_of_checked hchecked htype, Option.isSome_some]

/-- What a Node sends reaches the application of the next one as it was built. -/
theorem applicationMessage_of_sent {sender : Sender} {destination nextHop : MacAddress} {messageType : MessageType}
    {payload : Option (List UInt8)} {payloadLength : Nat} {padding : MessageHeader.Padding}
    (hbuilt : WireFormat.Built sender destination messageType payload payloadLength message)
    (happlication : messageType.isApplication = true)
    (hsent : WireFormat.sendMessageTo sender nextHop padding message = some packet.data) :
    applicationMessage packet = some ⟨packet.senderMacAddress, packet.signalStrengthDbm, message⟩ := by
  have hchecked : checkedMessage packet.data = some message := by
    unfold WireFormat.sendMessageTo at hsent
    rw [hbuilt.payloadLength_toNat] at hsent
    split_ifs at hsent
    rw [← Option.some.inj hsent, hbuilt.checkedMessage]
  have htype : message.header.messageType ∉ internalTypes := by
    rw [hbuilt.header]
    exact messageType.toByte_notMem_internalTypes.mpr happlication
  exact applicationMessage_of_checked hchecked htype

/-- A message is built from every payload that fits. It goes on the air exactly if its next hop is
a peer and the mutex is taken, and it then reaches a Node with room in its queue as it was built,
with zeros behind its payload. A packet is enqueued exactly if it is well formed and of no
internal type. -/
theorem wire_format (hroom : receiver.applicationMessages.length < APPLICATION_QUEUE_LENGTH) :
    (∀ (sender : Sender) (destination : MacAddress) (messageType : MessageType) (payload : Option (List UInt8))
        (payloadLength : Nat),
      (WireFormat.buildMessage sender destination messageType payload payloadLength).isSome = true ↔
        sender.initialized = true ∧ payloadLength ≤ MAX_PAYLOAD_SIZE ∧
          (0 < payloadLength → payload.isSome = true)) ∧
      (∀ (sender : Sender) (destination nextHop : MacAddress) (messageType : MessageType)
          (payload : Option (List UInt8)) (payloadLength : Nat) (padding : MessageHeader.Padding)
          (message : WireFormat.Message),
        WireFormat.buildMessage sender destination messageType payload payloadLength = some message →
        message.header = ⟨PROTOCOL_VERSION, messageType.toByte, UInt16.ofNat payloadLength, sender.nextMessageId,
            sender.localMacAddress, destination, DEFAULT_HOP_LIMIT⟩ ∧
          message.payload.toList = (payload.getD []).take payloadLength ++
            List.replicate (MAX_PAYLOAD_SIZE - ((payload.getD []).take payloadLength).length) 0 ∧
          ((WireFormat.sendMessageTo sender nextHop padding message).isSome = true ↔
            (nextHop = BROADCAST_MAC_ADDRESS ∨ sender.hasPeer nextHop = true ∨ sender.addPeer nextHop = true) ∧
              sender.sendMutexTaken = true) ∧
          (messageType.isApplication = true → ∀ packet : RawReceivedPacket,
            WireFormat.sendMessageTo sender nextHop padding message = some packet.data →
            (receiver.processRawReceivedPacket packet).1.applicationMessages =
              receiver.applicationMessages ++ [⟨packet.senderMacAddress, packet.signalStrengthDbm, message⟩])) ∧
      ∀ packet : RawReceivedPacket,
        (∃ received, (receiver.processRawReceivedPacket packet).1.applicationMessages =
          receiver.applicationMessages ++ [received]) ↔
          MessageHeader.layout.size ≤ packet.data.length ∧ packet.data.length ≤ WireFormat.MAX_MESSAGE_SIZE ∧
            packet.data.getD 0 0 = PROTOCOL_VERSION ∧ declaredLength packet.data ≤ MAX_PAYLOAD_SIZE ∧
            MessageHeader.layout.size + declaredLength packet.data ≤ packet.data.length ∧
            packet.data.getD 1 0 ∉ internalTypes := by
  refine ⟨fun sender destination messageType payload payloadLength => WireFormat.buildMessage_isSome_iff,
    fun sender destination nextHop messageType payload payloadLength padding message hbuild => ?_, fun packet => ?_⟩
  · have hbuilt := WireFormat.built_of_buildMessage hbuild
    have hinitialized : sender.initialized = true :=
      (WireFormat.buildMessage_isSome_iff.mp (Option.isSome_of_eq_some hbuild)).1
    refine ⟨hbuilt.header, hbuilt.payload, ?_, fun happlication packet hsent => ?_⟩
    · rw [hbuilt.sendMessageTo_eq hinitialized]
      split
      · next hsent => exact iff_of_true rfl hsent
      · next hnot => exact iff_of_false Bool.false_ne_true hnot
    · rw [processRawReceivedPacket_applicationMessages, applicationMessage_of_sent hbuilt happlication hsent]
      exact if_pos hroom
  · have henqueued : (∃ received, (receiver.processRawReceivedPacket packet).1.applicationMessages =
        receiver.applicationMessages ++ [received]) ↔ (applicationMessage packet).isSome := by
      rw [processRawReceivedPacket_applicationMessages]
      cases applicationMessage packet with
      | none => simp
      | some received =>
        dsimp only
        rw [if_pos hroom]
        exact iff_of_true ⟨received, rfl⟩ rfl
    rw [henqueued, applicationMessage_isSome_iff]
    constructor
    · rintro ⟨⟨header, size, version, payload, complete⟩, htype⟩
      exact ⟨header, size, version, payload, complete, htype⟩
    · rintro ⟨header, size, version, payload, complete, htype⟩
      exact ⟨⟨header, size, version, payload, complete⟩, htype⟩

/-- A Node that knows nobody yet and adds every peer. -/
def hallSender : Sender := ⟨true, Vector.replicate 6 2, 7, fun _ => false, fun _ => true, true⟩

/-- The hall builds a message of three bytes and sends it, and it is the first in the queue of a Node
that has just booted. -/
theorem wire_format_boot :
    ∃ message data,
      WireFormat.buildMessage hallSender (Vector.replicate 6 3) .NODE_REPORT (some [10, 20, 30]) 3 = some message ∧
      WireFormat.sendMessageTo hallSender (Vector.replicate 6 3) (Vector.replicate 3 0) message = some data ∧
      data.length = 27 ∧ message.payload.toList.take 4 = [10, 20, 30, 0] ∧
      (Receiver.processRawReceivedPacket ⟨hallSender.localMacAddress, -60, data⟩
          ⟨.boot (Vector.replicate 6 3), [], []⟩).1.applicationMessages =
        [⟨hallSender.localMacAddress, -60, message⟩] := by
  obtain ⟨hbuilds, hsends, -⟩ := @wire_format ⟨.boot (Vector.replicate 6 3), [], []⟩ (by decide)
  obtain ⟨message, hmessage⟩ := Option.isSome_iff_exists.mp
    ((hbuilds hallSender (Vector.replicate 6 3) .NODE_REPORT (some [10, 20, 30]) 3).mpr (by decide))
  obtain ⟨-, hpayload, hair, hreceived⟩ := hsends hallSender (Vector.replicate 6 3) (Vector.replicate 6 3)
    .NODE_REPORT (some [10, 20, 30]) 3 (Vector.replicate 3 0) message hmessage
  obtain ⟨data, hdata⟩ := Option.isSome_iff_exists.mp (hair.mpr ⟨.inr (.inr rfl), rfl⟩)
  have hlength : data.length = 27 := by
    rw [(WireFormat.built_of_buildMessage hmessage).sendMessageTo_eq rfl, if_pos ⟨.inr (.inr rfl), rfl⟩] at hdata
    rw [← Option.some.inj hdata, List.length_take, WireFormat.Message.length_bytes]
    decide
  exact ⟨message, data, hmessage, hdata, hlength, by rw [hpayload]; decide,
    hreceived rfl ⟨hallSender.localMacAddress, -60, data⟩ hdata⟩

end Receiver

end kilowatts.PacketReceiver
