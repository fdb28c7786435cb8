import Kilowatts.Central.Routing

namespace kilowatts

/-- The message types of the protocol, in the order of their numbers. -/
inductive MessageType where
  | NODE_REPORT
  | LOAD_REPORT
  | RELAY_COMMAND
  | ACKNOWLEDGEMENT
  | ERROR_MESSAGE
  | HANDSHAKE
  | DISCOVERY_REQUEST
  | DISCOVERY_RESPONSE
  | IDENTITY_REPORT
  | COMMISSION_COMMAND
  | COMMISSION_ACK
  | DECOMMISSION_COMMAND
  | DECOMMISSION_ACK
  | NODE_REPORT_ACK
  | FACTORY_RESET_COMMAND
  | FACTORY_RESET_ACK
  | CONFIGURE_LOAD_COMMAND
  | CONFIGURE_LOAD_ACK
deriving DecidableEq

/-- The sender of one radio hop is not in the header: the radio supplies it. -/
structure MessageHeader where
  protocolVersion : UInt8
  messageType : MessageType
  payloadLength : UInt16
  messageId : UInt32
  originMacAddress : MacAddress
  destinationMacAddress : MacAddress
  hopsRemaining : UInt8
deriving DecidableEq

/-- A message: its header and the payload that the header describes. -/
structure Message where
  header : MessageHeader
  payload : List UInt8
deriving DecidableEq

/-- One message on its way over one radio hop. -/
structure Frame where
  senderMacAddress : MacAddress
  receiverMacAddress : MacAddress
  message : Message
deriving DecidableEq

namespace EspNowCommunication

/-- The version that every header carries. -/
def PROTOCOL_VERSION : UInt8 := 1

/-- How many transmissions a message is built with. -/
def DEFAULT_HOP_LIMIT : UInt8 := 16

/-- The 250 bytes of an ESP-NOW frame less the 24 bytes of a `MessageHeader`. -/
def MAX_PAYLOAD_SIZE : Nat := 250 - 24

/-- The header of a message that this Node originates. -/
def buildHeader (localMacAddress : MacAddress) (messageId : UInt32) (destinationMacAddress : MacAddress)
    (messageType : MessageType) (payload : List UInt8) : MessageHeader where
  protocolVersion := PROTOCOL_VERSION
  messageType
  payloadLength := UInt16.ofNat payload.length
  messageId
  originMacAddress := localMacAddress
  destinationMacAddress
  hopsRemaining := DEFAULT_HOP_LIMIT

/-- A payload above the limit is refused; nothing else is checked. -/
def buildMessage (localMacAddress : MacAddress) (messageId : UInt32) (destinationMacAddress : MacAddress)
    (messageType : MessageType) (payload : List UInt8) : Option Message :=
  if payload.length > MAX_PAYLOAD_SIZE then none
  else some ⟨buildHeader localMacAddress messageId destinationMacAddress messageType payload, payload⟩

/-- Hands a message to the radio. -/
def sendMessageTo (localMacAddress nextHopMacAddress : MacAddress) (message : Message) : Option Frame :=
  if message.header.payloadLength.toNat > MAX_PAYLOAD_SIZE then none
  else some ⟨localMacAddress, nextHopMacAddress, message⟩

/-- The frame that goes on the air when the message can be built. -/
def sendTo (localMacAddress : MacAddress) (messageId : UInt32) (nextHopMacAddress destinationMacAddress : MacAddress)
    (messageType : MessageType) (payload : List UInt8) : Option Frame :=
  (buildMessage localMacAddress messageId destinationMacAddress messageType payload).bind
    (sendMessageTo localMacAddress nextHopMacAddress)

/-- The message after one hop: only the hop counter changes. -/
def forwardedMessage (message : Message) : Message :=
  { message with header := { message.header with hopsRemaining := message.header.hopsRemaining - 1 } }

/-- Keeps origin, destination and message id, and gives up at hop limit zero. -/
def forwardMessageTo (localMacAddress nextHopMacAddress : MacAddress) (message : Message) : Option Frame :=
  if message.header.payloadLength.toNat > MAX_PAYLOAD_SIZE then none
  else if message.header.hopsRemaining = 0 then none
  else sendMessageTo localMacAddress nextHopMacAddress (forwardedMessage message)

/-- What a message must be for `forwardMessageTo` to pass it on. -/
def Forwardable (message : Message) : Prop :=
  message.header.payloadLength.toNat ≤ MAX_PAYLOAD_SIZE ∧ message.header.hopsRemaining ≠ 0

/-- A message with hops left is sent on as it came, one hop poorer. -/
theorem forwardMessageTo_of_forwardable {message : Message} (hforwardable : Forwardable message)
    (localMacAddress nextHopMacAddress : MacAddress) :
    forwardMessageTo localMacAddress nextHopMacAddress message =
      some ⟨localMacAddress, nextHopMacAddress, forwardedMessage message⟩ := by
  obtain ⟨hpayload, hhops⟩ := hforwardable
  rw [forwardMessageTo, if_neg (by omega), if_neg hhops, sendMessageTo]
  exact if_neg (Nat.not_lt.mpr hpayload)

/-- A payload within the limit is sent with the full hop limit. -/
theorem sendTo_eq_some {payload : List UInt8} (hpayload : payload.length ≤ MAX_PAYLOAD_SIZE)
    (localMacAddress nextHopMacAddress destinationMacAddress : MacAddress) (messageId : UInt32)
    (messageType : MessageType) :
    sendTo localMacAddress messageId nextHopMacAddress destinationMacAddress messageType payload =
      some ⟨localMacAddress, nextHopMacAddress,
        ⟨buildHeader localMacAddress messageId destinationMacAddress messageType payload, payload⟩⟩ := by
  have hlength : (UInt16.ofNat payload.length).toNat ≤ MAX_PAYLOAD_SIZE := by
    rw [UInt16.toNat_ofNat']
    exact (Nat.mod_le _ _).trans hpayload
  rw [sendTo, buildMessage, if_neg (by omega), Option.bind_some, sendMessageTo]
  exact if_neg (by simpa [buildHeader] using hlength)

/-- A message that has just been built can be forwarded. -/
theorem buildHeader_forwardable {payload : List UInt8} (hpayload : payload.length ≤ MAX_PAYLOAD_SIZE)
    (localMacAddress destinationMacAddress : MacAddress) (messageId : UInt32) (messageType : MessageType) :
    Forwardable ⟨buildHeader localMacAddress messageId destinationMacAddress messageType payload, payload⟩ := by
  refine ⟨?_, show DEFAULT_HOP_LIMIT ≠ 0 by decide⟩
  simp only [buildHeader, UInt16.toNat_ofNat']
  exact (Nat.mod_le _ _).trans hpayload

end EspNowCommunication

open EspNowCommunication

/-- The branch of Central's receiver for a message to another Node. -/
def Central.forward (registry : CentralNodeRegistry) (localMac : MacAddress) (frame : Frame) : Option Frame :=
  match registry.findNextHopFromCentral localMac frame.message.header.destinationMacAddress with
  | none => none
  | some nextHop => forwardMessageTo localMac nextHop frame.message

/-- The branch of a Smart Node's receiver for a message to another Node: what
comes from below goes up, and everything else goes straight to its destination. -/
def Smart.forward (localMac : MacAddress) (upstreamNode : Option MacAddress) (frame : Frame) : Option Frame :=
  match upstreamNode with
  | none => forwardMessageTo localMac frame.message.header.destinationMacAddress frame.message
  | some upstream =>
    if frame.senderMacAddress ≠ upstream then forwardMessageTo localMac upstream frame.message
    else forwardMessageTo localMac frame.message.header.destinationMacAddress frame.message

end kilowatts
