import Kilowatts.EspNowCommunication.HopLimit
import Kilowatts.Library.PackedRecords

namespace kilowatts

/-- The values cross the wire, so they are append-only. -/
def MessageType.toByte : MessageType → UInt8
  | .NODE_REPORT => 1
  | .LOAD_REPORT => 2
  | .RELAY_COMMAND => 3
  | .ACKNOWLEDGEMENT => 4
  | .ERROR_MESSAGE => 5
  | .HANDSHAKE => 6
  | .DISCOVERY_REQUEST => 7
  | .DISCOVERY_RESPONSE => 8
  | .IDENTITY_REPORT => 9
  | .COMMISSION_COMMAND => 10
  | .COMMISSION_ACK => 11
  | .DECOMMISSION_COMMAND => 12
  | .DECOMMISSION_ACK => 13
  | .NODE_REPORT_ACK => 14
  | .FACTORY_RESET_COMMAND => 18
  | .FACTORY_RESET_ACK => 19
  | .CONFIGURE_LOAD_COMMAND => 20
  | .CONFIGURE_LOAD_ACK => 21

/-- The three types that the communication layer keeps to itself. -/
def internalTypes : List UInt8 :=
  [MessageType.HANDSHAKE.toByte, MessageType.DISCOVERY_REQUEST.toByte, MessageType.DISCOVERY_RESPONSE.toByte]

/-- A type is for the application exactly when its byte is not internal. -/
theorem MessageType.toByte_notMem_internalTypes (messageType : MessageType) :
    messageType.toByte ∉ internalTypes ↔ messageType.isApplication = true := by
  cases messageType <;> decide

namespace WireFormat

open PackedLayout EspNowCommunication

/-- The header as it lies in memory and on the air. Received bytes need not be those of
a `MessageType`. -/
structure MessageHeader where
  protocolVersion : UInt8
  messageType : UInt8
  payloadLength : UInt16
  messageId : UInt32
  originMacAddress : MacAddress
  destinationMacAddress : MacAddress
  hopsRemaining : UInt8
deriving DecidableEq

namespace MessageHeader

/-- The fields of a header, in the order of the struct. -/
def fields : MessageHeader ≃ UInt8 × UInt8 × UInt16 × UInt32 × MacAddress × MacAddress × UInt8 where
  toFun header := (header.protocolVersion, header.messageType, header.payloadLength, header.messageId,
    header.originMacAddress, header.destinationMacAddress, header.hopsRemaining)
  invFun := fun (protocolVersion, messageType, payloadLength, messageId, origin, destination, hopsRemaining) =>
    ⟨protocolVersion, messageType, payloadLength, messageId, origin, destination, hopsRemaining⟩
  left_inv _ := rfl
  right_inv _ := rfl

/-- The padding behind a header. -/
abbrev Padding := Vector UInt8 3

/-- The padding completes the last word of the header. -/
def layout : PackedLayout (MessageHeader × Padding) :=
  .pair (.named fields (uint8.pair (uint8.pair (uint16.pair (uint32.pair ((array 6).pair ((array 6).pair uint8)))))))
    (array 3)

/-- The struct has 24 bytes, three of them padding. -/
theorem layout_size : layout.size = 24 := rfl

end MessageHeader

/-- The largest packet that ESP-NOW carries. -/
def MAX_MESSAGE_SIZE : Nat := 250

/-- A header and a full payload fill the packet. -/
theorem header_add_payload : MessageHeader.layout.size + MAX_PAYLOAD_SIZE = MAX_MESSAGE_SIZE := rfl

/-- Only the first `payloadLength` bytes of the payload are valid. -/
structure Message where
  header : MessageHeader
  payload : Vector UInt8 MAX_PAYLOAD_SIZE
deriving DecidableEq

namespace Message

/-- The header, its padding and the whole payload array. -/
def layout : PackedLayout ((MessageHeader × MessageHeader.Padding) × Vector UInt8 MAX_PAYLOAD_SIZE) :=
  MessageHeader.layout.pair (array MAX_PAYLOAD_SIZE)

/-- The struct is as long as the largest packet. -/
theorem layout_size : layout.size = MAX_MESSAGE_SIZE := rfl

/-- The message in memory. Nothing is known about its padding. -/
def bytes (padding : MessageHeader.Padding) (message : Message) : List UInt8 :=
  layout.encode ((message.header, padding), message.payload)

/-- The fields that stand in the bytes of the struct. -/
def ofBytes (bytes : List UInt8) : Message :=
  ⟨(layout.decode bytes).1.1, (layout.decode bytes).2⟩

/-- The struct always has its full length. -/
@[simp] theorem length_bytes (padding : MessageHeader.Padding) (message : Message) :
    (message.bytes padding).length = MAX_MESSAGE_SIZE :=
  layout.length_encode _

/-- The fields are read back from the bytes, whatever the padding is. -/
theorem ofBytes_bytes (padding : MessageHeader.Padding) (message : Message) :
    ofBytes (message.bytes padding) = message := by
  have hdecode := layout.decode_append ((message.header, padding), message.payload) []
  rw [List.append_nil] at hdecode
  rw [ofBytes, bytes, hdecode]

end Message

/-- The bytes of one radio hop, and who sent them. -/
structure RawReceivedPacket where
  senderMacAddress : MacAddress
  signalStrengthDbm : Int8
  data : List UInt8
deriving DecidableEq

/-- What a Node needs to build and send messages. -/
structure Sender where
  initialized : Bool
  localMacAddress : MacAddress
  nextMessageId : UInt32
  hasPeer : MacAddress → Bool
  addPeer : MacAddress → Bool
  sendMutexTaken : Bool

/-- `none` for a payload is the null pointer. -/
def buildMessage (sender : Sender) (destinationMacAddress : MacAddress) (messageType : MessageType)
    (payload : Option (List UInt8)) (payloadLength : Nat) : Option Message :=
  if !sender.initialized || MAX_PAYLOAD_SIZE < payloadLength || (0 < payloadLength && payload.isNone) then none
  else
    some {
      header := {
        protocolVersion := PROTOCOL_VERSION
        messageType := messageType.toByte
        payloadLength := UInt16.ofNat payloadLength
        messageId := sender.nextMessageId
        originMacAddress := sender.localMacAddress
        destinationMacAddress
        hopsRemaining := DEFAULT_HOP_LIMIT }
      payload := Vector.ofFn fun i => ((payload.getD []).take payloadLength)[i.val]?.getD 0 }

/-- The bytes that are handed to the radio, if it comes to that. -/
def sendMessageTo (sender : Sender) (nextHopMacAddress : MacAddress) (padding : MessageHeader.Padding)
    (message : Message) : Option (List UInt8) :=
  if !sender.initialized then none
  else if MAX_PAYLOAD_SIZE < message.header.payloadLength.toNat then none
  else if nextHopMacAddress ≠ BROADCAST_MAC_ADDRESS ∧ !sender.hasPeer nextHopMacAddress ∧
      !sender.addPeer nextHopMacAddress then none
  else if !sender.sendMutexTaken then none
  else some ((message.bytes padding).take (MessageHeader.layout.size + message.header.payloadLength.toNat))

/-- The part of `processRawReceivedPacket` in front of the message types. -/
def checkedMessage (data : List UInt8) : Option Message :=
  if data.length < MessageHeader.layout.size ∨ MAX_MESSAGE_SIZE < data.length then none
  else
    let message := Message.ofBytes (data ++ List.replicate (MAX_MESSAGE_SIZE - data.length) 0)
    if message.header.protocolVersion ≠ PROTOCOL_VERSION then none
    else if MAX_PAYLOAD_SIZE < message.header.payloadLength.toNat then none
    else if data.length < MessageHeader.layout.size + message.header.payloadLength.toNat then none
    else some message

section Building

variable {sender : Sender} {destinationMacAddress : MacAddress} {messageType : MessageType}
  {payload : Option (List UInt8)} {payloadLength : Nat} {message : Message}

/-- What is known about a message that has been built. -/
structure Built (sender : Sender) (destinationMacAddress : MacAddress) (messageType : MessageType)
    (payload : Option (List UInt8)) (payloadLength : Nat) (message : Message) : Prop where
  fits : payloadLength ≤ MAX_PAYLOAD_SIZE
  header : message.header = ⟨PROTOCOL_VERSION, messageType.toByte, UInt16.ofNat payloadLength, sender.nextMessageId,
    sender.localMacAddress, destinationMacAddress, DEFAULT_HOP_LIMIT⟩
  payload : message.payload.toList = (payload.getD []).take payloadLength ++
    List.replicate (MAX_PAYLOAD_SIZE - ((payload.getD []).take payloadLength).length) 0

/-- A buffer that is cleared and then filled holds the bytes and zeros. Needs that they fit. -/
theorem zeroFilled_toList {size : Nat} {bytes : List UInt8} (hfits : bytes.length ≤ size) :
    (Vector.ofFn fun i : Fin size => bytes[i.val]?.getD 0).toList =
      bytes ++ List.replicate (size - bytes.length) 0 := by
  apply List.ext_getElem
  · simp [Nat.add_sub_cancel' hfits]
  · intro i hi hbytes
    rw [List.getElem_append]
    split
    · rename_i hinside
      simp [List.getElem?_eq_getElem hinside]
    · rename_i hbehind
      simp [List.getElem?_eq_none (Nat.le_of_not_lt hbehind)]

/-- What `buildMessage` returns has every field as asked for. -/
theorem built_of_buildMessage
    (hbuild : buildMessage sender destinationMacAddress messageType payload payloadLength = some message) :
    Built sender destinationMacAddress messageType payload payloadLength message := by
  unfold buildMessage at hbuild
  split at hbuild
  · cases hbuild
  · rename_i hchecks
    simp only [Bool.or_eq_true, decide_eq_true_eq, not_or, not_lt] at hchecks
    obtain rfl := Option.some.inj hbuild
    have hcopied : ((payload.getD []).take payloadLength).length ≤ MAX_PAYLOAD_SIZE :=
      (List.length_take_le _ _).trans hchecks.1.2
    exact ⟨hchecks.1.2, rfl, zeroFilled_toList hcopied⟩

/-- A message is built if and only if the radio is initialized and the payload fits and is there. -/
theorem buildMessage_isSome_iff :
    (buildMessage sender destinationMacAddress messageType payload payloadLength).isSome = true ↔
      sender.initialized = true ∧ payloadLength ≤ MAX_PAYLOAD_SIZE ∧ (0 < payloadLength → payload.isSome = true) := by
  unfold buildMessage
  cases sender.initialized with
  | false => simp
  | true => cases payload <;> simp [and_comm]

/-- The length in the header is the length of the payload, since it fits into 16 bits. -/
theorem Built.payloadLength_toNat (hbuilt : Built sender destinationMacAddress messageType payload payloadLength message) :
    message.header.payloadLength.toNat = payloadLength := by
  have hbound : MAX_PAYLOAD_SIZE < UInt16.size := by decide
  rw [hbuilt.header]
  exact UInt16.toNat_ofNat_of_lt' (hbuilt.fits.trans_lt hbound)

/-- Behind the payload there are only zeros. -/
theorem Built.drop_payload (hbuilt : Built sender destinationMacAddress messageType payload payloadLength message) :
    message.payload.toList.drop payloadLength = List.replicate (MAX_PAYLOAD_SIZE - payloadLength) 0 := by
  have hcopied : ((payload.getD []).take payloadLength).length ≤ payloadLength := List.length_take_le _ _
  rw [hbuilt.payload, List.drop_append, List.drop_eq_nil_of_le hcopied, List.nil_append, List.drop_replicate]
  congr 1
  omega

/-- A built message goes on the air if its next hop is a peer, or becomes one, and the mutex is taken. -/
theorem Built.sendMessageTo_eq (hbuilt : Built sender destinationMacAddress messageType payload payloadLength message)
    (hinitialized : sender.initialized = true) (nextHopMacAddress : MacAddress) (padding : MessageHeader.Padding) :
    sendMessageTo sender nextHopMacAddress padding message =
      if (nextHopMacAddress = BROADCAST_MAC_ADDRESS ∨ sender.hasPeer nextHopMacAddress = true ∨
          sender.addPeer nextHopMacAddress = true) ∧ sender.sendMutexTaken = true then
        some ((message.bytes padding).take (MessageHeader.layout.size + payloadLength))
      else none := by
  unfold sendMessageTo
  rw [hinitialized, hbuilt.payloadLength_toNat, if_neg (by decide), if_neg (Nat.not_lt.mpr hbuilt.fits)]
  by_cases hpeer : nextHopMacAddress = BROADCAST_MAC_ADDRESS ∨ sender.hasPeer nextHopMacAddress = true ∨
      sender.addPeer nextHopMacAddress = true
  · rw [if_neg (by simpa [imp_iff_not_or, or_assoc] using hpeer)]
    cases sender.sendMutexTaken <;> simp [hpeer]
  · rw [if_pos (by simpa using hpeer), if_neg fun hsent => hpeer hsent.1]

/-- What the sender puts on the air passes the checks of a receiver as it was. -/
theorem Built.checkedMessage (hbuilt : Built sender destinationMacAddress messageType payload payloadLength message)
    (padding : MessageHeader.Padding) :
    checkedMessage ((message.bytes padding).take (MessageHeader.layout.size + payloadLength)) = some message := by
  have hfits := hbuilt.fits
  have hlength : ((message.bytes padding).take (MessageHeader.layout.size + payloadLength)).length =
      MessageHeader.layout.size + payloadLength := by
    rw [List.length_take, Message.length_bytes, ← header_add_payload]
    omega
  have hzeros : (message.bytes padding).drop (MessageHeader.layout.size + payloadLength) =
      List.replicate (MAX_MESSAGE_SIZE - (MessageHeader.layout.size + payloadLength)) 0 := by
    have hbytes : message.bytes padding =
        MessageHeader.layout.encode (message.header, padding) ++ message.payload.toList := rfl
    rw [hbytes, ← List.drop_drop, ← MessageHeader.layout.length_encode (message.header, padding), List.drop_left,
      hbuilt.drop_payload, MessageHeader.layout.length_encode, ← header_add_payload]
    congr 1
    omega
  have hrestored : (message.bytes padding).take (MessageHeader.layout.size + payloadLength) ++
      List.replicate (MAX_MESSAGE_SIZE - (MessageHeader.layout.size + payloadLength)) 0 = message.bytes padding := by
    rw [← hzeros, List.take_append_drop]
  have hversion : message.header.protocolVersion = PROTOCOL_VERSION := by rw [hbuilt.header]
  unfold WireFormat.checkedMessage
  rw [hlength, if_neg (by rw [← header_add_payload]; omega)]
  dsimp only
  rw [hrestored, Message.ofBytes_bytes, hbuilt.payloadLength_toNat, if_neg (not_not.mpr hversion),
    if_neg (Nat.not_lt.mpr hfits), if_neg (lt_irrefl _)]

end Building

section Checking

/-- The payload length that the bytes of a header declare. -/
def declaredLength (data : List UInt8) : Nat := (data.getD 2 0).toNat + 256 * (data.getD 3 0).toNat

/-- What the bytes of a packet must be for its message to be looked at. -/
structure WellFormed (data : List UInt8) : Prop where
  header : MessageHeader.layout.size ≤ data.length
  size : data.length ≤ MAX_MESSAGE_SIZE
  version : data.getD 0 0 = PROTOCOL_VERSION
  payload : declaredLength data ≤ MAX_PAYLOAD_SIZE
  complete : MessageHeader.layout.size + declaredLength data ≤ data.length

/-- Which bytes the checked fields of the header are read from. Needs a packet as long as the header. -/
theorem ofBytes_header {data : List UInt8} (hheader : MessageHeader.layout.size ≤ data.length) (rest : List UInt8) :
    (Message.ofBytes (data ++ rest)).header.protocolVersion = data.getD 0 0 ∧
      (Message.ofBytes (data ++ rest)).header.messageType = data.getD 1 0 ∧
      (Message.ofBytes (data ++ rest)).header.payloadLength.toNat = declaredLength data := by
  match data, hheader with
  | version :: messageType :: low :: high :: data, _ =>
    refine ⟨rfl, rfl, ?_⟩
    have hlow := low.toNat_lt
    have hhigh := high.toNat_lt
    have hnumber : low.toNat + 256 * (high.toNat + 256 * 0) < UInt16.size := by
      rw [show UInt16.size = 65536 from rfl]
      omega
    exact UInt16.toNat_ofNat_of_lt' hnumber

/-- A packet is accepted if and only if it is well formed, and the message is read from it with zeros
behind. -/
theorem checkedMessage_eq_some_iff {data : List UInt8} {message : Message} :
    checkedMessage data = some message ↔ WellFormed data ∧
      Message.ofBytes (data ++ List.replicate (MAX_MESSAGE_SIZE - data.length) 0) = message := by
  unfold checkedMessage
  by_cases hlength : data.length < MessageHeader.layout.size ∨ MAX_MESSAGE_SIZE < data.length
  · rw [if_pos hlength]
    constructor
    · intro hnone
      cases hnone
    · rintro ⟨hwellFormed, -⟩
      have hheader := hwellFormed.header
      have hsize := hwellFormed.size
      omega
  · rw [not_or, not_lt, not_lt] at hlength
    obtain ⟨hversion, -, hpayload⟩ :=
      ofBytes_header hlength.1 (List.replicate (MAX_MESSAGE_SIZE - data.length) 0)
    rw [if_neg (by omega)]
    dsimp only
    rw [hversion, hpayload]
    constructor
    · intro hsome
      split_ifs at hsome with hother hlong hshort
      exact ⟨⟨hlength.1, hlength.2, not_not.mp hother, Nat.le_of_not_lt hlong, Nat.le_of_not_lt hshort⟩,
        Option.some.inj hsome⟩
    · rintro ⟨hwellFormed, rfl⟩
      rw [if_neg (not_not.mpr hwellFormed.version), if_neg (Nat.not_lt.mpr hwellFormed.payload),
        if_neg (Nat.not_lt.mpr hwellFormed.complete)]

end Checking

end WireFormat

end kilowatts
