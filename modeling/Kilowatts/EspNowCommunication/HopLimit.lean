import Kilowatts.EspNowCommunication.TreeDelivery
import Kilowatts.Library.Run

namespace kilowatts

open EspNowCommunication

/-- The communication layer keeps discovery and handshake messages to itself. -/
def MessageType.isApplication : MessageType → Bool
  | .DISCOVERY_REQUEST | .DISCOVERY_RESPONSE | .HANDSHAKE => false
  | _ => true

/-- The address that every Node in range receives. -/
def BROADCAST_MAC_ADDRESS : MacAddress := Vector.replicate 6 255

/-- `sendToCentral` of a Node with the route that it selected, if any. -/
def EspNowCommunication.sendToCentral (localMac : MacAddress) (messageId : UInt32)
    (upstreamNode centralMacAddress : Option MacAddress) (messageType : MessageType) (payload : List UInt8) :
    Option Frame :=
  match upstreamNode, centralMacAddress with
  | some upstream, some central => sendTo localMac messageId upstream central messageType payload
  | _, _ => none

/-- The program of a Node, with what it looks up its next hops in. -/
inductive Forwarder where
  | central (registry : CentralNodeRegistry)
  | smart (upstreamNode : Option MacAddress)

/-- Central routes by its registry, a Smart Node by its upstream and the sender. -/
def Forwarder.forward (localMac : MacAddress) (frame : Frame) : Forwarder → Option Frame
  | central registry => Central.forward registry localMac frame
  | smart upstreamNode => Smart.forward localMac upstreamNode frame

/-- A Node that has received a frame. -/
structure Hop where
  localMac : MacAddress
  forwarder : Forwarder

/-- The Node of the hop hears a frame that is not for itself, and transmits the
message again. -/
structure Retransmission (frame : Frame) (hop : Hop) (next : Frame) : Prop where
  hears : frame.receiverMacAddress = hop.localMac ∨ frame.receiverMacAddress = BROADCAST_MAC_ADDRESS
  application : frame.message.header.messageType.isApplication = true
  foreign : hop.localMac ≠ frame.message.header.destinationMacAddress
  forward : hop.forwarder.forward hop.localMac frame = some next

/-- A frame is sent on only with hops left, and its message is the one that came in, one hop poorer. -/
theorem forwardMessageTo_eq_some {localMac nextHop : MacAddress} {message : Message} {next : Frame}
    (hforward : forwardMessageTo localMac nextHop message = some next) :
    message.header.hopsRemaining ≠ 0 ∧ next = ⟨localMac, nextHop, forwardedMessage message⟩ := by
  unfold forwardMessageTo at hforward
  split at hforward
  · cases hforward
  split at hforward
  · cases hforward
  rename_i hhops
  unfold sendMessageTo at hforward
  split at hforward
  · cases hforward
  · exact ⟨hhops, (Option.some.inj hforward).symm⟩

/-- Whatever a Node looks up, it sends the same message on, with one hop less. -/
theorem Forwarder.forward_eq_some {forwarder : Forwarder} {localMac : MacAddress} {frame next : Frame}
    (hforward : forwarder.forward localMac frame = some next) :
    frame.message.header.hopsRemaining ≠ 0 ∧ next.message = forwardedMessage frame.message := by
  have hforwarded : ∃ nextHop, forwardMessageTo localMac nextHop frame.message = some next := by
    cases forwarder with
    | central registry =>
      simp only [forward, Central.forward] at hforward
      split at hforward
      · cases hforward
      · exact ⟨_, hforward⟩
    | smart upstreamNode =>
      simp only [forward, Smart.forward] at hforward
      split at hforward
      · exact ⟨_, hforward⟩
      split at hforward
      · exact ⟨_, hforward⟩
      · exact ⟨_, hforward⟩
  obtain ⟨nextHop, hnext⟩ := hforwarded
  obtain ⟨hhops, rfl⟩ := forwardMessageTo_eq_some hnext
  exact ⟨hhops, rfl⟩

/-- A forward takes one of the hops that remain. -/
theorem forwardedMessage_hopsRemaining {message : Message} (hhops : message.header.hopsRemaining ≠ 0) :
    (forwardedMessage message).header.hopsRemaining.toNat + 1 = message.header.hopsRemaining.toNat := by
  have hone : (1 : UInt8) ≤ message.header.hopsRemaining := by
    rw [UInt8.le_iff_toNat_le, UInt8.toNat_one]
    have hne : message.header.hopsRemaining.toNat ≠ 0 := fun hzero => hhops (UInt8.toNat_inj.mp hzero)
    omega
  have hle := UInt8.le_iff_toNat_le.mp hone
  rw [UInt8.toNat_one] at hle
  rw [forwardedMessage, UInt8.toNat_sub_of_le _ _ hone, UInt8.toNat_one]
  omega

/-- Every retransmission takes one of the hops that remain. -/
theorem Retransmission.hopsRemaining {frame next : Frame} {hop : Hop} (hstep : Retransmission frame hop next) :
    next.message.header.hopsRemaining.toNat + 1 = frame.message.header.hopsRemaining.toNat := by
  obtain ⟨hhops, hmessage⟩ := Forwarder.forward_eq_some hstep.forward
  rw [hmessage]
  exact forwardedMessage_hopsRemaining hhops

/-- What `sendTo` puts on the air, exactly. -/
theorem sendTo_eq_some_iff {localMac nextHop destinationMac : MacAddress} {messageId : UInt32}
    {messageType : MessageType} {payload : List UInt8} {first : Frame} :
    sendTo localMac messageId nextHop destinationMac messageType payload = some first ↔
      payload.length ≤ MAX_PAYLOAD_SIZE ∧ first = ⟨localMac, nextHop,
        ⟨buildHeader localMac messageId destinationMac messageType payload, payload⟩⟩ := by
  constructor
  · intro hsend
    by_cases hpayload : payload.length ≤ MAX_PAYLOAD_SIZE
    · rw [sendTo_eq_some hpayload] at hsend
      exact ⟨hpayload, (Option.some.inj hsend).symm⟩
    · rw [sendTo, buildMessage, if_pos (Nat.not_le.mp hpayload)] at hsend
      cases hsend
  · rintro ⟨hpayload, rfl⟩
    exact sendTo_eq_some hpayload _ _ _ _ _

/-- The hop counter is the measure, and nothing else is: next hops may be looked up
in tables that contradict each other or change between two hops. -/
theorem retransmissions_le {localMac nextHop destinationMac : MacAddress} {messageId : UInt32}
    {messageType : MessageType} {payload : List UInt8} {first last : Frame} {hops : List Hop}
    (hsend : sendTo localMac messageId nextHop destinationMac messageType payload = some first)
    (hrun : Run Retransmission first hops last) : hops.length ≤ 16 := by
  have hmeasure := hrun.length_add_measure (fun frame => frame.message.header.hopsRemaining.toNat)
    (fun _ _ _ hstep => hstep.hopsRemaining)
  obtain ⟨-, rfl⟩ := sendTo_eq_some_iff.mp hsend
  change hops.length + last.message.header.hopsRemaining.toNat = 16 at hmeasure
  omega

namespace UpstreamTree

variable (tree : ParentTree MacAddress) (registry : CentralNodeRegistry)

/-- The program of a Node of the tree. Central may hold any tables. -/
def hopAt (macAddress : MacAddress) : Hop where
  localMac := macAddress
  forwarder :=
    if macAddress = tree.root then .central registry else .smart (some (tree.parent macAddress))

/-- A frame crosses a link of the tree, and its receiver sends the message on. -/
structure Passes (frame : Frame) (hop : Hop) (next : Frame) : Prop where
  crosses : tree.Linked frame.senderMacAddress frame.receiverMacAddress
  receiver : hop = hopAt tree registry frame.receiverMacAddress
  retransmission : Retransmission frame hop next

/-- The frame of a message from below to Central after some hops. -/
def climbing (localMac : MacAddress) (message : Message) (hops : Nat) : Frame where
  senderMacAddress := tree.parent^[hops] localMac
  receiverMacAddress := tree.parent^[hops + 1] localMac
  message := forwardedMessage^[hops] message

/-- After `hops` forwards only the hop counter differs. -/
theorem iterate_forwardedMessage_eq (message : Message) (hops : Nat) :
    forwardedMessage^[hops] message =
      { message with header := { message.header with
          hopsRemaining := (forwardedMessage^[hops] message).header.hopsRemaining } } := by
  induction hops with
  | zero => rfl
  | succ hops ih =>
    rw [Function.iterate_succ_apply', forwardedMessage, ih]

/-- Needs that there are enough hops: the counter wraps below zero. -/
theorem iterate_forwardedMessage_hopsRemaining {message : Message} {hops : Nat}
    (hhops : hops ≤ message.header.hopsRemaining.toNat) :
    (forwardedMessage^[hops] message).header.hopsRemaining.toNat + hops = message.header.hopsRemaining.toNat := by
  induction hops with
  | zero => rfl
  | succ hops ih =>
    have hbefore := ih (by omega)
    have hne : (forwardedMessage^[hops] message).header.hopsRemaining ≠ 0 := by
      intro hzero
      rw [hzero, UInt8.toNat_zero] at hbefore
      omega
    have hstep := forwardedMessage_hopsRemaining hne
    rw [Function.iterate_succ_apply']
    omega

variable {tree registry}

/-- Below Central every Node sends the message up once more, as long as the hop
counter allows for it. -/
theorem passes_climbing_iff {localMac : MacAddress} {depth hops : Nat}
    (hdepth : tree.HasDepth localMac (depth + hops + 2)) {message : Message}
    (hdestination : message.header.destinationMacAddress = tree.root)
    (happlication : message.header.messageType.isApplication = true)
    (hpayload : message.header.payloadLength.toNat ≤ MAX_PAYLOAD_SIZE) {hop : Hop} {next : Frame} :
    Passes tree registry (climbing tree localMac message hops) hop next ↔
      hop = hopAt tree registry (tree.parent^[hops + 1] localMac) ∧
        (forwardedMessage^[hops] message).header.hopsRemaining ≠ 0 ∧
        next = climbing tree localMac message (hops + 1) := by
  have hsender : tree.HasDepth (tree.parent^[hops] localMac) (depth + 1 + 1) :=
    ParentTree.HasDepth.iterate_parent (by convert hdepth using 1; omega)
  have hreceiver : tree.HasDepth (tree.parent^[hops + 1] localMac) (depth + 1) := by
    rw [Function.iterate_succ_apply']
    exact hsender.parent
  have hnotCentral : tree.parent^[hops + 1] localMac ≠ tree.root := hreceiver.ne_root
  have hheader := iterate_forwardedMessage_eq message hops
  have hbelow : tree.parent^[hops] localMac ≠
      tree.parent (tree.parent^[hops + 1] localMac) := by
    intro hsame
    have hequal := hsender.unique (hsame ▸ hreceiver.parent)
    omega
  have hforwards : (hopAt tree registry (tree.parent^[hops + 1] localMac)).forwarder.forward
      (tree.parent^[hops + 1] localMac) (climbing tree localMac message hops) =
      forwardMessageTo (tree.parent^[hops + 1] localMac)
        (tree.parent (tree.parent^[hops + 1] localMac)) (forwardedMessage^[hops] message) := by
    rw [hopAt, if_neg hnotCentral, Forwarder.forward, Smart.forward]
    exact if_pos hbelow
  have hnext : (⟨tree.parent^[hops + 1] localMac,
      tree.parent (tree.parent^[hops + 1] localMac),
      forwardedMessage (forwardedMessage^[hops] message)⟩ : Frame) = climbing tree localMac message (hops + 1) := by
    simp only [climbing, Function.iterate_succ_apply']
  constructor
  · rintro ⟨-, rfl, hretransmission⟩
    have hforward := hretransmission.forward
    dsimp only [hopAt, climbing] at hforward
    rw [← hnext]
    exact ⟨rfl, forwardMessageTo_eq_some (hforwards.symm.trans hforward)⟩
  · rintro ⟨rfl, hhops, rfl⟩
    refine ⟨.inl ⟨hsender.mem_nodes, (Function.iterate_succ_apply' _ _ _).symm⟩, rfl, .inl rfl, ?_, ?_, ?_⟩
    · rw [climbing, hheader]
      exact happlication
    · rw [climbing, hheader]
      exact hdestination ▸ hnotCentral
    · rw [← hnext]
      refine hforwards.trans (forwardMessageTo_of_forwardable ⟨?_, hhops⟩ _ _)
      rw [hheader]
      exact hpayload

/-- A message for Central that has enough hops left climbs the tree from any depth. -/
theorem exists_climb {localMac : MacAddress} {depth hops : Nat} (hdepth : tree.HasDepth localMac (depth + hops + 1))
    {message : Message} (hdestination : message.header.destinationMacAddress = tree.root)
    (happlication : message.header.messageType.isApplication = true)
    (hpayload : message.header.payloadLength.toNat ≤ MAX_PAYLOAD_SIZE)
    (hhops : hops ≤ message.header.hopsRemaining.toNat) :
    ∃ path : List Hop, path.length = hops ∧
      Run (Passes tree registry) (climbing tree localMac message 0) path (climbing tree localMac message hops) := by
  induction hops generalizing depth with
  | zero => exact ⟨[], rfl, .nil _⟩
  | succ hops ih =>
    have habove : tree.HasDepth localMac (depth + 1 + hops + 1) := by
      convert hdepth using 1
      omega
    obtain ⟨path, hlength, hrun⟩ := ih habove (Nat.le_of_succ_le hhops)
    have hne : (forwardedMessage^[hops] message).header.hopsRemaining ≠ 0 := by
      intro hzero
      have hleft := iterate_forwardedMessage_hopsRemaining (Nat.le_of_succ_le hhops)
      rw [hzero, UInt8.toNat_zero] at hleft
      omega
    have hstep : Passes tree registry (climbing tree localMac message hops) _ _ :=
      (passes_climbing_iff hdepth hdestination happlication hpayload).mpr ⟨rfl, hne, rfl⟩
    exact ⟨_, by rw [List.length_append, hlength, List.length_singleton], hrun.snoc hstep⟩

/-- A message for Central takes no other way. -/
theorem climb_unique {localMac : MacAddress} {depth : Nat} (hdepth : tree.HasDepth localMac (depth + 1))
    {message : Message} (hdestination : message.header.destinationMacAddress = tree.root)
    (happlication : message.header.messageType.isApplication = true)
    (hpayload : message.header.payloadLength.toNat ≤ MAX_PAYLOAD_SIZE) {path : List Hop} {last : Frame}
    (hrun : Run (Passes tree registry) (climbing tree localMac message 0) path last) :
    last = climbing tree localMac message path.length ∧ path.length ≤ depth ∧
      path.length ≤ message.header.hopsRemaining.toNat := by
  induction hrun with
  | nil => exact ⟨rfl, Nat.zero_le _, Nat.zero_le _⟩
  | @snoc _ _ path _ _ hstep ih =>
    obtain ⟨rfl, hle, hhops⟩ := ih
    have hleft := iterate_forwardedMessage_hopsRemaining hhops
    have hshort : path.length < depth := by
      by_contra hlong
      obtain rfl : path.length = depth := by omega
      have hcentral : tree.parent^[path.length + 1] localMac = tree.root := by
        refine ParentTree.HasDepth.eq_root (ParentTree.HasDepth.iterate_parent ?_)
        rwa [Nat.zero_add]
      have hforeign := hstep.retransmission.foreign
      rw [hstep.receiver, climbing, iterate_forwardedMessage_eq] at hforeign
      exact hforeign (hcentral.trans hdestination.symm)
    obtain ⟨below, hbelow⟩ := Nat.exists_eq_add_of_lt hshort
    have hdepth' : tree.HasDepth localMac (below + path.length + 2) := by
      convert hdepth using 1
      omega
    obtain ⟨-, hne, rfl⟩ := (passes_climbing_iff hdepth' hdestination happlication hpayload).mp hstep
    have hpositive : (forwardedMessage^[path.length] message).header.hopsRemaining.toNat ≠ 0 :=
      fun hzero => hne (UInt8.toNat_inj.mp hzero)
    rw [List.length_append, List.length_singleton]
    exact ⟨rfl, by omega, by omega⟩

end UpstreamTree

/-- A message is transmitted at most 17 times, whatever the next hops are looked up
in: the tables of the Nodes are arbitrary and may change from hop to hop. On a tree
of upstream Nodes a message for Central arrives, with nothing changed but the hop
counter, after as many transmissions as its origin is deep, and from below depth
17 it never arrives. -/
theorem hop_limit :
    (∀ {localMac nextHop destinationMac : MacAddress} {messageId : UInt32} {messageType : MessageType}
        {payload : List UInt8} {first last : Frame} {hops : List Hop},
      sendTo localMac messageId nextHop destinationMac messageType payload = some first →
      Run Retransmission first hops last → 1 + hops.length ≤ 1 + 16) ∧
    ∀ {tree : ParentTree MacAddress} {registry : CentralNodeRegistry} {localMac : MacAddress} {depth : Nat}
        {messageId : UInt32} {messageType : MessageType} {payload : List UInt8} {first : Frame},
      tree.HasDepth localMac depth → localMac ∈ tree.nodes → messageType.isApplication = true →
      sendToCentral localMac messageId (some (tree.parent localMac)) (some tree.root) messageType payload =
        some first →
      (depth ≤ 17 → ∃ hops last, Run (UpstreamTree.Passes tree registry) first hops last ∧ 1 + hops.length = depth ∧
        tree.Linked last.senderMacAddress last.receiverMacAddress ∧ last.receiverMacAddress = tree.root ∧
        last.message = ⟨{ buildHeader localMac messageId tree.root messageType payload with
          hopsRemaining := last.message.header.hopsRemaining }, payload⟩) ∧
      (17 < depth → ∀ hops last, Run (UpstreamTree.Passes tree registry) first hops last →
        last.receiverMacAddress ≠ tree.root) := by
  refine ⟨fun hsend hrun => Nat.add_le_add_left (retransmissions_le hsend hrun) 1, ?_⟩
  intro tree registry localMac depth messageId messageType payload first hdepth hnode happlication hsend
  obtain ⟨hpayload, rfl⟩ := sendTo_eq_some_iff.mp hsend
  obtain ⟨above, rfl⟩ := ParentTree.HasDepth.exists_succ hnode hdepth
  have hlength := (buildHeader_forwardable hpayload localMac tree.root messageId messageType).1
  refine ⟨fun hnear => ?_, fun hfar hops last hrun => ?_⟩
  · have habove : tree.HasDepth localMac (0 + above + 1) := by rwa [Nat.zero_add]
    obtain ⟨hops, rfl, hrun⟩ := UpstreamTree.exists_climb habove rfl happlication hlength
      (Nat.le_of_succ_le_succ hnear)
    have hsender : tree.HasDepth (tree.parent^[hops.length] localMac) (0 + 1) :=
      ParentTree.HasDepth.iterate_parent (by convert hdepth using 1; omega)
    have hroot : tree.parent^[hops.length + 1] localMac = tree.root := by
      rw [Function.iterate_succ_apply']
      exact hsender.parent.eq_root
    exact ⟨hops, _, hrun, Nat.add_comm 1 _, .inl ⟨hsender.mem_nodes, (Function.iterate_succ_apply' _ _ _).symm⟩, hroot,
      UpstreamTree.iterate_forwardedMessage_eq _ _⟩
  · obtain ⟨rfl, -, hhops⟩ := UpstreamTree.climb_unique hdepth rfl happlication hlength hrun
    change hops.length ≤ 16 at hhops
    obtain ⟨left, hleft⟩ := Nat.exists_eq_add_of_lt (show hops.length < above by omega)
    have hreceiver : tree.HasDepth (tree.parent^[hops.length + 1] localMac) (left + 1) :=
      ParentTree.HasDepth.iterate_parent (by convert hdepth using 1; omega)
    exact hreceiver.ne_root

section Chain

open TreeNetwork

/-- A report for Central, as it leaves its origin. -/
def reportFrame (senderMacAddress receiverMacAddress : MacAddress) : Frame where
  senderMacAddress
  receiverMacAddress
  message := ⟨buildHeader senderMacAddress 1 centralAddress .NODE_REPORT [], []⟩

/-- A Node that believes that its upstream Node is below it, and three Nodes in a row. -/
theorem hop_limit_chainNetwork :
    1 + [Hop.mk middleAddress (.smart (some farAddress))].length ≤ 1 + 16 ∧
    ∃ hops last, Run (UpstreamTree.Passes chainNetwork.tree chainNetwork.registry)
        (reportFrame farAddress middleAddress) hops last ∧ 1 + hops.length = 3 ∧
      chainNetwork.tree.Linked last.senderMacAddress last.receiverMacAddress ∧
      last.receiverMacAddress = chainNetwork.tree.root ∧
      last.message = ⟨{ buildHeader farAddress 1 chainNetwork.tree.root .NODE_REPORT [] with
        hopsRemaining := last.message.header.hopsRemaining }, []⟩ := by
  have hsend : sendTo nearAddress 1 middleAddress centralAddress .NODE_REPORT [] =
      some (reportFrame nearAddress middleAddress) := rfl
  have hagain : Retransmission (reportFrame nearAddress middleAddress) ⟨middleAddress, .smart (some farAddress)⟩
      ⟨middleAddress, farAddress, forwardedMessage (reportFrame nearAddress middleAddress).message⟩ :=
    ⟨.inl rfl, rfl, by decide, by decide⟩
  have hclimb : sendToCentral farAddress 1 (some (chainNetwork.tree.parent farAddress)) (some chainNetwork.tree.root)
      .NODE_REPORT [] = some (reportFrame farAddress middleAddress) := by decide
  exact ⟨hop_limit.1 hsend (.single hagain),
    (hop_limit.2 chainNetwork_far_depth (by decide) rfl hclimb).1 (by decide)⟩

end Chain

end kilowatts
