import Kilowatts.EspNowCommunication.Forwarding
import Mathlib.Logic.Relation

namespace kilowatts

open EspNowCommunication

/-- Central with its registry, and the Smart Nodes with the upstream Nodes they
selected. A radio frame only crosses a link of the tree. -/
structure TreeNetwork where
  tree : ParentTree MacAddress
  registry : CentralNodeRegistry
  holdsTree : registry.HoldsTree tree

namespace TreeNetwork

variable (network : TreeNetwork)

/-- Central is the root of the tree. -/
def centralMac : MacAddress := network.tree.root

/-- A frame is on the air between two neighbours of the tree. -/
def Crosses (frame : Frame) : Prop := network.tree.Linked frame.senderMacAddress frame.receiverMacAddress

/-- What the receiver of a frame sends on, if the frame is not for itself. -/
def forward (frame : Frame) : Option Frame :=
  if frame.receiverMacAddress = network.centralMac then Central.forward network.registry network.centralMac frame
  else Smart.forward frame.receiverMacAddress (some (network.tree.parent frame.receiverMacAddress)) frame

/-- A frame arrives at a Node that it is not meant for, and is sent on. -/
inductive ForwardStep : Frame → Frame → Prop where
  | forward {frame next : Frame} (hcrosses : network.Crosses frame)
      (hforeign : frame.receiverMacAddress ≠ frame.message.header.destinationMacAddress)
      (hforward : network.forward frame = some next) : ForwardStep frame next

/-- The frame, or a later one that forwards its message, arrives at the destination. -/
def Reaches (frame : Frame) : Prop :=
  ∃ last, Relation.ReflTransGen network.ForwardStep frame last ∧ network.Crosses last ∧
    last.receiverMacAddress = last.message.header.destinationMacAddress

/-- `routeToSmartNode` followed by `sendTo`. -/
def sendCommand (messageId : UInt32) (destinationMac : MacAddress) (messageType : MessageType)
    (payload : List UInt8) : Option Frame :=
  match network.registry.findNextHopFromCentral network.centralMac destinationMac with
  | none => none
  | some nextHop => sendTo network.centralMac messageId nextHop destinationMac messageType payload

/-- `sendToCentral` of a Smart Node with a route. -/
def sendToCentral (localMac : MacAddress) (messageId : UInt32) (messageType : MessageType) (payload : List UInt8) :
    Option Frame :=
  sendTo localMac messageId (network.tree.parent localMac) network.centralMac messageType payload

variable {network}

/-- A Smart Node forwards by its parent in the tree. -/
theorem forward_of_ne_central {frame : Frame} (hreceiver : frame.receiverMacAddress ≠ network.centralMac) :
    network.forward frame =
      Smart.forward frame.receiverMacAddress (some (network.tree.parent frame.receiverMacAddress)) frame :=
  if_neg hreceiver

/-- A frame that arrives at its destination has reached it. -/
theorem reaches_of_arrives {frame : Frame} (hcrosses : network.Crosses frame)
    (harrives : frame.receiverMacAddress = frame.message.header.destinationMacAddress) : network.Reaches frame :=
  ⟨frame, .refl, hcrosses, harrives⟩

/-- Only a frame between neighbours is delivered. -/
theorem Reaches.crosses {frame : Frame} (hreaches : network.Reaches frame) : network.Crosses frame := by
  obtain ⟨last, hsteps, hcrosses, -⟩ := hreaches
  obtain rfl | ⟨next, hstep, -⟩ := hsteps.cases_head
  · exact hcrosses
  · cases hstep with
    | forward hfirst => exact hfirst

/-- A frame for another Node reaches its destination exactly if the one that is
sent on does. -/
theorem reaches_iff_of_forward {frame next : Frame} (hcrosses : network.Crosses frame)
    (hforeign : frame.receiverMacAddress ≠ frame.message.header.destinationMacAddress)
    (hforward : network.forward frame = some next) : network.Reaches frame ↔ network.Reaches next := by
  constructor
  · rintro ⟨last, hsteps, hlast⟩
    obtain rfl | ⟨other, hstep, hrest⟩ := hsteps.cases_head
    · exact absurd hlast.2 hforeign
    · cases hstep with
      | forward _ _ hother =>
        rw [hforward, Option.some.injEq] at hother
        exact ⟨last, hother ▸ hrest, hlast⟩
  · rintro ⟨last, hsteps, hlast⟩
    exact ⟨last, .head (.forward hcrosses hforeign hforward) hsteps, hlast⟩

/-- Below the first hop a command for another Node is sent straight to its
destination, whatever lies between. -/
theorem forward_command (frame : Frame) (hsender : frame.senderMacAddress = network.centralMac)
    (hreceiver : network.tree.HasDepth frame.receiverMacAddress 1) (hforwardable : Forwardable frame.message) :
    ∃ next, network.forward frame = some next ∧ next.senderMacAddress = frame.receiverMacAddress ∧
      next.receiverMacAddress = frame.message.header.destinationMacAddress ∧
      next.message.header.destinationMacAddress = frame.message.header.destinationMacAddress := by
  have hupstream : network.tree.parent frame.receiverMacAddress = network.centralMac := hreceiver.parent.eq_root
  have hforward := forwardMessageTo_of_forwardable hforwardable frame.receiverMacAddress
    frame.message.header.destinationMacAddress
  rw [forward_of_ne_central hreceiver.ne_root, hupstream, Smart.forward, if_neg (not_not.mpr hsender)]
  exact ⟨_, hforward, rfl, rfl, rfl⟩

/-- The first frame of a command starts in the right branch of the tree. -/
theorem sendCommand_eq {destinationMac : MacAddress} {depth : Nat}
    (hdepth : network.tree.HasDepth destinationMac (depth + 1)) {payload : List UInt8}
    (hpayload : payload.length ≤ MAX_PAYLOAD_SIZE) (messageId : UInt32) (messageType : MessageType) :
    network.sendCommand messageId destinationMac messageType payload =
      some ⟨network.centralMac, network.tree.parent^[depth] destinationMac,
        ⟨buildHeader network.centralMac messageId destinationMac messageType payload, payload⟩⟩ := by
  have hroute := CentralNodeRegistry.findNextHopFromCentral_eq network.holdsTree hdepth
  simp only [sendCommand, centralMac, hroute]
  exact sendTo_eq_some hpayload _ _ _ _ _

/-- Central's first transmission, to its child above the destination, reaches a Node at depth 1 or 2 and
no deeper one. -/
theorem firstHop_reaches_iff {destinationMac : MacAddress} {depth : Nat}
    (hdepth : network.tree.HasDepth destinationMac (depth + 1)) {message : Message}
    (hdestination : message.header.destinationMacAddress = destinationMac) (hforwardable : Forwardable message) :
    network.Reaches ⟨network.centralMac, network.tree.parent^[depth] destinationMac, message⟩ ↔ depth + 1 ≤ 2 := by
  have hfirstHop : network.tree.HasDepth (network.tree.parent^[depth] destinationMac) 1 := by
    apply ParentTree.HasDepth.iterate_parent
    rwa [Nat.add_comm 1 depth]
  have hcrosses : network.Crosses ⟨network.centralMac, network.tree.parent^[depth] destinationMac, message⟩ :=
    .inr ⟨hfirstHop.mem_nodes, hfirstHop.parent.eq_root⟩
  by_cases hnear : network.tree.parent^[depth] destinationMac = destinationMac
  · have hone : depth + 1 = 1 := by
      rw [hnear] at hfirstHop
      exact hdepth.unique hfirstHop
    exact iff_of_true (reaches_of_arrives hcrosses (hnear.trans hdestination.symm)) (by omega)
  · obtain ⟨next, hforward, hsender, hreceiver, hsameDestination⟩ :=
      forward_command ⟨network.centralMac, _, message⟩ rfl hfirstHop hforwardable
    dsimp only at hsender hreceiver hsameDestination
    rw [reaches_iff_of_forward hcrosses (hdestination ▸ hnear) hforward]
    constructor
    · intro hnext
      have hlinked := hnext.crosses
      rw [Crosses, hsender, hreceiver, hdestination] at hlinked
      have hdepths := hlinked.parent_of_depth hfirstHop hdepth
      omega
    · intro htwo
      have hdepthTwo : depth = 1 := by
        by_contra hne
        obtain rfl : depth = 0 := by omega
        exact hnear rfl
      subst hdepthTwo
      refine reaches_of_arrives ?_ (hreceiver.trans hsameDestination.symm)
      rw [Crosses, hsender, hreceiver, hdestination]
      exact .inr ⟨hdepth.mem_nodes, rfl⟩

/-- A command of Central reaches exactly the Smart Nodes that are at most two hops away. Needs a registry
that is right about every upstream Node, links that lose no frame, and a payload that fits; the hop limit
does not matter. -/
theorem sendCommand_reaches_iff {destinationMac : MacAddress} {depth : Nat}
    (hdepth : network.tree.HasDepth destinationMac depth) (hnode : destinationMac ∈ network.tree.nodes)
    {payload : List UInt8} (hpayload : payload.length ≤ MAX_PAYLOAD_SIZE) (messageId : UInt32)
    (messageType : MessageType) :
    (∃ frame, network.sendCommand messageId destinationMac messageType payload = some frame ∧
      network.Reaches frame) ↔ depth ≤ 2 := by
  obtain ⟨above, rfl⟩ := ParentTree.HasDepth.exists_succ hnode hdepth
  have hforwardable := buildHeader_forwardable hpayload network.centralMac destinationMac messageId messageType
  rw [sendCommand_eq hdepth hpayload]
  simp only [Option.some.injEq, exists_eq_left']
  exact firstHop_reaches_iff hdepth rfl hforwardable

/-- Upwards every Node forwards to its own upstream Node, and a frame that may
still be forwarded often enough climbs to Central. -/
theorem reaches_central {child : MacAddress} {depth : Nat} (hdepth : network.tree.HasDepth child (depth + 1))
    {message : Message} (hdestination : message.header.destinationMacAddress = network.centralMac)
    (hpayload : message.header.payloadLength.toNat ≤ MAX_PAYLOAD_SIZE)
    (hhops : depth ≤ message.header.hopsRemaining.toNat) :
    network.Reaches ⟨child, network.tree.parent child, message⟩ := by
  induction depth generalizing child message with
  | zero =>
    refine reaches_of_arrives (.inl ⟨hdepth.mem_nodes, rfl⟩) ?_
    exact hdepth.parent.eq_root.trans hdestination.symm
  | succ depth ih =>
    have hcrosses : network.Crosses ⟨child, network.tree.parent child, message⟩ := .inl ⟨hdepth.mem_nodes, rfl⟩
    have hforeign : network.tree.parent child ≠ message.header.destinationMacAddress := by
      rw [hdestination]
      exact hdepth.parent.ne_root
    have hbelow : child ≠ network.tree.parent (network.tree.parent child) := by
      intro hsame
      have hsameDepth := hdepth.parent.parent
      rw [← hsame] at hsameDepth
      have hequal := hdepth.unique hsameDepth
      omega
    have hnonzero : message.header.hopsRemaining ≠ 0 := by
      intro hzero
      simp [hzero] at hhops
    have hforward : network.forward ⟨child, network.tree.parent child, message⟩ =
        some ⟨network.tree.parent child, network.tree.parent (network.tree.parent child), forwardedMessage message⟩ := by
      rw [forward_of_ne_central hdepth.parent.ne_root, Smart.forward, if_pos hbelow]
      exact forwardMessageTo_of_forwardable ⟨hpayload, hnonzero⟩ _ _
    rw [reaches_iff_of_forward hcrosses hforeign hforward]
    refine ih hdepth.parent hdestination hpayload ?_
    have hone : (1 : UInt8) ≤ message.header.hopsRemaining := by
      rw [UInt8.le_iff_toNat_le, UInt8.toNat_one]
      omega
    rw [forwardedMessage, UInt8.toNat_sub_of_le _ _ hone, UInt8.toNat_one]
    omega

/-- A report of a Smart Node climbs from every depth that the hop limit allows for. -/
theorem sendToCentral_reaches {localMac : MacAddress} {depth : Nat} (hdepth : network.tree.HasDepth localMac depth)
    (hnode : localMac ∈ network.tree.nodes) (hlimit : depth ≤ DEFAULT_HOP_LIMIT.toNat + 1) {payload : List UInt8}
    (hpayload : payload.length ≤ MAX_PAYLOAD_SIZE) (messageId : UInt32) (messageType : MessageType) :
    ∃ frame, network.sendToCentral localMac messageId messageType payload = some frame ∧ network.Reaches frame := by
  obtain ⟨above, rfl⟩ := ParentTree.HasDepth.exists_succ hnode hdepth
  refine ⟨_, sendTo_eq_some hpayload _ _ _ _ _, ?_⟩
  refine reaches_central hdepth rfl (buildHeader_forwardable hpayload _ _ messageId messageType).1 ?_
  simp only [buildHeader]
  omega

section Chain

/-- Central of the chain. -/
def centralAddress : MacAddress := Vector.replicate 6 1

/-- The Node below Central. -/
def nearAddress : MacAddress := Vector.replicate 6 2

/-- The Node at depth 2. -/
def middleAddress : MacAddress := Vector.replicate 6 3

/-- The Node at depth 3. -/
def farAddress : MacAddress := Vector.replicate 6 4

/-- The chain `farAddress`, `middleAddress`, `nearAddress`, Central. -/
def chainParent (macAddress : MacAddress) : MacAddress :=
  if macAddress = farAddress then middleAddress
  else if macAddress = middleAddress then nearAddress
  else centralAddress

/-- A Node of the chain, as Central has registered it. -/
def chainNode (macAddress : MacAddress) (hopCountToCentral : UInt16) : PlanningNode where
  node := .make macAddress
  nodeName := [83]
  nextHopToCentralMacAddress := chainParent macAddress
  hopCountToCentral
  isCentralNode := false
  lastSeenMilliseconds := 0
  pendingReport := .none

/-- Three Smart Nodes in a row below Central. -/
def chainNetwork : TreeNetwork where
  tree := {
    root := centralAddress
    parent := chainParent
    nodes := {nearAddress, middleAddress, farAddress}
    root_notMem := by decide
    depth_exists := by
      have hnear : AtDepth centralAddress chainParent {nearAddress, middleAddress, farAddress} nearAddress 1 :=
        .child (by decide) .root
      have hmiddle : AtDepth centralAddress chainParent {nearAddress, middleAddress, farAddress} middleAddress 2 :=
        .child (by decide) hnear
      have hfar : AtDepth centralAddress chainParent {nearAddress, middleAddress, farAddress} farAddress 3 :=
        .child (by decide) hmiddle
      intro macAddress hnode
      simp only [Finset.mem_insert, Finset.mem_singleton] at hnode
      obtain rfl | rfl | rfl := hnode
      · exact ⟨1, hnear⟩
      · exact ⟨2, hmiddle⟩
      · exact ⟨3, hfar⟩ }
  registry := {
    planningNodes := [chainNode nearAddress 1, chainNode middleAddress 2, chainNode farAddress 3]
    macs_nodup := by decide }
  holdsTree := by
    intro macAddress hnode
    simp only [Finset.mem_insert, Finset.mem_singleton] at hnode
    obtain rfl | rfl | rfl := hnode
    · exact ⟨chainNode nearAddress 1, rfl, rfl, rfl⟩
    · exact ⟨chainNode middleAddress 2, rfl, rfl, rfl⟩
    · exact ⟨chainNode farAddress 3, rfl, rfl, rfl⟩

/-- One step up the chain. -/
theorem chainNetwork_near_depth : chainNetwork.tree.HasDepth nearAddress 1 := .child (by decide) .root

/-- Two steps up the chain. -/
theorem chainNetwork_middle_depth : chainNetwork.tree.HasDepth middleAddress 2 :=
  .child (by decide) chainNetwork_near_depth

/-- Three steps up the chain. -/
theorem chainNetwork_far_depth : chainNetwork.tree.HasDepth farAddress 3 :=
  .child (by decide) chainNetwork_middle_depth

/-- A command for the Node at depth 2 of the chain. -/
theorem sendCommand_reaches_iff_chainNetwork :
    ∃ frame, chainNetwork.sendCommand 1 middleAddress .RELAY_COMMAND [0, 0, 0, 7, 4, 1] = some frame ∧
      chainNetwork.Reaches frame :=
  (sendCommand_reaches_iff chainNetwork_middle_depth (by decide) (by decide) 1 .RELAY_COMMAND).mpr (by decide)

/-- The third Node in a row is never reached, although the first hop is right and
the hop limit would allow for the way. -/
theorem sendCommand_does_not_reach_far :
    chainNetwork.tree.HasDepth farAddress 3 ∧
    chainNetwork.registry.findNextHopFromCentral centralAddress farAddress = some nearAddress ∧
    ¬ ∃ frame, chainNetwork.sendCommand 1 farAddress .RELAY_COMMAND [0, 0, 0, 7, 4, 1] = some frame ∧
      chainNetwork.Reaches frame := by
  refine ⟨chainNetwork_far_depth, by decide, ?_⟩
  rw [sendCommand_eq chainNetwork_far_depth (by decide)]
  rintro ⟨frame, hsend, hreaches⟩
  rw [Option.some.injEq] at hsend
  subst hsend
  have htwo := (firstHop_reaches_iff chainNetwork_far_depth rfl
    (buildHeader_forwardable (by decide) _ _ 1 .RELAY_COMMAND)).mp hreaches
  exact absurd htwo (by decide)

end Chain

end TreeNetwork

end kilowatts
