import Kilowatts.Library.ParentPointers
import Kilowatts.Library.Run
import Kilowatts.LoadManager.Load

namespace kilowatts

namespace Discovery

open ParentPointers

/-- The hop count of a Node without a route. -/
def UNKNOWN_HOP_COUNT : UInt16 := 65535

/-- A request is broadcast, so it names its origin only. -/
structure DiscoveryRequest where
  originMacAddress : MacAddress
  discoveryId : UInt32
deriving DecidableEq

/-- A response names the request that it answers and the responder's own distance. -/
structure DiscoveryResponse where
  originMacAddress : MacAddress
  destinationMacAddress : MacAddress
  discoveryId : UInt32
  hopCountToCentral : UInt16
  centralMacAddress : MacAddress
deriving DecidableEq

/-- A responder, as the asking Node keeps it until the window closes. -/
structure UpstreamCandidate where
  macAddress : MacAddress
  signalStrengthDbm : Int8
  hopCountToCentral : UInt16
  centralMacAddress : MacAddress
deriving DecidableEq

/-- The discovery in progress, with the best candidate so far. -/
structure ActiveDiscovery where
  activeDiscoveryId : UInt32
  candidate : Option UpstreamCandidate
deriving DecidableEq

/-- The route of one `EspNowCommunication`, and its discovery. -/
structure RouteState where
  centralNode : Bool
  upstreamNode : Option MacAddress
  centralMacAddress : Option MacAddress
  hopCountToCentral : UInt16
  discovery : Option ActiveDiscovery
deriving DecidableEq

namespace RouteState

/-- The constructor: every boot starts without a route. -/
def boot : RouteState := ⟨false, none, none, UNKNOWN_HOP_COUNT, none⟩

/-- Central has no upstream Node and is at distance 0 of itself. -/
def setAsCentralNode (localMac : MacAddress) (state : RouteState) : RouteState :=
  { state with centralNode := true, upstreamNode := none, centralMacAddress := some localMac, hopCountToCentral := 0 }

/-- The start of `discoverUpstreamNode`, up to the broadcast. -/
def startDiscovery (random : UInt32) (state : RouteState) : Option RouteState :=
  if state.centralNode then none
  else some { state with discovery := some ⟨if random = 0 then 1 else random, none⟩ }

/-- Only a Node with a route to Central answers. -/
def processDiscoveryRequest (localMac : MacAddress) (request : DiscoveryRequest) (state : RouteState) :
    Option DiscoveryResponse :=
  match state.centralMacAddress with
  | none => none
  | some central =>
    if state.hopCountToCentral = UNKNOWN_HOP_COUNT then none
    else if request.originMacAddress = localMac then none
    else some ⟨localMac, request.originMacAddress, request.discoveryId, state.hopCountToCentral, central⟩

/-- The lowest hop count wins, and the stronger signal among equal ones. -/
def betterCandidate (response : DiscoveryResponse) (signalStrengthDbm : Int8) : Option UpstreamCandidate → Bool
  | none => true
  | some best => response.hopCountToCentral < best.hopCountToCentral ||
      (response.hopCountToCentral = best.hopCountToCentral && best.signalStrengthDbm < signalStrengthDbm)

/-- A response is recorded when it answers the open discovery of this Node, when its responder is nearer
to Central than the Node itself, and when it beats the candidate so far. -/
def processDiscoveryResponse (localMac : MacAddress) (response : DiscoveryResponse) (signalStrengthDbm : Int8)
    (state : RouteState) : RouteState :=
  match state.discovery with
  | none => state
  | some discovery =>
    if response.destinationMacAddress ≠ localMac then state
    else if response.discoveryId ≠ discovery.activeDiscoveryId then state
    else if response.hopCountToCentral = UNKNOWN_HOP_COUNT then state
    else if state.hopCountToCentral ≠ UNKNOWN_HOP_COUNT ∧ state.hopCountToCentral ≤ response.hopCountToCentral then state
    else if betterCandidate response signalStrengthDbm discovery.candidate then
      { state with discovery := some { discovery with candidate := some ⟨response.originMacAddress,
          signalStrengthDbm, response.hopCountToCentral, response.centralMacAddress⟩ } }
    else state

/-- The end of `discoverUpstreamNode`, after the window. -/
def finishDiscovery (peerAdded : Bool) (state : RouteState) : RouteState :=
  match state.discovery.bind ActiveDiscovery.candidate with
  | none => { state with discovery := none }
  | some candidate =>
    if !peerAdded then { state with discovery := none }
    else
      { state with
        discovery := none
        upstreamNode := some candidate.macAddress
        centralMacAddress := some candidate.centralMacAddress
        hopCountToCentral := candidate.hopCountToCentral + 1 }

end RouteState

/-- Central and any number of Smart Nodes, with every request and response that
was ever sent. -/
structure Network where
  nodes : MacAddress → RouteState
  requests : List DiscoveryRequest
  responses : List DiscoveryResponse

/-- The steps of the Nodes and of the radio, in any order; a response may be received more than once,
late, or never. -/
inductive Event where
  | restart (node : MacAddress)
  | discover (node : MacAddress) (random : UInt32)
  | answer (node : MacAddress) (request : DiscoveryRequest)
  | receive (node : MacAddress) (response : DiscoveryResponse) (signalStrengthDbm : Int8)
  | select (node : MacAddress) (peerAdded : Bool)
deriving DecidableEq

variable (central : MacAddress)

namespace Network

/-- One step of a Smart Node or of Central. A request or a response may be heard
at any later time, and any number of times. The task of a Smart Node calls
`discoverUpstreamNode` only without an upstream Node. -/
def step (network : Network) : Event → Option Network
  | .restart node =>
    if node = central then none
    else some { network with nodes := Function.update network.nodes node .boot }
  | .discover node random =>
    if node = central ∨ (network.nodes node).upstreamNode.isSome ∨ (network.nodes node).discovery.isSome then none
    else ((network.nodes node).startDiscovery random).map fun state =>
      { network with
        nodes := Function.update network.nodes node state
        requests := network.requests ++
          (state.discovery.map fun discovery => ⟨node, discovery.activeDiscoveryId⟩).toList }
  | .answer node request =>
    if request ∉ network.requests then none
    else ((network.nodes node).processDiscoveryRequest node request).map fun response =>
      { network with responses := network.responses ++ [response] }
  | .receive node response signalStrengthDbm =>
    if response ∉ network.responses then none
    else some { network with
      nodes := Function.update network.nodes node
        ((network.nodes node).processDiscoveryResponse node response signalStrengthDbm) }
  | .select node peerAdded =>
    if (network.nodes node).discovery.isNone then none
    else some { network with
      nodes := Function.update network.nodes node ((network.nodes node).finishDiscovery peerAdded) }

/-- The selected upstream Node of every Node. -/
def upstreamOf (network : Network) (node : MacAddress) : Option MacAddress := (network.nodes node).upstreamNode

/-- No Node restarts while another one has it as its upstream Node, and no Node
selects one that is without a route by then. -/
def Orderly (network : Network) : Event → Prop
  | .restart node => ∀ other, network.upstreamOf other ≠ some node
  | .select node peerAdded => peerAdded = true → ∀ candidate ∈ (network.nodes node).discovery.bind ActiveDiscovery.candidate,
      candidate.macAddress = central ∨ (network.upstreamOf candidate.macAddress).isSome
  | .discover _ _ | .answer _ _ | .receive _ _ _ => True

/-- Central has no upstream Node, and only Nodes without one are searching. -/
structure WellFormed (network : Network) : Prop where
  central_upstream : network.upstreamOf central = none
  central_discovery : (network.nodes central).discovery = none
  searching : ∀ node, (network.nodes node).discovery.isSome → network.upstreamOf node = none

variable {central}

/-- Only the Node that takes the step changes its upstream. -/
theorem upstreamOf_update (network : Network) (node : MacAddress) (state : RouteState)
    (requests : List DiscoveryRequest) (responses : List DiscoveryResponse) :
    upstreamOf ⟨Function.update network.nodes node state, requests, responses⟩ =
      Function.update network.upstreamOf node state.upstreamNode := by
  funext other
  by_cases hother : other = node
  · subst hother
    simp [upstreamOf]
  · simp [upstreamOf, hother]

/-- A step that keeps the Node's upstream leaves the whole map as it was. -/
theorem update_upstreamOf_self (network : Network) (node : MacAddress) :
    Function.update network.upstreamOf node (network.nodes node).upstreamNode = network.upstreamOf :=
  Function.update_eq_self node _

end Network

namespace RouteState

/-- A response is recorded only: the upstream is chosen when the window closes. -/
theorem processDiscoveryResponse_upstreamNode (localMac : MacAddress) (response : DiscoveryResponse)
    (signalStrengthDbm : Int8) (state : RouteState) :
    (state.processDiscoveryResponse localMac response signalStrengthDbm).upstreamNode = state.upstreamNode := by
  unfold processDiscoveryResponse
  split
  · rfl
  · repeat' split
    all_goals rfl

/-- A response neither opens nor closes a discovery. -/
theorem processDiscoveryResponse_discovery_isSome (localMac : MacAddress) (response : DiscoveryResponse)
    (signalStrengthDbm : Int8) (state : RouteState) :
    (state.processDiscoveryResponse localMac response signalStrengthDbm).discovery.isSome =
      state.discovery.isSome := by
  unfold processDiscoveryResponse
  split
  · rfl
  · rename_i discovery hdiscovery
    repeat' split
    all_goals simp [hdiscovery]

/-- The old upstream is kept while the discovery runs. -/
theorem startDiscovery_upstreamNode {random : UInt32} {before after : RouteState}
    (hstart : before.startDiscovery random = some after) : after.upstreamNode = before.upstreamNode := by
  unfold startDiscovery at hstart
  split at hstart
  · cases hstart
  · obtain rfl := Option.some.inj hstart
    rfl

/-- The discovery is closed, whether or not a peer could be added. -/
theorem finishDiscovery_discovery (peerAdded : Bool) (state : RouteState) :
    (state.finishDiscovery peerAdded).discovery = none := by
  unfold finishDiscovery
  split
  · rfl
  split <;> rfl

/-- A finished discovery selects its candidate, if it can be added as a peer. -/
theorem finishDiscovery_upstreamNode (peerAdded : Bool) (state : RouteState) :
    (state.finishDiscovery peerAdded).upstreamNode =
      match state.discovery.bind ActiveDiscovery.candidate with
      | none => state.upstreamNode
      | some candidate => if peerAdded then some candidate.macAddress else state.upstreamNode := by
  unfold finishDiscovery
  split
  · rfl
  cases peerAdded <;> rfl

end RouteState

namespace Network

variable {central}

/-- What an event does to the selected upstream Nodes. -/
theorem step_upstreamOf {before after : Network} {event : Event} (hstep : before.step central event = some after) :
    after.upstreamOf = match event with
      | .restart node => Function.update before.upstreamOf node none
      | .select node peerAdded => Function.update before.upstreamOf node
          ((before.nodes node).finishDiscovery peerAdded).upstreamNode
      | .discover _ _ | .answer _ _ | .receive _ _ _ => before.upstreamOf := by
  cases event with
  | restart node =>
    simp only [step] at hstep
    split at hstep
    · cases hstep
    · obtain rfl := Option.some.inj hstep
      exact before.upstreamOf_update node .boot _ _
  | discover node random =>
    simp only [step] at hstep
    split at hstep
    · cases hstep
    · obtain ⟨state, hstart, rfl⟩ := Option.map_eq_some_iff.mp hstep
      rw [upstreamOf_update, RouteState.startDiscovery_upstreamNode hstart, update_upstreamOf_self]
  | answer node request =>
    simp only [step] at hstep
    split at hstep
    · cases hstep
    · obtain ⟨response, -, rfl⟩ := Option.map_eq_some_iff.mp hstep
      rfl
  | receive node response signalStrengthDbm =>
    simp only [step] at hstep
    split at hstep
    · cases hstep
    · obtain rfl := Option.some.inj hstep
      rw [upstreamOf_update, RouteState.processDiscoveryResponse_upstreamNode, update_upstreamOf_self]
  | select node peerAdded =>
    simp only [step] at hstep
    split at hstep
    · cases hstep
    · obtain rfl := Option.some.inj hstep
      exact before.upstreamOf_update node _ _ _

/-- A Node keeps searching only while it has no upstream Node. -/
theorem WellFormed.update {network : Network} (hwellFormed : network.WellFormed central) {node : MacAddress}
    {state : RouteState} (hcentral : node = central → state.upstreamNode = none ∧ state.discovery = none)
    (hsearching : state.discovery.isSome → state.upstreamNode = none) (requests : List DiscoveryRequest)
    (responses : List DiscoveryResponse) :
    WellFormed central ⟨Function.update network.nodes node state, requests, responses⟩ := by
  refine ⟨?_, ?_, fun other hother => ?_⟩
  · rw [upstreamOf_update]
    by_cases hnode : central = node
    · subst hnode
      rw [Function.update_self]
      exact (hcentral rfl).1
    · rw [Function.update_of_ne hnode]
      exact hwellFormed.central_upstream
  · by_cases hnode : central = node
    · subst hnode
      exact (congrArg RouteState.discovery (Function.update_self _ _ _)).trans (hcentral rfl).2
    · exact (congrArg RouteState.discovery (Function.update_of_ne hnode _ _)).trans hwellFormed.central_discovery
  · rw [upstreamOf_update]
    by_cases hnode : other = node
    · subst hnode
      rw [Function.update_self]
      dsimp only at hother
      rw [Function.update_self] at hother
      exact hsearching hother
    · rw [Function.update_of_ne hnode]
      dsimp only at hother
      rw [Function.update_of_ne hnode] at hother
      exact hwellFormed.searching other hother

/-- Whatever the event, the network stays well formed. -/
theorem WellFormed.step {before after : Network} {event : Event} (hwellFormed : before.WellFormed central)
    (hstep : before.step central event = some after) : after.WellFormed central := by
  cases event with
  | restart node =>
    simp only [Network.step] at hstep
    split at hstep
    · cases hstep
    · rename_i hnode
      obtain rfl := Option.some.inj hstep
      exact hwellFormed.update (fun hcentral => absurd hcentral hnode) (fun _ => rfl) _ _
  | discover node random =>
    simp only [Network.step] at hstep
    split at hstep
    · cases hstep
    · rename_i hidle
      obtain ⟨state, hstart, rfl⟩ := Option.map_eq_some_iff.mp hstep
      have hupstream : state.upstreamNode = none := by
        rw [RouteState.startDiscovery_upstreamNode hstart]
        simpa using fun hsome => hidle (.inr (.inl hsome))
      exact hwellFormed.update (fun hcentral => absurd (.inl hcentral) hidle) (fun _ => hupstream) _ _
  | answer node request =>
    simp only [Network.step] at hstep
    split at hstep
    · cases hstep
    · obtain ⟨response, -, rfl⟩ := Option.map_eq_some_iff.mp hstep
      exact ⟨hwellFormed.central_upstream, hwellFormed.central_discovery, hwellFormed.searching⟩
  | receive node response signalStrengthDbm =>
    simp only [Network.step] at hstep
    split at hstep
    · cases hstep
    · obtain rfl := Option.some.inj hstep
      refine hwellFormed.update (fun hcentral => ?_) (fun hsome => ?_) _ _
      · subst hcentral
        refine ⟨(RouteState.processDiscoveryResponse_upstreamNode ..).trans hwellFormed.central_upstream, ?_⟩
        rw [← Option.not_isSome_iff_eq_none, RouteState.processDiscoveryResponse_discovery_isSome,
          hwellFormed.central_discovery]
        simp
      · rw [RouteState.processDiscoveryResponse_discovery_isSome] at hsome
        rw [RouteState.processDiscoveryResponse_upstreamNode]
        exact hwellFormed.searching node hsome
  | select node peerAdded =>
    simp only [Network.step] at hstep
    split at hstep
    · cases hstep
    · rename_i hsearching
      obtain rfl := Option.some.inj hstep
      refine hwellFormed.update (fun hcentral => ?_) (fun hsome => ?_) _ _
      · subst hcentral
        rw [hwellFormed.central_discovery] at hsearching
        exact absurd rfl hsearching
      · rw [RouteState.finishDiscovery_discovery] at hsome
        cases hsome

/-- A step keeps the tree exactly if it is orderly. -/
theorem isTree_step_iff {before after : Network} {event : Event} (hwellFormed : before.WellFormed central)
    (htree : IsTree central before.upstreamOf) (hstep : before.step central event = some after) :
    IsTree central after.upstreamOf ↔ before.Orderly central event := by
  rw [step_upstreamOf hstep]
  cases event with
  | restart node =>
    have hnode : node ≠ central := by
      intro hcentral
      simp [step, hcentral] at hstep
    exact isTree_update_none_iff hwellFormed.central_upstream htree hnode
  | select node peerAdded =>
    have hsearching : (before.nodes node).discovery.isSome := by
      by_contra hnone
      rw [Option.not_isSome_iff_eq_none] at hnone
      simp [step, hnone] at hstep
    have hfree := hwellFormed.searching node hsearching
    have hnode : node ≠ central := by
      rintro rfl
      rw [hwellFormed.central_discovery] at hsearching
      cases hsearching
    dsimp only
    rw [RouteState.finishDiscovery_upstreamNode, Orderly]
    cases hcandidate : (before.nodes node).discovery.bind ActiveDiscovery.candidate with
    | none =>
      simp only [update_upstreamOf_self, Option.not_mem_none, false_imp_iff, implies_true, iff_true]
      exact htree
    | some candidate =>
      cases peerAdded with
      | false =>
        simp only [Bool.false_eq_true, if_false, update_upstreamOf_self, false_imp_iff, iff_true]
        exact htree
      | true =>
        simp only [if_true, Option.mem_some_iff, forall_eq', true_imp_iff]
        exact isTree_update_some_iff hwellFormed.central_upstream htree hnode hfree
  | discover node random => exact iff_of_true htree trivial
  | answer node request => exact iff_of_true htree trivial
  | receive node response signalStrengthDbm => exact iff_of_true htree trivial

/-- A step after which the upstream Nodes are a tree. -/
structure TreeStep (central : MacAddress) (before : Network) (event : Event) (after : Network) : Prop where
  step : before.step central event = some after
  isTree : IsTree central after.upstreamOf

/-- A step of the network that meets the condition on its event. -/
structure OrderlyStep (central : MacAddress) (before : Network) (event : Event) (after : Network) : Prop where
  step : before.step central event = some after
  orderly : before.Orderly central event

/-- The upstream Nodes are a tree in every state of a run exactly if each of its steps is orderly. Needs a
start that is well formed and a tree, as it is after a boot. -/
theorem discovery_tree_iff {start last : Network} {events : List Event} (hwellFormed : start.WellFormed central)
    (htree : IsTree central start.upstreamOf) :
    Run (TreeStep central) start events last ↔ Run (OrderlyStep central) start events last := by
  have hpreserved : ∀ before event after, before.WellFormed central ∧ IsTree central before.upstreamOf →
      TreeStep central before event after → after.WellFormed central ∧ IsTree central after.upstreamOf := by
    intro before event after hbefore hstep
    exact ⟨hbefore.1.step hstep.step, hstep.isTree⟩
  refine Run.congr hpreserved (fun before event after hbefore => ?_) ⟨hwellFormed, htree⟩
  constructor
  · intro hstep
    exact ⟨hstep.step, (isTree_step_iff hbefore.1 hbefore.2 hstep.step).mp hstep.isTree⟩
  · intro hstep
    exact ⟨hstep.step, (isTree_step_iff hbefore.1 hbefore.2 hstep.step).mpr hstep.orderly⟩

section Runs

/-- Central after its boot, and Smart Nodes that have just booted or are not on yet. -/
def booted (central : MacAddress) : Network where
  nodes := Function.update (fun _ => .boot) central (RouteState.boot.setAsCentralNode central)
  requests := []
  responses := []

/-- After the boot no Node has an upstream. -/
theorem upstreamOf_booted (central : MacAddress) : (booted central).upstreamOf = fun _ => none := by
  rw [booted, show Function.update (fun _ => RouteState.boot) central (RouteState.boot.setAsCentralNode central) =
      Function.update (Network.nodes ⟨fun _ => .boot, [], []⟩) central (RouteState.boot.setAsCentralNode central) from rfl,
    upstreamOf_update]
  exact Function.update_eq_self central _

/-- The network after the boot is well formed. -/
theorem booted_wellFormed (central : MacAddress) : (booted central).WellFormed central where
  central_upstream := by rw [upstreamOf_booted]
  central_discovery := by simp [booted, RouteState.setAsCentralNode, RouteState.boot]
  searching node _ := by rw [upstreamOf_booted]

/-- A network without upstreams is a tree. -/
theorem booted_isTree (central : MacAddress) : IsTree central (booted central).upstreamOf := by
  rw [upstreamOf_booted, isTree_iff rfl]
  intro node hsome
  cases hsome

/-- Central of the example. -/
def centralMac : MacAddress := Vector.replicate 6 1

/-- A Node that hears Central. -/
def hallMac : MacAddress := Vector.replicate 6 2

/-- A Node that hears the hall only. -/
def barnMac : MacAddress := Vector.replicate 6 3

/-- One Node asks, another one answers with its hop count, and is selected. -/
def connects (node above : MacAddress) (discoveryId : UInt32) (hopCount : UInt16) : List Event :=
  [.discover node discoveryId, .answer above ⟨node, discoveryId⟩,
    .receive node ⟨above, node, discoveryId, hopCount, centralMac⟩ (-60), .select node true]

/-- A step without a restart, where it is orderly. -/
def orderlyNext (before : Network) : Event → Option Network
  | .restart _ => none
  | .select node peerAdded =>
    (before.step centralMac (.select node peerAdded)).filter fun _ =>
      ((before.nodes node).discovery.bind ActiveDiscovery.candidate).all fun candidate =>
        candidate.macAddress = centralMac || (before.upstreamOf candidate.macAddress).isSome
  | event => before.step centralMac event

/-- The executable step is an orderly step. -/
theorem orderlyStep_of_orderlyNext (before : Network) (event : Event) (after : Network)
    (hnext : orderlyNext before event = some after) : OrderlyStep centralMac before event after := by
  cases event with
  | restart node => cases hnext
  | select node peerAdded =>
    obtain ⟨hstep, hall⟩ := Option.filter_eq_some_iff.mp hnext
    refine ⟨hstep, fun _ candidate hcandidate => ?_⟩
    simpa using (Option.all_eq_true _ _).mp hall candidate hcandidate
  | discover node random => exact ⟨hnext, trivial⟩
  | answer node request => exact ⟨hnext, trivial⟩
  | receive node response signalStrengthDbm => exact ⟨hnext, trivial⟩

/-- The hall restarts before anything has it as its upstream Node, and then the barn
selects the hall. -/
theorem discovery_tree_iff_barn :
    ∃ last, Run (TreeStep centralMac) (booted centralMac)
      ([.restart hallMac] ++ (connects hallMac centralMac 7 0 ++ connects barnMac hallMac 9 1)) last := by
  have hsome : ((booted centralMac).step centralMac (.restart hallMac) >>= fun restarted =>
      (connects hallMac centralMac 7 0 ++ connects barnMac hallMac 9 1).foldlM orderlyNext restarted).isSome := by
    decide +kernel
  obtain ⟨last, hlast⟩ := Option.isSome_iff_exists.mp hsome
  obtain ⟨restarted, hrestart, hrest⟩ := Option.bind_eq_some_iff.mp hlast
  have hfirst : OrderlyStep centralMac (booted centralMac) (.restart hallMac) restarted :=
    ⟨hrestart, fun other => by simp [upstreamOf_booted]⟩
  exact ⟨last, (discovery_tree_iff (booted_wellFormed centralMac) (booted_isTree centralMac)).mpr
    ((Run.single hfirst).append (.of_foldlM orderlyStep_of_orderlyNext hrest))⟩

/-- The hall restarts while the barn uses it, hears the barn's answer but not
Central's, and selects the barn. -/
theorem restarted_node_selects_descendant :
    ∃ last, Run (fun before event after => before.step centralMac event = some after) (booted centralMac)
        (connects hallMac centralMac 7 0 ++ connects barnMac hallMac 9 1 ++
          .restart hallMac :: connects hallMac barnMac 8 2) last ∧
      Relation.TransGen (PointsTo last.upstreamOf) hallMac hallMac ∧
      ¬ Relation.ReflTransGen (PointsTo last.upstreamOf) hallMac centralMac := by
  have heval : ((connects hallMac centralMac 7 0 ++ connects barnMac hallMac 9 1 ++
      .restart hallMac :: connects hallMac barnMac 8 2).foldlM (Network.step centralMac)
        (booted centralMac)).any (fun last =>
      last.upstreamOf hallMac = some barnMac ∧ last.upstreamOf barnMac = some hallMac) = true := by
    decide +kernel
  obtain ⟨last, hlast, hcycle⟩ := (Option.any_eq_true _ _).mp heval
  obtain ⟨hhall, hbarn⟩ := of_decide_eq_true hcycle
  refine ⟨last, .of_foldlM (fun _ _ _ hstep => hstep) hlast, .tail (.single hhall) hbarn, fun hreaches => ?_⟩
  have hstays : ∀ node, Relation.ReflTransGen (PointsTo last.upstreamOf) hallMac node →
      node = hallMac ∨ node = barnMac := by
    intro node hpath
    induction hpath with
    | refl => exact .inl rfl
    | tail _ hstep ih =>
      rw [PointsTo] at hstep
      obtain rfl | rfl := ih
      · exact .inr (Option.some.inj (hstep.symm.trans hhall))
      · exact .inl (Option.some.inj (hstep.symm.trans hbarn))
  obtain hsame | hsame := hstays centralMac hreaches
  · exact absurd hsame (by decide)
  · exact absurd hsame (by decide)

end Runs

end Network

end Discovery

end kilowatts
