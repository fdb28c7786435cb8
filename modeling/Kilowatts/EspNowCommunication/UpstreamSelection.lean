import Mathlib.Data.Int.ConditionallyCompleteOrder
import Mathlib.Data.List.MinMax
import Mathlib.Data.Prod.Lex
import Kilowatts.EspNowCommunication.Discovery
import Kilowatts.EspNowCommunication.WireFormat

namespace kilowatts.UpstreamSelection

open PackedLayout
open WireFormat (RawReceivedPacket)
open Discovery (UNKNOWN_HOP_COUNT)

/-- The payload of a request: its number only. -/
structure DiscoveryRequest where
  discoveryId : UInt32
deriving DecidableEq

/-- The packed layout of the struct. -/
def DiscoveryRequest.layout : PackedLayout DiscoveryRequest :=
  .named ⟨DiscoveryRequest.discoveryId, .mk, fun _ => rfl, fun _ => rfl⟩ uint32

/-- The payload of a response: the request's number and the responder's own route. -/
structure DiscoveryResponse where
  discoveryId : UInt32
  hopCountToCentral : UInt16
  centralMacAddress : MacAddress
deriving DecidableEq

namespace DiscoveryResponse

/-- The fields of a response, in the order of the struct. -/
def fields : DiscoveryResponse ≃ UInt32 × UInt16 × MacAddress where
  toFun response := (response.discoveryId, response.hopCountToCentral, response.centralMacAddress)
  invFun := fun (discoveryId, hopCountToCentral, centralMacAddress) =>
    ⟨discoveryId, hopCountToCentral, centralMacAddress⟩
  left_inv _ := rfl
  right_inv _ := rfl

/-- Three words without padding. -/
def layout : PackedLayout DiscoveryResponse := .named fields (uint32.pair (uint16.pair (array 6)))

/-- The packed struct has 12 bytes. -/
theorem layout_size : layout.size = 12 := rfl

end DiscoveryResponse

/-- The route of a Node, from `upstreamNodeSelected_` to `hopCountToCentral_`. -/
structure Route where
  upstreamNodeSelected : Bool
  upstreamNodeMacAddress : MacAddress
  upstreamNodeSignalStrengthDbm : Int8
  centralMacAddressKnown : Bool
  centralMacAddress : MacAddress
  hopCountToCentral : UInt16
deriving DecidableEq

/-- The four fields named after the best upstream candidate. -/
structure UpstreamCandidate where
  macAddress : MacAddress
  signalStrengthDbm : Int8
  hopCount : UInt16
  centralMacAddress : MacAddress
deriving DecidableEq

/-- The fields of `EspNowCommunication` that discovery reads and writes. -/
structure RouteState where
  localMacAddress : MacAddress
  centralNode : Bool
  route : Route
  discoveryInProgress : Bool
  activeDiscoveryId : UInt32
  discoveryCandidateFound : Bool
  bestUpstreamCandidate : UpstreamCandidate
deriving DecidableEq

/-- The candidate that `startDiscovery` puts in place; it counts as none. -/
def UpstreamCandidate.initial : UpstreamCandidate := ⟨Vector.replicate 6 0, -128, UNKNOWN_HOP_COUNT, Vector.replicate 6 0⟩

namespace RouteState

/-- The constructor, with the address that `initialize` reads. -/
def boot (localMacAddress : MacAddress) : RouteState where
  localMacAddress
  centralNode := false
  route := ⟨false, Vector.replicate 6 0, -128, false, Vector.replicate 6 0, UNKNOWN_HOP_COUNT⟩
  discoveryInProgress := false
  activeDiscoveryId := 0
  discoveryCandidateFound := false
  bestUpstreamCandidate := .initial

/-- Only a Node that already has a route to Central may advertise itself. The answer
goes to the origin of the request. -/
def processDiscoveryRequest (message : WireFormat.Message) (state : RouteState) : Option (MacAddress × DiscoveryResponse) :=
  if !(state.route.centralMacAddressKnown && state.route.hopCountToCentral != UNKNOWN_HOP_COUNT) then none
  else if message.header.originMacAddress = state.localMacAddress then none
  else if message.header.payloadLength.toNat ≠ DiscoveryRequest.layout.size then none
  else
    let request := DiscoveryRequest.layout.decode message.payload.toList
    some (message.header.originMacAddress,
      ⟨request.discoveryId, state.route.hopCountToCentral, state.route.centralMacAddress⟩)

/-- The lowest hop count wins, and the strongest signal among equal ones. -/
def betterCandidate (hopCount : UInt16) (signalStrengthDbm : Int8) (state : RouteState) : Bool :=
  let shorterRouteToCentral := !state.discoveryCandidateFound || hopCount < state.bestUpstreamCandidate.hopCount
  let sameRouteLengthButStrongerSignal := state.discoveryCandidateFound &&
    hopCount == state.bestUpstreamCandidate.hopCount &&
    state.bestUpstreamCandidate.signalStrengthDbm < signalStrengthDbm
  shorterRouteToCentral || sameRouteLengthButStrongerSignal

/-- The checks stand in the order in which the code makes them. -/
def processDiscoveryResponse (packet : RawReceivedPacket) (message : WireFormat.Message) (state : RouteState) : RouteState :=
  if message.header.destinationMacAddress ≠ state.localMacAddress then state
  else if message.header.payloadLength.toNat ≠ DiscoveryResponse.layout.size then state
  else
    let response := DiscoveryResponse.layout.decode message.payload.toList
    if !(state.discoveryInProgress && response.discoveryId == state.activeDiscoveryId) then state
    else if response.hopCountToCentral = UNKNOWN_HOP_COUNT then state
    -- a candidate at the same or a deeper level could create a cycle
    else if state.route.hopCountToCentral ≠ UNKNOWN_HOP_COUNT ∧
        state.route.hopCountToCentral ≤ response.hopCountToCentral then state
    else if state.betterCandidate response.hopCountToCentral packet.signalStrengthDbm then
      { state with
        discoveryCandidateFound := true
        bestUpstreamCandidate := ⟨message.header.originMacAddress, packet.signalStrengthDbm,
          response.hopCountToCentral, response.centralMacAddress⟩ }
    else state

/-- Zero is not used as a discovery id. -/
def discoveryId (random : UInt32) : UInt32 := if random = 0 then 1 else random

/-- The start of `discoverUpstreamNode`, with the number that the hardware drew. -/
def startDiscovery (random : UInt32) (state : RouteState) : RouteState :=
  { state with
    discoveryInProgress := true
    activeDiscoveryId := discoveryId random
    discoveryCandidateFound := false
    bestUpstreamCandidate := .initial }

/-- The responses that arrive while a discovery is in progress. -/
def hear (responses : List (RawReceivedPacket × WireFormat.Message)) (state : RouteState) : RouteState :=
  responses.foldl (fun state response => state.processDiscoveryResponse response.1 response.2) state

end RouteState

/-- One call of `discoverUpstreamNode`: its argument, what the radio does for it, and
the responses that arrive meanwhile. -/
structure DiscoveryCall where
  initialized : Bool
  discoveryWindowMilliseconds : UInt32
  random : UInt32
  requestSent : Bool
  responses : List (RawReceivedPacket × WireFormat.Message)
  peerAdded : Bool

namespace RouteState

/-- Central does not search, and a window of no length is refused. -/
def canStart (call : DiscoveryCall) (state : RouteState) : Bool :=
  call.initialized && !state.centralNode && call.discoveryWindowMilliseconds != 0

/-- The state at the end of the discovery window. -/
def heard (call : DiscoveryCall) (state : RouteState) : RouteState :=
  { (state.startDiscovery call.random).hear call.responses with discoveryInProgress := false }

/-- The route through a candidate, one hop deeper than the candidate itself. -/
def selectedRoute (candidate : UpstreamCandidate) : Route where
  upstreamNodeSelected := true
  upstreamNodeMacAddress := candidate.macAddress
  upstreamNodeSignalStrengthDbm := candidate.signalStrengthDbm
  centralMacAddressKnown := true
  centralMacAddress := candidate.centralMacAddress
  hopCountToCentral := candidate.hopCount + 1

/-- The whole call, with the responses that arrive within its window. -/
def discoverUpstreamNode (call : DiscoveryCall) (state : RouteState) : RouteState × Bool :=
  if !state.canStart call then (state, false)
  else if !call.requestSent then (state.heard call, false)
  else if !(state.heard call).discoveryCandidateFound then (state.heard call, false)
  else if !call.peerAdded then (state.heard call, false)
  else ({ state.heard call with route := selectedRoute (state.heard call).bestUpstreamCandidate }, true)

end RouteState

section Admissible

/-- What a response says, and how well it was heard. -/
def candidateOf (response : RawReceivedPacket × WireFormat.Message) : UpstreamCandidate where
  macAddress := response.2.header.originMacAddress
  signalStrengthDbm := response.1.signalStrengthDbm
  hopCount := (DiscoveryResponse.layout.decode response.2.payload.toList).hopCountToCentral
  centralMacAddress := (DiscoveryResponse.layout.decode response.2.payload.toList).centralMacAddress

/-- A response that a Node may select: addressed to it, of the right length, in answer
to its discovery, and from nearer to Central than the Node itself. -/
structure Admissible (localMacAddress : MacAddress) (ownHopCount : UInt16) (discoveryId : UInt32)
    (response : RawReceivedPacket × WireFormat.Message) : Prop where
  destination : response.2.header.destinationMacAddress = localMacAddress
  length : response.2.header.payloadLength.toNat = DiscoveryResponse.layout.size
  discovery : (DiscoveryResponse.layout.decode response.2.payload.toList).discoveryId = discoveryId
  known : (candidateOf response).hopCount ≠ UNKNOWN_HOP_COUNT
  nearer : ownHopCount ≠ UNKNOWN_HOP_COUNT → (candidateOf response).hopCount < ownHopCount

/-- The fields of `Admissible`, as one conjunction. -/
theorem admissible_iff {localMacAddress : MacAddress} {ownHopCount : UInt16} {discoveryId : UInt32}
    {response : RawReceivedPacket × WireFormat.Message} :
    Admissible localMacAddress ownHopCount discoveryId response ↔
      response.2.header.destinationMacAddress = localMacAddress ∧
        response.2.header.payloadLength.toNat = DiscoveryResponse.layout.size ∧
        (DiscoveryResponse.layout.decode response.2.payload.toList).discoveryId = discoveryId ∧
        (candidateOf response).hopCount ≠ UNKNOWN_HOP_COUNT ∧
        (ownHopCount ≠ UNKNOWN_HOP_COUNT → (candidateOf response).hopCount < ownHopCount) :=
  ⟨fun ⟨destination, length, discovery, known, nearer⟩ => ⟨destination, length, discovery, known, nearer⟩,
    fun ⟨destination, length, discovery, known, nearer⟩ => ⟨destination, length, discovery, known, nearer⟩⟩

instance (localMacAddress : MacAddress) (ownHopCount : UInt16) (discoveryId : UInt32) :
    DecidablePred (Admissible localMacAddress ownHopCount discoveryId) := fun _ =>
  decidable_of_iff _ admissible_iff.symm

/-- The hop count comes first, and the signal decides among equal ones. -/
def UpstreamCandidate.key (candidate : UpstreamCandidate) : ℕ ×ₗ ℤ :=
  toLex (candidate.hopCount.toNat, -candidate.signalStrengthDbm.toInt)

/-- The order of the keys is hop count first, signal strength second. -/
theorem UpstreamCandidate.key_lt_key {first second : UpstreamCandidate} :
    first.key < second.key ↔ first.hopCount < second.hopCount ∨
      first.hopCount = second.hopCount ∧ second.signalStrengthDbm < first.signalStrengthDbm := by
  rw [key, key, Prod.Lex.toLex_lt_toLex, ← UInt16.lt_iff_toNat_lt, UInt16.toNat_inj, Int8.lt_iff_toInt_lt,
    neg_lt_neg_iff]

/-- A least key is nearest to Central and, among those, strongest. -/
theorem UpstreamCandidate.key_le_key {first second : UpstreamCandidate} (hle : first.key ≤ second.key) :
    first.hopCount ≤ second.hopCount ∧
      (second.hopCount = first.hopCount → second.signalStrengthDbm ≤ first.signalStrengthDbm) := by
  rw [key, key, Prod.Lex.toLex_le_toLex, UInt16.toNat_inj, neg_le_neg_iff] at hle
  rw [UInt16.le_iff_toNat_le, Int8.le_iff_toInt_le]
  obtain hlt | ⟨hsame, hsignal⟩ := hle
  · refine ⟨hlt.le, fun hsame => ?_⟩
    dsimp only at hlt
    rw [hsame] at hlt
    exact absurd hlt (lt_irrefl _)
  · exact ⟨(congrArg UInt16.toNat hsame).le, fun _ => hsignal⟩

/-- Equal keys have equal hop counts and signal strengths. -/
theorem UpstreamCandidate.key_inj {first second : UpstreamCandidate} (hkey : first.key = second.key) :
    first.hopCount = second.hopCount ∧ first.signalStrengthDbm = second.signalStrengthDbm := by
  have hpair := toLex_inj.mp hkey
  exact ⟨UInt16.toNat_inj.mp (congrArg Prod.fst hpair), Int8.toInt_inj.mp (neg_inj.mp (congrArg Prod.snd hpair))⟩

end Admissible

namespace RouteState

variable {state : RouteState} {packet : RawReceivedPacket} {message : WireFormat.Message}

/-- The best candidate so far, if there is one. -/
def selection (state : RouteState) : Option UpstreamCandidate :=
  if state.discoveryCandidateFound then some state.bestUpstreamCandidate else none

/-- What a response offers to the discovery in progress. -/
def offered (state : RouteState) (response : RawReceivedPacket × WireFormat.Message) : Option UpstreamCandidate :=
  if Admissible state.localMacAddress state.route.hopCountToCentral state.activeDiscoveryId response then
    some (candidateOf response)
  else none

/-- The comparison of the code is that of the keys, and any candidate beats none. -/
theorem betterCandidate_iff {candidate : UpstreamCandidate} :
    state.betterCandidate candidate.hopCount candidate.signalStrengthDbm = true ↔
      ∀ best ∈ state.selection, candidate.key < best.key := by
  unfold betterCandidate selection
  cases state.discoveryCandidateFound with
  | false => simp
  | true =>
    simp only [Bool.not_true, Bool.false_or, Bool.true_and, Bool.or_eq_true, Bool.and_eq_true, decide_eq_true_eq,
      beq_iff_eq, if_true, Option.mem_some_iff, forall_eq', UpstreamCandidate.key_lt_key]

/-- An admissible response offers itself, and nothing else is offered. -/
theorem offered_eq_some_iff {response : RawReceivedPacket × WireFormat.Message} {candidate : UpstreamCandidate} :
    state.offered response = some candidate ↔
      Admissible state.localMacAddress state.route.hopCountToCentral state.activeDiscoveryId response ∧
        candidateOf response = candidate := by
  unfold offered
  split <;> simp [*]

/-- A response changes nothing but the best candidate, and only when it is admissible
and better. -/
theorem processDiscoveryResponse_eq (hprogress : state.discoveryInProgress = true) :
    state.processDiscoveryResponse packet message =
      match state.offered (packet, message) with
      | none => state
      | some candidate =>
        if state.betterCandidate candidate.hopCount candidate.signalStrengthDbm then
          { state with discoveryCandidateFound := true, bestUpstreamCandidate := candidate }
        else state := by
  unfold processDiscoveryResponse offered
  by_cases hadmissible :
      Admissible state.localMacAddress state.route.hopCountToCentral state.activeDiscoveryId (packet, message)
  · have hknown := hadmissible.known
    have hnearer := hadmissible.nearer
    rw [← UInt16.not_le] at hnearer
    dsimp only [candidateOf] at hknown hnearer
    rw [if_pos hadmissible, if_neg (not_not.mpr hadmissible.destination), if_neg (not_not.mpr hadmissible.length)]
    dsimp only
    rw [hprogress, hadmissible.discovery, beq_self_eq_true, Bool.and_true, Bool.not_true, if_neg Bool.false_ne_true,
      if_neg hknown, if_neg (not_and.mpr hnearer)]
    rfl
  · rw [if_neg hadmissible]
    dsimp only
    split_ifs with hdestination hlength hdiscovery hknown hdeeper
    · rfl
    · rfl
    · rfl
    · rfl
    · rfl
    · rw [Bool.not_eq_true, Bool.not_eq_false', hprogress, Bool.true_and, beq_iff_eq] at hdiscovery
      refine absurd ⟨not_not.mp hdestination, not_not.mp hlength, hdiscovery, hknown, fun hroute => ?_⟩ hadmissible
      exact UInt16.not_le.mp (not_and.mp hdeeper hroute)
    · rfl

/-- The two fields that responses change. -/
def withBest (found : Bool) (best : UpstreamCandidate) (state : RouteState) : RouteState :=
  { state with discoveryCandidateFound := found, bestUpstreamCandidate := best }

/-- A response changes the best candidate only. -/
theorem processDiscoveryResponse_withBest (packet : RawReceivedPacket) (message : WireFormat.Message)
    (state : RouteState) :
    ∃ found best, state.processDiscoveryResponse packet message = state.withBest found best := by
  unfold processDiscoveryResponse
  dsimp only
  split_ifs
  all_goals exact ⟨_, _, rfl⟩

/-- Responses are heard one after another. -/
theorem hear_concat (responses : List (RawReceivedPacket × WireFormat.Message))
    (response : RawReceivedPacket × WireFormat.Message) (state : RouteState) :
    state.hear (responses ++ [response]) = (state.hear responses).processDiscoveryResponse response.1 response.2 :=
  List.foldl_concat ..

/-- Responses do not touch the route. -/
theorem hear_withBest (responses : List (RawReceivedPacket × WireFormat.Message)) (state : RouteState) :
    ∃ found best, state.hear responses = state.withBest found best := by
  induction responses using List.reverseRecOn with
  | nil => exact ⟨_, _, rfl⟩
  | append_singleton responses response ih =>
    obtain ⟨found, best, hbefore⟩ := ih
    rw [hear_concat, hbefore]
    exact processDiscoveryResponse_withBest response.1 response.2 (state.withBest found best)

/-- A response takes the place of the best candidate exactly when its key is smaller. Needs an open
discovery. -/
theorem processDiscoveryResponse_selection (hprogress : state.discoveryInProgress = true) :
    (state.processDiscoveryResponse packet message).selection =
      match state.offered (packet, message) with
      | none => state.selection
      | some candidate =>
        match state.selection with
        | none => some candidate
        | some best => if candidate.key < best.key then some candidate else some best := by
  rw [processDiscoveryResponse_eq hprogress]
  cases hoffered : state.offered (packet, message) with
  | none => rfl
  | some candidate =>
    dsimp only
    cases hselection : state.selection with
    | none =>
      rw [if_pos (betterCandidate_iff.mpr (by simp [hselection]))]
      rfl
    | some best =>
      dsimp only
      by_cases hless : candidate.key < best.key
      · rw [if_pos (betterCandidate_iff.mpr (by simpa [hselection] using hless)), if_pos hless]
        rfl
      · have hworse : ¬ state.betterCandidate candidate.hopCount candidate.signalStrengthDbm = true := by
          rw [betterCandidate_iff, hselection]
          exact fun hall => hless (hall best rfl)
        rw [if_neg hworse, if_neg hless, hselection]

/-- The fold over the responses finds the first one with the smallest key. -/
theorem hear_selection (hprogress : state.discoveryInProgress = true) (hnone : state.selection = none)
    (responses : List (RawReceivedPacket × WireFormat.Message)) :
    (state.hear responses).selection = (responses.filterMap state.offered).argmin UpstreamCandidate.key := by
  induction responses using List.reverseRecOn with
  | nil => exact hnone
  | append_singleton responses response ih =>
    obtain ⟨found, best, hbefore⟩ := hear_withBest responses state
    have hprogress' : (state.hear responses).discoveryInProgress = true := by
      rw [hbefore]
      exact hprogress
    have hoffered : (state.hear responses).offered = state.offered := by
      rw [hbefore]
      rfl
    rw [hear_concat, processDiscoveryResponse_selection hprogress', hoffered, ih, List.filterMap_append]
    cases hresponse : state.offered response with
    | none => simp [hresponse]
    | some candidate =>
      rw [List.filterMap_cons_some hresponse, List.filterMap_nil, List.argmin_concat]
      cases (responses.filterMap state.offered).argmin UpstreamCandidate.key <;> rfl

end RouteState

section Selection

variable {state : RouteState} {call : DiscoveryCall}

namespace RouteState

/-- A response is admissible in the discovery of the call. -/
def Admits (call : DiscoveryCall) (response : RawReceivedPacket × WireFormat.Message) (state : RouteState) : Prop :=
  Admissible state.localMacAddress state.route.hopCountToCentral (discoveryId call.random) response

/-- What is offered in the discovery of a call is what the call admits. -/
theorem offered_startDiscovery_iff {response : RawReceivedPacket × WireFormat.Message} {candidate : UpstreamCandidate} :
    (state.startDiscovery call.random).offered response = some candidate ↔
      state.Admits call response ∧ candidateOf response = candidate :=
  offered_eq_some_iff

/-- What is offered during the discovery of a call. -/
def offers (call : DiscoveryCall) (state : RouteState) : List UpstreamCandidate :=
  call.responses.filterMap (state.startDiscovery call.random).offered

/-- The offers of a call are the candidates of its admissible responses. -/
theorem mem_offers_iff {candidate : UpstreamCandidate} :
    candidate ∈ state.offers call ↔
      ∃ response ∈ call.responses, state.Admits call response ∧ candidateOf response = candidate := by
  simp only [offers, List.mem_filterMap, offered_startDiscovery_iff]

/-- After the window the best candidate is the first one with the least key. -/
theorem heard_selection (call : DiscoveryCall) (state : RouteState) :
    (state.heard call).selection = (state.offers call).argmin UpstreamCandidate.key :=
  @hear_selection (state.startDiscovery call.random) rfl rfl call.responses

/-- Everything but the responses is there for a discovery to succeed. -/
def canSelect (call : DiscoveryCall) (state : RouteState) : Bool :=
  state.canStart call && call.requestSent && call.peerAdded

/-- The window leaves the route of the Node as it was. -/
theorem heard_withBest (call : DiscoveryCall) (state : RouteState) :
    (state.heard call).localMacAddress = state.localMacAddress ∧ (state.heard call).centralNode = state.centralNode ∧
      (state.heard call).route = state.route := by
  obtain ⟨found, best, hheard⟩ := hear_withBest call.responses (state.startDiscovery call.random)
  rw [heard, hheard]
  exact ⟨rfl, rfl, rfl⟩

/-- The flag says whether there is a best candidate. -/
theorem found_iff (state : RouteState) : state.discoveryCandidateFound = state.selection.isSome := by
  unfold selection
  cases state.discoveryCandidateFound <;> rfl

/-- With a best candidate and everything else in place, the Node takes the route through it. -/
theorem discoverUpstreamNode_of_best {best : UpstreamCandidate} (hcan : state.canSelect call = true)
    (hbest : (state.heard call).selection = some best) :
    state.discoverUpstreamNode call = ({ state.heard call with route := selectedRoute best }, true) := by
  simp only [canSelect, Bool.and_eq_true] at hcan
  obtain ⟨⟨hstart, hsent⟩, hpeer⟩ := hcan
  have hfound : (state.heard call).discoveryCandidateFound = true := by rw [found_iff, hbest, Option.isSome_some]
  have hcandidate : (state.heard call).bestUpstreamCandidate = best := by
    rw [selection, if_pos hfound] at hbest
    exact Option.some.inj hbest
  simp only [discoverUpstreamNode, hstart, hsent, hfound, hpeer, hcandidate, Bool.not_true, Bool.false_eq_true, if_false]

/-- A discovery that does not succeed leaves the route alone. -/
theorem discoverUpstreamNode_of_not (hnot : ¬ (state.canSelect call = true ∧ (state.heard call).selection.isSome)) :
    (state.discoverUpstreamNode call).2 = false ∧
      (state.discoverUpstreamNode call).1.localMacAddress = state.localMacAddress ∧
      (state.discoverUpstreamNode call).1.centralNode = state.centralNode ∧
      (state.discoverUpstreamNode call).1.route = state.route := by
  rw [← found_iff, canSelect] at hnot
  unfold discoverUpstreamNode
  split_ifs with hstart hsent hfound hpeer
  · exact ⟨rfl, rfl, rfl, rfl⟩
  · exact ⟨rfl, heard_withBest call state⟩
  · exact ⟨rfl, heard_withBest call state⟩
  · exact ⟨rfl, heard_withBest call state⟩
  · simp only [Bool.not_eq_true, Bool.not_eq_false'] at hstart hsent hfound hpeer
    exact absurd ⟨by rw [hstart, hsent, hpeer]; rfl, hfound⟩ hnot

/-- The selected candidate is that of an admissible response, and no other admissible
response has a smaller key. -/
theorem best_of_selection {best : UpstreamCandidate} (hbest : (state.heard call).selection = some best) :
    ∃ response ∈ call.responses, state.Admits call response ∧ candidateOf response = best ∧
      ∀ other ∈ call.responses, state.Admits call other → best.key ≤ (candidateOf other).key := by
  rw [heard_selection] at hbest
  obtain ⟨response, hresponse, hadmits, hcandidate⟩ := mem_offers_iff.mp (List.argmin_mem hbest)
  refine ⟨response, hresponse, hadmits, hcandidate, fun other hother hadmissible => ?_⟩
  exact List.le_of_mem_argmin (mem_offers_iff.mpr ⟨other, hother, hadmissible, rfl⟩) hbest

/-- There is a best candidate if and only if an admissible response was heard. -/
theorem selection_isSome_iff :
    (state.heard call).selection.isSome = true ↔ ∃ response ∈ call.responses, state.Admits call response := by
  constructor
  · intro hsome
    obtain ⟨best, hbest⟩ := Option.isSome_iff_exists.mp hsome
    obtain ⟨response, hresponse, hadmits, -, -⟩ := best_of_selection hbest
    exact ⟨response, hresponse, hadmits⟩
  · rintro ⟨response, hresponse, hadmits⟩
    have hoffer := mem_offers_iff.mpr ⟨response, hresponse, hadmits, rfl⟩
    rw [heard_selection, Option.isSome_iff_ne_none, ne_eq, List.argmin_eq_none]
    exact List.ne_nil_of_mem hoffer

/-- The call succeeds if and only if it could be made, its request sent, the peer added, and an
admissible response heard. -/
theorem discoverUpstreamNode_succeeds_iff :
    (state.discoverUpstreamNode call).2 = true ↔
      state.canSelect call = true ∧ ∃ response ∈ call.responses, state.Admits call response := by
  rw [← selection_isSome_iff]
  by_cases hsucceeds : state.canSelect call = true ∧ (state.heard call).selection.isSome = true
  · obtain ⟨best, hbest⟩ := Option.isSome_iff_exists.mp hsucceeds.2
    rw [discoverUpstreamNode_of_best hsucceeds.1 hbest]
    exact iff_of_true rfl hsucceeds
  · rw [(discoverUpstreamNode_of_not hsucceeds).1]
    exact iff_of_false Bool.false_ne_true hsucceeds

end RouteState

/-- Where the smallest key is found may depend on the order, but not the key. -/
theorem map_argmin_perm {α β : Type} [LinearOrder β] (key : α → β) {first second : List α} (hperm : first.Perm second) :
    (first.argmin key).map key = (second.argmin key).map key := by
  cases hfirst : first.argmin key with
  | none =>
    obtain rfl := List.argmin_eq_none.mp hfirst
    obtain rfl := hperm.nil_eq
    rfl
  | some best =>
    cases hsecond : second.argmin key with
    | none =>
      obtain rfl := List.argmin_eq_none.mp hsecond
      rw [hperm.eq_nil] at hfirst
      cases hfirst
    | some other =>
      have hle := List.le_of_mem_argmin (hperm.mem_iff.mpr (List.argmin_mem hsecond)) hfirst
      have hge := List.le_of_mem_argmin (hperm.mem_iff.mp (List.argmin_mem hfirst)) hsecond
      exact congrArg some (le_antisymm hle hge)

namespace RouteState

/-- In another order the selection has the same key. -/
theorem selection_perm {permuted : List (RawReceivedPacket × WireFormat.Message)}
    (hperm : permuted.Perm call.responses) :
    (state.heard { call with responses := permuted }).selection.map
        (fun best => (best.hopCount, best.signalStrengthDbm)) =
      (state.heard call).selection.map (fun best => (best.hopCount, best.signalStrengthDbm)) := by
  have hoffers : (state.offers { call with responses := permuted }).Perm (state.offers call) :=
    hperm.filterMap (state.startDiscovery call.random).offered
  have hkeys := map_argmin_perm UpstreamCandidate.key hoffers
  rw [← heard_selection, ← heard_selection] at hkeys
  cases hpermuted : (state.heard { call with responses := permuted }).selection with
  | none =>
    rw [hpermuted] at hkeys
    rw [Option.map_eq_none_iff.mp hkeys.symm]
  | some best =>
    rw [hpermuted] at hkeys
    obtain ⟨other, hother, hkey⟩ := Option.map_eq_some_iff.mp hkeys.symm
    obtain ⟨hhopCount, hsignal⟩ := UpstreamCandidate.key_inj hkey
    rw [hother, Option.map_some, Option.map_some, hhopCount, hsignal]

/-- The candidate that the responses of a discovery window leave is the best of the
admissible ones, in any order. The discovery succeeds exactly if there is one and the radio does
its part, and else the route stays. Nothing is assumed about the responses or the state. -/
theorem best_upstream_candidate (call : DiscoveryCall) (state : RouteState) :
    ((state.heard call).selection.isSome = true ↔ ∃ response ∈ call.responses, state.Admits call response) ∧
      (∀ best ∈ (state.heard call).selection, ∃ response ∈ call.responses, state.Admits call response ∧
        best = candidateOf response ∧
        ∀ other ∈ call.responses, state.Admits call other →
          (candidateOf response).hopCount ≤ (candidateOf other).hopCount ∧
            ((candidateOf other).hopCount = (candidateOf response).hopCount →
              (candidateOf other).signalStrengthDbm ≤ (candidateOf response).signalStrengthDbm)) ∧
      (∀ permuted : List (RawReceivedPacket × WireFormat.Message), permuted.Perm call.responses →
        (state.heard { call with responses := permuted }).selection.map
            (fun best => (best.hopCount, best.signalStrengthDbm)) =
          (state.heard call).selection.map (fun best => (best.hopCount, best.signalStrengthDbm))) ∧
      ((state.discoverUpstreamNode call).2 = true ↔
        state.canSelect call = true ∧ ∃ response ∈ call.responses, state.Admits call response) ∧
      ((state.discoverUpstreamNode call).2 = true →
        (state.discoverUpstreamNode call).1.route ∈ (state.heard call).selection.map selectedRoute) ∧
      ((state.discoverUpstreamNode call).2 = false → (state.discoverUpstreamNode call).1.route = state.route) ∧
      ((∀ response ∈ call.responses, ¬ state.Admits call response) →
        (state.discoverUpstreamNode call).2 = false ∧ (state.discoverUpstreamNode call).1.route = state.route) := by
  have hfails : (state.discoverUpstreamNode call).2 = false →
      (state.discoverUpstreamNode call).1.route = state.route := by
    intro hfalse
    refine (discoverUpstreamNode_of_not fun hsucceeds => ?_).2.2.2
    rw [selection_isSome_iff, ← discoverUpstreamNode_succeeds_iff, hfalse] at hsucceeds
    cases hsucceeds
  refine ⟨selection_isSome_iff, fun best hbest => ?_, fun permuted => selection_perm,
    discoverUpstreamNode_succeeds_iff, fun hsuccess => ?_, hfails, fun hnone => ?_⟩
  · obtain ⟨response, hresponse, hadmits, hcandidate, hleast⟩ := best_of_selection hbest
    refine ⟨response, hresponse, hadmits, hcandidate.symm, fun other hother hadmissible => ?_⟩
    have hkey := hleast other hother hadmissible
    rw [← hcandidate] at hkey
    exact UpstreamCandidate.key_le_key hkey
  · obtain ⟨hcan, hadmissible⟩ := discoverUpstreamNode_succeeds_iff.mp hsuccess
    obtain ⟨best, hbest⟩ := Option.isSome_iff_exists.mp (selection_isSome_iff.mpr hadmissible)
    rw [discoverUpstreamNode_of_best hcan hbest, hbest]
    rfl
  · have hfalse : (state.discoverUpstreamNode call).2 = false := by
      rw [← Bool.not_eq_true, discoverUpstreamNode_succeeds_iff]
      rintro ⟨-, response, hresponse, hadmits⟩
      exact hnone response hresponse hadmits
    exact ⟨hfalse, hfails hfalse⟩

end RouteState

/-- The Node that is heard. -/
def hallMac : MacAddress := Vector.replicate 6 2

/-- The Node that searches. -/
def barnMac : MacAddress := Vector.replicate 6 3

/-- What the barn hears when a Node of this depth answers its discovery 7. -/
def answerTo (originMacAddress : MacAddress) (signalStrengthDbm : Int8) (hopCount : UInt16) :
    RawReceivedPacket × WireFormat.Message where
  fst := ⟨originMacAddress, signalStrengthDbm, []⟩
  snd := {
    header := ⟨1, MessageType.DISCOVERY_RESPONSE.toByte, 12, 1, originMacAddress, barnMac, 16⟩
    payload := Vector.ofFn fun i =>
      (DiscoveryResponse.layout.encode ⟨7, hopCount, Vector.replicate 6 1⟩)[i.val]?.getD 0 }

/-- A loud Node two hops down, then the hall one hop down, and the shed as deep but fainter. -/
def threeAnswers : List (RawReceivedPacket × WireFormat.Message) :=
  [answerTo (Vector.replicate 6 4) (-40) 2, answerTo hallMac (-60) 1, answerTo (Vector.replicate 6 5) (-70) 1]

/-- The barn has no route yet and selects the hall. -/
theorem best_upstream_candidate_barn :
    let result := (RouteState.boot barnMac).discoverUpstreamNode ⟨true, 1000, 7, true, threeAnswers, true⟩
    result.2 = true ∧ result.1.route = ⟨true, hallMac, -60, true, Vector.replicate 6 1, 2⟩ := by
  intro result
  have hbest := RouteState.best_upstream_candidate ⟨true, 1000, 7, true, threeAnswers, true⟩ (.boot barnMac)
  have hmem : answerTo hallMac (-60) 1 ∈ threeAnswers := List.mem_cons_of_mem _ List.mem_cons_self
  have hadmissible : Admissible barnMac UNKNOWN_HOP_COUNT (RouteState.discoveryId 7) (answerTo hallMac (-60) 1) := by
    decide +kernel
  refine ⟨hbest.2.2.2.1.mpr ⟨by decide +kernel, _, hmem, hadmissible⟩, by decide +kernel⟩

end Selection

section Abstraction

/-! The model of `Discovery` keeps a candidate, a route and a discovery only while there is
one. -/

/-- The candidate in the terms of the network of Nodes. -/
def UpstreamCandidate.view (candidate : UpstreamCandidate) : Discovery.UpstreamCandidate :=
  ⟨candidate.macAddress, candidate.signalStrengthDbm, candidate.hopCount, candidate.centralMacAddress⟩

/-- The response that a message carries, with its addresses. -/
def responseView (message : WireFormat.Message) : Discovery.DiscoveryResponse :=
  let response := DiscoveryResponse.layout.decode message.payload.toList
  ⟨message.header.originMacAddress, message.header.destinationMacAddress, response.discoveryId,
    response.hopCountToCentral, response.centralMacAddress⟩

namespace RouteState

/-- The state without the values of its unused fields. -/
def view (state : RouteState) : Discovery.RouteState where
  centralNode := state.centralNode
  upstreamNode := if state.route.upstreamNodeSelected then some state.route.upstreamNodeMacAddress else none
  centralMacAddress := if state.route.centralMacAddressKnown then some state.route.centralMacAddress else none
  hopCountToCentral := state.route.hopCountToCentral
  discovery :=
    if state.discoveryInProgress then some ⟨state.activeDiscoveryId, state.selection.map UpstreamCandidate.view⟩
    else none

variable {state : RouteState} {packet : RawReceivedPacket} {message : WireFormat.Message}

/-- The start of a discovery, seen in the network. Needs that the Node is not Central. -/
theorem view_startDiscovery (random : UInt32) (hcentral : state.centralNode = false) :
    state.view.startDiscovery random = some (state.startDiscovery random).view := by
  rw [Discovery.RouteState.startDiscovery, if_neg (by simp [view, hcentral])]
  rfl

/-- Both models compare candidates alike. -/
theorem view_betterCandidate :
    Discovery.RouteState.betterCandidate (responseView message) packet.signalStrengthDbm
        (state.selection.map UpstreamCandidate.view) =
      state.betterCandidate (candidateOf (packet, message)).hopCount packet.signalStrengthDbm := by
  unfold betterCandidate selection
  cases state.discoveryCandidateFound with
  | false => rfl
  | true =>
    simp only [if_true, Option.map_some, Discovery.RouteState.betterCandidate, Bool.not_true, Bool.false_or,
      Bool.true_and]
    rfl

/-- Both models take a response of the right length in the same way. -/
theorem view_processDiscoveryResponse (hlength : message.header.payloadLength.toNat = DiscoveryResponse.layout.size) :
    (state.processDiscoveryResponse packet message).view =
      state.view.processDiscoveryResponse state.localMacAddress (responseView message) packet.signalStrengthDbm := by
  unfold processDiscoveryResponse Discovery.RouteState.processDiscoveryResponse
  cases hprogress : state.discoveryInProgress with
  | false =>
    have hnone : state.view.discovery = none := by simp [view, hprogress]
    rw [hnone]
    simp only [Bool.false_and, Bool.not_false, if_true, ite_self]
  | true =>
    have hsome : state.view.discovery =
        some ⟨state.activeDiscoveryId, state.selection.map UpstreamCandidate.view⟩ := by
      simp [view, hprogress]
    rw [hsome]
    have hhopCount : state.view.hopCountToCentral = state.route.hopCountToCentral := rfl
    simp only [@view_betterCandidate state packet message, hlength, hhopCount]
    have hbest : ∀ candidate : UpstreamCandidate, (state.withBest true candidate).view =
        { state.view with discovery := some ⟨state.activeDiscoveryId, some candidate.view⟩ } := by
      intro candidate
      simp only [view, selection, withBest, hprogress, if_true, Option.map_some]
    simp only [Bool.true_and, ne_eq, not_true, if_false, responseView, candidateOf, Bool.not_eq_true',
      beq_eq_false_iff_ne, apply_ite view]
    simp only [withBest, hprogress] at hbest
    simp only [hbest]
    rfl

/-- Both models answer a request alike. Needs that the request has its right length. -/
theorem view_processDiscoveryRequest (hlength : message.header.payloadLength.toNat = DiscoveryRequest.layout.size) :
    (state.processDiscoveryRequest message).map (fun answer => (⟨state.localMacAddress, answer.1, answer.2.discoveryId,
        answer.2.hopCountToCentral, answer.2.centralMacAddress⟩ : Discovery.DiscoveryResponse)) =
      state.view.processDiscoveryRequest state.localMacAddress ⟨message.header.originMacAddress,
        (DiscoveryRequest.layout.decode message.payload.toList).discoveryId⟩ := by
  unfold processDiscoveryRequest Discovery.RouteState.processDiscoveryRequest
  have hhopCount : state.view.hopCountToCentral = state.route.hopCountToCentral := rfl
  cases hknown : state.route.centralMacAddressKnown with
  | false => simp [view, hknown]
  | true =>
    have hcentral : state.view.centralMacAddress = some state.route.centralMacAddress := by simp [view, hknown]
    simp only [hcentral, hhopCount, hlength, Bool.true_and, ne_eq, not_true, if_false, Bool.not_eq_true',
      bne_eq_false_iff_eq]
    split_ifs
    · rfl
    · rfl
    · rfl

/-- The whole call is a start, responses and an end of the network. Needs that it starts and that its
request is sent. -/
theorem view_discoverUpstreamNode {call : DiscoveryCall} (hstart : state.canStart call = true)
    (hsent : call.requestSent = true) :
    (state.discoverUpstreamNode call).1.view =
      ((state.startDiscovery call.random).hear call.responses).view.finishDiscovery call.peerAdded := by
  obtain ⟨found, best, hhear⟩ := hear_withBest call.responses (state.startDiscovery call.random)
  simp only [discoverUpstreamNode, heard, hstart, hsent, hhear, Bool.not_true, Bool.false_eq_true, if_false]
  cases found with
  | false => rfl
  | true => cases call.peerAdded <;> rfl

end RouteState
end Abstraction

section HopCounts

open RouteState

/-- A Smart Node, and the response through which it selected its upstream Node. -/
structure Node where
  state : RouteState
  chosen : Option (RawReceivedPacket × WireFormat.Message)
deriving DecidableEq

/-- One discovery of a Node. -/
structure Discovers (before : Node) (call : DiscoveryCall) (after : Node) : Prop where
  state : after.state = (before.state.discoverUpstreamNode call).1
  failed : (before.state.discoverUpstreamNode call).2 = false → after.chosen = before.chosen
  selected : (before.state.discoverUpstreamNode call).2 = true →
    ∃ response ∈ call.responses, before.state.Admits call response ∧
      after.state.route = selectedRoute (candidateOf response) ∧ after.chosen = some response

namespace Node

/-- A Node after its boot has chosen nobody. -/
def boot (localMacAddress : MacAddress) : Node := ⟨.boot localMacAddress, none⟩

/-- The hop count of a Node is one more than its chosen response advertised. It answers
requests with it, and takes no response that is as deep. -/
structure HopCountExact (node : Node) : Prop where
  exact : ∃ response ∈ node.chosen,
    node.state.route.hopCountToCentral.toNat = (candidateOf response).hopCount.toNat + 1
  known : node.state.route.hopCountToCentral ≠ UNKNOWN_HOP_COUNT
  answers : ∀ message : WireFormat.Message, message.header.originMacAddress ≠ node.state.localMacAddress →
    message.header.payloadLength.toNat = DiscoveryRequest.layout.size →
    ∃ answer ∈ node.state.processDiscoveryRequest message,
      answer.2.hopCountToCentral = node.state.route.hopCountToCentral
  rejects : ∀ during : RouteState, during.route = node.state.route → ∀ packet message,
    node.state.route.hopCountToCentral ≤ (candidateOf (packet, message)).hopCount →
    during.processDiscoveryResponse packet message = during

/-- A Node that has selected an upstream Node knows how deep it is. -/
def Sound (node : Node) : Prop := node.state.route.upstreamNodeSelected = true → node.HopCountExact

end Node

/-- Where an admissible response leads to a route, one of them advertises a hop count
that leaves room for the Node below the sentinel. -/
def NearEnough (call : DiscoveryCall) (state : RouteState) : Prop :=
  state.canSelect call = true → (∃ response ∈ call.responses, state.Admits call response) →
    ∃ response ∈ call.responses, state.Admits call response ∧ (candidateOf response).hopCount < UNKNOWN_HOP_COUNT - 1

/-- A response from no nearer to Central changes nothing. Needs that the Node has a route. -/
theorem processDiscoveryResponse_of_deep {state : RouteState} {packet : RawReceivedPacket}
    {message : WireFormat.Message} (hknown : state.route.hopCountToCentral ≠ UNKNOWN_HOP_COUNT)
    (hdeep : state.route.hopCountToCentral ≤ (candidateOf (packet, message)).hopCount) :
    state.processDiscoveryResponse packet message = state := by
  dsimp only [candidateOf] at hdeep
  unfold processDiscoveryResponse
  dsimp only
  split_ifs with hdestination hlength hdiscovery hunknown hdeeper
  · rfl
  · rfl
  · rfl
  · rfl
  · rfl
  · exact absurd ⟨hknown, hdeep⟩ hdeeper
  · rfl

/-- One hop more does not wrap, unless the hop count is the sentinel. -/
theorem succ_hopCount {hopCount : UInt16} (hknown : hopCount ≠ UNKNOWN_HOP_COUNT) :
    (hopCount + 1).toNat = hopCount.toNat + 1 := by
  have hlt := hopCount.toNat_lt
  have hne : hopCount.toNat ≠ 65535 := fun heq => hknown (UInt16.toNat_inj.mp heq)
  rw [UInt16.toNat_add]
  exact Nat.mod_eq_of_lt (by rw [UInt16.toNat_one]; omega)

/-- The depth of a Node is known unless the chosen response has used up the counts. -/
theorem hopCountExact_iff {node : Node} {response : RawReceivedPacket × WireFormat.Message}
    (hroute : node.state.route = selectedRoute (candidateOf response)) (hchosen : node.chosen = some response)
    (hadvertised : (candidateOf response).hopCount ≠ UNKNOWN_HOP_COUNT) :
    node.HopCountExact ↔ (candidateOf response).hopCount < UNKNOWN_HOP_COUNT - 1 := by
  have hsucc := succ_hopCount hadvertised
  have hhopCount : node.state.route.hopCountToCentral = (candidateOf response).hopCount + 1 := by rw [hroute]; rfl
  have hbound := (candidateOf response).hopCount.toNat_lt
  have hknown : node.state.route.hopCountToCentral ≠ UNKNOWN_HOP_COUNT ↔
      (candidateOf response).hopCount < UNKNOWN_HOP_COUNT - 1 := by
    rw [hhopCount, ne_eq, ← UInt16.toNat_inj, hsucc, UInt16.lt_iff_toNat_lt, show UNKNOWN_HOP_COUNT.toNat = 65535 from rfl,
      show (UNKNOWN_HOP_COUNT - 1).toNat = 65534 from rfl]
    have hne : (candidateOf response).hopCount.toNat ≠ 65535 := fun heq => hadvertised (UInt16.toNat_inj.mp heq)
    omega
  rw [← hknown]
  constructor
  · exact fun hexact => hexact.known
  · intro hroom
    refine ⟨⟨response, hchosen, by rw [hhopCount, hsucc]⟩, hroom, fun message horigin hlength => ?_,
      fun during hduring packet message hdeep => ?_⟩
    · have havailable : (node.state.route.centralMacAddressKnown &&
          node.state.route.hopCountToCentral != UNKNOWN_HOP_COUNT) = true := by
        rw [Bool.and_eq_true, bne_iff_ne]
        exact ⟨by rw [hroute]; rfl, hroom⟩
      rw [processDiscoveryRequest, havailable, Bool.not_true, if_neg Bool.false_ne_true, if_neg horigin,
        if_neg (not_not.mpr hlength)]
      exact ⟨_, rfl, rfl⟩
    · rw [← hduring] at hroom hdeep
      exact processDiscoveryResponse_of_deep hroom hdeep

/-- The route tells the candidate. -/
theorem selectedRoute_inj {first second : UpstreamCandidate} (hroute : selectedRoute first = selectedRoute second) :
    first = second := by
  obtain ⟨firstMac, firstSignal, firstHopCount, firstCentral⟩ := first
  obtain ⟨secondMac, secondSignal, secondHopCount, secondCentral⟩ := second
  simp only [selectedRoute, Route.mk.injEq] at hroute
  obtain ⟨-, rfl, rfl, -, rfl, hhopCount⟩ := hroute
  rw [(UInt16.add_left_inj 1).mp hhopCount]

/-- The soundness of a Node only depends on its route. -/
theorem Node.sound_congr {before after : Node} (hlocal : after.state.localMacAddress = before.state.localMacAddress)
    (hroute : after.state.route = before.state.route) (hchosen : after.chosen = before.chosen) :
    after.Sound ↔ before.Sound := by
  have hrequest : ∀ message, after.state.processDiscoveryRequest message = before.state.processDiscoveryRequest message := by
    intro message
    rw [processDiscoveryRequest, processDiscoveryRequest, hroute, hlocal]
  have hexact : after.HopCountExact ↔ before.HopCountExact := by
    constructor
    · rintro ⟨exact, known, answers, rejects⟩
      rw [hroute, hchosen] at exact
      rw [hroute] at known rejects
      simp only [hlocal, hrequest, hroute] at answers
      exact ⟨exact, known, answers, rejects⟩
    · rintro ⟨exact, known, answers, rejects⟩
      rw [← hroute, ← hchosen] at exact
      rw [← hroute] at known rejects
      simp only [← hlocal, ← hrequest, ← hroute] at answers
      exact ⟨exact, known, answers, rejects⟩
  rw [Sound, Sound, hroute, hexact]

/-- A discovery leaves a Node sound exactly if one of the responses is near enough. -/
theorem Discovers.sound_iff {before after : Node} {call : DiscoveryCall} (hdiscovers : Discovers before call after)
    (hsound : before.Sound) : after.Sound ↔ NearEnough call before.state := by
  cases hresult : (before.state.discoverUpstreamNode call).2 with
  | false =>
    have hnot : ¬ (before.state.canSelect call = true ∧ ∃ response ∈ call.responses, before.state.Admits call response) := by
      rw [← discoverUpstreamNode_succeeds_iff, hresult]
      exact Bool.false_ne_true
    rw [← selection_isSome_iff] at hnot
    obtain ⟨-, hlocal, -, hroute⟩ := discoverUpstreamNode_of_not hnot
    rw [← hdiscovers.state] at hlocal hroute
    rw [Node.sound_congr hlocal hroute (hdiscovers.failed hresult)]
    refine iff_of_true hsound fun hcan hadmissible => ?_
    exact absurd ⟨hcan, selection_isSome_iff.mpr hadmissible⟩ hnot
  | true =>
    obtain ⟨response, hresponse, hadmits, hroute, hchosen⟩ := hdiscovers.selected hresult
    obtain ⟨hcan, hadmissible⟩ := discoverUpstreamNode_succeeds_iff.mp hresult
    have hselected : after.state.route.upstreamNodeSelected = true := by
      rw [hroute]
      rfl
    have hleast : ∀ other ∈ call.responses, before.state.Admits call other →
        (candidateOf response).hopCount ≤ (candidateOf other).hopCount := by
      intro other hother hadmits'
      obtain ⟨best, hbest⟩ := Option.isSome_iff_exists.mp (selection_isSome_iff.mpr hadmissible)
      obtain ⟨-, -, -, -, hkey⟩ := best_of_selection hbest
      rw [hdiscovers.state, discoverUpstreamNode_of_best hcan hbest] at hroute
      rw [← selectedRoute_inj hroute]
      exact (UpstreamCandidate.key_le_key (hkey other hother hadmits')).1
    rw [Node.Sound, imp_iff_right hselected, hopCountExact_iff hroute hchosen hadmits.known, NearEnough,
      imp_iff_right hcan, imp_iff_right hadmissible]
    constructor
    · intro hnear
      exact ⟨response, hresponse, hadmits, hnear⟩
    · rintro ⟨other, hother, hadmits', hnear⟩
      exact UInt16.lt_of_le_of_lt (hleast other hother hadmits') hnear

/-- A discovery after which the Node knows how deep it is. -/
structure SoundDiscovery (before : Node) (call : DiscoveryCall) (after : Node) : Prop where
  discovers : Discovers before call after
  sound : after.Sound

/-- A discovery that meets the condition on its responses. -/
structure NearDiscovery (before : Node) (call : DiscoveryCall) (after : Node) : Prop where
  discovers : Discovers before call after
  near : NearEnough call before.state

/-- What a Node answers is what the Node that asked selects by. -/
theorem candidateOf_built {sender : WireFormat.Sender} {destination : MacAddress} {response : DiscoveryResponse}
    {packet : RawReceivedPacket} {message : WireFormat.Message}
    (hbuilt : WireFormat.Built sender destination .DISCOVERY_RESPONSE (some (DiscoveryResponse.layout.encode response))
      DiscoveryResponse.layout.size message) :
    candidateOf (packet, message) =
      ⟨sender.localMacAddress, packet.signalStrengthDbm, response.hopCountToCentral, response.centralMacAddress⟩ := by
  have hpayload := hbuilt.payload
  rw [Option.getD_some, ← DiscoveryResponse.layout.length_encode response, List.take_length] at hpayload
  rw [candidateOf]
  dsimp only
  rw [hpayload, DiscoveryResponse.layout.decode_append, hbuilt.header]

/-- A Node is sound in every state of a run exactly if all of its discoveries find their way to Central
before the counts are used up. The run starts at the boot, and nothing is assumed about the responses. -/
theorem hop_counts_exact_iff {localMacAddress : MacAddress} {calls : List DiscoveryCall} {last : Node} :
    Run SoundDiscovery (.boot localMacAddress) calls last ↔ Run NearDiscovery (.boot localMacAddress) calls last := by
  refine Run.congr (fun before call after _ hstep => hstep.sound) (fun before call after hsound => ?_) ?_
  · constructor
    · intro hstep
      exact ⟨hstep.discovers, (hstep.discovers.sound_iff hsound).mp hstep.sound⟩
    · intro hstep
      exact ⟨hstep.discovers, (hstep.discovers.sound_iff hsound).mpr hstep.near⟩
  · intro hselected
    cases hselected

/-- A request that is broadcast by the hall. -/
def barnRequest : WireFormat.Message where
  header := ⟨1, MessageType.DISCOVERY_REQUEST.toByte, 4, 1, hallMac, Vector.replicate 6 255, 16⟩
  payload := Vector.replicate 226 0

/-- The hall answers the barn from as deep as a Node can be. -/
def farthestAnswer : RawReceivedPacket × WireFormat.Message := answerTo hallMac (-60) (UNKNOWN_HOP_COUNT - 1)

/-- A discovery that hears only a responder at the largest hop count. -/
def farthestCall : DiscoveryCall := ⟨true, 1000, 7, true, [farthestAnswer], true⟩

/-- The barn after its discovery. -/
def farthestNode : Node := ⟨((RouteState.boot barnMac).discoverUpstreamNode farthestCall).1, some farthestAnswer⟩

/-- The barn selects the hall and still has no hop count, so it answers nobody. -/
theorem selected_without_hop_count :
    Run Discovers (.boot barnMac) [farthestCall] farthestNode ∧ ¬ farthestNode.Sound ∧
      farthestNode.state.route.upstreamNodeSelected = true ∧
      farthestNode.state.route.hopCountToCentral = UNKNOWN_HOP_COUNT ∧
      farthestNode.state.processDiscoveryRequest barnRequest = none := by
  have hselected : ((RouteState.boot barnMac).discoverUpstreamNode farthestCall).2 = true := by decide +kernel
  have hadmissible : Admissible barnMac UNKNOWN_HOP_COUNT 7 farthestAnswer := by decide +kernel
  have hroute : farthestNode.state.route = selectedRoute (candidateOf farthestAnswer) := by decide +kernel
  have hunknown : farthestNode.state.route.upstreamNodeSelected = true ∧
      farthestNode.state.route.hopCountToCentral = UNKNOWN_HOP_COUNT ∧
      farthestNode.state.processDiscoveryRequest barnRequest = none := by
    decide +kernel
  have hdiscovers : Discovers (.boot barnMac) farthestCall farthestNode := by
    have hstate : farthestNode.state = ((Node.boot barnMac).state.discoverUpstreamNode farthestCall).1 := by
      rw [farthestNode, Node.boot]
    refine ⟨hstate, fun hfailed => ?_, fun _ => ?_⟩
    · exact absurd (hfailed.symm.trans hselected) Bool.false_ne_true
    · exact ⟨farthestAnswer, List.mem_singleton_self _, hadmissible, hroute, rfl⟩
  exact ⟨.single hdiscovers, fun hsound => (hsound hunknown.1).known hunknown.2.1, hunknown⟩

end HopCounts

end kilowatts.UpstreamSelection
