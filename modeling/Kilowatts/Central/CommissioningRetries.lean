import Kilowatts.Central.LifecycleAgreement
import Kilowatts.NodeManager.SystemCommandModel

namespace kilowatts.CommissioningRetries

open Commissioning CommissioningRegistry LifecycleAgreement

/-- The two commands that `handleConfigCommand` handles alike. -/
inductive CommissioningAction where
  | COMMISSION_NODE
  | RENAME_NODE
deriving DecidableEq

/-- The part of `ConfigCommandRequest` that belongs to them. -/
structure CommissioningRequest where
  commandId : UInt32
  action : CommissioningAction
  nodeMacAddress : MacAddress
  hasFriendlyName : Bool
  friendlyName : List UInt8
deriving DecidableEq

/-- COMMISSION_NODE. The route is asked for before the registry is. -/
def handleConfigCommand (localMac : MacAddress) (answers : CentralAnswers) (request : CommissioningRequest)
    (registry : CommissioningRegistry) : CommissioningRegistry × CommandResult :=
  if !request.hasFriendlyName || request.nodeMacAddress = localMac then
    (registry, ⟨false, false, "valid Smart Node and friendlyName required"⟩)
  else if !answers.stateTaken then (registry, ⟨false, false, "state is busy"⟩)
  else
    let known := (registry.findByMac request.nodeMacAddress).isSome
    let (registry, accepted) :=
      if known && answers.routeFound then
        registry.requestCommissioning request.nodeMacAddress request.friendlyName request.commandId
      else (registry, false)
    if !accepted then
      (registry, ⟨false, false,
        if known then "commissioning request rejected or no route" else "Node has not been discovered"⟩)
    else
      -- the record stays as requested if the send fails
      (registry, ⟨answers.sent, false,
        if answers.sent then "dispatched; awaiting Node confirmation" else "ESP-NOW send failed"⟩)

/-- What a request changes of a record. -/
def requested (entry : CommissioningEntry) : NodeLifecycleState × SyncState × UInt32 × List UInt8 :=
  (entry.lifecycleState, entry.syncState, entry.pendingCommandId, entry.pendingFriendlyName)

/-- A command that is rejected leaves the record as it was, and the same command fares then as
it would have fared before. -/
def Retriable (localMac : MacAddress) (answers : CentralAnswers) (request : CommissioningRequest)
    (registry : CommissioningRegistry) : Prop :=
  let (rejected, result) := handleConfigCommand localMac answers request registry
  result.accepted = false →
    (rejected.findByMac request.nodeMacAddress).map requested =
        (registry.findByMac request.nodeMacAddress).map requested ∧
      ∀ again, (handleConfigCommand localMac again request rejected).2.accepted =
        (handleConfigCommand localMac again request registry).2.accepted

/-- The command gets as far as `requestCommissioning`, with a name that it accepts. -/
def asks (localMac : MacAddress) (answers : CentralAnswers) (request : CommissioningRequest) : Bool :=
  request.hasFriendlyName && request.nodeMacAddress != localMac && answers.stateTaken && answers.routeFound &&
    isValidFriendlyName request.friendlyName

/-- The record of a commissioned Node that waits for this very command. -/
def waitsFor (request : CommissioningRequest) (entry : CommissioningEntry) : Prop :=
  entry.isFirstCommissioning = false ∧ entry.syncState = .PENDING ∧ entry.pendingCommandId = request.commandId ∧
    entry.pendingFriendlyName = request.friendlyName

/-- The command is sent, or it does not ask, or it asks for nothing new. -/
def Undisturbed (localMac : MacAddress) (answers : CentralAnswers) (request : CommissioningRequest)
    (registry : CommissioningRegistry) : Prop :=
  answers.sent = true ∨ asks localMac answers request = false ∨
    ∀ entry, registry.findByMac request.nodeMacAddress = some entry →
      (entry.isFirstCommissioning || entry.isRename) = false ∨ waitsFor request entry

section Retries

variable (localMac : MacAddress) (answers : CentralAnswers) (request : CommissioningRequest)
  (registry : CommissioningRegistry)

/-- A first commissioning starts from a state that may go to CONFIGURING. -/
theorem isValidNodeLifecycleTransition_of_first {entry : CommissioningEntry}
    (hfirst : entry.isFirstCommissioning = true) :
    isValidNodeLifecycleTransition entry.lifecycleState .CONFIGURING = true := by
  simp only [CommissioningEntry.isFirstCommissioning, Bool.or_eq_true, decide_eq_true_eq] at hfirst
  obtain hstate | hstate := hfirst <;> rw [hstate] <;> rfl

/-- Which requests the registry accepts. -/
theorem requestCommissioning_eq (macAddress : MacAddress) (friendlyName : List UInt8) (commandId : UInt32) :
    registry.requestCommissioning macAddress friendlyName commandId =
      if isValidFriendlyName friendlyName &&
          (registry.findByMac macAddress).any (fun entry => entry.isFirstCommissioning || entry.isRename) then
        (registry.change macAddress (·.request friendlyName commandId), true)
      else (registry, false) := by
  unfold requestCommissioning
  cases hname : isValidFriendlyName friendlyName with
  | false => rfl
  | true =>
    cases hfound : registry.findByMac macAddress with
    | none => rfl
    | some entry =>
      cases hfirst : entry.isFirstCommissioning with
      | false => cases hrename : entry.isRename <;> simp [hfirst, hrename]
      | true => simp [hfirst, isValidNodeLifecycleTransition_of_first hfirst]

/-- The record of the Node can be asked. -/
def acceptsRequest : Bool :=
  (registry.findByMac request.nodeMacAddress).any fun entry => entry.isFirstCommissioning || entry.isRename

/-- A command that passes all checks changes the record before it is sent. -/
theorem handleConfigCommand_asked (hasks : asks localMac answers request = true)
    (haccepts : acceptsRequest request registry = true) :
    handleConfigCommand localMac answers request registry =
      (registry.change request.nodeMacAddress (·.request request.friendlyName request.commandId),
        ⟨answers.sent, false, if answers.sent then "dispatched; awaiting Node confirmation" else "ESP-NOW send failed"⟩) := by
  simp only [asks, Bool.and_eq_true, bne_iff_ne] at hasks
  obtain ⟨⟨⟨⟨hname, hremote⟩, htaken⟩, hroute⟩, hvalid⟩ := hasks
  have hknown : (registry.findByMac request.nodeMacAddress).isSome = true := Option.isSome_of_any haccepts
  rw [acceptsRequest] at haccepts
  simp [handleConfigCommand, hname, hremote, htaken, hroute, hknown, requestCommissioning_eq, hvalid, haccepts]

/-- Any other is rejected and changes nothing. -/
theorem handleConfigCommand_not_asked
    (hkept : (asks localMac answers request && acceptsRequest request registry) = false) :
    (handleConfigCommand localMac answers request registry).1 = registry ∧
      (handleConfigCommand localMac answers request registry).2.accepted = false := by
  unfold handleConfigCommand
  split
  · exact ⟨rfl, rfl⟩
  rename_i hchecked
  split
  · exact ⟨rfl, rfl⟩
  rename_i htaken
  have hrejected : (if (registry.findByMac request.nodeMacAddress).isSome && answers.routeFound then
      registry.requestCommissioning request.nodeMacAddress request.friendlyName request.commandId
      else (registry, false)) = (registry, false) := by
    split
    · rename_i hrouted
      simp only [Bool.or_eq_true, Bool.not_eq_true', decide_eq_true_eq, not_or, Bool.not_eq_false] at hchecked
      simp only [Bool.not_eq_true', Bool.not_eq_false] at htaken
      rw [Bool.and_eq_true] at hrouted
      have hasked : asks localMac answers request = isValidFriendlyName request.friendlyName := by
        simp [asks, hchecked, htaken, hrouted]
      rw [hasked, acceptsRequest] at hkept
      rw [requestCommissioning_eq, hkept, if_neg Bool.false_ne_true]
    · rfl
  dsimp only
  rw [hrejected]
  exact ⟨rfl, rfl⟩

/-- Accepted means that the radio took the packet. -/
theorem handleConfigCommand_accepted :
    (handleConfigCommand localMac answers request registry).2.accepted =
      (asks localMac answers request && acceptsRequest request registry && answers.sent) := by
  cases hasked : asks localMac answers request && acceptsRequest request registry with
  | false => rw [(handleConfigCommand_not_asked localMac answers request registry hasked).2, Bool.false_and]
  | true =>
    rw [Bool.and_eq_true] at hasked
    rw [handleConfigCommand_asked localMac answers request registry hasked.1 hasked.2, Bool.true_and]

/-- The record as a request leaves it. -/
theorem findByMac_change_request (entry : CommissioningEntry)
    (hfound : registry.findByMac request.nodeMacAddress = some entry) :
    (registry.change request.nodeMacAddress (·.request request.friendlyName request.commandId)).findByMac
        request.nodeMacAddress = some (entry.request request.friendlyName request.commandId) := by
  have hacts : ActsAt request.nodeMacAddress (some (entry.request request.friendlyName request.commandId)) registry
      (registry.change request.nodeMacAddress (·.request request.friendlyName request.commandId)) :=
    actsAt_change (fun _ => rfl) hfound
  exact hacts.found

/-- Beside the protocol between the Nodes and Central, this is the same command with its checks
and its answer. -/
theorem handleConfigCommand_commissionNode (hname : request.hasFriendlyName = true)
    (hremote : request.nodeMacAddress ≠ localMac) :
    (handleConfigCommand localMac answers request registry).1 =
        (commissionNode request.nodeMacAddress registry request.friendlyName request.commandId answers).1 ∧
      (handleConfigCommand localMac answers request registry).2.accepted =
        (commissionNode request.nodeMacAddress registry request.friendlyName request.commandId answers).2.isSome := by
  have hchecked : ¬(!request.hasFriendlyName || decide (request.nodeMacAddress = localMac)) = true := by
    simp [hname, hremote]
  rw [handleConfigCommand, commissionNode, if_neg hchecked, requestCommissioning_eq]
  cases answers.stateTaken with
  | false => exact ⟨rfl, rfl⟩
  | true =>
    cases hfound : registry.findByMac request.nodeMacAddress with
    | none => exact ⟨rfl, rfl⟩
    | some entry =>
      cases answers.routeFound with
      | false => exact ⟨rfl, rfl⟩
      | true =>
        cases haccepts : isValidFriendlyName request.friendlyName &&
          (some entry).any (fun entry => entry.isFirstCommissioning || entry.isRename) with
        | false => simp
        | true => cases hsent : answers.sent <;> simp

/-- A request leaves the record as it was only if the record waits for it already. -/
theorem requested_request_iff (hvalid : isValidFriendlyName request.friendlyName = true) (entry : CommissioningEntry) :
    requested (entry.request request.friendlyName request.commandId) = requested entry ↔ waitsFor request entry := by
  have hname : copyTruncated FRIENDLY_NAME_BUFFER_SIZE request.friendlyName = request.friendlyName := by
    simp only [isValidFriendlyName, Bool.and_eq_true, decide_eq_true_eq] at hvalid
    exact List.take_of_length_le (by omega)
  cases hfirst : entry.isFirstCommissioning with
  | true =>
    have hstate : entry.lifecycleState ≠ .CONFIGURING := by
      intro hconfiguring
      simp [CommissioningEntry.isFirstCommissioning, hconfiguring] at hfirst
    simp [requested, CommissioningEntry.request, waitsFor, hfirst, hstate.symm]
  | false =>
    simp only [requested, CommissioningEntry.request, hfirst, hname, waitsFor, Prod.mk.injEq, true_and,
      Bool.false_eq_true, if_false]
    constructor
    · rintro ⟨hstate, hcommand, hpending⟩
      exact ⟨hstate.symm, hcommand.symm, hpending.symm⟩
    · rintro ⟨hstate, hcommand, hpending⟩
      exact ⟨hstate.symm, hcommand.symm, hpending.symm⟩

/-- A first commissioning that is asked for refuses every further try, whether or not it was sent. -/
theorem refused_after_request (hasks : asks localMac answers request = true) {entry : CommissioningEntry}
    (hfound : registry.findByMac request.nodeMacAddress = some entry) (hfirst : entry.isFirstCommissioning = true)
    (again : CentralAnswers) :
    (handleConfigCommand localMac again request (handleConfigCommand localMac answers request registry).1).2.accepted =
      false := by
  have haccepts : acceptsRequest request registry = true := by
    simp [acceptsRequest, hfound, hfirst]
  have hafter := findByMac_change_request request registry entry hfound
  have hstate : (entry.request request.friendlyName request.commandId).lifecycleState = .CONFIGURING := if_pos hfirst
  rw [handleConfigCommand_asked localMac answers request registry hasks haccepts, handleConfigCommand_accepted,
    acceptsRequest, hafter]
  simp [CommissioningEntry.isFirstCommissioning, CommissioningEntry.isRename, hstate]

/-- A rejected command can be issued again as if it had not been exactly if it was sent, did not ask, or
asked for nothing new. Nothing is assumed about the registry, the request or the answers. -/
theorem retriable_iff :
    Retriable localMac answers request registry ↔ Undisturbed localMac answers request registry := by
  unfold Retriable Undisturbed
  cases hasked : asks localMac answers request && acceptsRequest request registry with
  | false =>
    have hkept := handleConfigCommand_not_asked localMac answers request registry hasked
    simp only [hkept.1, implies_true, and_self, true_iff]
    rw [Bool.and_eq_false_iff] at hasked
    refine .inr (hasked.imp_right fun hrefused entry hfound => .inl ?_)
    simpa [acceptsRequest, hfound] using hrefused
  | true =>
    rw [Bool.and_eq_true] at hasked
    obtain ⟨hasks, haccepts⟩ := hasked
    obtain ⟨entry, hfound, hentry⟩ := (Option.any_eq_true _ _).mp haccepts
    have hvalid : isValidFriendlyName request.friendlyName = true := (Bool.and_eq_true_iff.mp hasks).2
    have hafter := findByMac_change_request request registry entry hfound
    rw [handleConfigCommand_asked localMac answers request registry hasks haccepts]
    dsimp only
    cases answers.sent with
    | true => simp
    | false =>
      simp only [hafter, hfound, Option.map_some, Option.some_inj, requested_request_iff request hvalid entry, hasks,
        true_implies, Bool.false_eq_true, reduceCtorEq, false_or, forall_eq', hentry]
      constructor
      · intro hsame
        exact hsame.1
      · intro hwaits
        refine ⟨hwaits, fun again => ?_⟩
        have hstate : (entry.request request.friendlyName request.commandId).lifecycleState = entry.lifecycleState := by
          simp [CommissioningEntry.request, hwaits.1]
        rw [handleConfigCommand_accepted, handleConfigCommand_accepted, acceptsRequest, acceptsRequest, hafter, hfound]
        simp [CommissioningEntry.isFirstCommissioning, CommissioningEntry.isRename, hstate]

end Retries

/-- A Node that Central has discovered. -/
def discoveredNode : CommissioningRegistry :=
  (CommissioningRegistry.make.recordDiscovered (Vector.replicate 6 7) ⟨.SMART, [], [], [], 0, 0⟩).1

def commissionPump : CommissioningRequest where
  commandId := 9
  action := .COMMISSION_NODE
  nodeMacAddress := Vector.replicate 6 7
  hasFriendlyName := true
  friendlyName := [112, 117, 109, 112]

/-- The send fails once, and from then on the Node cannot be commissioned. -/
theorem commissionPump_not_retriable :
    ¬Retriable (Vector.replicate 6 1) ⟨true, true, false⟩ commissionPump discoveredNode ∧
      (handleConfigCommand (Vector.replicate 6 1) ⟨true, true, true⟩ commissionPump discoveredNode).2.accepted = true ∧
      (handleConfigCommand (Vector.replicate 6 1) ⟨true, true, true⟩ commissionPump
        (handleConfigCommand (Vector.replicate 6 1) ⟨true, true, false⟩ commissionPump
          discoveredNode).1).2.accepted = false := by
  refine ⟨fun hretriable => ?_, by decide +kernel, by decide +kernel⟩
  exact absurd (hretriable (by decide +kernel)).1 (by decide +kernel)

end kilowatts.CommissioningRetries
