import Kilowatts.Library.MirroredFlag
import Kilowatts.NodeManager.CommissionedRecords
import Kilowatts.Smart.Commissioning

namespace kilowatts.LifecycleAgreement

open Commissioning CommissioningRegistry

/-- An identity report on its way. It is quiet if no command and no acknowledgement
of its Node was in flight when it was sent. -/
structure SentReport where
  packet : IdentityReportPacket
  quiet : Bool
deriving DecidableEq

/-- Central's registry, the identity of one Smart Node and the messages between the two. -/
structure LifecycleSystem where
  registry : CommissioningRegistry
  node : NodeIdentityStore
  commands : List NodeCommand
  acknowledgements : List NodeAcknowledgement
  reports : List SentReport
deriving DecidableEq

/-- Both sides are new, and nothing is in flight. -/
def firstBoot : LifecycleSystem := ⟨.make, .make, [], [], []⟩

/-- Whether Central takes `stateMutex`, finds a route to the Node and sends its command. -/
structure CentralAnswers where
  stateTaken : Bool
  routeFound : Bool
  sent : Bool
deriving DecidableEq

/-- What happens to one Node. Every message may be lost, and none is held to its turn. Calls of
the registry for another MAC are `other`. -/
inductive LifecycleEvent where
  | commission (friendlyName : List UInt8) (commandId : UInt32) (answers : CentralAnswers)
  | decommission (commandId : UInt32) (answers : CentralAnswers)
  | factoryReset (commandId : UInt32) (answers : CentralAnswers)
  | deliverCommand (position : Nat) (answers : NodeAnswers)
  | loseCommand (position : Nat)
  | deliverAcknowledgement (position : Nat) (stateTaken : Bool)
  | loseAcknowledgement (position : Nat)
  | sendReport (chip : ChipReadings)
  | deliverReport (position : Nat) (stateTaken : Bool) (nowMilliseconds : UInt32)
  | loseReport (position : Nat)
  | restart (found : Option NodeIdentityStore)
  | other (operation : Operation)
deriving DecidableEq

section Central

variable (macAddress : MacAddress) (registry : CommissioningRegistry)

/-- COMMISSION_NODE and RENAME_NODE in `handleConfigCommand`, of a Smart Node and with a name.
Beside the registry stands the packet that is sent. -/
def commissionNode (friendlyName : List UInt8) (commandId : UInt32) (answers : CentralAnswers) :
    CommissioningRegistry × Option CommissionCommandPacket :=
  if !answers.stateTaken then (registry, none)
  else if (registry.findByMac macAddress).isNone || !answers.routeFound then (registry, none)
  else
    let (registry, accepted) := registry.requestCommissioning macAddress friendlyName commandId
    (registry,
      if accepted && answers.sent then some ⟨commandId, copyTruncated FRIENDLY_NAME_BUFFER_SIZE friendlyName⟩ else none)

/-- DECOMMISSION_NODE. The record is erased with or without a route. -/
def decommissionNode (commandId : UInt32) (answers : CentralAnswers) :
    CommissioningRegistry × Option DecommissionCommandPacket :=
  if !answers.stateTaken then (registry, none)
  else
    let (registry, decommissioned) := registry.decommission macAddress
    (registry, if decommissioned && answers.routeFound && answers.sent then some ⟨commandId⟩ else none)

/-- FACTORY_RESET_NODE in `handleSystemCommand`. No record is touched. -/
def factoryResetNode (commandId : UInt32) (answers : CentralAnswers) : Option FactoryResetCommandPacket :=
  if answers.stateTaken && answers.routeFound && answers.sent then some ⟨commandId, FACTORY_RESET_CONFIRM_TOKEN⟩
  else none

/-- Without the lock the acknowledgement is lost. -/
def handleCommissionAcknowledgement (stateTaken : Bool) (acknowledgement : CommissionAckPacket) :
    CommissioningRegistry :=
  if !stateTaken then registry
  else
    (registry.applyCommissionResult macAddress acknowledgement.commandId (acknowledgement.success != 0)
      (.ofByte acknowledgement.resultingState)).1

/-- An acknowledgement of a decommissioning is only published. -/
def handleAcknowledgement (stateTaken : Bool) : NodeAcknowledgement → CommissioningRegistry
  | .commission packet => handleCommissionAcknowledgement macAddress registry stateTaken packet
  | .decommission _ => registry

/-- `report.lifecycleState` is not read. -/
def handleIdentityReport (stateTaken : Bool) (report : IdentityReportPacket) (nowMilliseconds : UInt32) :
    CommissioningRegistry :=
  if 1 < report.role || MAX_RELAY_GPIO_CAPABILITIES < report.relayCapabilityCount.toNat then registry
  else if !stateTaken then registry
  else
    let role : NodeRole := if report.role = 0 then .CENTRAL else .SMART
    let identity : ReportedIdentity :=
      ⟨role, report.firmwareVersion, report.chipModel, report.relayPins.toList, report.relayCapabilityCount.toNat,
        nowMilliseconds⟩
    let registry := (registry.recordDiscovered macAddress identity).1
    (registry.updateDiagnostics macAddress report.diagnostics).1

end Central

namespace LifecycleSystem

/-- An event about a message that is not there changes nothing. -/
def next (macAddress : MacAddress) (system : LifecycleSystem) : LifecycleEvent → LifecycleSystem
  | .commission friendlyName commandId answers =>
    let (registry, packet) := commissionNode macAddress system.registry friendlyName commandId answers
    { system with registry, commands := system.commands ++ (packet.map .commission).toList }
  | .decommission commandId answers =>
    let (registry, packet) := decommissionNode macAddress system.registry commandId answers
    { system with registry, commands := system.commands ++ (packet.map .decommission).toList }
  | .factoryReset commandId answers =>
    { system with
      commands := system.commands ++ ((factoryResetNode commandId answers).map .factoryReset).toList }
  | .deliverCommand position answers =>
    match system.commands[position]? with
    | none => system
    | some command =>
      let (node, acknowledgements) := handleCommand answers command system.node
      { system with
        node
        commands := system.commands.eraseIdx position
        acknowledgements := system.acknowledgements ++ acknowledgements }
  | .loseCommand position => { system with commands := system.commands.eraseIdx position }
  | .deliverAcknowledgement position stateTaken =>
    match system.acknowledgements[position]? with
    | none => system
    | some acknowledgement =>
      { system with
        registry := handleAcknowledgement macAddress system.registry stateTaken acknowledgement
        acknowledgements := system.acknowledgements.eraseIdx position }
  | .loseAcknowledgement position => { system with acknowledgements := system.acknowledgements.eraseIdx position }
  | .sendReport chip =>
    let quiet := system.commands.isEmpty && system.acknowledgements.isEmpty
    { system with reports := system.reports ++ [⟨identityReport chip system.node, quiet⟩] }
  | .deliverReport position stateTaken nowMilliseconds =>
    match system.reports[position]? with
    | none => system
    | some report =>
      { system with
        registry := handleIdentityReport macAddress system.registry stateTaken report.packet nowMilliseconds
        reports := system.reports.eraseIdx position }
  | .loseReport position => { system with reports := system.reports.eraseIdx position }
  | .restart found => { system with node := runApp found }
  | .other operation =>
    if operation.macAddress = macAddress then system
    else { system with registry := (system.registry.perform operation).1 }

/-- Central's record regards the Node as commissioned. -/
def regarded (macAddress : MacAddress) (system : LifecycleSystem) : Bool :=
  regards (system.registry.findByMac macAddress)

/-- Central processes a report that was sent while nothing was in flight. -/
def HearsQuietReport (system : LifecycleSystem) : LifecycleEvent → Prop
  | .deliverReport position stateTaken _ =>
    stateTaken = true ∧ (system.reports[position]?.any fun report => report.quiet) = true
  | _ => False

/-- Central waits for this answer, and it would learn from it. -/
def Tells (macAddress : MacAddress) (system : LifecycleSystem) (commandId : UInt32) (commissioned : Bool) : Prop :=
  awaited (system.registry.findByMac macAddress) = some commandId ∧ commissioned ≠ system.regarded macAddress

/-- Whoever loses this acknowledgement loses nothing that Central would learn from. -/
def Unheeded (macAddress : MacAddress) (system : LifecycleSystem) (position : Nat) : Prop :=
  match system.acknowledgements[position]? with
  | some (.commission packet) =>
    ¬ system.Tells macAddress packet.commandId (isCommissionedLifecycle (.ofByte packet.resultingState))
  | _ => True

/-- The runs in which nothing is lost that either side depends on. A request takes an
identifier of its own. A decommissioning reaches the Node, or the Node needs none. Commands
are handled in their turn, honestly and with success, and an answer that would tell Central
something arrives. The Node does not change its identity alone, and a quiet report is processed
while nothing else is under way. -/
def Delivered (macAddress : MacAddress) (system : LifecycleSystem) : LifecycleEvent → Prop
  | .commission _ commandId _ =>
    (∀ command ∈ system.commands, command.commandId ≠ commandId) ∧
      ∀ acknowledgement ∈ system.acknowledgements, acknowledgement.commandId ≠ commandId
  | .decommission _ answers =>
    answers.stateTaken = true → (answers.routeFound && answers.sent) = true ∨
      (system.node.isCommissioned = false ∧ system.commands = [])
  | .deliverCommand position answers =>
    match system.commands[position]? with
    | none => True
    | some (.commission packet) =>
      position = 0 ∧ (answers.identityTaken = true ∨ system.node.isCommissioned = false) ∧
        (answers.ackSent = true ∨ ¬ system.Tells macAddress packet.commandId
          (handleCommissionCommand answers packet system.node).1.isCommissioned)
    | some (.decommission _) =>
      position = 0 ∧ ((answers.loadsCleared && answers.identityTaken && answers.persisted) = true ∨
        system.node.isCommissioned = false)
    | some (.factoryReset packet) =>
      (handleFactoryResetCommand answers packet system.node).isCommissioned = system.node.isCommissioned
  | .loseCommand position =>
    match system.commands[position]? with
    | some (.decommission packet) =>
      system.commands = [.decommission packet] ∧ system.node.isCommissioned = false
    | _ => True
  | .deliverAcknowledgement position stateTaken => stateTaken = true ∨ system.Unheeded macAddress position
  | .loseAcknowledgement position => system.Unheeded macAddress position
  | .restart found => (runApp found).isCommissioned = system.node.isCommissioned
  | .deliverReport position stateTaken nowMilliseconds =>
    system.HearsQuietReport (.deliverReport position stateTaken nowMilliseconds) →
      system.commands = [] ∧ system.acknowledgements = []
  | _ => True

end LifecycleSystem

open LifecycleSystem

/-- The events are total functions of the state. -/
def Step (macAddress : MacAddress) (before : LifecycleSystem) (event : LifecycleEvent) (after : LifecycleSystem) :
    Prop :=
  after = before.next macAddress event

/-- Once a quiet report is processed, both sides say the same of the Node. -/
structure AgreementStep (macAddress : MacAddress) (before : LifecycleSystem) (event : LifecycleEvent)
    (after : LifecycleSystem) : Prop where
  step : Step macAddress before event after
  agrees : before.HearsQuietReport event → after.regarded macAddress = after.node.isCommissioned

/-- Nothing is lost in this step that either side depends on. -/
structure DeliveredStep (macAddress : MacAddress) (before : LifecycleSystem) (event : LifecycleEvent)
    (after : LifecycleSystem) : Prop where
  step : Step macAddress before event after
  delivered : before.Delivered macAddress event

section Central

variable (macAddress : MacAddress) (registry : CommissioningRegistry)

/-- A request that is not accepted leaves the record as it is. -/
theorem commissionNode_cases (friendlyName : List UInt8) (commandId : UInt32) (answers : CentralAnswers) :
    ((commissionNode macAddress registry friendlyName commandId answers).2 = none ∧
      (commissionNode macAddress registry friendlyName commandId answers).1.findByMac macAddress =
        registry.findByMac macAddress) ∨
    ∃ entry, registry.findByMac macAddress = some entry ∧
      (entry.isFirstCommissioning = true ∨ entry.isRename = true) ∧
      (commissionNode macAddress registry friendlyName commandId answers).1.findByMac macAddress =
        some (entry.request friendlyName commandId) ∧
      (commissionNode macAddress registry friendlyName commandId answers).2 =
        if answers.sent then some ⟨commandId, copyTruncated FRIENDLY_NAME_BUFFER_SIZE friendlyName⟩ else none := by
  unfold commissionNode
  split
  · exact .inl ⟨rfl, rfl⟩
  split
  · exact .inl ⟨rfl, rfl⟩
  have hrecord := recordStep_perform registry (.requestCommissioning macAddress friendlyName commandId)
  obtain ⟨hrejected, hsame⟩ | ⟨haccepted, entry, hfound, hrequested, haccepts⟩ := hrecord.of_request
  · refine .inl ⟨?_, hsame⟩
    simp only [perform] at hrejected
    simp [hrejected]
  · refine .inr ⟨entry, hfound, haccepts, hrequested, ?_⟩
    simp only [perform] at haccepted
    simp [haccepted]

/-- A decommissioning is refused and changes nothing, or it takes effect at Central whether or not it
could be sent. -/
theorem decommissionNode_cases (commandId : UInt32) (answers : CentralAnswers) :
    ((decommissionNode macAddress registry commandId answers).2 = none ∧
      (decommissionNode macAddress registry commandId answers).1.findByMac macAddress =
        registry.findByMac macAddress) ∨
    (answers.stateTaken = true ∧
      (∃ entry : CommissioningEntry,
        (decommissionNode macAddress registry commandId answers).1.findByMac macAddress = some entry.erase) ∧
      (decommissionNode macAddress registry commandId answers).2 =
        if answers.routeFound && answers.sent then some ⟨commandId⟩ else none) := by
  unfold decommissionNode
  split
  · exact .inl ⟨rfl, rfl⟩
  rename_i htaken
  have hrecord := recordStep_perform registry (.decommission macAddress)
  obtain ⟨hrejected, hsame⟩ | ⟨haccepted, entry, herased⟩ := hrecord.of_decommission
  · refine .inl ⟨?_, hsame⟩
    simp only [perform] at hrejected
    simp [hrejected]
  · refine .inr ⟨by simpa using htaken, ⟨entry, herased⟩, ?_⟩
    simp only [perform] at haccepted
    simp [haccepted]

/-- Whatever a report tells, it changes neither what the record waits for nor how it regards the Node. -/
theorem handleIdentityReport_regards (stateTaken : Bool) (report : IdentityReportPacket) (nowMilliseconds : UInt32) :
    awaited ((handleIdentityReport macAddress registry stateTaken report nowMilliseconds).findByMac macAddress) =
        awaited (registry.findByMac macAddress) ∧
      regards ((handleIdentityReport macAddress registry stateTaken report nowMilliseconds).findByMac macAddress) =
        regards (registry.findByMac macAddress) := by
  simp only [handleIdentityReport]
  split
  · exact ⟨rfl, rfl⟩
  split
  · exact ⟨rfl, rfl⟩
  · have hdiscovered := (recordStep_perform registry (.recordDiscovered macAddress
      ⟨if report.role = 0 then .CENTRAL else .SMART, report.firmwareVersion, report.chipModel,
        report.relayPins.toList, report.relayCapabilityCount.toNat, nowMilliseconds⟩)).of_discovery
    have hmeasured := (recordStep_perform (registry.recordDiscovered macAddress
      ⟨if report.role = 0 then .CENTRAL else .SMART, report.firmwareVersion, report.chipModel,
        report.relayPins.toList, report.relayCapabilityCount.toNat, nowMilliseconds⟩).1
      (.updateDiagnostics macAddress report.diagnostics)).of_measurement
    exact ⟨hmeasured.1.trans hdiscovered.1, hmeasured.2.trans hdiscovered.2⟩

end Central

section View

/-- A commission command sets the flag, and a decommission command clears it. -/
def onFlag : NodeCommand → Option (FlagCommand UInt32)
  | .commission packet => some (.set packet.commandId)
  | .decommission _ => some .clear
  | .factoryReset _ => none

/-- Only the answer to a commission command tells Central something. -/
def onAnswer : NodeAcknowledgement → Option (UInt32 × Bool)
  | .commission packet => some (packet.commandId, isCommissionedLifecycle (.ofByte packet.resultingState))
  | .decommission _ => none

/-- The two sides as one flag and its mirror. -/
def view (macAddress : MacAddress) (system : LifecycleSystem) : MirroredFlag UInt32 where
  believed := system.regarded macAddress
  awaited := awaited (system.registry.findByMac macAddress)
  actual := system.node.isCommissioned
  commands := system.commands.filterMap onFlag
  answers := system.acknowledgements.filterMap onAnswer

theorem set_mem_filterMap {commands : List NodeCommand} {commandId : UInt32}
    (hset : .set commandId ∈ commands.filterMap onFlag) : ∃ command ∈ commands, command.commandId = commandId := by
  obtain ⟨command, hcommand, hseen⟩ := List.mem_filterMap.mp hset
  cases command with
  | commission packet => exact ⟨_, hcommand, FlagCommand.set.inj (Option.some.inj hseen)⟩
  | decommission packet => cases hseen
  | factoryReset packet => cases hseen

theorem answer_mem_filterMap {acknowledgements : List NodeAcknowledgement} {commandId : UInt32} {flag : Bool}
    (hanswer : (commandId, flag) ∈ acknowledgements.filterMap onAnswer) :
    ∃ acknowledgement ∈ acknowledgements, acknowledgement.commandId = commandId := by
  obtain ⟨acknowledgement, hmem, hseen⟩ := List.mem_filterMap.mp hanswer
  cases acknowledgement with
  | commission packet => exact ⟨_, hmem, (Prod.mk.inj (Option.some.inj hseen)).1⟩
  | decommission packet => cases hseen

/-- A message and the ones around it. -/
theorem split_of_getElem? {Message : Type} {messages : List Message} {position : Nat} {message : Message}
    (hmessage : messages[position]? = some message) :
    ∃ earlier later, messages = earlier ++ message :: later ∧ messages.eraseIdx position = earlier ++ later := by
  obtain ⟨hbound, rfl⟩ := List.getElem?_eq_some_iff.mp hmessage
  refine ⟨messages.take position, messages.drop (position + 1), ?_, List.eraseIdx_eq_take_drop_succ messages position⟩
  rw [← List.drop_eq_getElem_cons hbound, List.take_append_drop]

theorem filterMap_eraseIdx_of_none {Message Seen : Type} (seen : Message → Option Seen) {messages : List Message}
    {position : Nat} {message : Message} (hmessage : messages[position]? = some message)
    (hunseen : seen message = none) : (messages.eraseIdx position).filterMap seen = messages.filterMap seen := by
  obtain ⟨earlier, later, hmessages, hrest⟩ := split_of_getElem? hmessage
  rw [hrest, hmessages, List.filterMap_append, List.filterMap_append, List.filterMap_cons_none hunseen]

theorem cons_of_getElem?_zero {Message : Type} {messages : List Message} {message : Message}
    (hmessage : messages[0]? = some message) : messages = message :: messages.eraseIdx 0 := by
  cases messages with
  | nil => cases hmessage
  | cons head tail =>
    obtain rfl := Option.some.inj hmessage
    rfl

theorem not_tells {macAddress : MacAddress} {system : LifecycleSystem} {commandId : UInt32} {commissioned : Bool}
    (htells : ¬ system.Tells macAddress commandId commissioned) :
    awaited (system.registry.findByMac macAddress) ≠ some commandId ∨ commissioned = system.regarded macAddress :=
  (not_and_or.mp htells).imp_right not_not.mp

/-- The flag takes the same step, or does not notice the event. -/
def Followed (macAddress : MacAddress) (before after : LifecycleSystem) : Prop :=
  MirroredFlag.Step (view macAddress before) (view macAddress after) ∨ view macAddress after = view macAddress before

variable {macAddress : MacAddress} {before : LifecycleSystem}

/-- Needs an id that nothing in flight has, as `Delivered` asks. -/
theorem commission_followed {friendlyName : List UInt8} {commandId : UInt32} {answers : CentralAnswers}
    (hconfiguring : AwaitsWhileConfiguring (before.registry.findByMac macAddress))
    (hdelivered : before.Delivered macAddress (.commission friendlyName commandId answers)) :
    Followed macAddress before (before.next macAddress (.commission friendlyName commandId answers)) := by
  obtain ⟨hcommands, hacknowledgements⟩ := hdelivered
  obtain ⟨hnone, hsame⟩ | ⟨entry, hfound, haccepts, hrequested, hpacket⟩ :=
    commissionNode_cases macAddress before.registry friendlyName commandId answers
  · refine .inr ?_
    simp only [view, LifecycleSystem.next, regarded, hnone, hsame, Option.map_none, Option.toList_none, List.append_nil]
  · rw [hfound] at hconfiguring
    obtain ⟨hregards, hfree⟩ := request_regards hconfiguring haccepts friendlyName commandId
    have hview : view macAddress (before.next macAddress (.commission friendlyName commandId answers)) =
        { view macAddress before with
          awaited := some commandId
          commands := (view macAddress before).commands ++ if answers.sent then [.set commandId] else [] } := by
      simp only [view, LifecycleSystem.next, regarded, hrequested, hpacket, hregards, hfound, List.filterMap_append]
      cases answers.sent <;> rfl
    refine .inl (hview ▸ .request (view macAddress before) commandId answers.sent ?_ ?_ ?_)
    · simpa only [view, regarded, hfound] using hfree
    · intro hset
      obtain ⟨command, hmem, hid⟩ := set_mem_filterMap hset
      exact hcommands command hmem hid
    · intro flag hanswer
      obtain ⟨acknowledgement, hmem, hid⟩ := answer_mem_filterMap hanswer
      exact hacknowledgements acknowledgement hmem hid

/-- Needs the command to be sent, unless the Node would do nothing on it. -/
theorem decommission_followed {commandId : UInt32} {answers : CentralAnswers}
    (hdelivered : before.Delivered macAddress (.decommission commandId answers)) :
    Followed macAddress before (before.next macAddress (.decommission commandId answers)) := by
  obtain ⟨hnone, hsame⟩ | ⟨htaken, ⟨entry, herased⟩, hpacket⟩ :=
    decommissionNode_cases macAddress before.registry commandId answers
  · refine .inr ?_
    simp only [view, LifecycleSystem.next, regarded, hnone, hsame, Option.map_none, Option.toList_none, List.append_nil]
  · have hview : view macAddress (before.next macAddress (.decommission commandId answers)) =
        { view macAddress before with
          believed := false
          awaited := none
          commands := (view macAddress before).commands ++
            if answers.routeFound && answers.sent then [.clear] else [] } := by
      simp only [view, LifecycleSystem.next, regarded, herased, hpacket, List.filterMap_append]
      cases answers.routeFound && answers.sent <;> rfl
    refine .inl (hview ▸ .release (view macAddress before) (answers.routeFound && answers.sent) ?_)
    refine (hdelivered htaken).imp_right ?_
    rintro ⟨hactual, hcommands⟩
    exact ⟨hactual, congrArg (List.filterMap onFlag) hcommands⟩

/-- Needs the first command to be the one that is delivered, and handled with success. -/
theorem deliverCommand_followed {position : Nat} {answers : NodeAnswers}
    (hdelivered : before.Delivered macAddress (.deliverCommand position answers)) :
    Followed macAddress before (before.next macAddress (.deliverCommand position answers)) := by
  unfold LifecycleSystem.Delivered at hdelivered
  cases hcommand : before.commands[position]? with
  | none =>
    refine .inr ?_
    simp only [LifecycleSystem.next, hcommand]
  | some command =>
    simp only [hcommand] at hdelivered
    cases command with
    | commission packet =>
      obtain ⟨rfl, htaken, hanswered⟩ := hdelivered
      have hcommands : (view macAddress before).commands =
          .set packet.commandId :: (before.commands.eraseIdx 0).filterMap onFlag :=
        congrArg (List.filterMap onFlag) (cons_of_getElem?_zero hcommand)
      have hview : view macAddress (before.next macAddress (.deliverCommand 0 answers)) =
          { view macAddress before with
            actual := (handleCommissionCommand answers packet before.node).1.isCommissioned
            commands := (before.commands.eraseIdx 0).filterMap onFlag
            answers := (view macAddress before).answers ++ if answers.ackSent then
              [(packet.commandId, (handleCommissionCommand answers packet before.node).1.isCommissioned)] else [] } := by
        simp only [view, LifecycleSystem.next, regarded, hcommand, handleCommand, List.filterMap_append]
        cases answers.ackSent with
        | false => rfl
        | true =>
          simp only [if_true, List.filterMap_cons, List.filterMap_nil, onAnswer,
            handleCommissionCommand_commandId, handleCommissionCommand_honest htaken]
      refine .inl (hview ▸ .set _ packet.commandId _ _ answers.ackSent hcommands ?_ ?_)
      · exact handleCommissionCommand_isCommissioned answers before.node packet
      · exact hanswered.imp_right not_tells
    | decommission packet =>
      obtain ⟨rfl, hcleared⟩ := hdelivered
      have hcommands : (view macAddress before).commands = .clear :: (before.commands.eraseIdx 0).filterMap onFlag :=
        congrArg (List.filterMap onFlag) (cons_of_getElem?_zero hcommand)
      have hactual := handleDecommissionCommand_isCommissioned hcleared packet
      have hview : view macAddress (before.next macAddress (.deliverCommand 0 answers)) =
          { view macAddress before with
            actual := false
            commands := (before.commands.eraseIdx 0).filterMap onFlag } := by
        simp only [view, LifecycleSystem.next, regarded, hcommand, handleCommand, hactual, List.filterMap_append]
        cases answers.ackSent <;> simp [onAnswer]
      exact .inl (hview ▸ .clear _ _ hcommands)
    | factoryReset packet =>
      refine .inr ?_
      have hcommands := filterMap_eraseIdx_of_none onFlag hcommand rfl
      simp only [view, LifecycleSystem.next, regarded, hcommand, handleCommand, hcommands, hdelivered, List.append_nil]

/-- A command may be lost that neither side depends on. -/
theorem loseCommand_followed {position : Nat} (hdelivered : before.Delivered macAddress (.loseCommand position)) :
    Followed macAddress before (before.next macAddress (.loseCommand position)) := by
  unfold LifecycleSystem.Delivered at hdelivered
  cases hcommand : before.commands[position]? with
  | none =>
    refine .inr ?_
    have hkept := List.eraseIdx_of_length_le (List.getElem?_eq_none_iff.mp hcommand)
    simp only [LifecycleSystem.next, hkept]
  | some command =>
    simp only [hcommand] at hdelivered
    obtain ⟨earlier, later, hcommands, hrest⟩ := split_of_getElem? hcommand
    cases command with
    | commission packet =>
      have hview : view macAddress (before.next macAddress (.loseCommand position)) =
          { view macAddress before with commands := earlier.filterMap onFlag ++ later.filterMap onFlag } := by
        simp only [view, LifecycleSystem.next, regarded, hrest, List.filterMap_append]
      refine .inl (hview ▸ .setLost _ packet.commandId _ _ ?_)
      simp only [view, hcommands, List.filterMap_append]
      rfl
    | decommission packet =>
      obtain ⟨honly, hactual⟩ := hdelivered
      have hnone : earlier ++ later = [] := by
        have hlength := congrArg List.length (hcommands.symm.trans honly)
        simp only [List.length_append, List.length_cons, List.length_nil] at hlength
        exact List.length_eq_zero_iff.mp (by rw [List.length_append]; omega)
      have hview : view macAddress (before.next macAddress (.loseCommand position)) =
          { view macAddress before with commands := [] } := by
        simp only [view, LifecycleSystem.next, regarded, hrest, hnone, List.filterMap_nil]
      exact .inl (hview ▸ .clearLost _ (congrArg (List.filterMap onFlag) honly) hactual)
    | factoryReset packet =>
      refine .inr ?_
      have hcommands := filterMap_eraseIdx_of_none onFlag hcommand rfl
      simp only [view, LifecycleSystem.next, regarded, hcommands]

/-- An acknowledgement that Central would learn nothing from may go. -/
theorem unheeded_followed {position : Nat} (hunheeded : before.Unheeded macAddress position) :
    Followed macAddress before
      { before with acknowledgements := before.acknowledgements.eraseIdx position } := by
  unfold LifecycleSystem.Unheeded at hunheeded
  cases hacknowledgement : before.acknowledgements[position]? with
  | none =>
    rw [List.eraseIdx_of_length_le (List.getElem?_eq_none_iff.mp hacknowledgement)]
    exact .inr rfl
  | some acknowledgement =>
    cases acknowledgement with
    | commission packet =>
      obtain ⟨earlier, later, hacknowledgements, hrest⟩ := split_of_getElem? hacknowledgement
      have hview : view macAddress
          { before with acknowledgements := before.acknowledgements.eraseIdx position } =
          { view macAddress before with answers := earlier.filterMap onAnswer ++ later.filterMap onAnswer } := by
        simp only [view, regarded, hrest, List.filterMap_append]
      rw [hacknowledgement] at hunheeded
      refine .inl (hview ▸ .answerLost _ packet.commandId _ _ _ ?_ (not_tells hunheeded))
      simp only [view, hacknowledgements, List.filterMap_append]
      rfl
    | decommission packet =>
      refine .inr ?_
      have hanswers := filterMap_eraseIdx_of_none onAnswer hacknowledgement rfl
      simp only [view, regarded, hanswers]

/-- Needs the lock, or an acknowledgement that tells Central nothing. -/
theorem deliverAcknowledgement_followed {position : Nat} {stateTaken : Bool}
    (hdelivered : before.Delivered macAddress (.deliverAcknowledgement position stateTaken)) :
    Followed macAddress before (before.next macAddress (.deliverAcknowledgement position stateTaken)) := by
  cases hacknowledgement : before.acknowledgements[position]? with
  | none =>
    refine .inr ?_
    simp only [LifecycleSystem.next, hacknowledgement]
  | some acknowledgement =>
    simp only [LifecycleSystem.next, hacknowledgement]
    cases acknowledgement with
    | decommission packet =>
      refine unheeded_followed ?_
      rw [LifecycleSystem.Unheeded, hacknowledgement]
      trivial
    | commission packet =>
      by_cases hheard : stateTaken = true ∧ awaited (before.registry.findByMac macAddress) = some packet.commandId
      · obtain ⟨rfl, hawaited⟩ := hheard
        obtain ⟨earlier, later, hacknowledgements, hrest⟩ := split_of_getElem? hacknowledgement
        obtain ⟨entry, hconfirmed⟩ := applyCommissionResult_of_awaited hawaited (packet.success != 0)
          (.ofByte packet.resultingState)
        obtain ⟨hsettled, hregards⟩ := confirm_regards entry (packet.success != 0) (.ofByte packet.resultingState)
        have hview : view macAddress
            { before with
              registry := handleAcknowledgement macAddress before.registry true (.commission packet)
              acknowledgements := before.acknowledgements.eraseIdx position } =
            { view macAddress before with
              believed := isCommissionedLifecycle (.ofByte packet.resultingState)
              awaited := none
              answers := earlier.filterMap onAnswer ++ later.filterMap onAnswer } := by
          simp only [view, regarded, handleAcknowledgement, handleCommissionAcknowledgement, Bool.not_true,
            Bool.false_eq_true, if_false, hconfirmed, hsettled, hregards, hrest, List.filterMap_append]
        refine .inl (hview ▸ .answer _ packet.commandId _ _ _ ?_ hawaited)
        simp only [view, hacknowledgements, List.filterMap_append]
        rfl
      · have hkept : handleAcknowledgement macAddress before.registry stateTaken (.commission packet) =
            before.registry := by
          cases stateTaken with
          | false => rfl
          | true =>
            have hunawaited := fun hawaited => hheard ⟨rfl, hawaited⟩
            exact applyCommissionResult_of_not_awaited hunawaited (packet.success != 0) (.ofByte packet.resultingState)
        rw [hkept]
        refine unheeded_followed ?_
        cases stateTaken with
        | false => exact hdelivered.resolve_left Bool.false_ne_true
        | true =>
          rw [LifecycleSystem.Unheeded, hacknowledgement]
          rintro ⟨hawaited, -⟩
          exact hheard ⟨rfl, hawaited⟩

/-- No report changes what either side says of the flag. -/
theorem deliverReport_view (macAddress : MacAddress) (before : LifecycleSystem) (position : Nat) (stateTaken : Bool)
    (nowMilliseconds : UInt32) :
    view macAddress (before.next macAddress (.deliverReport position stateTaken nowMilliseconds)) =
      view macAddress before := by
  simp only [LifecycleSystem.next]
  split
  · rfl
  · rename_i report hreport
    obtain ⟨hawaited, hregards⟩ := handleIdentityReport_regards macAddress before.registry
      stateTaken report.packet nowMilliseconds
    simp only [view, regarded, hawaited, hregards]

/-- Neither do commands for other Nodes. -/
theorem other_view (operation : Operation) :
    view macAddress (before.next macAddress (.other operation)) = view macAddress before := by
  simp only [LifecycleSystem.next]
  split
  · rfl
  · rename_i hmac
    have hstep : CommissioningRegistry.Step before.registry ⟨operation, (before.registry.perform operation).2⟩
        (before.registry.perform operation).1 := rfl
    have hothers := (recordStep_of_step hstep).2 macAddress (Ne.symm hmac)
    simp only [view, regarded, hothers]

/-- Where nothing is lost that either side depends on, every event is a step of the flag and its mirror. -/
theorem followed_of_delivered {event : LifecycleEvent}
    (hconfiguring : AwaitsWhileConfiguring (before.registry.findByMac macAddress))
    (hdelivered : before.Delivered macAddress event) :
    Followed macAddress before (before.next macAddress event) := by
  cases event with
  | commission friendlyName commandId answers => exact commission_followed hconfiguring hdelivered
  | decommission commandId answers => exact decommission_followed hdelivered
  | deliverCommand position answers => exact deliverCommand_followed hdelivered
  | loseCommand position => exact loseCommand_followed hdelivered
  | deliverAcknowledgement position stateTaken => exact deliverAcknowledgement_followed hdelivered
  | loseAcknowledgement position => exact unheeded_followed hdelivered
  | factoryReset commandId answers =>
    refine .inr ?_
    simp only [view, LifecycleSystem.next, regarded, List.filterMap_append]
    cases factoryResetNode commandId answers <;> simp [onFlag]
  | sendReport chip => exact .inr rfl
  | deliverReport position stateTaken nowMilliseconds =>
    exact .inr (deliverReport_view macAddress before position stateTaken nowMilliseconds)
  | loseReport position => exact .inr rfl
  | restart found =>
    refine .inr ?_
    have hactual : (runApp found).isCommissioned = before.node.isCommissioned := hdelivered
    simp only [view, LifecycleSystem.next, regarded, hactual]
  | other operation => exact .inr (other_view operation)

end View

section Agreement

variable {macAddress : MacAddress} {before after : LifecycleSystem} {event : LifecycleEvent}

theorem handleIdentityReport_run (macAddress : MacAddress) (registry : CommissioningRegistry) (stateTaken : Bool)
    (report : IdentityReportPacket) (nowMilliseconds : UInt32) :
    ∃ history, Run CommissioningRegistry.Step registry history
      (handleIdentityReport macAddress registry stateTaken report nowMilliseconds) := by
  simp only [handleIdentityReport]
  split
  · exact ⟨[], .nil _⟩
  split
  · exact ⟨[], .nil _⟩
  · exact ⟨_, (run_perform registry (.recordDiscovered macAddress _)).append
      (run_perform _ (.updateDiagnostics macAddress report.diagnostics))⟩

/-- What an event does to the registry, it does by calls. -/
theorem registry_run (macAddress : MacAddress) (before : LifecycleSystem) (event : LifecycleEvent) :
    ∃ history, Run CommissioningRegistry.Step before.registry history (before.next macAddress event).registry := by
  have hnone : ∃ history, Run CommissioningRegistry.Step before.registry history before.registry := ⟨[], .nil _⟩
  cases event with
  | commission friendlyName commandId answers =>
    simp only [LifecycleSystem.next, commissionNode]
    split
    · exact hnone
    split
    · exact hnone
    · exact ⟨_, run_perform before.registry (.requestCommissioning macAddress friendlyName commandId)⟩
  | decommission commandId answers =>
    simp only [LifecycleSystem.next, decommissionNode]
    split
    · exact hnone
    · exact ⟨_, run_perform before.registry (.decommission macAddress)⟩
  | deliverCommand position answers =>
    simp only [LifecycleSystem.next]
    split <;> exact hnone
  | deliverAcknowledgement position stateTaken =>
    simp only [LifecycleSystem.next]
    split
    · exact hnone
    · rename_i acknowledgement hacknowledgement
      cases acknowledgement with
      | commission packet =>
        simp only [handleAcknowledgement, handleCommissionAcknowledgement]
        split
        · exact hnone
        · exact ⟨_, run_perform before.registry (.applyCommissionResult macAddress packet.commandId _ _)⟩
      | decommission packet => exact hnone
  | deliverReport position stateTaken nowMilliseconds =>
    simp only [LifecycleSystem.next]
    split
    · exact hnone
    · exact handleIdentityReport_run macAddress before.registry stateTaken _ nowMilliseconds
  | other operation =>
    simp only [LifecycleSystem.next]
    split
    · exact hnone
    · exact ⟨_, run_perform before.registry operation⟩
  | factoryReset => exact hnone
  | loseCommand => exact hnone
  | loseAcknowledgement => exact hnone
  | sendReport => exact hnone
  | loseReport => exact hnone
  | restart => exact hnone

/-- The record waits only while it is configured or renamed, and the flag and its mirror are kept together. -/
structure Kept (macAddress : MacAddress) (system : LifecycleSystem) : Prop where
  configuring : AwaitsWhileConfiguring (system.registry.findByMac macAddress)
  mirrored : (view macAddress system).Mirrored

theorem kept_firstBoot : Kept macAddress firstBoot :=
  ⟨fun _ hentry => (nomatch hentry), MirroredFlag.mirrored_initial⟩

theorem DeliveredStep.kept (hstep : DeliveredStep macAddress before event after) (hkept : Kept macAddress before) :
    Kept macAddress after := by
  obtain ⟨rfl, hdelivered⟩ := hstep
  constructor
  · obtain ⟨history, hrun⟩ := registry_run macAddress before event
    have hpreserved : ∀ before event after, AwaitsWhileConfiguring (before.findByMac macAddress) →
        CommissioningRegistry.Step before event after → AwaitsWhileConfiguring (after.findByMac macAddress) := by
      intro before event after hbefore hcall
      obtain ⟨hrecord, hothers⟩ := recordStep_of_step hcall
      by_cases hmac : macAddress = event.macAddress
      · subst hmac
        exact hrecord.awaitsWhileConfiguring hbefore
      · exact (hothers macAddress hmac).symm ▸ hbefore
    exact hrun.invariant hpreserved hkept.configuring
  · obtain hflag | hsame := followed_of_delivered hkept.configuring hdelivered
    · exact hkept.mirrored.step hflag
    · exact hsame ▸ hkept.mirrored

/-- A report tells Central nothing: the two sides stand as before. -/
theorem next_of_hears (macAddress : MacAddress) (hhears : before.HearsQuietReport event) :
    (before.next macAddress event).regarded macAddress = before.regarded macAddress ∧
      (before.next macAddress event).node.isCommissioned = before.node.isCommissioned := by
  cases event with
  | deliverReport position stateTaken nowMilliseconds =>
    have hview := deliverReport_view macAddress before position stateTaken nowMilliseconds
    exact ⟨congrArg MirroredFlag.believed hview, congrArg MirroredFlag.actual hview⟩
  | _ => exact hhears.elim

/-- With the flag and its mirror kept together, nothing is under way when a quiet report is
processed, so the two sides agree before it, and the report leaves them so. -/
theorem DeliveredStep.agreementStep (hstep : DeliveredStep macAddress before event after)
    (hkept : Kept macAddress before) : AgreementStep macAddress before event after := by
  obtain ⟨rfl, hdelivered⟩ := hstep
  refine ⟨rfl, fun hhears => ?_⟩
  obtain ⟨hregarded, hactual⟩ := next_of_hears macAddress hhears
  rw [hregarded, hactual]
  cases event with
  | deliverReport position stateTaken nowMilliseconds =>
    obtain ⟨hcommands, hacknowledgements⟩ := hdelivered hhears
    refine hkept.mirrored.believed_eq ?_ ?_
    · exact congrArg (List.filterMap onFlag) hcommands
    · exact congrArg (List.filterMap onAnswer) hacknowledgements
  | _ => exact hhears.elim

/-- The two sides agree after every quiet report in every run from the first boot in which
nothing is lost that one of them depends on. Messages may otherwise be lost and come in any
order, and locks, sends and flash writes may fail. -/
theorem lifecycle_agreement (macAddress : MacAddress) {events : List LifecycleEvent} {last : LifecycleSystem}
    (hrun : Run (DeliveredStep macAddress) firstBoot events last) :
    Run (AgreementStep macAddress) firstBoot events last := by
  refine hrun.mono (fun before event after hkept hstep => DeliveredStep.kept hstep hkept) ?_ kept_firstBoot
  intro before event after hkept hstep
  exact DeliveredStep.agreementStep hstep hkept

end Agreement

section Kitchen

instance (macAddress : MacAddress) (system : LifecycleSystem) (event : LifecycleEvent) :
    Decidable (system.Delivered macAddress event) := by
  unfold LifecycleSystem.Delivered LifecycleSystem.Unheeded LifecycleSystem.Tells LifecycleSystem.HearsQuietReport
  cases event <;> dsimp only <;> (try split) <;> infer_instance

/-- The condition of `DeliveredStep`, evaluated before the step is taken. -/
def deliveredNext (before : LifecycleSystem) (event : LifecycleEvent) : Option LifecycleSystem :=
  if before.Delivered kitchenMac event then some (before.next kitchenMac event) else none

theorem deliveredStep_of_deliveredNext (before : LifecycleSystem) (event : LifecycleEvent) (after : LifecycleSystem)
    (hnext : deliveredNext before event = some after) : DeliveredStep kitchenMac before event after := by
  unfold deliveredNext at hnext
  split at hnext
  · rename_i hdelivered
    exact ⟨(Option.some.inj hnext).symm, hdelivered⟩
  · cases hnext

/-- Central has the lock, a route and a radio that sends. -/
def answering : CentralAnswers := ⟨true, true, true⟩

/-- The Node has its locks, its flash and its radio. -/
def handling : NodeAnswers := ⟨true, true, true, true, none⟩

def chip : ChipReadings := ⟨[49], [69], .zero⟩

/-- The first report makes the Node known to Central. -/
def discovered : List LifecycleEvent := [.sendReport chip, .deliverReport 0 true 100]

def commissioned : List LifecycleEvent :=
  discovered ++ [.commission [75] 1 answering, .deliverCommand 0 handling, .deliverAcknowledgement 0 true]

/-- The Node is renamed and decommissioned, and both its answers are lost. -/
def renamed : List LifecycleEvent :=
  commissioned ++ [.commission [76] 2 answering, .deliverCommand 0 handling, .loseAcknowledgement 0, .sendReport chip,
    .deliverReport 0 true 200, .decommission 3 answering, .deliverCommand 0 handling, .loseAcknowledgement 0,
    .sendReport chip, .deliverReport 0 true 300]

/-- The Node hears every command. After each quiet report, Central agrees with it. -/
theorem lifecycle_agreement_renamed :
    ∃ last, Run (DeliveredStep kitchenMac) firstBoot renamed last ∧
      Run (AgreementStep kitchenMac) firstBoot renamed last ∧
      last.regarded kitchenMac = false ∧ last.node.isCommissioned = false := by
  have hend : ((renamed.foldlM deliveredNext firstBoot).any fun last =>
      decide (last.regarded kitchenMac = false ∧ last.node.isCommissioned = false)) = true := by
    decide +kernel
  obtain ⟨last, hlast, hagree⟩ := (Option.any_eq_true _ _).mp hend
  have hrun : Run (DeliveredStep kitchenMac) firstBoot renamed last := .of_foldlM deliveredStep_of_deliveredNext hlast
  exact ⟨last, hrun, lifecycle_agreement kitchenMac hrun, of_decide_eq_true hagree⟩

/-- The answer to the first commissioning is lost. -/
def answerLost : List LifecycleEvent :=
  discovered ++ [.commission [75] 1 answering, .deliverCommand 0 handling, .loseAcknowledgement 0, .sendReport chip]

/-- The decommission command never arrives. -/
def decommissioningLost : List LifecycleEvent :=
  commissioned ++ [.decommission 2 answering, .loseCommand 0, .sendReport chip]

/-- The Node goes back to its factory settings by itself. -/
def reset : List LifecycleEvent :=
  commissioned ++ [.factoryReset 2 answering, .deliverCommand 0 handling, .sendReport chip]

/-- Central hears a quiet report while the two sides differ. -/
theorem not_agreement_of_differs {events : List LifecycleEvent}
    (hquiet : ((events.foldl (LifecycleSystem.next kitchenMac) firstBoot).reports[0]?.any
      fun report => report.quiet) = true)
    (hdiffers : (events.foldl (LifecycleSystem.next kitchenMac) firstBoot).regarded kitchenMac ≠
      (events.foldl (LifecycleSystem.next kitchenMac) firstBoot).node.isCommissioned) :
    ¬∃ last, Run (AgreementStep kitchenMac) firstBoot (events ++ [.deliverReport 0 true 200]) last := by
  rintro ⟨last, hrun⟩
  have hhears : (events.foldl (LifecycleSystem.next kitchenMac) firstBoot).HearsQuietReport
      (.deliverReport 0 true 200) := ⟨rfl, hquiet⟩
  obtain ⟨rfl, hagrees⟩ := hrun.step_of_snoc fun _ _ _ hstep => hstep.step
  obtain ⟨hregarded, hactual⟩ := next_of_hears kitchenMac hhears
  exact hdiffers (hregarded.symm.trans ((hagrees hhears).trans hactual))

/-- From the first boot, the two sides still differ after a quiet report. -/
theorem lifecycle_disagreement :
    (¬∃ last, Run (AgreementStep kitchenMac) firstBoot (answerLost ++ [.deliverReport 0 true 200]) last) ∧
    (¬∃ last, Run (AgreementStep kitchenMac) firstBoot (decommissioningLost ++ [.deliverReport 0 true 200]) last) ∧
    ¬∃ last, Run (AgreementStep kitchenMac) firstBoot (reset ++ [.deliverReport 0 true 200]) last := by
  refine ⟨?_, ?_, ?_⟩
  · exact not_agreement_of_differs (by decide +kernel) (by decide +kernel)
  · exact not_agreement_of_differs (by decide +kernel) (by decide +kernel)
  · exact not_agreement_of_differs (by decide +kernel) (by decide +kernel)

end Kitchen

end kilowatts.LifecycleAgreement
