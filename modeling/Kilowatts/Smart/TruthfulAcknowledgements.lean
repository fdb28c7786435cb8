import Kilowatts.Library.Run
import Kilowatts.NodeManager.CommissionedRecords
import Kilowatts.NodeManager.PersistedIdentity
import Kilowatts.Smart.Commissioning

namespace kilowatts

def NODE_NAME_LENGTH : Nat := 20

/-- A Smart Node with the flash behind its identity. -/
structure IdentifiedNode where
  identityStore : NodeIdentityStore
  nvs : NodeIdentityStore.Nvs
  localNodeName : List UInt8
deriving DecidableEq

/-- What a Node meets while it handles a commission command: whether it gets the mutex, and
how many of its calls to the flash succeed. -/
structure CommissionAnswers where
  identityTaken : Bool
  done : Nat
deriving DecidableEq

namespace IdentifiedNode

def handleCommissionCommand (answers : CommissionAnswers) (command : CommissionCommandPacket)
    (node : IdentifiedNode) : IdentifiedNode × CommissionAckPacket :=
  if !answers.identityTaken then (node, ⟨command.commandId, 0, NodeLifecycleState.UNCOMMISSIONED.toByte⟩)
  else
    let (identityStore, accepted) := node.identityStore.applyCommission command.friendlyName
    if !accepted then ({ node with identityStore }, ⟨command.commandId, 0, identityStore.lifecycleState.toByte⟩)
    else
      let (nvs, persisted) := NodeIdentityStore.persistNvs answers.done identityStore node.nvs
      if !persisted then
        ({ node with nvs }, ⟨command.commandId, 0, node.identityStore.lifecycleState.toByte⟩)
      else
        (⟨identityStore, nvs, copyTruncated NODE_NAME_LENGTH identityStore.friendlyName⟩,
          ⟨command.commandId, 1, identityStore.lifecycleState.toByte⟩)

/-- What the command is for: the acknowledgement tells the state that the Node is in, it
reports a success only of an identity that a boot finds, and Central cannot take from it
that a commissioned Node is uncommissioned. -/
structure Truthful (command : CommissionCommandPacket) (ack : CommissionAckPacket) (node : IdentifiedNode) : Prop where
  state : NodeLifecycleState.ofByte ack.resultingState = node.identityStore.lifecycleState
  persisted : ack.success = 1 → node.identityStore.friendlyName = command.friendlyName ∧
    node.identityStore.isCommissioned = true ∧ NodeIdentityStore.loadNvs node.nvs = some node.identityStore
  regarded : node.identityStore.isCommissioned = true →
    ∀ (registry : CommissioningRegistry) (macAddress : MacAddress),
      (registry.applyCommissionResult macAddress ack.commandId (ack.success != 0)
        (.ofByte ack.resultingState)).2 = true →
      CommissioningRegistry.regards ((registry.applyCommissionResult macAddress ack.commandId (ack.success != 0)
        (.ofByte ack.resultingState)).1.findByMac macAddress) = true

/-- One command, with what is sent back. -/
structure CommissionEvent where
  answers : CommissionAnswers
  command : CommissionCommandPacket
  ack : CommissionAckPacket
deriving DecidableEq

def Step (before : IdentifiedNode) (event : CommissionEvent) (after : IdentifiedNode) : Prop :=
  before.handleCommissionCommand event.answers event.command = (after, event.ack)

def TruthfulStep (before : IdentifiedNode) (event : CommissionEvent) (after : IdentifiedNode) : Prop :=
  Step before event after ∧ Truthful event.command event.ack after

/-- The mutex is taken, or the Node is in the state that it reports without it. -/
def ReportedStep (before : IdentifiedNode) (event : CommissionEvent) (after : IdentifiedNode) : Prop :=
  Step before event after ∧
    (event.answers.identityTaken = true ∨ before.identityStore.lifecycleState = .UNCOMMISSIONED)

section Commission

variable (answers : CommissionAnswers) (command : CommissionCommandPacket) (node : IdentifiedNode)

/-- With the flash left out, this is the handler of the protocol between the Nodes and Central. -/
theorem handleCommissionCommand_eq :
    ((node.handleCommissionCommand answers command).1.identityStore,
        (node.handleCommissionCommand answers command).2) =
      Commissioning.handleCommissionCommand
        { loadsCleared := false
          identityTaken := answers.identityTaken
          persisted := (NodeIdentityStore.persistNvs answers.done
            (node.identityStore.applyCommission command.friendlyName).1 node.nvs).2
          ackSent := false
          found := none }
        command node.identityStore := by
  simp only [handleCommissionCommand, Commissioning.handleCommissionCommand]
  cases answers.identityTaken with
  | false => rfl
  | true =>
    cases (node.identityStore.applyCommission command.friendlyName).2 with
    | false => simp
    | true =>
      cases (NodeIdentityStore.persistNvs answers.done
        (node.identityStore.applyCommission command.friendlyName).1 node.nvs).2 <;> simp

theorem handleCommissionCommand_persisted
    (hsuccess : (node.handleCommissionCommand answers command).2.success = 1) :
    (node.handleCommissionCommand answers command).1.identityStore.friendlyName = command.friendlyName ∧
      (node.handleCommissionCommand answers command).1.identityStore.isCommissioned = true ∧
      NodeIdentityStore.loadNvs (node.handleCommissionCommand answers command).1.nvs =
        some (node.handleCommissionCommand answers command).1.identityStore := by
  cases htaken : answers.identityTaken with
  | false => simp [handleCommissionCommand, htaken] at hsuccess
  | true =>
    cases haccepted : (node.identityStore.applyCommission command.friendlyName).2 with
    | false => simp [handleCommissionCommand, htaken, haccepted] at hsuccess
    | true =>
      cases hpersisted : (NodeIdentityStore.persistNvs answers.done
        (node.identityStore.applyCommission command.friendlyName).1 node.nvs).2 with
      | false => simp [handleCommissionCommand, htaken, haccepted, hpersisted] at hsuccess
      | true =>
        obtain ⟨hname, hcommissioned, -⟩ := NodeIdentityStore.applyCommission_accepted haccepted
        have hload := NodeIdentityStore.loadNvs_of_persisted (.applyCommission haccepted) hpersisted
        simp only [handleCommissionCommand, htaken, haccepted, hpersisted, Bool.not_true, Bool.false_eq_true, if_false]
        exact ⟨hname, hcommissioned, hload⟩

theorem handleCommissionCommand_state :
    NodeLifecycleState.ofByte (node.handleCommissionCommand answers command).2.resultingState =
        (node.handleCommissionCommand answers command).1.identityStore.lifecycleState ↔
      answers.identityTaken = true ∨ node.identityStore.lifecycleState = .UNCOMMISSIONED := by
  unfold handleCommissionCommand
  cases answers.identityTaken with
  | false => simp [eq_comm]
  | true =>
    simp only [Bool.not_true, Bool.false_eq_true, if_false, true_or, iff_true]
    split
    · exact NodeLifecycleState.ofByte_toByte _
    split
    · exact NodeLifecycleState.ofByte_toByte _
    · exact NodeLifecycleState.ofByte_toByte _

theorem truthful_iff :
    Truthful command (node.handleCommissionCommand answers command).2
        (node.handleCommissionCommand answers command).1 ↔
      answers.identityTaken = true ∨ node.identityStore.lifecycleState = .UNCOMMISSIONED := by
  constructor
  · intro htruthful
    exact (handleCommissionCommand_state answers command node).mp htruthful.state
  · intro hreported
    have hstate := (handleCommissionCommand_state answers command node).mpr hreported
    refine ⟨hstate, handleCommissionCommand_persisted answers command node, ?_⟩
    intro hcommissioned registry macAddress happlied
    rw [CommissioningRegistry.applyCommissionResult_regards happlied, hstate]
    exact hcommissioned

end Commission

/-- A run of commission commands has only truthful acknowledgements exactly when each of them found the
mutex free, or a Node that was uncommissioned. The Node may be in any state at the start. -/
theorem run_truthful_iff (first last : IdentifiedNode) (events : List CommissionEvent) :
    Run TruthfulStep first events last ↔ Run ReportedStep first events last := by
  have hsame : ∀ before event after, True → (TruthfulStep before event after ↔ ReportedStep before event after) := by
    intro before event after _
    refine and_congr_right fun hstep => ?_
    have htruthful := truthful_iff event.answers event.command before
    rw [Step] at hstep
    rwa [hstep] at htruthful
  exact Run.congr (fun _ _ _ _ _ => trivial) hsame trivial

/-- A Node with a name, which Central asks for another one. -/
def renamedNode : IdentifiedNode where
  identityStore := ⟨.OPERATIONAL, [112, 117, 109, 112]⟩
  nvs := ⟨some 1, some 5, some [112, 117, 109, 112]⟩
  localNodeName := [112, 117, 109, 112]

/-- Central waits for the answer to its command. -/
def renamingCentral : CommissioningRegistry :=
  ((CommissioningRegistry.make.registerSelf (Vector.replicate 6 7) [112, 117, 109, 112]
    ⟨.SMART, [], [], [], 0, 0⟩).1.requestCommissioning (Vector.replicate 6 7) [116, 97, 110, 107] 9).1

/-- The mutex is busy: the Node stays in operation and reports that it is uncommissioned,
which Central takes over. -/
theorem run_not_truthful :
    (∃ last, Run Step renamedNode [⟨⟨false, 5⟩, ⟨9, [116, 97, 110, 107]⟩, ⟨9, 0, 1⟩⟩] last) ∧
      (¬∃ last, Run TruthfulStep renamedNode [⟨⟨false, 5⟩, ⟨9, [116, 97, 110, 107]⟩, ⟨9, 0, 1⟩⟩] last) ∧
      CommissioningRegistry.regards (renamingCentral.findByMac (Vector.replicate 6 7)) = true ∧
      CommissioningRegistry.regards ((renamingCentral.applyCommissionResult (Vector.replicate 6 7) 9 false
        (.ofByte 1)).1.findByMac (Vector.replicate 6 7)) = false := by
  refine ⟨⟨renamedNode, .single rfl⟩, ?_, by decide +kernel, by decide +kernel⟩
  rintro ⟨last, hrun⟩
  have hstep : TruthfulStep renamedNode ⟨⟨false, 5⟩, ⟨9, [116, 97, 110, 107]⟩, ⟨9, 0, 1⟩⟩ last :=
    Run.step_of_snoc (fun _ _ _ hstep => (congrArg Prod.fst hstep.1).symm) (show Run _ _ ([] ++ _) _ from hrun)
  have htruthful := hstep.2
  rw [show last = renamedNode from (congrArg Prod.fst hstep.1).symm] at htruthful
  exact absurd htruthful.state (by decide)

end IdentifiedNode

end kilowatts
