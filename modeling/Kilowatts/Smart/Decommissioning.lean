import Kilowatts.NodeManager.HardwareAgreement
import Kilowatts.Smart.TruthfulAcknowledgements

namespace kilowatts

namespace NodeHardware

open HardwareConfigurationFailureReason

/-- Every relay and every load stands for a stored configuration. A Node that boots
uncommissioned has stored configurations without them. -/
structure Covered (hardware : NodeHardware) : Prop where
  relays : ∀ relayPin, relayPin ∉ hardware.configuredPins → hardware.relays.findRelay relayPin = none
  loads : ∀ relayPin, relayPin ∉ hardware.configuredPins → hardware.node.getLoadByRelayPin relayPin = none

section Covered

variable {before after : NodeHardware}

theorem Covered.of_sameLoads (hbefore : before.Covered) (hsame : SameLoads before after) : after.Covered := by
  have hpins : after.configuredPins = before.configuredPins := by rw [configuredPins, hsame.memory]; rfl
  refine ⟨fun relayPin hpin => ?_, fun relayPin hpin => ?_⟩
  · rw [RelayController.findRelay, hsame.relays]
    exact hbefore.relays relayPin (hpins ▸ hpin)
  · rw [hsame.node]
    exact hbefore.loads relayPin (hpins ▸ hpin)

theorem Covered.of_configured {value : LoadConfiguration} (hbefore : before.Covered)
    (hconfigurable : before.Configurable value) (hconfigured : Configured value before after) : after.Covered := by
  have hpins : ∀ relayPin, relayPin ∉ after.configuredPins →
      relayPin ∉ before.configuredPins ∧ relayPin ≠ value.relayPin := by
    intro relayPin hpin
    rw [configuredPins, hconfigured.configurations, List.map_append, List.mem_append, not_or] at hpin
    exact ⟨hpin.1, by simpa using hpin.2⟩
  refine ⟨fun relayPin hpin => ?_, fun relayPin hpin => ?_⟩
  · rw [hconfigured.findRelay hconfigurable, if_neg (hpins relayPin hpin).2]
    exact hbefore.relays relayPin (hpins relayPin hpin).1
  · rw [hconfigured.getLoadByRelayPin hconfigurable, if_neg (hpins relayPin hpin).2]
    exact hbefore.loads relayPin (hpins relayPin hpin).1

theorem Covered.of_removed {removed : UInt8} (hbefore : before.Covered) (hremoved : Removed removed before after) :
    after.Covered := by
  have hpins : ∀ relayPin, relayPin ∉ after.configuredPins → relayPin ≠ removed → relayPin ∉ before.configuredPins := by
    intro relayPin hpin hother hmem
    rw [configuredPins, hremoved.memory] at hpin
    refine hpin ?_
    rw [show (before.store.memory.erase removed).configurations.map LoadConfiguration.relayPin =
      before.configuredPins.erase removed from KeyedList.map_key_remove removed before.store.memory.configurations]
    exact (List.mem_erase_of_ne hother).mpr hmem
  refine ⟨fun relayPin hpin => ?_, fun relayPin hpin => ?_⟩
  · rw [hremoved.findRelay]
    split
    · rfl
    · rename_i hother
      exact hbefore.relays relayPin (hpins relayPin hpin hother)
  · rw [hremoved.getLoadByRelayPin]
    split
    · rfl
    · rename_i hother
      exact hbefore.loads relayPin (hpins relayPin hpin hother)

/-- Clearing covered hardware leaves nothing. -/
theorem Covered.cleared {written : UInt8 → Bool} {flash : FlashAnswers} (hbefore : before.Covered)
    (hclearable : before.isClearable written = true) (hsucceeds : flash.succeeds = true) (relayPin : UInt8) :
    (before.clearAllConfigurations written flash).1.relays.findRelay relayPin = none ∧
      (before.clearAllConfigurations written flash).1.node.getLoadByRelayPin relayPin = none := by
  obtain ⟨-, hfound⟩ := clearAllConfigurations_succeeded hclearable hsucceeds
  rw [(hfound relayPin).1, (hfound relayPin).2]
  by_cases hpin : relayPin ∈ before.configuredPins
  · rw [if_pos hpin, if_pos hpin]
    exact ⟨rfl, rfl⟩
  · rw [if_neg hpin, if_neg hpin]
    exact ⟨hbefore.relays relayPin hpin, hbefore.loads relayPin hpin⟩

theorem Covered.clearAllConfigurations (hbefore : before.Covered) (written : UInt8 → Bool) (flash : FlashAnswers) :
    (before.clearAllConfigurations written flash).1.Covered := by
  cases hcleared : before.isClearable written && flash.succeeds with
  | false => exact hbefore.of_sameLoads (clearAllConfigurations_failed hcleared).1
  | true =>
    rw [Bool.and_eq_true] at hcleared
    exact ⟨fun relayPin _ => (hbefore.cleared hcleared.1 hcleared.2 relayPin).1,
      fun relayPin _ => (hbefore.cleared hcleared.1 hcleared.2 relayPin).2⟩

/-- Applying configurations adds nothing to a pin that none of them has. -/
theorem applyAll_untouched (answers : UInt8 → GpioAnswers) (values applied : List LoadConfiguration)
    (hardware : NodeHardware) {relayPin : UInt8} (hpin : relayPin ∉ values.map LoadConfiguration.relayPin)
    (hrelay : hardware.relays.findRelay relayPin = none) (hload : hardware.node.getLoadByRelayPin relayPin = none) :
    (applyAll answers values applied hardware).1.relays.findRelay relayPin = none ∧
      (applyAll answers values applied hardware).1.node.getLoadByRelayPin relayPin = none := by
  induction values generalizing applied hardware with
  | nil => exact ⟨hrelay, hload⟩
  | cons value rest ih =>
    rw [List.map_cons, List.mem_cons, not_or] at hpin
    rw [applyAll]
    dsimp only
    obtain ⟨hnone, hnext⟩ | ⟨hreason, hsame⟩ := applyOne_cases (answers value.relayPin) value hardware
    · rw [if_neg (not_not_intro hnone)]
      refine ih _ _ hpin.2 ?_ ?_
      · rw [RelayController.findRelay, hnext.relays, KeyedList.lookup_append_singleton, ← RelayController.findRelay, hrelay]
        exact if_neg (Ne.symm hpin.1)
      · rw [Node.getLoadByRelayPin_eq_none_iff] at hload ⊢
        rw [hnext.loads, List.map_append, List.mem_append, not_or]
        refine ⟨hload, ?_⟩
        rw [List.map_singleton, getRelayPin_load, List.mem_singleton]
        exact hpin.1
    · rw [if_pos hreason]
      obtain ⟨-, hrolledRelay, hrolledLoad⟩ := foldl_rollbackOne applied
        (hardware.applyOne (answers value.relayPin) value).1 relayPin
      rw [hrolledRelay, hrolledLoad, RelayController.findRelay, hsame.relays, ← RelayController.findRelay, hrelay,
        hsame.node, hload, ite_self, ite_self]
      exact ⟨rfl, rfl⟩

theorem Covered.applyPersistedConfigurations (hbefore : before.Covered) (answers : UInt8 → GpioAnswers) :
    (before.applyPersistedConfigurations answers).1.Covered := by
  have hstore := applyAll_store answers before.store.memory.configurations [] before
  have hpins : (before.applyPersistedConfigurations answers).1.configuredPins = before.configuredPins := by
    rw [configuredPins, NodeHardware.applyPersistedConfigurations, hstore]
    rfl
  have huntouched : ∀ relayPin, relayPin ∉ before.configuredPins →
      (before.applyPersistedConfigurations answers).1.relays.findRelay relayPin = none ∧
        (before.applyPersistedConfigurations answers).1.node.getLoadByRelayPin relayPin = none := fun relayPin hpin =>
    applyAll_untouched answers before.store.memory.configurations [] before hpin (hbefore.relays relayPin hpin)
      (hbefore.loads relayPin hpin)
  rw [← hpins] at huntouched
  exact ⟨fun relayPin hpin => (huntouched relayPin hpin).1, fun relayPin hpin => (huntouched relayPin hpin).2⟩

theorem Covered.afterEvent (hbefore : before.Covered) (event : HardwareEvent) : (before.afterEvent event).Covered := by
  cases event with
  | configureNewLoad answers value =>
    obtain ⟨-, hconfigurable, -, hconfigured⟩ | ⟨-, -, hsame, -⟩ := configureNewLoad_cases answers before value
    · exact hbefore.of_configured hconfigurable hconfigured
    · exact hbefore.of_sameLoads hsame
  | removeLoad answers relayPin =>
    obtain ⟨-, -, -, hremoved⟩ | ⟨-, -, hsame, -⟩ := removeLoad_cases answers before relayPin
    · exact hbefore.of_removed hremoved
    · exact hbefore.of_sameLoads hsame
  | clearAllConfigurations written flash => exact hbefore.clearAllConfigurations written flash
  | applyPersistedConfigurations answers => exact hbefore.applyPersistedConfigurations answers

/-- Whatever a boot reads from the flash, the hardware stays covered from there on. -/
theorem covered_of_boot {store : FlashBacked NodeLoadHardwareStore} {macAddress : MacAddress} {last : NodeHardware}
    {events : List HardwareEvent} (hrun : Run EventStep ⟨store, .empty, .make macAddress⟩ events last) : last.Covered := by
  have hboot : Covered ⟨store, .empty, .make macAddress⟩ := ⟨fun _ _ => rfl, fun _ _ => rfl⟩
  refine hrun.invariant (fun before event after hbefore hstep => ?_) hboot
  rw [EventStep] at hstep
  exact hstep ▸ hbefore.afterEvent event

end Covered

end NodeHardware

/-- A Smart Node with its loads and its identity. -/
structure RunningNode where
  hardware : NodeHardware
  covered : hardware.Covered
  identity : IdentifiedNode

/-- What a Node meets while it decommissions itself: whether it gets the two mutexes, which
relays can be switched, and what the flash answers for the loads and for the identity. -/
structure DecommissionAnswers where
  nodeTaken : Bool
  written : UInt8 → Bool
  flash : FlashAnswers
  identityTaken : Bool
  done : Nat

namespace RunningNode

open HardwareConfigurationFailureReason

/-- One byte as `%02X` prints it. -/
def hexByte (byte : UInt8) : List UInt8 :=
  let digit (value : UInt8) : UInt8 := if value < 10 then 48 + value else 55 + value
  [digit (byte / 16), digit (byte % 16)]

/-- The name `Smart-%02X%02X%02X`. -/
def computeAutomaticNodeName (macAddress : MacAddress) : List UInt8 :=
  ([83, 109, 97, 114, 116, 45] : List UInt8) ++ hexByte macAddress[3] ++ hexByte macAddress[4] ++ hexByte macAddress[5]

/-- The section under `nodeMutex`. -/
def clearLoads (answers : DecommissionAnswers) (hardware : NodeHardware) : NodeHardware × Bool :=
  if !answers.nodeTaken then (hardware, false)
  else
    let (hardware, reason) := hardware.clearAllConfigurations answers.written answers.flash
    (hardware, reason = NONE)

/-- The section under `identityMutex`. -/
def clearIdentity (answers : DecommissionAnswers) (identity : IdentifiedNode) : IdentifiedNode × Bool :=
  if !answers.identityTaken then (identity, false)
  else
    let (nvs, persisted) := NodeIdentityStore.persistNvs answers.done .applyDecommission identity.nvs
    (⟨if persisted then .applyDecommission else identity.identityStore, nvs, identity.localNodeName⟩, persisted)

theorem covered_clearLoads (answers : DecommissionAnswers) {hardware : NodeHardware} (hcovered : hardware.Covered) :
    (clearLoads answers hardware).1.Covered := by
  unfold clearLoads
  split
  · exact hcovered
  · exact hcovered.clearAllConfigurations answers.written answers.flash

def handleDecommissionCommand (answers : DecommissionAnswers) (command : DecommissionCommandPacket)
    (node : RunningNode) : RunningNode × DecommissionAckPacket :=
  let cleared := clearLoads answers node.hardware
  let covered := covered_clearLoads answers node.covered
  if !cleared.2 then ({ node with hardware := cleared.1, covered }, ⟨command.commandId, 0⟩)
  else
    let (identity, identityCleared) := clearIdentity answers node.identity
    if !identityCleared then ({ hardware := cleared.1, covered, identity }, ⟨command.commandId, 0⟩)
    else
      let localNodeName := computeAutomaticNodeName node.hardware.node.macAddress
      ({ hardware := cleared.1, covered, identity := { identity with localNodeName } }, ⟨command.commandId, 1⟩)

/-- What the acknowledgement of a decommissioning tells. -/
structure Atomic (node after : RunningNode) (ack : DecommissionAckPacket) : Prop where
  failed : ack.success = 0 → after.hardware.store = node.hardware.store ∧
    NodeHardware.SameLoads node.hardware after.hardware ∧ after.identity.identityStore = node.identity.identityStore
  succeeded : ack.success = 1 → after.hardware.node.loads = [] ∧ after.hardware.relays.relays = [] ∧
    after.identity.identityStore.lifecycleState = .UNCOMMISSIONED

/-- The stored loads are not reached, or all five calls for the identity succeed too, or there
is nothing to lose. -/
def Untorn (answers : DecommissionAnswers) (node : RunningNode) : Prop :=
  (answers.nodeTaken && node.hardware.isClearable answers.written && answers.flash.writes) = false ∨
    (answers.flash.succeeds = true ∧ answers.identityTaken = true ∧ 5 ≤ answers.done) ∨
    (node.hardware.store.flash = .empty ∧ (answers.flash.succeeds = false ∨ node.hardware.store.memory = .empty))

section Decommission

variable (answers : DecommissionAnswers) (command : DecommissionCommandPacket) (node : RunningNode)

theorem clearLoads_snd (hardware : NodeHardware) :
    (clearLoads answers hardware).2 =
      (answers.nodeTaken && hardware.isClearable answers.written && answers.flash.succeeds) := by
  have hcleared := NodeHardware.clearAllConfigurations_snd answers.written answers.flash hardware
  rw [← Bool.and_eq_true] at hcleared
  unfold clearLoads
  cases answers.nodeTaken with
  | false => rfl
  | true => simp [hcleared]

theorem clearLoads_failed {answers : DecommissionAnswers} {hardware : NodeHardware}
    (hfailed : (clearLoads answers hardware).2 = false) :
    NodeHardware.SameLoads hardware (clearLoads answers hardware).1 ∧
      (clearLoads answers hardware).1.store.flash =
        if answers.nodeTaken && hardware.isClearable answers.written && answers.flash.writes then .empty
        else hardware.store.flash := by
  rw [clearLoads_snd] at hfailed
  unfold clearLoads
  cases htaken : answers.nodeTaken with
  | false => exact ⟨⟨rfl, rfl, rfl⟩, rfl⟩
  | true =>
    rw [htaken, Bool.true_and] at hfailed
    rw [Bool.true_and]
    exact NodeHardware.clearAllConfigurations_failed hfailed

theorem clearLoads_succeeded {answers : DecommissionAnswers} {hardware : NodeHardware} (hcovered : hardware.Covered)
    (hcleared : (clearLoads answers hardware).2 = true) :
    (clearLoads answers hardware).1.store = ⟨.empty, .empty⟩ ∧
      (clearLoads answers hardware).1.relays.relays = [] ∧ (clearLoads answers hardware).1.node.loads = [] ∧
      (hardware.store.memory = .empty → NodeHardware.SameLoads hardware (clearLoads answers hardware).1) := by
  rw [clearLoads_snd, Bool.and_eq_true, Bool.and_eq_true] at hcleared
  obtain ⟨⟨htaken, hclearable⟩, hsucceeds⟩ := hcleared
  have hnothing := hcovered.cleared hclearable hsucceeds
  simp only [clearLoads, htaken, Bool.not_true, Bool.false_eq_true, if_false]
  refine ⟨(NodeHardware.clearAllConfigurations_succeeded hclearable hsucceeds).1, ?_, ?_, fun hempty => ?_⟩
  · exact KeyedList.eq_nil_of_lookup fun relayPin => (hnothing relayPin).1
  · exact KeyedList.eq_nil_of_lookup fun relayPin => (hnothing relayPin).2
  · have hconfigurations : hardware.store.memory.configurations = [] := by rw [hempty]; rfl
    simp only [NodeHardware.clearAllConfigurations, hconfigurations, NodeHardware.switchAllOff, FlashBacked.persist,
      hsucceeds, Bool.not_true, Bool.false_eq_true, if_false]
    exact ⟨hempty.symm, rfl, rfl⟩

theorem clearIdentity_snd (identity : IdentifiedNode) :
    (clearIdentity answers identity).2 = (answers.identityTaken && decide (5 ≤ answers.done)) := by
  unfold clearIdentity
  cases answers.identityTaken with
  | false => rfl
  | true => simp [NodeIdentityStore.persistNvs, KeyedWrites.store, NodeIdentityStore.writes]

theorem clearIdentity_identityStore (identity : IdentifiedNode) :
    (clearIdentity answers identity).1.identityStore =
      if (clearIdentity answers identity).2 then .applyDecommission else identity.identityStore := by
  unfold clearIdentity
  split
  · rfl
  · rfl

theorem handleDecommissionCommand_success :
    (handleDecommissionCommand answers command node).2 =
      ⟨command.commandId,
        if (clearLoads answers node.hardware).2 && (clearIdentity answers node.identity).2 then 1 else 0⟩ := by
  unfold handleDecommissionCommand
  cases hcleared : (clearLoads answers node.hardware).2 with
  | false => simp [hcleared]
  | true => cases hidentity : (clearIdentity answers node.identity).2 <;> simp [hcleared, hidentity]

theorem handleDecommissionCommand_hardware :
    (handleDecommissionCommand answers command node).1.hardware = (clearLoads answers node.hardware).1 := by
  unfold handleDecommissionCommand
  dsimp only
  split
  · rfl
  split
  · rfl
  · rfl

theorem handleDecommissionCommand_identityStore :
    (handleDecommissionCommand answers command node).1.identity.identityStore =
      if (clearLoads answers node.hardware).2 && (clearIdentity answers node.identity).2 then .applyDecommission
      else node.identity.identityStore := by
  have hidentity := clearIdentity_identityStore answers node.identity
  unfold handleDecommissionCommand
  cases hcleared : (clearLoads answers node.hardware).2 with
  | false => simp [hcleared]
  | true =>
    cases hforgotten : (clearIdentity answers node.identity).2 with
    | false =>
      rw [hforgotten] at hidentity
      simpa [hcleared, hforgotten] using hidentity
    | true =>
      rw [hforgotten] at hidentity
      simpa [hcleared, hforgotten] using hidentity

/-- With the loads and the flash left out, this is the handler of the protocol between the Nodes
and Central. -/
theorem handleDecommissionCommand_eq :
    ((handleDecommissionCommand answers command node).1.identity.identityStore,
        (handleDecommissionCommand answers command node).2) =
      Commissioning.handleDecommissionCommand
        { loadsCleared := (clearLoads answers node.hardware).2
          identityTaken := answers.identityTaken
          persisted := 5 ≤ answers.done
          ackSent := false
          found := none }
        command node.identity.identityStore := by
  rw [handleDecommissionCommand_identityStore, handleDecommissionCommand_success, clearIdentity_snd,
    Commissioning.handleDecommissionCommand, Bool.and_assoc]
  split <;> rfl

/-- If the loads are not cleared, only their flash can be torn from their memory. -/
theorem atomic_of_not_cleared (hcleared : (clearLoads answers node.hardware).2 = false) :
    Atomic node (handleDecommissionCommand answers command node).1 (handleDecommissionCommand answers command node).2 ↔
      Untorn answers node := by
  obtain ⟨hsame, hflash⟩ := clearLoads_failed hcleared
  have hidentity := handleDecommissionCommand_identityStore answers command node
  rw [hcleared, Bool.false_and, if_neg Bool.false_ne_true] at hidentity
  have hack := handleDecommissionCommand_success answers command node
  rw [hcleared, Bool.false_and, if_neg Bool.false_ne_true] at hack
  rw [clearLoads_snd] at hcleared
  have hstore : (clearLoads answers node.hardware).1.store = node.hardware.store ↔
      (answers.nodeTaken && node.hardware.isClearable answers.written && answers.flash.writes) = false ∨
        node.hardware.store.flash = .empty := by
    rw [FlashBacked.ext_iff, hflash]
    simp only [hsame.memory, true_and]
    split
    · rename_i hwritten
      simp [hwritten, eq_comm]
    · rename_i hkept
      simp [hkept]
  rw [← handleDecommissionCommand_hardware answers command node] at hsame hstore
  have hatomic : Atomic node (handleDecommissionCommand answers command node).1
      (handleDecommissionCommand answers command node).2 ↔
        (handleDecommissionCommand answers command node).1.hardware.store = node.hardware.store := by
    rw [hack]
    constructor
    · intro hatomic
      exact (hatomic.failed rfl).1
    · intro hkept
      exact ⟨fun _ => ⟨hkept, hsame, hidentity⟩, fun hsuccess => absurd hsuccess (by simp)⟩
  rw [hatomic, hstore, Untorn]
  cases hreached : answers.nodeTaken && node.hardware.isClearable answers.written && answers.flash.writes with
  | false => simp
  | true =>
    have hfails : answers.flash.succeeds = false := by
      rw [Bool.and_eq_true] at hreached
      rw [hreached.1, Bool.true_and] at hcleared
      exact hcleared
    simp [hfails]

/-- If they are, nothing is torn only if the identity follows, or there were none. -/
theorem atomic_of_cleared (hcleared : (clearLoads answers node.hardware).2 = true) :
    Atomic node (handleDecommissionCommand answers command node).1 (handleDecommissionCommand answers command node).2 ↔
      Untorn answers node := by
  obtain ⟨hstore, hrelays, hloads, hsame⟩ := clearLoads_succeeded node.covered hcleared
  have hidentity := handleDecommissionCommand_identityStore answers command node
  have hack := handleDecommissionCommand_success answers command node
  rw [hcleared, Bool.true_and] at hidentity hack
  rw [clearIdentity_snd] at hidentity hack
  rw [← handleDecommissionCommand_hardware answers command node] at hstore hrelays hloads hsame
  rw [clearLoads_snd, Bool.and_eq_true] at hcleared
  have hwrites := FlashAnswers.writes_of_succeeds hcleared.2
  rw [Untorn, hcleared.1, hcleared.2, hwrites, hack]
  cases hforgotten : answers.identityTaken && decide (5 ≤ answers.done) with
  | true =>
    rw [hforgotten, if_pos rfl] at hidentity
    simp only [Bool.and_eq_true, decide_eq_true_eq] at hforgotten
    refine iff_of_true ⟨fun hfailure => absurd hfailure (by simp), fun _ => ⟨hloads, hrelays, ?_⟩⟩
      (.inr (.inl ⟨rfl, hforgotten⟩))
    rw [hidentity]
    rfl
  | false =>
    rw [hforgotten, if_neg Bool.false_ne_true] at hidentity
    have hkept : (handleDecommissionCommand answers command node).1.hardware.store = node.hardware.store ↔
        node.hardware.store.flash = .empty ∧ node.hardware.store.memory = .empty := by
      rw [hstore, FlashBacked.ext_iff]
      constructor
      · rintro ⟨hmemory, hflash⟩
        exact ⟨hflash.symm, hmemory.symm⟩
      · rintro ⟨hflash, hmemory⟩
        exact ⟨hmemory.symm, hflash.symm⟩
    have hfails : ¬(answers.identityTaken = true ∧ 5 ≤ answers.done) := by
      simpa using hforgotten
    simp only [Bool.and_self, Bool.true_eq_false, hfails, and_false, false_or]
    rw [← hkept]
    constructor
    · intro hatomic
      exact (hatomic.failed rfl).1
    · intro hsameStore
      exact ⟨fun _ => ⟨hsameStore, hsame (hkept.mp hsameStore).2, hidentity⟩,
        fun hsuccess => absurd hsuccess (by simp)⟩

/-- A decommissioning is all or nothing exactly if it ends before the stored loads or reaches the end of the
identity too, or there is nothing to lose. Nothing is assumed about the Node or about what fails. -/
theorem atomic_iff :
    Atomic node (handleDecommissionCommand answers command node).1 (handleDecommissionCommand answers command node).2 ↔
      Untorn answers node := by
  cases hcleared : (clearLoads answers node.hardware).2 with
  | false => exact atomic_of_not_cleared answers command node hcleared
  | true => exact atomic_of_cleared answers command node hcleared

end Decommission

section Fans

open NodeHardware

/-- A commissioned Node with one fan. -/
def fanNode : RunningNode where
  hardware := newHardware.afterEvent (.configureNewLoad .succeeding (fan 4))
  covered := covered_of_boot (.single rfl)
  identity := .renamedNode

/-- `identityMutex` is not taken after the loads were cleared. -/
def identityBusy : DecommissionAnswers := ⟨true, fun _ => true, .succeeding, false, 5⟩

/-- The Node answers that it failed, is still in operation and has lost its fan. -/
theorem fanNode_not_atomic :
    ¬Atomic fanNode (handleDecommissionCommand identityBusy ⟨3⟩ fanNode).1
        (handleDecommissionCommand identityBusy ⟨3⟩ fanNode).2 ∧
      (handleDecommissionCommand identityBusy ⟨3⟩ fanNode).2.success = 0 ∧
      (handleDecommissionCommand identityBusy ⟨3⟩ fanNode).1.identity.identityStore.lifecycleState = .OPERATIONAL ∧
      fanNode.hardware.store.flash.configurations.length = 1 ∧ fanNode.hardware.node.loads.length = 1 ∧
      (handleDecommissionCommand identityBusy ⟨3⟩ fanNode).1.hardware.store.flash.configurations.length = 0 ∧
      (handleDecommissionCommand identityBusy ⟨3⟩ fanNode).1.hardware.node.loads.length = 0 := by
  have hfailed : (handleDecommissionCommand identityBusy ⟨3⟩ fanNode).2.success = 0 := by decide +kernel
  refine ⟨fun hatomic => ?_, hfailed, by decide +kernel, by decide +kernel, by decide +kernel, by decide +kernel,
    by decide +kernel⟩
  have hlost := congrArg (fun store => store.flash.configurations.length) (hatomic.failed hfailed).1
  exact absurd hlost (by decide +kernel)

end Fans

end RunningNode

end kilowatts
