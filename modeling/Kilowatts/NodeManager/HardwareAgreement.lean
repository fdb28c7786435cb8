import Kilowatts.Library.Run
import Kilowatts.NodeManager.NodeLoadHardwareStore

namespace kilowatts.NodeHardware

open HardwareConfigurationFailureReason

def configuredPins (hardware : NodeHardware) : List UInt8 :=
  hardware.store.memory.configurations.map LoadConfiguration.relayPin

def relayPins (hardware : NodeHardware) : List UInt8 := hardware.relays.relays.map RegisteredRelay.relayPin

def loadPins (hardware : NodeHardware) : List UInt8 := hardware.node.loads.map Load.getRelayPin

/-- The configurations, the relays and the loads have the same pins, all distinct and at most 16. -/
structure InAgreement (hardware : NodeHardware) : Prop where
  relays : hardware.relayPins.Perm hardware.configuredPins
  loads : hardware.loadPins.Perm hardware.configuredPins
  distinct : hardware.configuredPins.Nodup
  capacity : hardware.configuredPins.length ≤ NodeLoadHardwareStore.MAX_CONFIGURED_LOADS

/-- The calls of `NodeLoadHardwareStore`, with every answer of the hardware. -/
inductive HardwareEvent where
  | configureNewLoad (answers : ConfigureAnswers) (value : LoadConfiguration)
  | removeLoad (answers : RemoveAnswers) (relayPin : UInt8)
  | clearAllConfigurations (written : UInt8 → Bool) (flash : FlashAnswers)
  | applyPersistedConfigurations (answers : UInt8 → GpioAnswers)

def afterEvent (hardware : NodeHardware) : HardwareEvent → NodeHardware
  | .configureNewLoad answers value => (hardware.configureNewLoad answers value).1
  | .removeLoad answers relayPin => (hardware.removeLoad answers relayPin).1
  | .clearAllConfigurations written flash => (hardware.clearAllConfigurations written flash).1
  | .applyPersistedConfigurations answers => (hardware.applyPersistedConfigurations answers).1

def EventStep (before : NodeHardware) (event : HardwareEvent) (after : NodeHardware) : Prop :=
  after = before.afterEvent event

/-- The relay and the load of the configuration were added. -/
structure Applied (value : LoadConfiguration) (before after : NodeHardware) : Prop where
  relays : after.relays.relays = before.relays.relays ++ [⟨value.relayConfiguration, true⟩]
  macAddress : after.node.macAddress = before.node.macAddress
  loads : after.node.loads = before.node.loads ++ [value.load before.node.macAddress]

section Operations

variable {before after : NodeHardware}

theorem getRelayPin_load (value : LoadConfiguration) (macAddress : MacAddress) :
    (value.load macAddress).getRelayPin = value.relayPin := by
  rw [Load.getRelayPin, value.load_id]

theorem getMacAddress_load (value : LoadConfiguration) (macAddress : MacAddress) :
    (value.load macAddress).getMacAddress = macAddress := by
  rw [Load.getMacAddress, value.load_id]

theorem addLoad_configuration {value : LoadConfiguration} {node : Node}
    (hfree : node.getLoadByRelayPin value.relayPin = none) :
    (node.addLoad (value.load node.macAddress)).1.loads = node.loads ++ [value.load node.macAddress] := by
  refine Node.addLoad_loads (getMacAddress_load value _) ?_
  rw [getRelayPin_load]
  exact Node.getLoadByRelayPin_eq_none_iff.mp hfree

/-- A configuration is applied with its relay and its load, or what was added is taken back. -/
theorem applyOne_cases (answers : GpioAnswers) (value : LoadConfiguration) (hardware : NodeHardware) :
    ((hardware.applyOne answers value).2 = NONE ∧ Applied value hardware (hardware.applyOne answers value).1) ∨
      ((hardware.applyOne answers value).2 ≠ NONE ∧ SameLoads hardware (hardware.applyOne answers value).1) := by
  unfold applyOne
  split
  · exact .inr ⟨by simp, rfl, rfl, rfl⟩
  rename_i htaken
  simp only [Bool.or_eq_true, not_or, Bool.not_eq_true, Option.isSome_eq_false_iff, Option.isNone_iff_eq_none] at htaken
  have hrelays := hardware.relays.addRelay_relays value.relayConfiguration answers
  have hload := addLoad_snd htaken.2
  dsimp only
  cases hadded : (hardware.relays.addRelay value.relayConfiguration answers).2 with
  | false =>
    rw [hadded] at hrelays
    exact .inr ⟨by simp, rfl, hrelays, rfl⟩
  | true =>
    rw [hadded, if_pos rfl] at hrelays
    simp only [hload, Bool.not_true, Bool.false_eq_true, if_false]
    split
    · refine .inr ⟨by simp, rfl, RelayController.removeRelay_addRelay_relays hadded, ?_⟩
      rw [rollbackOne, ← getRelayPin_load value hardware.node.macAddress]
      exact Node.removeLoadByRelayPin_addLoad hload
    · exact .inl ⟨rfl, hrelays, Node.addLoad_macAddress _ _, addLoad_configuration htaken.2⟩

/-- Rolling back removes the pins of the configurations one by one. -/
theorem foldl_rollbackOne_eq (values : List LoadConfiguration) (hardware : NodeHardware) :
    (values.foldl (fun hardware value => rollbackOne value hardware) hardware).relays.relays =
        (values.map LoadConfiguration.relayPin).foldl
          (fun relays relayPin => KeyedList.remove RegisteredRelay.relayPin relayPin relays) hardware.relays.relays ∧
      (values.foldl (fun hardware value => rollbackOne value hardware) hardware).node.loads =
        (values.map LoadConfiguration.relayPin).foldl
          (fun loads relayPin => KeyedList.remove Load.getRelayPin relayPin loads) hardware.node.loads := by
  induction values generalizing hardware with
  | nil => exact ⟨rfl, rfl⟩
  | cons value rest ih =>
    obtain ⟨hrelays, hloads⟩ := ih (rollbackOne value hardware)
    rw [List.foldl_cons, List.map_cons, List.foldl_cons, List.foldl_cons, hrelays, hloads]
    exact ⟨by rw [rollbackOne, RelayController.removeRelay_relays], rfl⟩

/-- What `applyAll` has added so far. -/
structure AppliedAll (applied : List LoadConfiguration) (start hardware : NodeHardware) : Prop where
  relays : hardware.relays.relays =
    start.relays.relays ++ applied.map fun value => ⟨value.relayConfiguration, true⟩
  macAddress : hardware.node.macAddress = start.node.macAddress
  loads : hardware.node.loads = start.node.loads ++ applied.map fun value => value.load start.node.macAddress

theorem AppliedAll.snoc {applied : List LoadConfiguration} {value : LoadConfiguration} {start hardware next : NodeHardware}
    (happlied : AppliedAll applied start hardware) (hnext : Applied value hardware next) :
    AppliedAll (applied ++ [value]) start next := by
  refine ⟨?_, hnext.macAddress.trans happlied.macAddress, ?_⟩
  · rw [hnext.relays, happlied.relays, List.map_append, List.append_assoc]
    rfl
  · rw [hnext.loads, happlied.loads, happlied.macAddress, List.map_append, List.append_assoc]
    rfl

/-- Rolling back what was added gives the relays and the loads of the start. -/
theorem AppliedAll.rollback {applied : List LoadConfiguration} {start hardware : NodeHardware}
    (happlied : AppliedAll applied start hardware) :
    (applied.foldl (fun hardware value => rollbackOne value hardware) hardware).relays.relays = start.relays.relays ∧
      (applied.foldl (fun hardware value => rollbackOne value hardware) hardware).node = start.node := by
  obtain ⟨hrelays, hloads⟩ := foldl_rollbackOne_eq applied hardware
  have hrelayPins : (applied.map fun value => (⟨value.relayConfiguration, true⟩ : RegisteredRelay)).map
      RegisteredRelay.relayPin = applied.map LoadConfiguration.relayPin := by
    rw [List.map_map]
    rfl
  have hloadPins : (applied.map fun value => value.load start.node.macAddress).map Load.getRelayPin =
      applied.map LoadConfiguration.relayPin := by
    rw [List.map_map]
    exact List.map_congr_left fun value _ => getRelayPin_load value start.node.macAddress
  constructor
  · have hnodup := hardware.relays.pins_nodup
    rw [happlied.relays] at hnodup
    rw [hrelays, happlied.relays, ← hrelayPins]
    exact KeyedList.foldl_remove_append hnodup
  · have hnodup := hardware.node.pins_nodup
    rw [happlied.loads] at hnodup
    refine Node.ext ((foldl_rollbackOne_node applied hardware).1.trans happlied.macAddress) ?_
    rw [hloads, happlied.loads, ← hloadPins]
    exact KeyedList.foldl_remove_append hnodup

theorem applyAll_failed {answers : UInt8 → GpioAnswers} {start : NodeHardware} (values applied : List LoadConfiguration)
    (hardware : NodeHardware) (happlied : AppliedAll applied start hardware)
    (hfailed : (applyAll answers values applied hardware).2 ≠ NONE) :
    (applyAll answers values applied hardware).1.relays.relays = start.relays.relays ∧
      (applyAll answers values applied hardware).1.node = start.node := by
  induction values generalizing applied hardware with
  | nil => exact absurd rfl hfailed
  | cons value rest ih =>
    rw [applyAll] at hfailed ⊢
    dsimp only at hfailed ⊢
    obtain ⟨hnone, hnext⟩ | ⟨hreason, hsame⟩ := applyOne_cases (answers value.relayPin) value hardware
    · simp only [hnone, ne_eq, not_true, if_false] at hfailed ⊢
      exact ih _ _ (happlied.snoc hnext) hfailed
    · rw [if_pos hreason]
      refine AppliedAll.rollback ⟨hsame.relays.trans happlied.relays, ?_, ?_⟩
      · rw [hsame.node, happlied.macAddress]
      · rw [hsame.node, happlied.loads]

/-- A boot that fails leaves the relays and the loads as they were. -/
theorem applyPersistedConfigurations_failed {answers : UInt8 → GpioAnswers} {hardware : NodeHardware}
    (hfailed : (hardware.applyPersistedConfigurations answers).2 ≠ NONE) :
    (hardware.applyPersistedConfigurations answers).1.relays.relays = hardware.relays.relays ∧
      (hardware.applyPersistedConfigurations answers).1.node = hardware.node :=
  applyAll_failed hardware.store.memory.configurations [] hardware ⟨by simp, rfl, by simp⟩ hfailed

/-- Every relay of a stored configuration can be switched. -/
def isClearable (written : UInt8 → Bool) (hardware : NodeHardware) : Bool :=
  hardware.store.memory.configurations.all fun value =>
    hardware.relays.isHardwareApplied value.relayPin && written value.relayPin

theorem clearAllConfigurations_snd (written : UInt8 → Bool) (flash : FlashAnswers) (hardware : NodeHardware) :
    (hardware.clearAllConfigurations written flash).2 = NONE ↔
      hardware.isClearable written = true ∧ flash.succeeds = true := by
  have hswitched := switchAllOff_snd written hardware.store.memory.configurations hardware.relays
  rw [← isClearable] at hswitched
  unfold clearAllConfigurations
  dsimp only
  rw [hswitched]
  cases hardware.isClearable written with
  | false => simp
  | true => cases hsucceeds : flash.succeeds <;> simp [FlashBacked.persist, hsucceeds]

/-- Without success, only the flash may have been cleared. -/
theorem clearAllConfigurations_failed {written : UInt8 → Bool} {flash : FlashAnswers} {hardware : NodeHardware}
    (hfailed : (hardware.isClearable written && flash.succeeds) = false) :
    SameLoads hardware (hardware.clearAllConfigurations written flash).1 ∧
      (hardware.clearAllConfigurations written flash).1.store.flash =
        if hardware.isClearable written && flash.writes then .empty else hardware.store.flash := by
  have hrelays := switchAllOff_relays written hardware.store.memory.configurations hardware.relays
  have hswitched := switchAllOff_snd written hardware.store.memory.configurations hardware.relays
  rw [← isClearable] at hswitched
  unfold clearAllConfigurations
  dsimp only
  rw [hswitched]
  cases hclearable : hardware.isClearable written with
  | false => exact ⟨⟨rfl, hrelays, rfl⟩, rfl⟩
  | true =>
    rw [hclearable, Bool.true_and] at hfailed
    simp only [FlashBacked.persist, hfailed, Bool.not_true, Bool.not_false, Bool.false_eq_true, if_false, if_true,
      Bool.true_and]
    exact ⟨⟨rfl, hrelays, rfl⟩, trivial⟩

theorem clearAllConfigurations_succeeded {written : UInt8 → Bool} {flash : FlashAnswers} {hardware : NodeHardware}
    (hclearable : hardware.isClearable written = true) (hsucceeds : flash.succeeds = true) :
    (hardware.clearAllConfigurations written flash).1.store = ⟨.empty, .empty⟩ ∧
      ∀ relayPin,
        ((hardware.clearAllConfigurations written flash).1.relays.findRelay relayPin =
          if relayPin ∈ hardware.configuredPins then none else hardware.relays.findRelay relayPin) ∧
        ((hardware.clearAllConfigurations written flash).1.node.getLoadByRelayPin relayPin =
          if relayPin ∈ hardware.configuredPins then none else hardware.node.getLoadByRelayPin relayPin) := by
  have hrelays := switchAllOff_relays written hardware.store.memory.configurations hardware.relays
  have hswitched := switchAllOff_snd written hardware.store.memory.configurations hardware.relays
  rw [← isClearable, hclearable] at hswitched
  unfold clearAllConfigurations
  simp only [hswitched, FlashBacked.persist, hsucceeds, FlashAnswers.writes_of_succeeds hsucceeds, Bool.not_true,
    Bool.false_eq_true, if_false, if_true]
  refine ⟨(foldl_rollbackOne hardware.store.memory.configurations _ 0).1, fun relayPin => ?_⟩
  obtain ⟨-, hrelay, hload⟩ := foldl_rollbackOne hardware.store.memory.configurations _ relayPin
  rw [hrelay, hload]
  refine ⟨?_, rfl⟩
  simp only [RelayController.findRelay, hrelays]
  rfl

/-- Clearing empties all three, or changes none of them. -/
theorem clearAllConfigurations_cases (written : UInt8 → Bool) (flash : FlashAnswers) (hardware : NodeHardware) :
    SameLoads hardware (hardware.clearAllConfigurations written flash).1 ∨
      ((hardware.clearAllConfigurations written flash).1.store.memory = .empty ∧
        ∀ relayPin,
          ((hardware.clearAllConfigurations written flash).1.relays.findRelay relayPin =
            if relayPin ∈ hardware.configuredPins then none else hardware.relays.findRelay relayPin) ∧
          ((hardware.clearAllConfigurations written flash).1.node.getLoadByRelayPin relayPin =
            if relayPin ∈ hardware.configuredPins then none else hardware.node.getLoadByRelayPin relayPin)) := by
  cases hcleared : hardware.isClearable written && flash.succeeds with
  | false => exact .inl (clearAllConfigurations_failed hcleared).1
  | true =>
    rw [Bool.and_eq_true] at hcleared
    obtain ⟨hstore, hfound⟩ := clearAllConfigurations_succeeded hcleared.1 hcleared.2
    exact .inr ⟨by rw [hstore], hfound⟩

theorem InAgreement.of_sameLoads (hbefore : before.InAgreement) (hsame : SameLoads before after) :
    after.InAgreement := by
  have hconfigured : after.configuredPins = before.configuredPins := by rw [configuredPins, hsame.memory]; rfl
  have hrelays : after.relayPins = before.relayPins := by rw [relayPins, hsame.relays]; rfl
  have hloads : after.loadPins = before.loadPins := by rw [loadPins, hsame.node]; rfl
  exact ⟨hrelays ▸ hconfigured ▸ hbefore.relays, hloads ▸ hconfigured ▸ hbefore.loads, hconfigured ▸ hbefore.distinct,
    hconfigured ▸ hbefore.capacity⟩

theorem InAgreement.of_configured {value : LoadConfiguration} (hbefore : before.InAgreement)
    (hconfigurable : before.Configurable value) (hconfigured : Configured value before after) : after.InAgreement := by
  obtain ⟨-, -, hroom, -⟩ := NodeLoadHardwareStore.isValidNewConfiguration_eq_none_iff.mp hconfigurable.valid
  have hpins : after.configuredPins = before.configuredPins ++ [value.relayPin] := by
    rw [configuredPins, hconfigured.configurations, List.map_append]
    rfl
  have hrelays : after.relayPins = before.relayPins ++ [value.relayPin] := by
    rw [relayPins, hconfigured.relays, List.map_append]
    rfl
  have hloads : after.loadPins = before.loadPins ++ [value.relayPin] := by
    rw [loadPins, hconfigured.node, addLoad_configuration hconfigurable.free, List.map_append, List.map_singleton,
      getRelayPin_load]
    rfl
  refine ⟨?_, ?_, after.store.memory.pins_nodup, ?_⟩
  · rw [hpins, hrelays]
    exact hbefore.relays.append_right _
  · rw [hpins, hloads]
    exact hbefore.loads.append_right _
  · rw [configuredPins, hconfigured.configurations, List.length_map, List.length_append, List.length_singleton]
    omega

theorem InAgreement.of_removed {relayPin : UInt8} (hbefore : before.InAgreement)
    (hremoved : Removed relayPin before after) : after.InAgreement := by
  have hpins : after.configuredPins = before.configuredPins.erase relayPin := by
    rw [configuredPins, hremoved.memory]
    exact KeyedList.map_key_remove relayPin before.store.memory.configurations
  have hrelays : after.relayPins = before.relayPins.erase relayPin := by
    rw [relayPins, hremoved.relays]
    exact KeyedList.map_key_remove relayPin before.relays.relays
  have hloads : after.loadPins = before.loadPins.erase relayPin := by
    rw [loadPins, hremoved.node]
    exact KeyedList.map_key_remove relayPin before.node.loads
  refine ⟨?_, ?_, after.store.memory.pins_nodup, ?_⟩
  · rw [hpins, hrelays]
    exact hbefore.relays.erase relayPin
  · rw [hpins, hloads]
    exact hbefore.loads.erase relayPin
  · rw [hpins]
    exact List.length_erase_le.trans hbefore.capacity

theorem InAgreement.clearAllConfigurations (hbefore : before.InAgreement) (written : UInt8 → Bool)
    (flash : FlashAnswers) : (before.clearAllConfigurations written flash).1.InAgreement := by
  obtain hsame | ⟨hmemory, hfound⟩ := clearAllConfigurations_cases written flash before
  · exact hbefore.of_sameLoads hsame
  have hpins : (before.clearAllConfigurations written flash).1.configuredPins = [] := by
    rw [configuredPins, hmemory]
    rfl
  have hrelays : (before.clearAllConfigurations written flash).1.relayPins = [] := by
    refine List.eq_nil_iff_forall_not_mem.mpr fun relayPin => KeyedList.lookup_eq_none_iff.mp ?_
    refine (hfound relayPin).1.trans ?_
    split
    · rfl
    · rename_i hother
      exact KeyedList.lookup_eq_none_iff.mpr fun hmem => hother (hbefore.relays.mem_iff.mp hmem)
  have hloads : (before.clearAllConfigurations written flash).1.loadPins = [] := by
    refine List.eq_nil_iff_forall_not_mem.mpr fun relayPin => KeyedList.lookup_eq_none_iff.mp ?_
    refine (hfound relayPin).2.trans ?_
    split
    · rfl
    · rename_i hother
      exact KeyedList.lookup_eq_none_iff.mpr fun hmem => hother (hbefore.loads.mem_iff.mp hmem)
  constructor
  · rw [hpins, hrelays]
  · rw [hpins, hloads]
  · rw [hpins]
    exact List.nodup_nil
  · rw [hpins]
    exact Nat.zero_le _

/-- Where every configuration has its relay, a boot applies none. -/
theorem InAgreement.applyPersistedConfigurations (hbefore : before.InAgreement) (answers : UInt8 → GpioAnswers) :
    (before.applyPersistedConfigurations answers).1 = before := by
  rw [NodeHardware.applyPersistedConfigurations]
  cases hvalues : before.store.memory.configurations with
  | nil => rfl
  | cons value rest =>
    have hregistered : before.relays.isRelayRegistered value.relayPin = true := by
      rw [RelayController.isRelayRegistered, ← Option.ne_none_iff_isSome]
      intro hnone
      refine KeyedList.lookup_eq_none_iff.mp hnone (hbefore.relays.mem_iff.mpr ?_)
      rw [configuredPins, hvalues]
      exact List.mem_cons_self
    simp [applyAll, applyOne, hregistered]

theorem InAgreement.afterEvent (hbefore : before.InAgreement) (event : HardwareEvent) :
    (before.afterEvent event).InAgreement := by
  cases event with
  | configureNewLoad answers value =>
    obtain ⟨-, hconfigurable, -, hconfigured⟩ | ⟨-, -, hsame, -⟩ := configureNewLoad_cases answers before value
    · exact hbefore.of_configured hconfigurable hconfigured
    · exact hbefore.of_sameLoads hsame
  | removeLoad answers relayPin =>
    obtain ⟨-, -, -, hremoved⟩ | ⟨-, -, hsame, -⟩ := removeLoad_cases answers before relayPin
    · exact hbefore.of_removed hremoved
    · exact hbefore.of_sameLoads hsame
  | clearAllConfigurations written flash => exact hbefore.clearAllConfigurations written flash
  | applyPersistedConfigurations answers =>
    rw [NodeHardware.afterEvent, hbefore.applyPersistedConfigurations]
    exact hbefore

end Operations

/-- Whatever the hardware answers, the store, the relays and the Node stay in agreement, and a boot that
fails leaves the relays and the loads as they were. Only the first half needs that they agree at the
start. -/
theorem hardware_stays_in_agreement :
    (∀ {start last : NodeHardware} {events : List HardwareEvent}, start.InAgreement → Run EventStep start events last →
      last.InAgreement) ∧
    ∀ (answers : UInt8 → GpioAnswers) (hardware : NodeHardware),
      (hardware.applyPersistedConfigurations answers).2 ≠ NONE →
      (hardware.applyPersistedConfigurations answers).1.relays.relays = hardware.relays.relays ∧
        (hardware.applyPersistedConfigurations answers).1.node = hardware.node := by
  constructor
  · intro start last events hstart hrun
    refine hrun.invariant (fun before event after hbefore hstep => ?_) hstart
    rw [EventStep] at hstep
    exact hstep ▸ hbefore.afterEvent event
  · intro answers hardware hfailed
    exact applyPersistedConfigurations_failed hfailed

section Fans

def fan (relayPin : UInt8) : LoadConfiguration :=
  { LoadConfiguration.zero with name := CharBuffer.zero.print [70], relayPin, powerRatingWatts := .finite 40 }

def newHardware : NodeHardware := ⟨⟨.empty, .empty⟩, .empty, .make (Vector.replicate 6 2)⟩

/-- Two fans are configured, the second one is removed, and the flash fails for a third. -/
def fanEvents : List HardwareEvent :=
  [.configureNewLoad .succeeding (fan 4), .configureNewLoad .succeeding (fan 5), .removeLoad .succeeding 5,
    .configureNewLoad ⟨.succeeding, ⟨true, true, false, true⟩⟩ (fan 6)]

/-- A restart with two fans, before their relays are set up. -/
def restartedHardware : NodeHardware :=
  { newHardware with
    store :=
      ([.configureNewLoad .succeeding (fan 4), .configureNewLoad .succeeding (fan 5)].foldl afterEvent newHardware).store }

/-- The relay of the second fan cannot be set up. -/
theorem hardware_stays_in_agreement_fans :
    (fanEvents.foldl afterEvent newHardware).InAgreement ∧
      ((restartedHardware.applyPersistedConfigurations fun relayPin => ⟨relayPin = 4, true⟩).1.relays.relays = [] ∧
        (restartedHardware.applyPersistedConfigurations fun relayPin => ⟨relayPin = 4, true⟩).1.node =
          .make (Vector.replicate 6 2)) := by
  have hnew : newHardware.InAgreement := ⟨.refl _, .refl _, List.nodup_nil, Nat.zero_le _⟩
  have hnext : ∀ before event, EventStep before event (before.afterEvent event) := fun _ _ => rfl
  have hrun := Run.of_foldl hnext fanEvents newHardware
  exact ⟨hardware_stays_in_agreement.1 hnew hrun, hardware_stays_in_agreement.2 _ _ (by decide +kernel)⟩

end Fans

end kilowatts.NodeHardware
