import Kilowatts.Library.FlashBacked
import Kilowatts.NodeManager.HardwareConfigurationPackets
import Kilowatts.NodeManager.Node
import Kilowatts.NodeManager.NodeReportPackets
import Kilowatts.RelayManager.RelayController

namespace kilowatts

namespace LoadConfiguration

/-- The checks of `isValidNewConfiguration` on the configuration alone. -/
def isWellFormed (configuration : LoadConfiguration) : Bool :=
  configuration.name.boundedLength != 0 && configuration.name.boundedLength < 16 && configuration.mode.isDeclared &&
    configuration.powerType.isDeclared && configuration.priority ≤ 10 && configuration.schedule.isValidSchedule

/-- The load that `applyOne` adds. -/
def load (configuration : LoadConfiguration) (macAddress : MacAddress) : Load :=
  let load := Load.make ⟨macAddress, configuration.relayPin⟩ configuration.name.text configuration.powerRatingWatts
    configuration.priority configuration.powerType configuration.mode
  if load.isAuto then (load.setSchedule configuration.schedule).1 else load

/-- The load of a stored configuration, in one record. Needs that its schedule is valid. -/
theorem load_eq {configuration : LoadConfiguration} (hschedule : configuration.schedule.isValidSchedule = true)
    (macAddress : MacAddress) :
    ∃ (rating : Rat) (hnonneg : 0 ≤ rating), configuration.load macAddress =
      { id := ⟨macAddress, configuration.relayPin⟩
        name := configuration.name.text
        lastBestFirstRejectionReason := 0
        powerRatingWatts := rating
        powerRating_nonneg := hnonneg
        powerType := configuration.powerType
        priority := configuration.priority
        mode := configuration.mode
        schedule := if configuration.mode = .AUTO_ON ∨ configuration.mode = .AUTO_OFF then configuration.schedule
          else .none } := by
  obtain ⟨rating, hnonneg, hmake⟩ := Load.make_eq ⟨macAddress, configuration.relayPin⟩ configuration.name.text
    configuration.powerRatingWatts configuration.priority configuration.powerType configuration.mode
  refine ⟨rating, hnonneg, ?_⟩
  rw [load, hmake]
  by_cases hauto : configuration.mode = .AUTO_ON ∨ configuration.mode = .AUTO_OFF
  · simp [Load.isAuto, hauto, Load.setSchedule_eq, hschedule]
  · simp [Load.isAuto, hauto]

@[simp] theorem load_id (configuration : LoadConfiguration) (macAddress : MacAddress) :
    (configuration.load macAddress).id = ⟨macAddress, configuration.relayPin⟩ := by
  rw [load]
  split
  · rw [Load.setSchedule_id, Load.make_id]
  · rw [Load.make_id]

/-- `initialStateOn` of its relay. -/
def initialStateOn (configuration : LoadConfiguration) : Bool :=
  configuration.mode = .FIXED_ON || configuration.mode = .AUTO_ON

/-- The relay of a stored configuration. -/
def relayConfiguration (configuration : LoadConfiguration) : RelayConfiguration :=
  ⟨configuration.relayPin, configuration.relayActiveHigh, configuration.initialStateOn⟩

end LoadConfiguration

/-- The Loads that are wired to one Node. A configuration is only appended if its
pin is free. -/
@[ext]
structure NodeLoadHardwareStore where
  configurations : List LoadConfiguration
  pins_nodup : (configurations.map LoadConfiguration.relayPin).Nodup

namespace NodeLoadHardwareStore

open HardwareConfigurationFailureReason

/-- The store has room for so many loads. -/
def MAX_CONFIGURED_LOADS : Nat := 16

/-- The store after a boot without records. -/
def empty : NodeLoadHardwareStore := ⟨[], List.nodup_nil⟩

/-- The configuration of this pin, if there is one. -/
def findByRelayPin (store : NodeLoadHardwareStore) (relayPin : UInt8) : Option LoadConfiguration :=
  KeyedList.lookup LoadConfiguration.relayPin store.configurations relayPin

/-- `NONE` stands for the result true. -/
def isValidNewConfiguration (store : NodeLoadHardwareStore) (value : LoadConfiguration) :
    HardwareConfigurationFailureReason :=
  if !value.isWellFormed then INVALID_CONFIGURATION
  else if !LoadReportPacket.validPowerRating value.powerRatingWatts then INVALID_POWER_RATING
  else if store.configurations.length ≥ MAX_CONFIGURED_LOADS then CAPACITY_REACHED
  else if (store.findByRelayPin value.relayPin).isSome then DUPLICATE_RELAY_PIN
  else NONE

/-- A configuration is accepted exactly if none of the checks fails. -/
theorem isValidNewConfiguration_eq_none_iff {store : NodeLoadHardwareStore} {value : LoadConfiguration} :
    store.isValidNewConfiguration value = NONE ↔
      value.isWellFormed = true ∧ LoadReportPacket.validPowerRating value.powerRatingWatts = true ∧
        store.configurations.length < MAX_CONFIGURED_LOADS ∧ store.findByRelayPin value.relayPin = none := by
  unfold isValidNewConfiguration
  cases hwellFormed : value.isWellFormed with
  | false => simp
  | true =>
    cases hrating : LoadReportPacket.validPowerRating value.powerRatingWatts with
    | false => simp
    | true =>
      by_cases hroom : store.configurations.length ≥ MAX_CONFIGURED_LOADS
      · simp [hroom]
      · by_cases hpin : store.findByRelayPin value.relayPin = none
        · simp [hroom, hpin, Nat.not_le.mp hroom]
        · simp [hroom, hpin, Option.isSome_iff_ne_none]

/-- `push_back` of a configuration whose pin is free. -/
def push (store : NodeLoadHardwareStore) (value : LoadConfiguration)
    (hnew : store.findByRelayPin value.relayPin = none) : NodeLoadHardwareStore where
  configurations := store.configurations ++ [value]
  pins_nodup := by
    rw [List.map_append, List.map_singleton, ← List.concat_eq_append]
    exact store.pins_nodup.concat (KeyedList.lookup_eq_none_iff.mp hnew)

/-- The store without the configuration of this pin. -/
def erase (store : NodeLoadHardwareStore) (relayPin : UInt8) : NodeLoadHardwareStore where
  configurations := KeyedList.remove LoadConfiguration.relayPin relayPin store.configurations
  pins_nodup := ((KeyedList.remove_sublist _ _).map _).nodup store.pins_nodup

/-- The new configuration is found under its pin only. -/
theorem findByRelayPin_push {store : NodeLoadHardwareStore} {value : LoadConfiguration}
    (hnew : store.findByRelayPin value.relayPin = none) (relayPin : UInt8) :
    (store.push value hnew).findByRelayPin relayPin =
      if relayPin = value.relayPin then some value else store.findByRelayPin relayPin := by
  refine (KeyedList.lookup_append_singleton store.configurations value relayPin).trans ?_
  by_cases hpin : relayPin = value.relayPin
  · subst hpin
    rw [findByRelayPin] at hnew
    simp [hnew]
  · simp [hpin, Ne.symm hpin, findByRelayPin]

/-- The erased pin is free, and the others are as before. -/
theorem findByRelayPin_erase (store : NodeLoadHardwareStore) (erased relayPin : UInt8) :
    (store.erase erased).findByRelayPin relayPin =
      if relayPin = erased then none else store.findByRelayPin relayPin :=
  KeyedList.lookup_remove store.pins_nodup erased relayPin

/-- What `loadPersisted` checks of the records: their number, and each one alone. -/
def isLoadable (store : NodeLoadHardwareStore) : Bool :=
  store.configurations.length ≤ MAX_CONFIGURED_LOADS &&
    store.configurations.all fun value => empty.isValidNewConfiguration value = NONE

/-- What `loadPersisted` accepts. -/
theorem isLoadable_iff {store : NodeLoadHardwareStore} :
    store.isLoadable = true ↔ store.configurations.length ≤ MAX_CONFIGURED_LOADS ∧
      ∀ value ∈ store.configurations,
        value.isWellFormed = true ∧ LoadReportPacket.validPowerRating value.powerRatingWatts = true := by
  have hfresh : ∀ value, empty.isValidNewConfiguration value = NONE ↔
      value.isWellFormed = true ∧ LoadReportPacket.validPowerRating value.powerRatingWatts = true := by
    intro value
    rw [isValidNewConfiguration_eq_none_iff]
    simp [empty, findByRelayPin, KeyedList.lookup, MAX_CONFIGURED_LOADS]
  simp [isLoadable, hfresh]

/-- Memory is only replaced when every record is accepted. -/
def loadPersisted (store : FlashBacked NodeLoadHardwareStore) : FlashBacked NodeLoadHardwareStore × Bool :=
  if store.flash.isLoadable then (store.reload, true) else (store, false)

end NodeLoadHardwareStore

/-- What the functions of `NodeLoadHardwareStore` work on: the store, with its copy
in flash, the relays and the Node. -/
structure NodeHardware where
  store : FlashBacked NodeLoadHardwareStore
  relays : RelayController
  node : Node

/-- The answers of the hardware while a Load is configured. -/
structure ConfigureAnswers where
  gpio : GpioAnswers
  flash : FlashAnswers

/-- Nothing fails. -/
def ConfigureAnswers.succeeding : ConfigureAnswers := ⟨.succeeding, .succeeding⟩

/-- The answers of the hardware while a Load is removed. -/
structure RemoveAnswers where
  written : Bool
  flash : FlashAnswers

/-- Nothing fails. -/
def RemoveAnswers.succeeding : RemoveAnswers := ⟨true, .succeeding⟩

namespace NodeHardware

open HardwareConfigurationFailureReason

/-- A load that was applied is taken out of the node and of the relays. -/
def rollbackOne (value : LoadConfiguration) (hardware : NodeHardware) : NodeHardware :=
  { hardware with
    node := (hardware.node.removeLoadByRelayPin value.relayPin).1
    relays := (hardware.relays.removeRelay value.relayPin).1 }

/-- The relay first, then the load, then its schedule. -/
def applyOne (answers : GpioAnswers) (value : LoadConfiguration) (hardware : NodeHardware) :
    NodeHardware × HardwareConfigurationFailureReason :=
  if hardware.relays.isRelayRegistered value.relayPin ||
      (hardware.node.getLoadByRelayPin value.relayPin).isSome then (hardware, DUPLICATE_RELAY_PIN)
  else
    let (relays, added) := hardware.relays.addRelay value.relayConfiguration answers
    if !added then ({ hardware with relays }, HARDWARE_INITIALIZATION_FAILED)
    else
      let load := Load.make ⟨hardware.node.macAddress, value.relayPin⟩ value.name.text value.powerRatingWatts
        value.priority value.powerType value.mode
      let (node, loadAdded) := hardware.node.addLoad (value.load hardware.node.macAddress)
      if !loadAdded then
        ({ hardware with relays := (relays.removeRelay value.relayPin).1 }, HARDWARE_INITIALIZATION_FAILED)
      else if load.isAuto && !(load.setSchedule value.schedule).2 then
        (rollbackOne value { hardware with relays, node }, INVALID_CONFIGURATION)
      else ({ hardware with relays, node }, NONE)

/-- What was applied is taken back when it cannot be persisted. -/
def configureNewLoad (answers : ConfigureAnswers) (value : LoadConfiguration) (hardware : NodeHardware) :
    NodeHardware × HardwareConfigurationFailureReason :=
  if hvalid : hardware.store.memory.isValidNewConfiguration value = NONE then
    let (applied, reason) := hardware.applyOne answers.gpio value
    if reason ≠ NONE then (applied, reason)
    else
      let pushed := hardware.store.memory.push value
        (NodeLoadHardwareStore.isValidNewConfiguration_eq_none_iff.mp hvalid).2.2.2
      let (store, persisted) := { hardware.store with memory := pushed }.persist answers.flash
      if !persisted then
        (rollbackOne value { applied with store := { store with memory := hardware.store.memory } },
          PERSISTENCE_FAILED)
      else ({ applied with store }, NONE)
  else (hardware, hardware.store.memory.isValidNewConfiguration value)

/-- The configuration is erased once its relay is OFF, and put back when the flash
does not take it. -/
def removeLoad (answers : RemoveAnswers) (relayPin : UInt8) (hardware : NodeHardware) :
    NodeHardware × HardwareConfigurationFailureReason :=
  if (hardware.store.memory.findByRelayPin relayPin).isNone then (hardware, INVALID_CONFIGURATION)
  else
    let (relays, switched) := hardware.relays.setRelayState relayPin false answers.written
    if !switched then ({ hardware with relays }, HARDWARE_INITIALIZATION_FAILED)
    else
      let (store, persisted) :=
        { hardware.store with memory := hardware.store.memory.erase relayPin }.persist answers.flash
      if !persisted then
        ({ hardware with relays, store := { store with memory := hardware.store.memory } }, PERSISTENCE_FAILED)
      else
        ({ store, relays := (relays.removeRelay relayPin).1,
           node := (hardware.node.removeLoadByRelayPin relayPin).1 }, NONE)

/-- A configuration that the store would take has a schedule that its load takes. -/
theorem schedule_taken {value : LoadConfiguration} (hwellFormed : value.isWellFormed = true) (load : Load) :
    (load.isAuto && !(load.setSchedule value.schedule).2) = false := by
  simp only [LoadConfiguration.isWellFormed, Bool.and_eq_true] at hwellFormed
  rw [Load.setSchedule_eq, hwellFormed.2]
  cases load.isAuto <;> rfl

/-- A load is added. Needs that its pin is free. -/
theorem addLoad_snd {hardware : NodeHardware} {value : LoadConfiguration}
    (hfree : hardware.node.getLoadByRelayPin value.relayPin = none) :
    (hardware.node.addLoad (value.load hardware.node.macAddress)).2 = true := by
  have hid := value.load_id hardware.node.macAddress
  have hpin := Node.getLoadByRelayPin_eq_none_iff.mp hfree
  simp only [Node.addLoad, Load.getMacAddress, Load.getRelayPin, hid, dif_pos]
  exact congrArg Prod.snd (dif_neg hpin)

/-- Only the hardware can refuse a well-formed configuration whose pin is free. -/
theorem applyOne_eq {hardware : NodeHardware} {value : LoadConfiguration} (answers : GpioAnswers)
    (hwellFormed : value.isWellFormed = true) :
    hardware.applyOne answers value =
      if hardware.relays.isRelayRegistered value.relayPin ||
        (hardware.node.getLoadByRelayPin value.relayPin).isSome then (hardware, DUPLICATE_RELAY_PIN)
      else if !(answers.configured && answers.written) then
        ({ hardware with relays := (hardware.relays.addRelay value.relayConfiguration answers).1 },
          HARDWARE_INITIALIZATION_FAILED)
      else
        ({ hardware with
            relays := (hardware.relays.addRelay value.relayConfiguration answers).1
            node := (hardware.node.addLoad (value.load hardware.node.macAddress)).1 }, NONE) := by
  unfold applyOne
  split
  · rfl
  rename_i hfree
  simp only [Bool.or_eq_true, not_or, Bool.not_eq_true, Option.isSome_eq_false_iff, Option.isNone_iff_eq_none] at hfree
  have hadded := hardware.relays.addRelay_snd value.relayConfiguration answers
  rw [show value.relayConfiguration.relayPin = value.relayPin from rfl, hfree.1] at hadded
  simp only [hadded, addLoad_snd hfree.2, schedule_taken hwellFormed, Bool.not_false, Bool.true_and, Bool.not_true,
    Bool.false_eq_true, if_false]

/-- The loop of `clearAllConfigurations` that switches every relay OFF. -/
def switchAllOff (written : UInt8 → Bool) : List LoadConfiguration → RelayController → RelayController × Bool
  | [], relays => (relays, true)
  | value :: rest, relays =>
    let (relays, switched) := relays.setRelayState value.relayPin false (written value.relayPin)
    if !switched then (relays, false) else switchAllOff written rest relays

/-- The relays are switched off before anything is erased. -/
def clearAllConfigurations (written : UInt8 → Bool) (flash : FlashAnswers) (hardware : NodeHardware) :
    NodeHardware × HardwareConfigurationFailureReason :=
  let (relays, switched) := switchAllOff written hardware.store.memory.configurations hardware.relays
  if !switched then ({ hardware with relays }, HARDWARE_INITIALIZATION_FAILED)
  else
    let (store, persisted) := { hardware.store with memory := NodeLoadHardwareStore.empty }.persist flash
    if !persisted then
      ({ hardware with relays, store := { store with memory := hardware.store.memory } }, PERSISTENCE_FAILED)
    else
      (hardware.store.memory.configurations.foldl (fun hardware value => rollbackOne value hardware)
        { hardware with relays, store }, NONE)

/-- The loop of `applyPersistedConfigurations`, with the configurations applied so far. -/
def applyAll (answers : UInt8 → GpioAnswers) : List LoadConfiguration → List LoadConfiguration → NodeHardware →
    NodeHardware × HardwareConfigurationFailureReason
  | [], _, hardware => (hardware, NONE)
  | value :: rest, applied, hardware =>
    let (next, reason) := hardware.applyOne (answers value.relayPin) value
    if reason ≠ NONE then (applied.foldl (fun hardware value => rollbackOne value hardware) next, reason)
    else applyAll answers rest (applied ++ [value]) next

/-- The relays and loads of all stored configurations, or of none. -/
def applyPersistedConfigurations (answers : UInt8 → GpioAnswers) (hardware : NodeHardware) :
    NodeHardware × HardwareConfigurationFailureReason :=
  applyAll answers hardware.store.memory.configurations [] hardware

/-- Nothing but the hardware stands against the configuration. -/
structure Configurable (value : LoadConfiguration) (hardware : NodeHardware) : Prop where
  valid : hardware.store.memory.isValidNewConfiguration value = NONE
  unregistered : hardware.relays.isRelayRegistered value.relayPin = false
  free : hardware.node.getLoadByRelayPin value.relayPin = none

/-- What a configuration changes. -/
structure Configured (value : LoadConfiguration) (before after : NodeHardware) : Prop where
  configurations : after.store.memory.configurations = before.store.memory.configurations ++ [value]
  flash : after.store.flash = after.store.memory
  relays : after.relays.relays = before.relays.relays ++ [⟨value.relayConfiguration, true⟩]
  node : after.node = (before.node.addLoad (value.load before.node.macAddress)).1

/-- The configurations in memory, the registered relays and the loads are as before. -/
structure SameLoads (before after : NodeHardware) : Prop where
  memory : after.store.memory = before.store.memory
  relays : after.relays.relays = before.relays.relays
  node : after.node = before.node

/-- The flash holds what memory holds, and a boot accepts it. -/
structure SoundStore (store : FlashBacked NodeLoadHardwareStore) : Prop where
  flash : store.flash = store.memory
  loadable : store.memory.isLoadable = true

section Operations

variable {hardware : NodeHardware} {value : LoadConfiguration} {relayPin : UInt8}

/-- A configuration that can be applied is well formed. -/
theorem Configurable.wellFormed (hconfigurable : hardware.Configurable value) : value.isWellFormed = true :=
  (NodeLoadHardwareStore.isValidNewConfiguration_eq_none_iff.mp hconfigurable.valid).1

/-- Its relay is added. Needs that the driver answers. -/
theorem Configurable.relayAdded {answers : GpioAnswers} (hconfigurable : hardware.Configurable value)
    (hgpio : (answers.configured && answers.written) = true) :
    (hardware.relays.addRelay value.relayConfiguration answers).2 = true := by
  rw [RelayController.addRelay_snd, show value.relayConfiguration.relayPin = value.relayPin from rfl,
    hconfigurable.unregistered, Bool.not_false, Bool.true_and, hgpio]

/-- Every outcome of a new configuration. -/
theorem configureNewLoad_cases (answers : ConfigureAnswers) (hardware : NodeHardware) (value : LoadConfiguration) :
    ((hardware.configureNewLoad answers value).2 = NONE ∧ hardware.Configurable value ∧
        (answers.gpio.configured && answers.gpio.written && answers.flash.succeeds) = true ∧
        Configured value hardware (hardware.configureNewLoad answers value).1) ∨
      ((hardware.configureNewLoad answers value).2 ≠ NONE ∧
        (hardware.Configurable value →
          (answers.gpio.configured && answers.gpio.written && answers.flash.succeeds) = false) ∧
        SameLoads hardware (hardware.configureNewLoad answers value).1 ∧
        (answers.flash.succeeds = true → (hardware.configureNewLoad answers value).1.store = hardware.store)) := by
  by_cases hvalid : hardware.store.memory.isValidNewConfiguration value = NONE
  · have hwellFormed := (NodeLoadHardwareStore.isValidNewConfiguration_eq_none_iff.mp hvalid).1
    unfold configureNewLoad
    rw [dif_pos hvalid, applyOne_eq answers.gpio hwellFormed]
    by_cases htaken : (hardware.relays.isRelayRegistered value.relayPin ||
        (hardware.node.getLoadByRelayPin value.relayPin).isSome) = true
    · refine .inr ?_
      simp only [htaken, if_true]
      refine ⟨by simp, fun hconfigurable => ?_, ⟨rfl, rfl, rfl⟩, fun _ => rfl⟩
      simp [hconfigurable.unregistered, hconfigurable.free] at htaken
    simp only [htaken]
    simp only [Bool.or_eq_true, not_or, Bool.not_eq_true, Option.isSome_eq_false_iff, Option.isNone_iff_eq_none] at htaken
    have hconfigurable : hardware.Configurable value := ⟨hvalid, htaken.1, htaken.2⟩
    cases hgpio : answers.gpio.configured && answers.gpio.written with
    | false =>
      refine .inr ⟨by simp, fun _ => by simp, ⟨rfl, ?_, rfl⟩, fun _ => rfl⟩
      have hrefused : (hardware.relays.addRelay value.relayConfiguration answers.gpio).2 = false := by
        rw [RelayController.addRelay_snd, Bool.and_assoc, hgpio, Bool.and_false]
      simp [RelayController.addRelay_relays, hrefused]
    | true =>
      have hadded := hconfigurable.relayAdded hgpio
      simp only [Bool.not_true, Bool.false_eq_true, if_false, ne_eq, not_true, Bool.true_and]
      cases hsucceeds : answers.flash.succeeds with
      | true =>
        refine .inl ?_
        simp only [FlashBacked.persist, hsucceeds, FlashAnswers.writes_of_succeeds hsucceeds, Bool.not_true,
          Bool.false_eq_true, if_false, if_true]
        refine ⟨trivial, hconfigurable, trivial, rfl, rfl, ?_, rfl⟩
        rw [RelayController.addRelay_relays, hadded, if_pos rfl]
      | false =>
        refine .inr ?_
        simp only [FlashBacked.persist, hsucceeds, Bool.not_false, if_true]
        refine ⟨by simp, fun _ => trivial, ⟨rfl, RelayController.removeRelay_addRelay_relays hadded, ?_⟩, nofun⟩
        have hpin : (value.load hardware.node.macAddress).getRelayPin = value.relayPin := by
          rw [Load.getRelayPin, LoadConfiguration.load_id]
        rw [rollbackOne, ← hpin]
        exact Node.removeLoadByRelayPin_addLoad (addLoad_snd hconfigurable.free)
  · refine .inr ?_
    rw [configureNewLoad, dif_neg hvalid]
    exact ⟨hvalid, fun hconfigurable => absurd hconfigurable.valid hvalid, ⟨rfl, rfl, rfl⟩, fun _ => rfl⟩

/-- The relay of a stored configuration can be switched off. -/
structure Removable (answers : RemoveAnswers) (relayPin : UInt8) (hardware : NodeHardware) : Prop where
  stored : (hardware.store.memory.findByRelayPin relayPin).isSome
  switched : (hardware.relays.isHardwareApplied relayPin && answers.written) = true

/-- What a removal changes. -/
structure Removed (relayPin : UInt8) (before after : NodeHardware) : Prop where
  memory : after.store.memory = before.store.memory.erase relayPin
  flash : after.store.flash = after.store.memory
  relays : after.relays.relays = KeyedList.remove RegisteredRelay.relayPin relayPin before.relays.relays
  node : after.node = (before.node.removeLoadByRelayPin relayPin).1

/-- Every outcome of a removal. The flash may hold the erased configurations although
it refused them. -/
theorem removeLoad_cases (answers : RemoveAnswers) (hardware : NodeHardware) (relayPin : UInt8) :
    ((hardware.removeLoad answers relayPin).2 = NONE ∧ hardware.Removable answers relayPin ∧
        answers.flash.succeeds = true ∧ Removed relayPin hardware (hardware.removeLoad answers relayPin).1) ∨
      ((hardware.removeLoad answers relayPin).2 ≠ NONE ∧
        (hardware.Removable answers relayPin → answers.flash.succeeds = false) ∧
        SameLoads hardware (hardware.removeLoad answers relayPin).1 ∧
        (hardware.removeLoad answers relayPin).1.store.flash =
          if (hardware.store.memory.findByRelayPin relayPin).isSome && hardware.relays.isHardwareApplied relayPin &&
            answers.written && answers.flash.writes then hardware.store.memory.erase relayPin
          else hardware.store.flash) := by
  have hswitched := hardware.relays.setRelayState_snd relayPin false answers.written
  unfold removeLoad
  cases hfind : hardware.store.memory.findByRelayPin relayPin with
  | none =>
    refine .inr ⟨by simp, fun hremovable => ?_, ⟨rfl, rfl, rfl⟩, rfl⟩
    have hstored := hremovable.stored
    rw [hfind] at hstored
    cases hstored
  | some configuration =>
    cases hswitch : hardware.relays.isHardwareApplied relayPin && answers.written with
    | false =>
      rw [hswitch] at hswitched
      simp only [hswitched, Option.isNone_some, Bool.false_eq_true, if_false, Bool.not_false, if_true, Option.isSome_some,
        Bool.true_and, hswitch, Bool.false_and]
      refine .inr ⟨by simp, fun hremovable => ?_, ⟨rfl, hardware.relays.setRelayState_relays _ _ _, rfl⟩, trivial⟩
      rw [hremovable.switched] at hswitch
      cases hswitch
    | true =>
      rw [hswitch] at hswitched
      simp only [hswitched, Option.isNone_some, Bool.false_eq_true, if_false, Bool.not_true, Option.isSome_some,
        Bool.true_and, hswitch]
      have hremovable : hardware.Removable answers relayPin := ⟨Option.isSome_of_eq_some hfind, hswitch⟩
      cases hsucceeds : answers.flash.succeeds with
      | true =>
        simp only [FlashBacked.persist, hsucceeds, FlashAnswers.writes_of_succeeds hsucceeds, Bool.not_true,
          Bool.false_eq_true, if_false, if_true]
        refine .inl ⟨trivial, hremovable, trivial, rfl, rfl, ?_, rfl⟩
        rw [RelayController.removeRelay_relays, RelayController.setRelayState_relays]
      | false =>
        simp only [FlashBacked.persist, hsucceeds, Bool.not_false, if_true]
        refine .inr ⟨by simp, fun _ => trivial, ⟨rfl, hardware.relays.setRelayState_relays _ _ _, rfl⟩, trivial⟩

/-- The store stays loadable. -/
theorem Configured.isLoadable {before after : NodeHardware} (hconfigured : Configured value before after)
    (hconfigurable : before.Configurable value) (hloadable : before.store.memory.isLoadable = true) :
    after.store.memory.isLoadable = true := by
  obtain ⟨hwellFormed, hrating, hroom, -⟩ :=
    NodeLoadHardwareStore.isValidNewConfiguration_eq_none_iff.mp hconfigurable.valid
  obtain ⟨-, hvalid⟩ := NodeLoadHardwareStore.isLoadable_iff.mp hloadable
  rw [NodeLoadHardwareStore.isLoadable_iff, hconfigured.configurations]
  refine ⟨?_, fun other hother => ?_⟩
  · rw [List.length_append, List.length_singleton]
    omega
  · obtain hold | hnew := List.mem_append.mp hother
    · exact hvalid other hold
    · rw [List.mem_singleton.mp hnew]
      exact ⟨hwellFormed, hrating⟩

/-- The store stays loadable. -/
theorem Removed.isLoadable {before after : NodeHardware} (hremoved : Removed relayPin before after)
    (hloadable : before.store.memory.isLoadable = true) : after.store.memory.isLoadable = true := by
  obtain ⟨hlength, hvalid⟩ := NodeLoadHardwareStore.isLoadable_iff.mp hloadable
  have hsub : (before.store.memory.erase relayPin).configurations.Sublist before.store.memory.configurations :=
    KeyedList.remove_sublist relayPin _
  rw [hremoved.memory, NodeLoadHardwareStore.isLoadable_iff]
  exact ⟨hsub.length_le.trans hlength, fun other hother => hvalid other (hsub.mem hother)⟩

/-- A configuration keeps the store sound. Needs that nothing stood against it. -/
theorem SoundStore.of_configured {before after : NodeHardware} (hsound : SoundStore before.store)
    (hconfigurable : before.Configurable value) (hconfigured : Configured value before after) :
    SoundStore after.store :=
  ⟨hconfigured.flash, hconfigured.isLoadable hconfigurable hsound.loadable⟩

/-- A removal keeps the store sound. -/
theorem SoundStore.of_removed {before after : NodeHardware} (hsound : SoundStore before.store)
    (hremoved : Removed relayPin before after) : SoundStore after.store :=
  ⟨hremoved.flash, hremoved.isLoadable hsound.loadable⟩

/-- A store that a boot accepts is what the boot finds. -/
theorem SoundStore.loadPersisted {store : FlashBacked NodeLoadHardwareStore} (hsound : SoundStore store) :
    NodeLoadHardwareStore.loadPersisted ⟨.empty, store.flash⟩ = (store, true) := by
  refine (if_pos ?_).trans (Prod.ext (FlashBacked.ext hsound.flash rfl) rfl)
  exact hsound.flash ▸ hsound.loadable

/-- A well-formed configuration is applied if its pin is free and its hardware answers. -/
theorem applyOne_of_free {answers : GpioAnswers} (hanswers : (answers.configured && answers.written) = true)
    (hwellFormed : value.isWellFormed = true) (hrelay : hardware.relays.findRelay value.relayPin = none)
    (hload : hardware.node.getLoadByRelayPin value.relayPin = none) :
    ∃ after, hardware.applyOne answers value = (after, NONE) ∧ after.store = hardware.store ∧
      after.node.macAddress = hardware.node.macAddress ∧
      (∀ relayPin, after.relays.DrivenOn relayPin ↔
        hardware.relays.DrivenOn relayPin ∨ (value.relayPin = relayPin ∧ value.initialStateOn = true)) ∧
      (∀ relayPin, after.relays.findRelay relayPin =
        if relayPin = value.relayPin then some ⟨value.relayConfiguration, true⟩
        else hardware.relays.findRelay relayPin) ∧
      ∀ relayPin, after.node.getLoadByRelayPin relayPin =
        if relayPin = value.relayPin then some (value.load hardware.node.macAddress)
        else hardware.node.getLoadByRelayPin relayPin := by
  have hunregistered : hardware.relays.isRelayRegistered value.relayPin = false := by
    rw [RelayController.isRelayRegistered, hrelay]
    rfl
  have hadded : (hardware.relays.addRelay value.relayConfiguration answers).2 = true := by
    rw [RelayController.addRelay_snd, show value.relayConfiguration.relayPin = value.relayPin from rfl, hunregistered,
      Bool.not_false, Bool.true_and, hanswers]
  have hid := value.load_id hardware.node.macAddress
  have hmac : (value.load hardware.node.macAddress).getMacAddress = hardware.node.macAddress := by
    rw [Load.getMacAddress, hid]
  have hpin : (value.load hardware.node.macAddress).getRelayPin = value.relayPin := by rw [Load.getRelayPin, hid]
  let after : NodeHardware := { hardware with
    relays := (hardware.relays.addRelay value.relayConfiguration answers).1
    node := (hardware.node.addLoad (value.load hardware.node.macAddress)).1 }
  refine ⟨after, ?_, rfl, Node.addLoad_macAddress _ _, fun relayPin => ?_, fun relayPin => ?_, fun relayPin => ?_⟩
  · rw [applyOne_eq answers hwellFormed, hunregistered, hload, hanswers]
    rfl
  · refine (hardware.relays.addRelay_drivenOn value.relayConfiguration answers relayPin).trans (or_congr_right ?_)
    exact and_iff_right hunregistered
  · rw [RelayController.findRelay_addRelay hadded]
    by_cases hsame : relayPin = value.relayPin
    · subst hsame
      rw [hrelay, if_pos rfl, Option.none_or]
      exact if_pos rfl
    · rw [if_neg hsame, show value.relayConfiguration.relayPin = value.relayPin from rfl, if_neg (Ne.symm hsame),
        Option.or_none]
  · rw [Node.addLoad_getLoadByRelayPin hmac (hpin ▸ hload), hpin]

/-- Well-formed configurations of free pins are all applied if the hardware answers. -/
theorem applyAll_of_free {answers : UInt8 → GpioAnswers}
    (hanswers : ∀ relayPin, ((answers relayPin).configured && (answers relayPin).written) = true)
    (values : List LoadConfiguration) (applied : List LoadConfiguration) (hardware : NodeHardware)
    (hwellFormed : ∀ value ∈ values, value.isWellFormed = true)
    (hnodup : (values.map LoadConfiguration.relayPin).Nodup)
    (hfree : ∀ value ∈ values, hardware.relays.findRelay value.relayPin = none ∧
      hardware.node.getLoadByRelayPin value.relayPin = none) :
    (applyAll answers values applied hardware).2 = NONE ∧
      (applyAll answers values applied hardware).1.store = hardware.store ∧
      (∀ relayPin, (applyAll answers values applied hardware).1.relays.DrivenOn relayPin ↔
        hardware.relays.DrivenOn relayPin ∨
          ∃ value ∈ values, value.relayPin = relayPin ∧ value.initialStateOn = true) ∧
      ∀ relayPin, (applyAll answers values applied hardware).1.relays.findRelay relayPin =
          ((KeyedList.lookup LoadConfiguration.relayPin values relayPin).map fun value =>
            (⟨value.relayConfiguration, true⟩ : RegisteredRelay)).or (hardware.relays.findRelay relayPin) ∧
        (applyAll answers values applied hardware).1.node.getLoadByRelayPin relayPin =
          ((KeyedList.lookup LoadConfiguration.relayPin values relayPin).map fun value =>
            value.load hardware.node.macAddress).or (hardware.node.getLoadByRelayPin relayPin) := by
  induction values generalizing applied hardware with
  | nil => exact ⟨rfl, rfl, fun relayPin => by simp [applyAll], fun relayPin => ⟨rfl, rfl⟩⟩
  | cons value rest ih =>
    obtain ⟨hrelay, hload⟩ := hfree value List.mem_cons_self
    obtain ⟨next, hnext, hstore, hmac, hdriven, hrelays, hloads⟩ :=
      applyOne_of_free (hanswers value.relayPin) (hwellFormed value List.mem_cons_self) hrelay hload
    have hother : ∀ other ∈ rest, other.relayPin ≠ value.relayPin := fun other hother =>
      KeyedList.key_ne_of_nodup_cons hnodup hother
    have hrest := ih (applied ++ [value]) next (fun other hmem => hwellFormed other (List.mem_cons_of_mem _ hmem))
      (List.nodup_cons.mp hnodup).2 fun other hmem => by
        rw [hrelays, hloads, if_neg (hother other hmem), if_neg (hother other hmem)]
        exact hfree other (List.mem_cons_of_mem _ hmem)
    rw [applyAll, hnext]
    simp only [ne_eq, not_true, if_false]
    refine ⟨hrest.1, hrest.2.1.trans hstore, fun relayPin => ?_, fun relayPin => ?_⟩
    · rw [hrest.2.2.1, hdriven, List.exists_mem_cons_iff, or_assoc]
    obtain ⟨hafterRelay, hafterLoad⟩ := hrest.2.2.2 relayPin
    rw [hafterRelay, hafterLoad, hrelays, hloads, hmac]
    by_cases hpin : value.relayPin = relayPin
    · subst hpin
      have hnone : KeyedList.lookup LoadConfiguration.relayPin rest value.relayPin = none := by
        rw [KeyedList.lookup_eq_none_iff]
        exact (List.nodup_cons.mp hnodup).1
      rw [hnone]
      simp [KeyedList.lookup]
    · simp [KeyedList.lookup, hpin, Ne.symm hpin]

/-- Switching off keeps the registered relays. -/
theorem switchAllOff_relays (written : UInt8 → Bool) (values : List LoadConfiguration) (relays : RelayController) :
    (switchAllOff written values relays).1.relays = relays.relays := by
  induction values generalizing relays with
  | nil => rfl
  | cons value rest ih =>
    rw [switchAllOff]
    dsimp only
    split
    · exact relays.setRelayState_relays _ _ _
    · exact (ih _).trans (relays.setRelayState_relays _ _ _)

/-- All relays can be switched off exactly if each of them can. -/
theorem switchAllOff_snd (written : UInt8 → Bool) (values : List LoadConfiguration) (relays : RelayController) :
    (switchAllOff written values relays).2 =
      values.all fun value => relays.isHardwareApplied value.relayPin && written value.relayPin := by
  induction values generalizing relays with
  | nil => rfl
  | cons value rest ih =>
    have hswitched := relays.setRelayState_snd value.relayPin false (written value.relayPin)
    have happlied : ∀ relayPin, (relays.setRelayState value.relayPin false (written value.relayPin)).1.isHardwareApplied
        relayPin = relays.isHardwareApplied relayPin := by
      intro relayPin
      simp only [RelayController.isHardwareApplied, RelayController.findRelay, RelayController.setRelayState_relays]
    rw [switchAllOff, List.all_cons]
    dsimp only
    rw [hswitched]
    cases hvalue : relays.isHardwareApplied value.relayPin && written value.relayPin with
    | false => rfl
    | true =>
      rw [Bool.not_true, if_neg (by simp), Bool.true_and, ih]
      simp only [happlied]

/-- Rolling back removes the relay and the load of each configuration. -/
theorem foldl_rollbackOne (values : List LoadConfiguration) (hardware : NodeHardware) (relayPin : UInt8) :
    (values.foldl (fun hardware value => rollbackOne value hardware) hardware).store = hardware.store ∧
      (values.foldl (fun hardware value => rollbackOne value hardware) hardware).relays.findRelay relayPin =
        (if relayPin ∈ values.map LoadConfiguration.relayPin then none else hardware.relays.findRelay relayPin) ∧
      (values.foldl (fun hardware value => rollbackOne value hardware) hardware).node.getLoadByRelayPin relayPin =
        (if relayPin ∈ values.map LoadConfiguration.relayPin then none
          else hardware.node.getLoadByRelayPin relayPin) := by
  induction values generalizing hardware with
  | nil => simp
  | cons value rest ih =>
    obtain ⟨hstore, hrelay, hload⟩ := ih (rollbackOne value hardware)
    rw [List.foldl_cons]
    refine ⟨hstore, hrelay.trans ?_, hload.trans ?_⟩
    · rw [rollbackOne, RelayController.findRelay_removeRelay]
      by_cases hpin : relayPin = value.relayPin
      · simp [hpin]
      · simp [hpin]
    · rw [rollbackOne, Node.removeLoadByRelayPin_getLoadByRelayPin]
      by_cases hpin : relayPin = value.relayPin
      · simp [hpin]
      · simp [hpin]

theorem rollbackOne_drivenOn (value : LoadConfiguration) (hardware : NodeHardware) (relayPin : UInt8) :
    (rollbackOne value hardware).relays.DrivenOn relayPin ↔ hardware.relays.DrivenOn relayPin :=
  hardware.relays.removeRelay_drivenOn value.relayPin relayPin

theorem foldl_rollbackOne_drivenOn (values : List LoadConfiguration) (hardware : NodeHardware) (relayPin : UInt8) :
    (values.foldl (fun hardware value => rollbackOne value hardware) hardware).relays.DrivenOn relayPin ↔
      hardware.relays.DrivenOn relayPin := by
  induction values generalizing hardware with
  | nil => rfl
  | cons value rest ih => rw [List.foldl_cons, ih, rollbackOne_drivenOn]

/-- Applying changes the relays and the loads only. -/
theorem applyOne_store (answers : GpioAnswers) (value : LoadConfiguration) (hardware : NodeHardware) :
    (hardware.applyOne answers value).1.store = hardware.store := by
  unfold applyOne
  split
  · rfl
  dsimp only
  split
  · rfl
  split
  · rfl
  split
  · rfl
  · rfl

/-- Applying the configurations does not change the store. -/
theorem applyAll_store (answers : UInt8 → GpioAnswers) (values applied : List LoadConfiguration)
    (hardware : NodeHardware) : (applyAll answers values applied hardware).1.store = hardware.store := by
  induction values generalizing applied hardware with
  | nil => rfl
  | cons value rest ih =>
    rw [applyAll]
    dsimp only
    split
    · rw [(foldl_rollbackOne applied _ 0).1, applyOne_store]
    · rw [ih, applyOne_store]

/-- The Node only gets the load of the configuration. -/
theorem applyOne_node (answers : GpioAnswers) (value : LoadConfiguration) (hardware : NodeHardware) :
    (hardware.applyOne answers value).1.node.macAddress = hardware.node.macAddress ∧
      ∀ load ∈ (hardware.applyOne answers value).1.node.loads,
        load ∈ hardware.node.loads ∨ load = value.load hardware.node.macAddress := by
  unfold applyOne
  split
  · exact ⟨rfl, fun load hload => .inl hload⟩
  dsimp only
  split
  · exact ⟨rfl, fun load hload => .inl hload⟩
  split
  · exact ⟨rfl, fun load hload => .inl hload⟩
  split
  · exact ⟨Node.addLoad_macAddress _ _, fun load hload => Node.mem_addLoad_loads ((KeyedList.remove_sublist _ _).mem hload)⟩
  · exact ⟨Node.addLoad_macAddress _ _, fun load hload => Node.mem_addLoad_loads hload⟩

theorem foldl_rollbackOne_node (values : List LoadConfiguration) (hardware : NodeHardware) :
    (values.foldl (fun hardware value => rollbackOne value hardware) hardware).node.macAddress =
        hardware.node.macAddress ∧
      ∀ load ∈ (values.foldl (fun hardware value => rollbackOne value hardware) hardware).node.loads,
        load ∈ hardware.node.loads := by
  induction values generalizing hardware with
  | nil => exact ⟨rfl, fun load hload => hload⟩
  | cons value rest ih =>
    obtain ⟨hmac, hloads⟩ := ih (rollbackOne value hardware)
    exact ⟨hmac, fun load hload => (KeyedList.remove_sublist _ _).mem (hloads load hload)⟩

/-- The Node only gets loads of the configurations. -/
theorem applyAll_node (answers : UInt8 → GpioAnswers) (values applied : List LoadConfiguration)
    (hardware : NodeHardware) :
    (applyAll answers values applied hardware).1.node.macAddress = hardware.node.macAddress ∧
      ∀ load ∈ (applyAll answers values applied hardware).1.node.loads,
        load ∈ hardware.node.loads ∨ ∃ value ∈ values, load = value.load hardware.node.macAddress := by
  induction values generalizing applied hardware with
  | nil => exact ⟨rfl, fun load hload => .inl hload⟩
  | cons value rest ih =>
    obtain ⟨hmac, hloads⟩ := applyOne_node (answers value.relayPin) value hardware
    rw [applyAll]
    dsimp only
    split
    · obtain ⟨hrolledMac, hrolled⟩ := foldl_rollbackOne_node applied (hardware.applyOne (answers value.relayPin) value).1
      refine ⟨hrolledMac.trans hmac, fun load hload => ?_⟩
      exact (hloads load (hrolled load hload)).imp_right fun hsame => ⟨value, List.mem_cons_self, hsame⟩
    · obtain ⟨hrestMac, hrest⟩ := ih (applied ++ [value]) (hardware.applyOne (answers value.relayPin) value).1
      refine ⟨hrestMac.trans hmac, fun load hload => ?_⟩
      obtain hold | ⟨other, hother, hsame⟩ := hrest load hload
      · exact (hloads load hold).imp_right fun hsame => ⟨value, List.mem_cons_self, hsame⟩
      · exact .inr ⟨other, List.mem_cons_of_mem _ hother, hmac ▸ hsame⟩

/-- Whatever the hardware answers, a pin is driven ON for the configuration only. -/
theorem applyOne_drivenOn {answers : GpioAnswers} (hwellFormed : value.isWellFormed = true)
    (hdriven : (hardware.applyOne answers value).1.relays.DrivenOn relayPin) :
    hardware.relays.DrivenOn relayPin ∨ (value.relayPin = relayPin ∧ value.initialStateOn = true) := by
  have hadded := hardware.relays.addRelay_drivenOn value.relayConfiguration answers relayPin
  rw [applyOne_eq answers hwellFormed] at hdriven
  split at hdriven
  · exact .inl hdriven
  · split at hdriven
    · exact (hadded.mp hdriven).imp_right And.right
    · exact (hadded.mp hdriven).imp_right And.right

/-- Whatever the hardware answers, a pin is driven ON for one of the configurations. -/
theorem applyAll_drivenOn {answers : UInt8 → GpioAnswers} (values applied : List LoadConfiguration)
    (hardware : NodeHardware) (hwellFormed : ∀ value ∈ values, value.isWellFormed = true)
    (hdriven : (applyAll answers values applied hardware).1.relays.DrivenOn relayPin) :
    hardware.relays.DrivenOn relayPin ∨ ∃ value ∈ values, value.relayPin = relayPin ∧ value.initialStateOn = true := by
  induction values generalizing applied hardware with
  | nil => exact .inl hdriven
  | cons value rest ih =>
    rw [List.exists_mem_cons_iff, ← or_assoc]
    have hfirst : (hardware.applyOne (answers value.relayPin) value).1.relays.DrivenOn relayPin →
        hardware.relays.DrivenOn relayPin ∨ (value.relayPin = relayPin ∧ value.initialStateOn = true) :=
      applyOne_drivenOn (hwellFormed value List.mem_cons_self)
    rw [applyAll] at hdriven
    dsimp only at hdriven
    split at hdriven
    · exact .inl (hfirst ((foldl_rollbackOne_drivenOn _ _ _).mp hdriven))
    · have hrest := ih (applied ++ [value]) _ (fun other hother => hwellFormed other (List.mem_cons_of_mem _ hother))
        hdriven
      exact hrest.imp_left hfirst

end Operations

section Lookups

variable {before after : NodeHardware} {value : LoadConfiguration} {relayPin : UInt8}

/-- The new pin is configured, and the others are as before. -/
theorem Configured.findByRelayPin (hconfigured : Configured value before after)
    (hconfigurable : before.Configurable value) (other : UInt8) :
    after.store.memory.findByRelayPin other =
      if other = value.relayPin then some value else before.store.memory.findByRelayPin other := by
  have hfree := (NodeLoadHardwareStore.isValidNewConfiguration_eq_none_iff.mp hconfigurable.valid).2.2.2
  have hmemory : after.store.memory = before.store.memory.push value hfree :=
    NodeLoadHardwareStore.ext hconfigured.configurations
  rw [hmemory, NodeLoadHardwareStore.findByRelayPin_push]

/-- The new pin has its relay, and the others are as before. -/
theorem Configured.findRelay (hconfigured : Configured value before after) (hconfigurable : before.Configurable value)
    (other : UInt8) :
    after.relays.findRelay other =
      if other = value.relayPin then some ⟨value.relayConfiguration, true⟩ else before.relays.findRelay other := by
  rw [RelayController.findRelay, hconfigured.relays, KeyedList.lookup_append_singleton]
  change (before.relays.findRelay other).or (if value.relayPin = other then _ else _) = _
  by_cases hother : other = value.relayPin
  · subst hother
    have hunregistered := hconfigurable.unregistered
    rw [RelayController.isRelayRegistered, Option.isSome_eq_false_iff, Option.isNone_iff_eq_none] at hunregistered
    simp [hunregistered]
  · simp [hother, Ne.symm hother]

/-- The new pin has its load, and the others are as before. -/
theorem Configured.getLoadByRelayPin (hconfigured : Configured value before after)
    (hconfigurable : before.Configurable value) (other : UInt8) :
    after.node.getLoadByRelayPin other =
      if other = value.relayPin then some (value.load before.node.macAddress)
      else before.node.getLoadByRelayPin other := by
  have hid := value.load_id before.node.macAddress
  have hpin : (value.load before.node.macAddress).getRelayPin = value.relayPin := by rw [Load.getRelayPin, hid]
  have hmac : (value.load before.node.macAddress).getMacAddress = before.node.macAddress := by
    rw [Load.getMacAddress, hid]
  rw [hconfigured.node, Node.addLoad_getLoadByRelayPin hmac (hpin ▸ hconfigurable.free), hpin]

/-- The pin is free, and the others are as before. -/
theorem Removed.findByRelayPin (hremoved : Removed relayPin before after) (other : UInt8) :
    after.store.memory.findByRelayPin other =
      if other = relayPin then none else before.store.memory.findByRelayPin other := by
  rw [hremoved.memory, NodeLoadHardwareStore.findByRelayPin_erase]

/-- The pin has no relay, and the others are as before. -/
theorem Removed.findRelay (hremoved : Removed relayPin before after) (other : UInt8) :
    after.relays.findRelay other = if other = relayPin then none else before.relays.findRelay other := by
  rw [RelayController.findRelay, hremoved.relays]
  exact KeyedList.lookup_remove before.relays.pins_nodup relayPin other

/-- The pin has no load, and the others are as before. -/
theorem Removed.getLoadByRelayPin (hremoved : Removed relayPin before after) (other : UInt8) :
    after.node.getLoadByRelayPin other =
      if other = relayPin then none else before.node.getLoadByRelayPin other := by
  rw [hremoved.node, Node.removeLoadByRelayPin_getLoadByRelayPin]

end Lookups

end NodeHardware

end kilowatts
