import Kilowatts.Library.Run
import Kilowatts.NodeManager.HardwareAgreement
import Kilowatts.NodeManager.NodeIdentityStore
import Kilowatts.Smart.ConsoleUpdate

namespace kilowatts

namespace Boot

open NodeHardware HardwareConfigurationFailureReason

/-- A Smart Node whose identity is persisted at once. -/
structure SmartRuntime where
  hardware : NodeHardware
  identityStore : NodeIdentityStore

/-- What happens at a Smart Node, whose GPIO and flash answer without an error. A Load
is configured or removed on its console, or by Central if the Node is commissioned. -/
inductive SmartEvent where
  | configureLoad (value : LoadConfiguration)
  | removeLoad (relayPin : UInt8)
  | updateLoad (request : SmartLoadUpdateRequest)
  | commission (friendlyName : List UInt8)
  | decommission (nodeTaken identityTaken : Bool)
  | reboot
deriving DecidableEq

namespace SmartRuntime

/-- The loads are cleared first, and the identity only if they were. -/
def handleDecommissionCommand (nodeTaken identityTaken : Bool) (runtime : SmartRuntime) : SmartRuntime :=
  if !nodeTaken then runtime
  else
    let (hardware, reason) := runtime.hardware.clearAllConfigurations (fun _ => true) .succeeding
    if reason ≠ NONE ∨ identityTaken = false then { runtime with hardware }
    else { hardware, identityStore := .applyDecommission }

/-- `SmartApplication::runApp`: the persisted loads are only applied to a
commissioned Node. -/
def runApp (runtime : SmartRuntime) : SmartRuntime :=
  let identityStore := NodeIdentityStore.loadPersisted runtime.identityStore
  let (store, loaded) := NodeLoadHardwareStore.loadPersisted ⟨.empty, runtime.hardware.store.flash⟩
  let hardware : NodeHardware := ⟨store, .empty, .make runtime.hardware.node.macAddress⟩
  if loaded && identityStore.isCommissioned then
    { hardware := (hardware.applyPersistedConfigurations fun _ => .succeeding).1, identityStore }
  else { hardware, identityStore }

def step (runtime : SmartRuntime) : SmartEvent → SmartRuntime
  | .configureLoad value =>
    { runtime with hardware := (runtime.hardware.configureNewLoad .succeeding value).1 }
  | .removeLoad relayPin =>
    { runtime with hardware := (runtime.hardware.removeLoad .succeeding relayPin).1 }
  | .updateLoad request =>
    { runtime with
      hardware := (runtime.hardware.consoleSmartUpdateLoad true .succeeding .succeeding request).1 }
  | .commission friendlyName =>
    { runtime with identityStore := (runtime.identityStore.applyCommission friendlyName).1 }
  | .decommission nodeTaken identityTaken => runtime.handleDecommissionCommand nodeTaken identityTaken
  | .reboot => runtime.runApp

end SmartRuntime

/-- The stored pins, the registered relays and the pins of the loads are the same, and
each of these relays can be switched. -/
structure LoadsUsable (hardware : NodeHardware) : Prop where
  registered : ∀ relayPin, hardware.relays.isRelayRegistered relayPin =
    (hardware.store.memory.findByRelayPin relayPin).isSome
  switchable : ∀ relayPin, hardware.relays.isHardwareApplied relayPin =
    (hardware.store.memory.findByRelayPin relayPin).isSome
  present : ∀ relayPin, (hardware.node.getLoadByRelayPin relayPin).isSome =
    (hardware.store.memory.findByRelayPin relayPin).isSome

structure Sound (runtime : SmartRuntime) : Prop where
  store : SoundStore runtime.hardware.store
  identity : runtime.identityStore.isLoadable = true

/-- A reboot finds the Node commissioned, or without stored loads. -/
def BootsApplied (runtime : SmartRuntime) (event : SmartEvent) : Prop :=
  event = .reboot → runtime.identityStore.isCommissioned = true ∨
    runtime.hardware.store.memory.configurations = []

section Hardware

variable {before after : NodeHardware} {value : LoadConfiguration} {relayPin : UInt8}

theorem LoadsUsable.of_sameLoads (husable : LoadsUsable before) (hsame : SameLoads before after) :
    LoadsUsable after := by
  have hrelay : ∀ relayPin, after.relays.findRelay relayPin = before.relays.findRelay relayPin := by
    intro relayPin
    rw [RelayController.findRelay, hsame.relays]
    rfl
  refine ⟨fun relayPin => ?_, fun relayPin => ?_, fun relayPin => ?_⟩
  · rw [RelayController.isRelayRegistered, hrelay, hsame.memory]
    exact husable.registered relayPin
  · rw [RelayController.isHardwareApplied, hrelay, hsame.memory]
    exact husable.switchable relayPin
  · rw [hsame.node, hsame.memory]
    exact husable.present relayPin

theorem LoadsUsable.of_configured (husable : LoadsUsable before) (hconfigurable : before.Configurable value)
    (hconfigured : Configured value before after) : LoadsUsable after := by
  refine ⟨fun other => ?_, fun other => ?_, fun other => ?_⟩
  · rw [RelayController.isRelayRegistered, hconfigured.findRelay hconfigurable,
      hconfigured.findByRelayPin hconfigurable]
    split
    · rfl
    · exact husable.registered other
  · rw [RelayController.isHardwareApplied, hconfigured.findRelay hconfigurable,
      hconfigured.findByRelayPin hconfigurable]
    split
    · rfl
    · exact husable.switchable other
  · rw [hconfigured.getLoadByRelayPin hconfigurable, hconfigured.findByRelayPin hconfigurable]
    split
    · rfl
    · exact husable.present other

theorem LoadsUsable.of_removed (husable : LoadsUsable before) (hremoved : Removed relayPin before after) :
    LoadsUsable after := by
  refine ⟨fun other => ?_, fun other => ?_, fun other => ?_⟩
  · rw [RelayController.isRelayRegistered, hremoved.findRelay, hremoved.findByRelayPin]
    split
    · rfl
    · exact husable.registered other
  · rw [RelayController.isHardwareApplied, hremoved.findRelay, hremoved.findByRelayPin]
    split
    · rfl
    · exact husable.switchable other
  · rw [hremoved.getLoadByRelayPin, hremoved.findByRelayPin]
    split
    · rfl
    · exact husable.present other

theorem LoadsUsable.configureNewLoad (husable : LoadsUsable before) (value : LoadConfiguration) :
    LoadsUsable (before.configureNewLoad .succeeding value).1 := by
  obtain ⟨-, hconfigurable, -, hconfigured⟩ | ⟨-, -, hsame, -⟩ := configureNewLoad_cases .succeeding before value
  · exact husable.of_configured hconfigurable hconfigured
  · exact husable.of_sameLoads hsame

theorem LoadsUsable.removeLoad (husable : LoadsUsable before) (relayPin : UInt8) :
    LoadsUsable (before.removeLoad .succeeding relayPin).1 := by
  obtain ⟨-, -, -, hremoved⟩ | ⟨-, -, hsame, -⟩ := removeLoad_cases .succeeding before relayPin
  · exact husable.of_removed hremoved
  · exact husable.of_sameLoads hsame

theorem soundStore_configureNewLoad (hsound : SoundStore before.store) (value : LoadConfiguration) :
    SoundStore (before.configureNewLoad .succeeding value).1.store := by
  obtain ⟨-, hconfigurable, -, hconfigured⟩ | ⟨-, -, -, hsame⟩ := configureNewLoad_cases .succeeding before value
  · exact hsound.of_configured hconfigurable hconfigured
  · rw [hsame rfl]
    exact hsound

theorem soundStore_removeLoad (hsound : SoundStore before.store) (relayPin : UInt8) :
    SoundStore (before.removeLoad .succeeding relayPin).1.store := by
  obtain ⟨-, -, -, hremoved⟩ | ⟨-, hrefused, hsame, hflash⟩ := removeLoad_cases .succeeding before relayPin
  · exact hsound.of_removed hremoved
  · refine ⟨?_, hsame.memory ▸ hsound.loadable⟩
    rw [hsame.memory, hflash]
    split
    · rename_i hwritten
      simp only [Bool.and_eq_true] at hwritten
      obtain ⟨⟨⟨hstored, happlied⟩, hwrite⟩, -⟩ := hwritten
      have hfails := hrefused ⟨hstored, by rw [happlied, hwrite]; rfl⟩
      cases hfails
    · exact hsound.flash

theorem LoadsUsable.updateLoad (husable : LoadsUsable before) (request : SmartLoadUpdateRequest) :
    LoadsUsable (before.consoleSmartUpdateLoad true .succeeding .succeeding request).1 := by
  unfold consoleSmartUpdateLoad
  rw [Bool.not_true, if_neg (by simp)]
  split
  · exact husable
  · exact (husable.removeLoad request.relayPin).configureNewLoad _

theorem soundStore_updateLoad (hsound : SoundStore before.store) (request : SmartLoadUpdateRequest) :
    SoundStore (before.consoleSmartUpdateLoad true .succeeding .succeeding request).1.store := by
  unfold consoleSmartUpdateLoad
  rw [Bool.not_true, if_neg (by simp)]
  split
  · exact hsound
  · exact soundStore_configureNewLoad (soundStore_removeLoad hsound request.relayPin) _

/-- Without stored loads, nothing else may be registered or present. -/
theorem loadsUsable_iff_of_empty (hempty : after.store.memory.configurations = []) :
    LoadsUsable after ↔
      ∀ relayPin, after.relays.findRelay relayPin = none ∧ after.node.getLoadByRelayPin relayPin = none := by
  have hfind : ∀ relayPin, after.store.memory.findByRelayPin relayPin = none := by
    intro relayPin
    rw [NodeLoadHardwareStore.findByRelayPin, hempty]
    rfl
  constructor
  · intro husable relayPin
    have hregistered := husable.registered relayPin
    have hpresent := husable.present relayPin
    rw [hfind, Option.isSome_none] at hregistered hpresent
    exact ⟨by simpa [RelayController.isRelayRegistered] using hregistered, by simpa using hpresent⟩
  · intro hnone
    refine ⟨fun relayPin => ?_, fun relayPin => ?_, fun relayPin => ?_⟩
    · rw [RelayController.isRelayRegistered, (hnone relayPin).1, hfind]
      rfl
    · rw [RelayController.isHardwareApplied, (hnone relayPin).1, hfind]
      rfl
    · rw [(hnone relayPin).2, hfind]
      rfl

/-- Usable loads are all cleared. -/
theorem LoadsUsable.clearAllConfigurations (husable : LoadsUsable before) :
    (before.clearAllConfigurations (fun _ => true) .succeeding).2 = NONE ∧
      (before.clearAllConfigurations (fun _ => true) .succeeding).1.store = ⟨.empty, .empty⟩ ∧
      LoadsUsable (before.clearAllConfigurations (fun _ => true) .succeeding).1 := by
  have hfound : ∀ value ∈ before.store.memory.configurations,
      (before.store.memory.findByRelayPin value.relayPin).isSome := by
    intro value hvalue
    rw [NodeLoadHardwareStore.findByRelayPin,
      (KeyedList.lookup_eq_some_iff before.store.memory.pins_nodup).mpr ⟨hvalue, rfl⟩]
    rfl
  have hclearable : before.isClearable (fun _ => true) = true := by
    rw [isClearable, List.all_eq_true]
    intro value hvalue
    rw [husable.switchable, hfound value hvalue, Bool.and_true]
  have hsucceeds : FlashAnswers.succeeding.succeeds = true := rfl
  obtain ⟨hstore, hcleared⟩ := clearAllConfigurations_succeeded hclearable hsucceeds
  refine ⟨(clearAllConfigurations_snd _ _ before).mpr ⟨hclearable, hsucceeds⟩, hstore,
    (loadsUsable_iff_of_empty ?_).mpr fun relayPin => ?_⟩
  · rw [hstore]
    rfl
  · obtain ⟨hrelay, hload⟩ := hcleared relayPin
    rw [hrelay, hload]
    by_cases hpin : relayPin ∈ before.configuredPins
    · simp [hpin]
    · have hnone : before.store.memory.findByRelayPin relayPin = none := KeyedList.lookup_eq_none_iff.mpr hpin
      have hregistered := husable.registered relayPin
      have hpresent := husable.present relayPin
      rw [hnone, Option.isSome_none] at hregistered hpresent
      rw [if_neg hpin, if_neg hpin]
      exact ⟨by simpa [RelayController.isRelayRegistered] using hregistered, by simpa using hpresent⟩

end Hardware

namespace SmartRuntime

variable {before after : SmartRuntime} {event : SmartEvent}

/-- The hardware right after the records were read. -/
def freshHardware (runtime : SmartRuntime) : NodeHardware :=
  ⟨runtime.hardware.store, .empty, .make runtime.hardware.node.macAddress⟩

theorem runApp_eq (hsound : Sound before) :
    before.runApp =
      { hardware :=
          if before.identityStore.isCommissioned then
            (before.freshHardware.applyPersistedConfigurations fun _ => .succeeding).1
          else before.freshHardware
        identityStore := before.identityStore } := by
  have hloaded := hsound.store.loadPersisted
  have hidentity : NodeIdentityStore.loadPersisted before.identityStore = before.identityStore :=
    if_pos hsound.identity
  unfold runApp
  rw [hloaded, hidentity]
  dsimp only
  rw [Bool.true_and]
  split <;> rfl

/-- A commissioned Node has all its stored loads after a boot. -/
theorem applied_loadsUsable (hsound : Sound before) :
    (before.freshHardware.applyPersistedConfigurations fun _ => .succeeding).1.store = before.hardware.store ∧
      LoadsUsable (before.freshHardware.applyPersistedConfigurations fun _ => .succeeding).1 := by
  obtain ⟨-, hvalid⟩ := NodeLoadHardwareStore.isLoadable_iff.mp hsound.store.loadable
  have hsucceeds : ∀ relayPin : UInt8, (GpioAnswers.succeeding.configured && GpioAnswers.succeeding.written) = true :=
    fun _ => rfl
  obtain ⟨-, hstore, -, hfound⟩ := applyAll_of_free hsucceeds before.freshHardware.store.memory.configurations []
    before.freshHardware (fun value hvalue => (hvalid value hvalue).1) before.freshHardware.store.memory.pins_nodup
    fun _ _ => ⟨rfl, rfl⟩
  rw [← applyPersistedConfigurations] at hstore hfound
  have hrelay : ∀ relayPin, (before.freshHardware.applyPersistedConfigurations fun _ => .succeeding).1.relays.findRelay
      relayPin = (before.freshHardware.store.memory.findByRelayPin relayPin).map fun value =>
        ⟨value.relayConfiguration, true⟩ :=
    fun relayPin => (hfound relayPin).1.trans Option.or_none
  have hload : ∀ relayPin, (before.freshHardware.applyPersistedConfigurations fun _ => .succeeding).1.node.getLoadByRelayPin
      relayPin = (before.freshHardware.store.memory.findByRelayPin relayPin).map fun value =>
        value.load before.freshHardware.node.macAddress :=
    fun relayPin => (hfound relayPin).2.trans Option.or_none
  refine ⟨hstore, fun relayPin => ?_, fun relayPin => ?_, fun relayPin => ?_⟩
  · rw [RelayController.isRelayRegistered, hrelay, hstore, Option.isSome_map]
  · rw [RelayController.isHardwareApplied, hrelay, hstore, Option.any_map]
    cases before.freshHardware.store.memory.findByRelayPin relayPin <;> rfl
  · rw [hload, hstore, Option.isSome_map]

/-- A boot makes the stored loads usable exactly if it finds the Node commissioned, or
has nothing to make usable. -/
theorem runApp_loadsUsable_iff (hsound : Sound before) :
    LoadsUsable before.runApp.hardware ↔
      before.identityStore.isCommissioned = true ∨ before.hardware.store.memory.configurations = [] := by
  rw [runApp_eq hsound]
  cases hcommissioned : before.identityStore.isCommissioned with
  | true => exact iff_of_true (applied_loadsUsable hsound).2 (.inl rfl)
  | false =>
    simp only [Bool.false_eq_true, if_false, false_or]
    constructor
    · intro husable
      by_contra hsome
      obtain ⟨value, hvalue⟩ := List.exists_mem_of_ne_nil _ hsome
      have hregistered := husable.registered value.relayPin
      have hfind : before.freshHardware.store.memory.findByRelayPin value.relayPin = some value :=
        (KeyedList.lookup_eq_some_iff before.hardware.store.memory.pins_nodup).mpr ⟨hvalue, rfl⟩
      rw [hfind] at hregistered
      cases hregistered
    · intro hempty
      have hfresh : before.freshHardware.store.memory.configurations = [] := hempty
      exact (loadsUsable_iff_of_empty hfresh).mpr fun relayPin => ⟨rfl, rfl⟩

theorem runApp_sound (hsound : Sound before) : Sound before.runApp := by
  rw [runApp_eq hsound]
  refine ⟨?_, hsound.identity⟩
  cases before.identityStore.isCommissioned with
  | true =>
    rw [if_pos rfl, (applied_loadsUsable hsound).1]
    exact hsound.store
  | false => exact hsound.store

theorem handleDecommissionCommand_sound (hsound : Sound before) (husable : LoadsUsable before.hardware)
    (nodeTaken identityTaken : Bool) :
    Sound (before.handleDecommissionCommand nodeTaken identityTaken) ∧
      LoadsUsable (before.handleDecommissionCommand nodeTaken identityTaken).hardware := by
  obtain ⟨-, hstore, hcleared⟩ := husable.clearAllConfigurations
  have hempty : SoundStore ⟨NodeLoadHardwareStore.empty, NodeLoadHardwareStore.empty⟩ := ⟨rfl, rfl⟩
  unfold handleDecommissionCommand
  split
  · exact ⟨hsound, husable⟩
  dsimp only
  split
  · exact ⟨⟨hstore ▸ hempty, hsound.identity⟩, hcleared⟩
  · exact ⟨⟨hstore ▸ hempty, rfl⟩, hcleared⟩

theorem step_sound (hsound : Sound before) (husable : LoadsUsable before.hardware) (event : SmartEvent) :
    Sound (before.step event) := by
  cases event with
  | configureLoad value => exact ⟨soundStore_configureNewLoad hsound.store value, hsound.identity⟩
  | removeLoad relayPin => exact ⟨soundStore_removeLoad hsound.store relayPin, hsound.identity⟩
  | updateLoad request => exact ⟨soundStore_updateLoad hsound.store request, hsound.identity⟩
  | commission friendlyName =>
    exact ⟨hsound.store, NodeIdentityStore.isLoadable_applyCommission hsound.identity friendlyName⟩
  | decommission nodeTaken identityTaken =>
    exact (handleDecommissionCommand_sound hsound husable nodeTaken identityTaken).1
  | reboot => exact runApp_sound hsound

/-- Only a reboot can make usable loads unusable. -/
theorem step_loadsUsable_iff (hsound : Sound before) (husable : LoadsUsable before.hardware) (event : SmartEvent) :
    LoadsUsable (before.step event).hardware ↔ BootsApplied before event := by
  cases event with
  | configureLoad value => exact iff_of_true (husable.configureNewLoad value) nofun
  | removeLoad relayPin => exact iff_of_true (husable.removeLoad relayPin) nofun
  | updateLoad request => exact iff_of_true (husable.updateLoad request) nofun
  | commission friendlyName => exact iff_of_true husable nofun
  | decommission nodeTaken identityTaken =>
    exact iff_of_true (handleDecommissionCommand_sound hsound husable nodeTaken identityTaken).2 nofun
  | reboot =>
    refine (runApp_loadsUsable_iff hsound).trans ⟨fun happlied _ => happlied, fun happlied => happlied rfl⟩

end SmartRuntime

/-- A step after which the loads are usable. -/
structure UsableStep (before : SmartRuntime) (event : SmartEvent) (after : SmartRuntime) : Prop where
  step : before.step event = after
  usable : LoadsUsable after.hardware

structure AppliedStep (before : SmartRuntime) (event : SmartEvent) (after : SmartRuntime) : Prop where
  step : before.step event = after
  applied : BootsApplied before event

/-- The loads of a Smart Node are usable in every state of a run exactly if each reboot finds the Node
commissioned or without stored loads. Needs a start with usable loads and sound stores. -/
theorem loads_usable_iff {start last : SmartRuntime} {events : List SmartEvent} (hsound : Sound start)
    (husable : LoadsUsable start.hardware) : Run UsableStep start events last ↔ Run AppliedStep start events last := by
  have hpreserved : ∀ before event after, Sound before ∧ LoadsUsable before.hardware →
      UsableStep before event after → Sound after ∧ LoadsUsable after.hardware := by
    rintro before event after ⟨hbefore, hbeforeUsable⟩ hstep
    exact ⟨hstep.step ▸ SmartRuntime.step_sound hbefore hbeforeUsable event, hstep.usable⟩
  refine Run.congr hpreserved ?_ ⟨hsound, husable⟩
  rintro before event after ⟨hbefore, hbeforeUsable⟩
  have hiff := SmartRuntime.step_loadsUsable_iff hbefore hbeforeUsable event
  constructor
  · rintro ⟨rfl, husableAfter⟩
    exact ⟨rfl, hiff.mp husableAfter⟩
  · rintro ⟨rfl, happlied⟩
    exact ⟨rfl, hiff.mpr happlied⟩

section Runs

/-- A new Smart Node. -/
def newRuntime : SmartRuntime where
  hardware := ⟨⟨.empty, .empty⟩, .empty, .make smartMacAddress⟩
  identityStore := .make

theorem newRuntime_sound : Sound newRuntime := ⟨⟨rfl, rfl⟩, rfl⟩

theorem newRuntime_usable : LoadsUsable newRuntime.hardware :=
  (loadsUsable_iff_of_empty rfl).mpr fun _ => ⟨rfl, rfl⟩

/-- A step, where a reboot finds the Node commissioned or without loads. -/
def appliedNext (before : SmartRuntime) (event : SmartEvent) : Option SmartRuntime :=
  if event = .reboot ∧ ¬ before.identityStore.isCommissioned ∧ before.hardware.store.memory.configurations ≠ [] then none
  else some (before.step event)

theorem appliedStep_of_appliedNext (before : SmartRuntime) (event : SmartEvent) (after : SmartRuntime)
    (hnext : appliedNext before event = some after) : AppliedStep before event after := by
  unfold appliedNext at hnext
  split at hnext
  · cases hnext
  · rename_i happlied
    refine ⟨Option.some.inj hnext, fun hreboot => ?_⟩
    by_contra hnot
    rw [not_or] at hnot
    exact happlied ⟨hreboot, hnot⟩

/-- The freezer is configured before the Node is commissioned and rebooted. -/
theorem loads_usable_iff_freezer :
    ∃ last, Run UsableStep newRuntime
      [.reboot, .configureLoad freezerConfiguration, .commission [70], .reboot, .decommission true true, .reboot] last := by
  have hsome : ([.reboot, .configureLoad freezerConfiguration, .commission [70], .reboot, .decommission true true,
      .reboot].foldlM appliedNext newRuntime).isSome := by
    decide +kernel
  obtain ⟨last, hlast⟩ := Option.isSome_iff_exists.mp hsome
  exact ⟨last, (loads_usable_iff newRuntime_sound newRuntime_usable).mpr (.of_foldlM appliedStep_of_appliedNext hlast)⟩

/-- The freezer is configured and the Node rebooted before it is commissioned. From
then on it is stored but has neither a relay nor a load, and cannot be removed. -/
theorem stored_load_unusable :
    ∃ last, Run (fun before event after => SmartRuntime.step before event = after) newRuntime
        [.configureLoad freezerConfiguration, .reboot, .commission [70]] last ∧
      ¬ LoadsUsable last.hardware ∧
      (last.hardware.store.memory.findByRelayPin 4).isSome ∧
      last.hardware.relays.isRelayRegistered 4 = false ∧
      last.hardware.node.getLoadByRelayPin 4 = none ∧
      (last.hardware.removeLoad .succeeding 4).2 = HARDWARE_INITIALIZATION_FAILED := by
  let last := (newRuntime.step (.configureLoad freezerConfiguration)).runApp.step (.commission [70])
  have hstored : (last.hardware.store.memory.findByRelayPin 4).isSome := by decide +kernel
  have hregistered : last.hardware.relays.isRelayRegistered 4 = false := by decide +kernel
  refine ⟨last, ?_, fun husable => ?_, hstored, hregistered, by decide +kernel, by decide +kernel⟩
  · have hfold : [SmartEvent.configureLoad freezerConfiguration, .reboot, .commission [70]].foldlM
        (fun before event => some (SmartRuntime.step before event)) newRuntime = some last := rfl
    refine .of_foldlM ?_ hfold
    intro before event after hnext
    exact Option.some.inj hnext
  · have hsame := husable.registered 4
    rw [hregistered, hstored] at hsame
    cases hsame

end Runs

end Boot

end kilowatts
