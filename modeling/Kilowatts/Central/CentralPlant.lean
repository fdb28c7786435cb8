import Kilowatts.Central.HardwareCommands
import Kilowatts.Central.LocalHardware
import Kilowatts.Central.RuntimeEntries

namespace kilowatts

open PagedReport NodeHardware HardwareConfigurationFailureReason

/-- A page that is applied to the Node of a load. -/
structure Counted (stateTaken : Bool) (originMac : MacAddress) (report : NodeReportPacket) (id : Load.Id) : Prop where
  stateTaken : stateTaken = true
  sender : report.nodeMacAddress = originMac
  owner : report.nodeMacAddress = id.macAddress
  hasPageNumber : report.HasPageNumber

instance (stateTaken : Bool) (originMac : MacAddress) (report : NodeReportPacket) (id : Load.Id) :
    Decidable (Counted stateTaken originMac report id) :=
  decidable_of_iff (stateTaken = true ∧ report.nodeMacAddress = originMac ∧ report.nodeMacAddress = id.macAddress ∧
      report.HasPageNumber)
    ⟨fun ⟨htaken, hsender, howner, hnumber⟩ => ⟨htaken, hsender, howner, hnumber⟩,
      fun ⟨htaken, hsender, howner, hnumber⟩ => ⟨htaken, hsender, howner, hnumber⟩⟩

/-- The globals of Central, its override store in the flash, and its own hardware. -/
structure CentralPlant where
  central : CentralState
  overridesFlash : LoadConfigurationStore
  hardware : NodeHardware

/-- What acts on loads or on their overrides. Whatever else Central does changes the
other globals only. -/
inductive SettingsEvent where
  | nodeReport (stateTaken : Bool) (originMac : MacAddress) (report : NodeReportPacket) (nowMilliseconds : UInt32)
  | cycle (clock : CycleClock) (answers : FlashAnswers)
  | loadCommand (stateTaken : Bool) (answers : FlashAnswers) (request : LoadCommandRequest)
  | acknowledge (pendingHardwareCommands : List PendingHardwareCommand) (stateTaken : Bool) (answers : FlashAnswers)
      (originMac : MacAddress) (acknowledgement : ConfigureLoadAcknowledgementPacket)
  | configureLocally (answers : ConfigureAnswers) (nowMilliseconds : UInt32) (configuration : LoadConfiguration)
  | removeLocally (answers : RemoveAnswers) (settingsFlash : FlashAnswers) (nowMilliseconds : UInt32)
      (relayPin : UInt8)
  | decommission (stateTaken : Bool) (answers : FlashAnswers) (nodeMacAddress : MacAddress)
  | restart (globals : CentralState) (answers : UInt8 → GpioAnswers) (nowMilliseconds : UInt32)
  | other (globals : CentralState)

namespace CentralPlant

/-- The part of Central that the load commands work on. -/
def commandState (plant : CentralPlant) : LoadCommandState :=
  ⟨plant.central.registry, plant.central.commissioningRegistry,
    ⟨plant.central.centralLoadConfigurationStore, plant.overridesFlash⟩⟩

/-- And back. -/
def withCommandState (commandState : LoadCommandState) (plant : CentralPlant) : CentralPlant :=
  { plant with
    central := { plant.central with
      registry := commandState.registry
      commissioningRegistry := commandState.commissioningRegistry
      centralLoadConfigurationStore := commandState.centralLoadConfigurationStore.memory }
    overridesFlash := commandState.centralLoadConfigurationStore.flash }

/-- The part of Central that the commands for its own hardware work on. -/
def runtime (plant : CentralPlant) : CentralRuntime := ⟨plant.hardware, plant.commandState⟩

/-- And back. -/
def withRuntime (runtime : CentralRuntime) (plant : CentralPlant) : CentralPlant :=
  { plant.withCommandState runtime.commandState with hardware := runtime.hardware }

/-- A planning cycle, which persists the overrides if an AUTO load has changed. -/
def runCycle (clock : CycleClock) (answers : FlashAnswers) (plant : CentralPlant) : CentralPlant :=
  let result := plant.central.runOptimizationCycle clock
  let store : FlashBacked LoadConfigurationStore :=
    ⟨result.state.centralLoadConfigurationStore, plant.overridesFlash⟩
  { plant with
    central := result.state
    overridesFlash := if result.persistRequested then (store.persist answers).1.flash else store.flash }

/-- One event of any task, with whatever the flash, the pins and the lock answer. -/
def next (localMac : MacAddress) (plant : CentralPlant) : SettingsEvent → CentralPlant
  | .nodeReport stateTaken originMac report nowMilliseconds =>
    { plant with central := (plant.central.handleNodeReport stateTaken originMac report nowMilliseconds).1 }
  | .cycle clock answers => plant.runCycle clock answers
  | .loadCommand stateTaken answers request =>
    plant.withCommandState (plant.commandState.handleLoadCommand localMac stateTaken answers request).1
  | .acknowledge pendingHardwareCommands stateTaken answers originMac acknowledgement =>
    plant.withCommandState ((⟨plant.commandState, pendingHardwareCommands⟩ :
      HardwareCommandState).handleHardwareConfigurationAcknowledgement stateTaken answers originMac
        acknowledgement).1.commandState
  | .configureLocally answers nowMilliseconds configuration =>
    plant.withRuntime (plant.runtime.configureLocalLoad answers nowMilliseconds configuration).1
  | .removeLocally answers settingsFlash nowMilliseconds relayPin =>
    plant.withRuntime (plant.runtime.removeLocalLoad localMac answers settingsFlash nowMilliseconds relayPin).1
  | .decommission stateTaken answers nodeMacAddress =>
    plant.withCommandState
      (plant.commandState.handleDecommissionNode localMac stateTaken answers nodeMacAddress).1
  | .restart globals answers nowMilliseconds =>
    { plant with central := globals }.withRuntime (plant.runtime.runApp localMac answers nowMilliseconds)
  | .other globals =>
    { plant with
      central := { globals with
        registry := plant.central.registry
        centralLoadConfigurationStore := plant.central.centralLoadConfigurationStore } }

/-- Central's copy of a load. -/
def copy (plant : CentralPlant) (id : Load.Id) : Option Load :=
  plant.central.registry.findLoad id.macAddress id.relayPin

/-- The override of a load. -/
def entry (plant : CentralPlant) (id : Load.Id) : Option ConfigurationEntry :=
  plant.central.centralLoadConfigurationStore.findConfiguration id.macAddress id.relayPin

/-- What the hardware of Central says of a load. -/
def localFields (plant : CentralPlant) (id : Load.Id) : Option LoadFields :=
  if id.macAddress = plant.hardware.node.macAddress then
    (plant.hardware.node.getLoadByRelayPin id.relayPin).map Load.fields
  else none

/-- What an event lets Central know of a load as its own Node has it: from a page that
Central counts, or from its own hardware. -/
def own (localMac : MacAddress) (plant : CentralPlant) (id : Load.Id) (event : SettingsEvent) : Option LoadFields :=
  match event with
  | .nodeReport stateTaken originMac report _ =>
    if Counted stateTaken originMac report id then
      (plant.central.registry.viewOf id.macAddress).announced report.page id.relayPin
    else none
  | .configureLocally answers nowMilliseconds configuration =>
    if (plant.runtime.configureLocalLoad answers nowMilliseconds configuration).2.accepted then
      (plant.next localMac event).localFields id
    else none
  | .removeLocally answers settingsFlash nowMilliseconds relayPin =>
    if (plant.runtime.removeLocalLoad localMac answers settingsFlash nowMilliseconds relayPin).2.accepted then
      (plant.next localMac event).localFields id
    else none
  | .restart _ _ _ => (plant.next localMac event).localFields id
  | _ => none

/-- Central's own loads are well-formed, and so are the schedules of all overrides. -/
structure Sound (localMac : MacAddress) (plant : CentralPlant) : Prop where
  macAddress : plant.hardware.node.macAddress = localMac
  loads : ∀ load ∈ plant.hardware.node.loads, load.settings.WellFormed
  overrides : plant.central.centralLoadConfigurationStore.Valid
  flash : plant.overridesFlash.Valid

end CentralPlant

open CentralPlant

/-- An acknowledgement leaves loads and overrides as they are, or removes the load it
names. -/
theorem handleHardwareConfigurationAcknowledgement_commandState (state : HardwareCommandState) (stateTaken : Bool)
    (answers : FlashAnswers) (originMac : MacAddress) (acknowledgement : ConfigureLoadAcknowledgementPacket) :
    (state.handleHardwareConfigurationAcknowledgement stateTaken answers originMac acknowledgement).1.commandState =
        state.commandState ∨
      (state.handleHardwareConfigurationAcknowledgement stateTaken answers originMac acknowledgement).1.commandState =
        (state.removeLoad answers originMac acknowledgement.relayPin).commandState := by
  unfold HardwareCommandState.handleHardwareConfigurationAcknowledgement
  split
  · exact .inl rfl
  split
  · exact .inl rfl
  split
  · dsimp only
    split
    · exact .inr rfl
    · exact .inl rfl
  · exact .inl rfl

section Origins

variable {localMac : MacAddress} {plant : CentralPlant}

/-- The flash keeps the overrides that it has, or takes those in memory. -/
theorem next_overridesFlash (localMac : MacAddress) (plant : CentralPlant) (event : SettingsEvent) :
    (plant.next localMac event).overridesFlash = plant.overridesFlash ∨
      (plant.next localMac event).overridesFlash =
        (plant.next localMac event).central.centralLoadConfigurationStore := by
  cases event with
  | nodeReport => exact .inl rfl
  | cycle clock answers =>
    rw [CentralPlant.next, CentralPlant.runCycle]
    dsimp only
    split
    · exact (ite_eq_or_eq _ _ _).symm
    · exact .inl rfl
  | loadCommand stateTaken answers request =>
    rw [CentralPlant.next]
    by_cases hattempted : ∃ load, Attempted localMac stateTaken request plant.commandState load
    · obtain ⟨load, hattempted⟩ := hattempted
      rw [hattempted.handleLoadCommand]
      exact (ite_eq_or_eq _ _ _).symm
    · rw [(handleLoadCommand_of_not_attempted answers fun load hload => hattempted ⟨load, hload⟩).1]
      exact .inl rfl
  | acknowledge pendingHardwareCommands stateTaken answers originMac acknowledgement =>
    rw [CentralPlant.next]
    obtain hsame | hremoved := handleHardwareConfigurationAcknowledgement_commandState
      ⟨plant.commandState, pendingHardwareCommands⟩ stateTaken answers originMac acknowledgement
    · rw [hsame]
      exact .inl rfl
    · rw [hremoved]
      exact (ite_eq_or_eq _ _ _).symm
  | configureLocally answers nowMilliseconds configuration =>
    rw [CentralPlant.next, CentralPlant.withRuntime, configureLocalLoad_commandState]
    split
    · exact .inl rfl
    · exact .inl rfl
  | removeLocally answers settingsFlash nowMilliseconds relayPin =>
    rw [CentralPlant.next, CentralPlant.withRuntime, removeLocalLoad_commandState]
    split
    · exact (ite_eq_or_eq _ _ _).symm
    · exact .inl rfl
  | decommission stateTaken answers nodeMacAddress =>
    rw [CentralPlant.next, LoadCommandState.handleDecommissionNode]
    split
    · exact .inl rfl
    split
    · exact .inl rfl
    dsimp only
    split
    · exact .inl rfl
    · exact (ite_eq_or_eq _ _ _).symm
  | restart => exact .inl rfl
  | other => exact .inl rfl

/-- Where an override that an event leaves comes from. -/
inductive EntryOrigin (localMac : MacAddress) (plant : CentralPlant) (event : SettingsEvent)
    (entry : ConfigurationEntry) : Prop where
  | kept (hentry : entry ∈ plant.central.centralLoadConfigurationStore.entries)
  | reloaded (hentry : entry ∈ plant.overridesFlash.entries)
  | planned (id : Load.Id) (hruntime : CentralState.IsRuntimeEntry plant.central.plannedRegistry id entry)
  | commanded {stateTaken : Bool} {answers : FlashAnswers} {request : LoadCommandRequest} {load : Load}
      (hevent : event = .loadCommand stateTaken answers request)
      (hattempted : Attempted localMac stateTaken request plant.commandState load) (hentry : entry = request.entry load)

/-- An override was there before, or a command of this event has made it. -/
theorem next_entries_origin {event : SettingsEvent} {entry : ConfigurationEntry}
    (hentry : entry ∈ (plant.next localMac event).central.centralLoadConfigurationStore.entries) :
    EntryOrigin localMac plant event entry := by
  cases event with
  | nodeReport => exact .kept hentry
  | cycle clock answers =>
    obtain hold | ⟨id, hruntime⟩ := plant.central.mem_autoPass_store clock hentry
    · exact .kept hold
    · exact .planned id hruntime
  | loadCommand stateTaken answers request =>
    rw [CentralPlant.next] at hentry
    by_cases hattempted : ∃ load, Attempted localMac stateTaken request plant.commandState load
    · obtain ⟨load, hattempted⟩ := hattempted
      rw [hattempted.handleLoadCommand] at hentry
      have hset : entry ∈ (plant.commandState.commandedStore request load).entries := hentry
      have haccepted : (request.entry load).schedule.isValidSchedule = true := hattempted.schedule
      rw [LoadCommandState.commandedStore, LoadConfigurationStore.setConfiguration_eq, if_pos haccepted] at hset
      obtain hold | hnew := KeyedList.mem_put hset
      · exact .kept hold
      · exact .commanded rfl hattempted hnew
    · rw [(handleLoadCommand_of_not_attempted answers fun load hload => hattempted ⟨load, hload⟩).1] at hentry
      exact .kept hentry
  | acknowledge pendingHardwareCommands stateTaken answers originMac acknowledgement =>
    rw [CentralPlant.next] at hentry
    obtain hsame | hremoved := handleHardwareConfigurationAcknowledgement_commandState
      ⟨plant.commandState, pendingHardwareCommands⟩ stateTaken answers originMac acknowledgement
    · rw [hsame] at hentry
      exact .kept hentry
    · rw [hremoved] at hentry
      exact .kept ((KeyedList.remove_sublist _ _).mem hentry)
  | configureLocally answers nowMilliseconds configuration =>
    rw [CentralPlant.next, CentralPlant.withRuntime, configureLocalLoad_commandState] at hentry
    split at hentry
    · exact .kept hentry
    · exact .kept hentry
  | removeLocally answers settingsFlash nowMilliseconds relayPin =>
    rw [CentralPlant.next, CentralPlant.withRuntime, removeLocalLoad_commandState] at hentry
    split at hentry
    · exact .kept ((KeyedList.remove_sublist _ _).mem hentry)
    · exact .kept hentry
  | decommission stateTaken answers nodeMacAddress =>
    have huntouched : (plant.next localMac (.decommission stateTaken answers
        nodeMacAddress)).central.centralLoadConfigurationStore = plant.central.centralLoadConfigurationStore := by
      rw [CentralPlant.next, LoadCommandState.handleDecommissionNode]
      split
      · rfl
      split
      · rfl
      dsimp only
      split
      · rfl
      · rfl
    exact .kept (huntouched ▸ hentry)
  | restart => exact .reloaded hentry
  | other => exact .kept hentry

/-- The loads that a boot applies were checked when they were loaded. -/
theorem configureLocalHardware_node (localMac : MacAddress) (answers : UInt8 → GpioAnswers) (nowMilliseconds : UInt32)
    (runtime : CentralRuntime) :
    (runtime.restarted.configureLocalHardware localMac answers nowMilliseconds).hardware.node.macAddress = localMac ∧
      ∀ load ∈ (runtime.restarted.configureLocalHardware localMac answers nowMilliseconds).hardware.node.loads,
        ∃ value : LoadConfiguration, value.isWellFormed = true ∧ load = value.load localMac := by
  unfold CentralRuntime.configureLocalHardware CentralRuntime.restarted NodeLoadHardwareStore.loadPersisted
  dsimp only
  cases hloadable : runtime.hardware.store.flash.isLoadable with
  | false => exact ⟨rfl, List.forall_mem_nil _⟩
  | true =>
    obtain ⟨-, hvalid⟩ := NodeLoadHardwareStore.isLoadable_iff.mp hloadable
    obtain ⟨hmac, hloads⟩ := applyAll_node answers runtime.hardware.store.flash.configurations []
      ⟨⟨runtime.hardware.store.flash, runtime.hardware.store.flash⟩, .empty, .make localMac⟩
    refine ⟨hmac, fun load hload => ?_⟩
    obtain hold | ⟨value, hvalue, rfl⟩ := hloads load hload
    · exact absurd hold List.not_mem_nil
    · exact ⟨value, (hvalid value hvalue).1, rfl⟩

/-- The loads of Central's own Node after an event were there before, or belong to
configurations that were checked. -/
theorem next_node (hmac : plant.hardware.node.macAddress = localMac) (event : SettingsEvent) :
    (plant.next localMac event).hardware.node.macAddress = localMac ∧
      ∀ load ∈ (plant.next localMac event).hardware.node.loads, load ∈ plant.hardware.node.loads ∨
        ∃ value : LoadConfiguration, value.isWellFormed = true ∧ load = value.load localMac := by
  cases event with
  | configureLocally answers nowMilliseconds configuration =>
    have hhardware : (plant.next localMac (.configureLocally answers nowMilliseconds configuration)).hardware =
        (plant.hardware.configureNewLoad answers configuration).1 := by
      rw [CentralPlant.next, CentralRuntime.configureLocalLoad]
      dsimp only
      split
      · rfl
      · rfl
    rw [hhardware]
    obtain ⟨-, hconfigurable, -, hconfigured⟩ | ⟨-, -, hsame, -⟩ :=
      configureNewLoad_cases answers plant.hardware configuration
    · rw [hconfigured.node, Node.addLoad_macAddress]
      refine ⟨hmac, fun load hload => (Node.mem_addLoad_loads hload).imp_right fun hnew => ?_⟩
      exact ⟨configuration, hconfigurable.wellFormed, hmac ▸ hnew⟩
    · rw [hsame.node]
      exact ⟨hmac, fun load hload => .inl hload⟩
  | removeLocally answers settingsFlash nowMilliseconds relayPin =>
    have hhardware : (plant.next localMac (.removeLocally answers settingsFlash nowMilliseconds relayPin)).hardware =
        (plant.hardware.removeLoad answers relayPin).1 := by
      rw [CentralPlant.next, CentralRuntime.removeLocalLoad]
      dsimp only
      split
      · rfl
      · rfl
    rw [hhardware]
    obtain ⟨-, -, -, hremoved⟩ | ⟨-, -, hsame, -⟩ := removeLoad_cases answers plant.hardware relayPin
    · rw [hremoved.node]
      exact ⟨hmac, fun load hload => .inl ((KeyedList.remove_sublist _ _).mem hload)⟩
    · rw [hsame.node]
      exact ⟨hmac, fun load hload => .inl hload⟩
  | restart globals answers nowMilliseconds =>
    obtain ⟨hmac, hloads⟩ := configureLocalHardware_node localMac answers nowMilliseconds plant.runtime
    exact ⟨hmac, fun load hload => .inr (hloads load hload)⟩
  | nodeReport | cycle | loadCommand | acknowledge | decommission | other =>
    exact ⟨hmac, fun load hload => .inl hload⟩

/-- No event brings a malformed schedule in. -/
theorem CentralPlant.Sound.next (hsound : plant.Sound localMac) (event : SettingsEvent) :
    (plant.next localMac event).Sound localMac := by
  obtain ⟨hmac, hloads⟩ := next_node hsound.macAddress event
  have hmemory : (plant.next localMac event).central.centralLoadConfigurationStore.Valid := by
    intro entry hentry
    cases next_entries_origin hentry with
    | kept hentry => exact hsound.overrides entry hentry
    | reloaded hentry => exact hsound.flash entry hentry
    | planned id hruntime =>
      obtain ⟨load, requestedOn, -, -, hvalid, rfl⟩ := hruntime
      exact hvalid
    | commanded hevent hattempted hentry => exact hentry ▸ hattempted.schedule
  refine ⟨hmac, fun load hload => ?_, hmemory, ?_⟩
  · obtain hold | ⟨value, hwellFormed, rfl⟩ := hloads load hload
    · exact hsound.loads load hold
    · exact LoadConfiguration.load_wellFormed hwellFormed localMac
  · obtain hsame | htaken := next_overridesFlash localMac plant event
    · exact hsame ▸ hsound.flash
    · exact htaken ▸ hmemory

end Origins

namespace SettingsEvent

/-- A page of a report arrives at Central. -/
def reports : SettingsEvent → Bool
  | .nodeReport _ _ _ _ => true
  | _ => false

/-- The event is a planning cycle. -/
def plans : SettingsEvent → Bool
  | .cycle _ _ => true
  | _ => false

/-- The event is a user command for the load. -/
def commands (id : Load.Id) : SettingsEvent → Bool
  | .loadCommand _ _ request => request.id = id
  | _ => false

/-- Only reports bring fields of a Smart Node. -/
theorem reports_iff {event : SettingsEvent} :
    event.reports = true ↔ ∃ stateTaken originMac report nowMilliseconds,
      event = .nodeReport stateTaken originMac report nowMilliseconds := by
  cases event <;> simp [reports]

/-- Only cycles switch AUTO loads. -/
theorem plans_iff {event : SettingsEvent} :
    event.plans = true ↔ ∃ clock answers, event = .cycle clock answers := by
  cases event <;> simp [plans]

end SettingsEvent

/-- What an event leaves of Central's copy of a load. `base` is the copy before overrides
are applied to it, if they are. It has what the Node tells, or the fields `kept`. -/
structure Leaves (before : CentralPlant) (id : Load.Id) (own : Option LoadFields) (after : CentralPlant)
    (base : Option Load) (kept : Option LoadFields) : Prop where
  copy : after.copy id = base ∨
    after.copy id = base.map fun load => (after.central.centralLoadConfigurationStore.applyToLoad load).1
  fields : base.map Load.fields = own.or kept
  kept : kept = none ∨ (kept = (before.copy id).map Load.fields ∧ after.entry id = before.entry id)

/-- A load that an event leaves alone, with its override and what is named of its Node's
report. -/
structure Untouched (before after : CentralPlant) (id : Load.Id) : Prop where
  copy : after.copy id = before.copy id
  entry : after.entry id = before.entry id
  named : (after.central.registry.viewOf id.macAddress).named = (before.central.registry.viewOf id.macAddress).named

/-- The copy of one of Central's own loads is the load itself. -/
structure Replaced (after : CentralPlant) (id : Load.Id) : Prop where
  macAddress : id.macAddress = after.hardware.node.macAddress
  fields : after.localFields id = (after.copy id).map Load.fields

section Effects

variable {localMac : MacAddress} {plant : CentralPlant} {id : Load.Id}

/-- An event that does not touch the load. -/
theorem Untouched.leaves {after : CentralPlant} (huntouched : Untouched plant after id) :
    Leaves plant id none after (plant.copy id) ((plant.copy id).map Load.fields) :=
  ⟨.inl huntouched.copy, rfl, .inr ⟨rfl, huntouched.entry⟩⟩

/-- An event that drops the load. -/
theorem Leaves.of_none {after : CentralPlant} (hcopy : after.copy id = none) :
    Leaves plant id none after none none :=
  ⟨.inl hcopy, rfl, .inl rfl⟩

/-- The registry after the page of a Node, with the overrides applied to its loads. -/
theorem nodeReport_registry (report : NodeReportPacket) (nowMilliseconds : UInt32) :
    (plant.next localMac (.nodeReport true report.nodeMacAddress report nowMilliseconds)).central.registry =
      (plant.central.registry.applyNodeReport report nowMilliseconds).mapLoads
        ((Central.storedSettingsUpdate plant.central.centralLoadConfigurationStore).onlyOn
          fun id => id.macAddress = report.nodeMacAddress) := by
  rw [← Central.applyStoredNodeSettings_eq]
  simp [CentralPlant.next, CentralState.handleNodeReport]

/-- After a page of its Node, the overrides are applied to what the page leaves of a load. -/
theorem nodeReport_copy {report : NodeReportPacket} (hmac : report.nodeMacAddress = id.macAddress)
    (nowMilliseconds : UInt32) :
    (plant.next localMac (.nodeReport true report.nodeMacAddress report nowMilliseconds)).copy id =
      ((plant.central.registry.applyNodeReport report nowMilliseconds).findLoad id.macAddress id.relayPin).map
        fun load => (plant.central.centralLoadConfigurationStore.applyToLoad load).1 := by
  rw [CentralPlant.copy, nodeReport_registry, CentralNodeRegistry.mapLoads_findLoad]
  refine Option.map_congr fun load hload => if_pos ?_
  rw [(CentralNodeRegistry.findLoad_eq_some_iff.mp hload).2, hmac]

/-- A page that is not applied to the Node of a load leaves the load, but for overrides,
and what the report in progress has named. -/
theorem nodeReport_of_not_counted (localMac : MacAddress) (plant : CentralPlant) {stateTaken : Bool}
    {originMac : MacAddress} {report : NodeReportPacket} (hcounted : ¬ Counted stateTaken originMac report id)
    (nowMilliseconds : UInt32) :
    ((plant.next localMac (.nodeReport stateTaken originMac report nowMilliseconds)).copy id = plant.copy id ∨
        (plant.next localMac (.nodeReport stateTaken originMac report nowMilliseconds)).copy id =
          (plant.copy id).map fun load => (plant.central.centralLoadConfigurationStore.applyToLoad load).1) ∧
      ((plant.next localMac (.nodeReport stateTaken originMac report nowMilliseconds)).central.registry.viewOf
        id.macAddress).named = (plant.central.registry.viewOf id.macAddress).named := by
  by_cases hhandled : report.nodeMacAddress = originMac ∧ stateTaken = true
  · obtain ⟨rfl, rfl⟩ := hhandled
    rw [nodeReport_registry, CentralNodeRegistry.viewOf_named_mapLoads]
    by_cases hmac : report.nodeMacAddress = id.macAddress
    · have hnumber : ¬ report.HasPageNumber := fun hnumber => hcounted ⟨rfl, rfl, hmac, hnumber⟩
      rw [nodeReport_copy hmac, CentralNodeRegistry.applyNodeReport_of_not_hasPageNumber hnumber]
      exact ⟨.inr rfl, rfl⟩
    · have hsame := CentralNodeRegistry.findNodeByMacAddress_applyNodeReport_of_ne (Ne.symm hmac)
        plant.central.registry nowMilliseconds
      refine ⟨.inl ?_, CentralNodeRegistry.viewOf_named_congr (congrArg _ hsame)⟩
      rw [CentralPlant.copy, nodeReport_registry, CentralNodeRegistry.mapLoads_findLoad,
        CentralNodeRegistry.findLoad, hsame]
      refine (Option.map_congr fun load hload => if_neg ?_).trans Option.map_id'
      rw [(CentralNodeRegistry.findLoad_eq_some_iff.mp hload).2]
      exact Ne.symm hmac
  · have hregistry : (plant.next localMac (.nodeReport stateTaken originMac report
        nowMilliseconds)).central.registry = plant.central.registry := by
      simp only [CentralPlant.next, CentralState.handleNodeReport, Bool.and_eq_true, decide_eq_true_eq, hhandled, if_false]
    rw [hregistry]
    exact ⟨.inl (by rw [CentralPlant.copy, hregistry]; rfl), rfl⟩

/-- The fields of a load in the table that a page leaves. -/
theorem applyNodeReport_fields (plant : CentralPlant) {report : NodeReportPacket}
    (hmac : report.nodeMacAddress = id.macAddress) (hnumber : report.HasPageNumber) (nowMilliseconds : UInt32) :
    ((plant.central.registry.applyNodeReport report nowMilliseconds).findLoad id.macAddress id.relayPin).map Load.fields =
      ((plant.central.registry.viewOf id.macAddress).applyPage report.page).contents id.relayPin := by
  have hcontents := congrFun (CentralNodeRegistry.viewOf_contents
    (plant.central.registry.applyNodeReport report nowMilliseconds) id.macAddress) id.relayPin
  have hview := plant.central.registry.viewOf_applyNodeReport hnumber nowMilliseconds
  rw [hmac] at hview
  rw [← hview]
  exact hcontents.symm

/-- The copy has the fields that the registry shows for its pin. -/
theorem copy_fields (plant : CentralPlant) (id : Load.Id) :
    (plant.copy id).map Load.fields = (plant.central.registry.viewOf id.macAddress).contents id.relayPin :=
  (congrFun (plant.central.registry.viewOf_contents id.macAddress) id.relayPin).symm

/-- A report leaves what it tells, with the override applied, or what was there. -/
theorem leaves_nodeReport (stateTaken : Bool) (originMac : MacAddress) (report : NodeReportPacket)
    (nowMilliseconds : UInt32) :
    ∃ base kept, Leaves plant id (plant.own localMac id (.nodeReport stateTaken originMac report nowMilliseconds))
      (plant.next localMac (.nodeReport stateTaken originMac report nowMilliseconds)) base kept := by
  by_cases hcounted : Counted stateTaken originMac report id
  · have hown : plant.own localMac id (.nodeReport stateTaken originMac report nowMilliseconds) =
        (plant.central.registry.viewOf id.macAddress).announced report.page id.relayPin := if_pos hcounted
    obtain ⟨rfl, rfl, hmac, hnumber⟩ := hcounted
    have hfields := applyNodeReport_fields plant hmac hnumber nowMilliseconds
    rw [hown]
    obtain hkept | ⟨hnone, hdropped⟩ :=
      View.applyPage_contents_cases report.page (plant.central.registry.viewOf id.macAddress) id.relayPin
    · rw [hkept, ← copy_fields] at hfields
      exact ⟨_, _, .inr (nodeReport_copy hmac nowMilliseconds), hfields, .inr ⟨rfl, rfl⟩⟩
    · rw [hdropped] at hfields
      exact ⟨_, none, .inr (nodeReport_copy hmac nowMilliseconds), by rw [hfields, hnone]; rfl, .inl rfl⟩
  · have hown : plant.own localMac id (.nodeReport stateTaken originMac report nowMilliseconds) = none :=
      if_neg hcounted
    obtain ⟨hcopy, -⟩ := nodeReport_of_not_counted localMac plant hcounted nowMilliseconds
    rw [hown]
    exact ⟨plant.copy id, _, hcopy, rfl, .inr ⟨rfl, rfl⟩⟩

/-- A command for another load leaves this one alone. -/
theorem loadCommand_untouched {request : LoadCommandRequest} (hother : request.id ≠ id) (stateTaken : Bool)
    (answers : FlashAnswers) :
    Untouched plant (plant.next localMac (.loadCommand stateTaken answers request)) id := by
  rw [CentralPlant.next]
  by_cases hattempted : ∃ load, Attempted localMac stateTaken request plant.commandState load
  · obtain ⟨load, hattempted⟩ := hattempted
    rw [hattempted.handleLoadCommand]
    refine ⟨?_, (hattempted.findConfiguration id).trans (if_neg (Ne.symm hother)), ?_⟩
    · exact (CentralNodeRegistry.updateLoad_findLoad _ request.id id _).trans (if_neg (Ne.symm hother))
    · exact CentralNodeRegistry.viewOf_named_updatePlanningNode (fun _ => rfl) _ _ _
  · rw [(handleLoadCommand_of_not_attempted answers fun load hload => hattempted ⟨load, hload⟩).1]
    exact ⟨rfl, rfl, rfl⟩

/-- An acknowledgement removes the load it names, or leaves the load alone. -/
theorem acknowledge_cases (localMac : MacAddress) (plant : CentralPlant) (id : Load.Id)
    (pendingHardwareCommands : List PendingHardwareCommand) (stateTaken : Bool)
    (answers : FlashAnswers) (originMac : MacAddress) (acknowledgement : ConfigureLoadAcknowledgementPacket) :
    (id = ⟨originMac, acknowledgement.relayPin⟩ ∧ (plant.next localMac
        (.acknowledge pendingHardwareCommands stateTaken answers originMac acknowledgement)).copy id = none) ∨
      Untouched plant
        (plant.next localMac (.acknowledge pendingHardwareCommands stateTaken answers originMac acknowledgement)) id := by
  rw [CentralPlant.next]
  obtain hsame | hremoved := handleHardwareConfigurationAcknowledgement_commandState
    ⟨plant.commandState, pendingHardwareCommands⟩ stateTaken answers originMac acknowledgement
  · rw [hsame]
    exact .inr ⟨rfl, rfl, rfl⟩
  · rw [hremoved]
    have hcopy := plant.central.registry.removeLoad_findLoad ⟨originMac, acknowledgement.relayPin⟩ id
    by_cases hid : id = ⟨originMac, acknowledgement.relayPin⟩
    · exact .inl ⟨hid, hcopy.trans (if_pos hid)⟩
    · exact .inr ⟨hcopy.trans (if_neg hid), LoadConfigurationStore.removeConfiguration_findConfiguration_of_ne hid _,
        CentralNodeRegistry.viewOf_named_updatePlanningNode (fun _ => rfl) _ _ _⟩

/-- A decommissioning leaves every copy and every override alone. -/
theorem decommission_untouched (stateTaken : Bool) (answers : FlashAnswers) (nodeMacAddress : MacAddress) :
    Untouched plant (plant.next localMac (.decommission stateTaken answers nodeMacAddress)) id := by
  rw [CentralPlant.next, LoadCommandState.handleDecommissionNode]
  split
  · exact ⟨rfl, rfl, rfl⟩
  split
  · exact ⟨rfl, rfl, rfl⟩
  dsimp only
  split
  · exact ⟨rfl, rfl, rfl⟩
  · exact ⟨rfl, rfl, rfl⟩

/-- The copies of Central's own loads are replaced by the loads themselves. -/
theorem Replaced.of_addLocalCentralNode {registry : CentralNodeRegistry} {after : CentralPlant}
    {nodeName : List UInt8} {nowMilliseconds : UInt32}
    (hregistry : after.central.registry = registry.addLocalCentralNode nodeName after.hardware.node nowMilliseconds)
    (hmac : id.macAddress = after.hardware.node.macAddress) : Replaced after id := by
  refine ⟨hmac, ?_⟩
  rw [CentralPlant.localFields, if_pos hmac, CentralPlant.copy, hregistry,
    CentralNodeRegistry.addLocalCentralNode_findLoad, if_pos hmac]

theorem replaced_of_addLocalCentralNode (id : Load.Id) (plant after : CentralPlant) {nodeName : List UInt8}
    {nowMilliseconds : UInt32} (hregistry : after.central.registry =
      plant.central.registry.addLocalCentralNode nodeName after.hardware.node nowMilliseconds)
    (hentry : id.macAddress ≠ after.hardware.node.macAddress → after.entry id = plant.entry id) :
    Untouched plant after id ∧ after.localFields id = none ∨ Replaced after id := by
  by_cases hmac : id.macAddress = after.hardware.node.macAddress
  · exact .inr (.of_addLocalCentralNode hregistry hmac)
  · have hcopy := plant.central.registry.addLocalCentralNode_findLoad nodeName after.hardware.node nowMilliseconds id
    rw [← hregistry] at hcopy
    refine .inl ⟨⟨hcopy.trans (if_neg hmac), hentry hmac, ?_⟩, if_neg hmac⟩
    apply CentralNodeRegistry.viewOf_named_congr
    rw [hregistry, CentralNodeRegistry.findNodeByMacAddress_addLocalCentralNode _ _ _ _ _ hmac]

/-- A local command is refused, or replaces the copies of Central's own loads. -/
theorem withRuntime_cases (id : Load.Id) (plant : CentralPlant) (nowMilliseconds : UInt32) {accepted : Bool}
    {runtime : CentralRuntime} (hrefused : accepted = false → runtime.commandState = plant.commandState)
    (hregistry : accepted = true → runtime.commandState.registry =
      plant.central.registry.addLocalCentralNode CENTRAL_NODE_NAME runtime.hardware.node nowMilliseconds)
    (hentry : accepted = true → id.macAddress ≠ runtime.hardware.node.macAddress →
      (plant.withRuntime runtime).entry id = plant.entry id) :
    let told := if accepted then (plant.withRuntime runtime).localFields id else none
    Untouched plant (plant.withRuntime runtime) id ∧ told = none ∨
      Replaced (plant.withRuntime runtime) id ∧ told = (plant.withRuntime runtime).localFields id := by
  cases accepted with
  | false =>
    refine .inl ⟨?_, rfl⟩
    rw [CentralPlant.withRuntime, hrefused rfl]
    exact ⟨rfl, rfl, rfl⟩
  | true =>
    obtain hsame | hreplaced := replaced_of_addLocalCentralNode id plant (plant.withRuntime runtime) (hregistry rfl)
      (hentry rfl)
    · exact .inl hsame
    · exact .inr ⟨hreplaced, rfl⟩

/-- Accepted, the whole node is copied anew; refused, nothing changes. -/
theorem configureLocally_cases (localMac : MacAddress) (plant : CentralPlant) (id : Load.Id)
    (answers : ConfigureAnswers) (nowMilliseconds : UInt32) (configuration : LoadConfiguration) :
    let event := SettingsEvent.configureLocally answers nowMilliseconds configuration
    Untouched plant (plant.next localMac event) id ∧ plant.own localMac id event = none ∨
      Replaced (plant.next localMac event) id ∧
        plant.own localMac id event = (plant.next localMac event).localFields id := by
  have hcommandState := configureLocalLoad_commandState answers nowMilliseconds configuration plant.runtime
  refine withRuntime_cases id plant nowMilliseconds (fun hrefused => ?_) (fun haccepted => ?_)
    fun haccepted _ => ?_
  · rw [hcommandState, hrefused]
    rfl
  · rw [hcommandState, haccepted]
    rfl
  · rw [CentralPlant.withRuntime, hcommandState, haccepted]
    rfl

/-- The same for a removal, which also drops the override of the load. -/
theorem removeLocally_cases (hsound : plant.Sound localMac) (id : Load.Id) (answers : RemoveAnswers)
    (settingsFlash : FlashAnswers) (nowMilliseconds : UInt32) (relayPin : UInt8) :
    let event := SettingsEvent.removeLocally answers settingsFlash nowMilliseconds relayPin
    Untouched plant (plant.next localMac event) id ∧ plant.own localMac id event = none ∨
      Replaced (plant.next localMac event) id ∧
        plant.own localMac id event = (plant.next localMac event).localFields id := by
  have hcommandState := removeLocalLoad_commandState localMac answers settingsFlash nowMilliseconds relayPin
    plant.runtime
  refine withRuntime_cases id plant nowMilliseconds (fun hrefused => ?_) (fun haccepted => ?_)
    fun haccepted hmac => ?_
  · rw [hcommandState, hrefused]
    rfl
  · rw [hcommandState, haccepted]
    rfl
  · have hnode := (congrArg Node.macAddress (removeLocalLoad_accepted haccepted).node).trans hsound.macAddress
    have hother : id ≠ ⟨localMac, relayPin⟩ := fun hid => hmac ((congrArg Load.Id.macAddress hid).trans hnode.symm)
    rw [CentralPlant.withRuntime, hcommandState, haccepted]
    exact LoadConfigurationStore.removeConfiguration_findConfiguration_of_ne hother _

/-- A copy that was replaced is a copy of what the Node tells. -/
theorem Replaced.leaves {after : CentralPlant} (hreplaced : Replaced after id) :
    Leaves plant id (after.localFields id) after (after.copy id) none :=
  ⟨.inl rfl, by rw [hreplaced.fields, Option.or_none], .inl rfl⟩

/-- After a restart only the loads of Central itself are there, with the overrides that
the flash holds. -/
theorem restart_registry (localMac : MacAddress) (plant : CentralPlant) (globals : CentralState)
    (answers : UInt8 → GpioAnswers) (nowMilliseconds : UInt32) :
    (plant.next localMac (.restart globals answers nowMilliseconds)).central.registry =
      (CentralNodeRegistry.empty.addLocalCentralNode CENTRAL_NODE_NAME
        (plant.next localMac (.restart globals answers nowMilliseconds)).hardware.node nowMilliseconds).mapLoads
          (Central.storedSettingsUpdate plant.overridesFlash) :=
  Central.applyStoredLoadSettings_eq _ _

/-- After a restart there are copies of Central's own loads only. -/
theorem restart_copy (globals : CentralState) (answers : UInt8 → GpioAnswers) (nowMilliseconds : UInt32) :
    (plant.next localMac (.restart globals answers nowMilliseconds)).copy id =
      (if id.macAddress = (plant.next localMac (.restart globals answers nowMilliseconds)).hardware.node.macAddress then
        (plant.next localMac (.restart globals answers nowMilliseconds)).hardware.node.getLoadByRelayPin id.relayPin
      else none).map fun load => (plant.overridesFlash.applyToLoad load).1 := by
  rw [CentralPlant.copy, restart_registry, CentralNodeRegistry.mapLoads_findLoad,
    CentralNodeRegistry.addLocalCentralNode_findLoad]
  rfl

/-- A restart keeps no copy of a Smart Node's load, and the overrides of the flash. -/
theorem leaves_restart (localMac : MacAddress) (plant : CentralPlant) (id : Load.Id) (globals : CentralState)
    (answers : UInt8 → GpioAnswers) (nowMilliseconds : UInt32) :
    ∃ base, Leaves plant id (plant.own localMac id (.restart globals answers nowMilliseconds))
      (plant.next localMac (.restart globals answers nowMilliseconds)) base none := by
  refine ⟨_, .inr (restart_copy globals answers nowMilliseconds), ?_, .inl rfl⟩
  rw [Option.or_none, CentralPlant.own, CentralPlant.localFields]
  split
  · rfl
  · rfl

/-- Every event but a page of a report, a cycle and a command for the load. -/
theorem own_cases (hsound : plant.Sound localMac) {event : SettingsEvent} (hreports : event.reports = false)
    (hplans : event.plans = false) (hcommands : event.commands id = false) :
    plant.own localMac id event = none ∧
        ((plant.next localMac event).copy id = none ∨ Untouched plant (plant.next localMac event) id) ∨
      id.macAddress = localMac ∧
        ∃ base, Leaves plant id (plant.own localMac id event) (plant.next localMac event) base none := by
  have hmac := (hsound.next event).macAddress
  cases event with
  | nodeReport => cases hreports
  | cycle => cases hplans
  | loadCommand stateTaken answers request =>
    exact .inl ⟨rfl, .inr (loadCommand_untouched (of_decide_eq_false hcommands) stateTaken answers)⟩
  | acknowledge pendingHardwareCommands stateTaken answers originMac acknowledgement =>
    exact .inl ⟨rfl, (acknowledge_cases localMac plant id pendingHardwareCommands stateTaken answers originMac
      acknowledgement).imp_left And.right⟩
  | configureLocally answers nowMilliseconds configuration =>
    obtain ⟨huntouched, hown⟩ | ⟨hreplaced, hown⟩ := configureLocally_cases localMac plant id answers
      nowMilliseconds configuration
    · exact .inl ⟨hown, .inr huntouched⟩
    · exact .inr ⟨hreplaced.macAddress.trans hmac, _, hown ▸ hreplaced.leaves⟩
  | removeLocally answers settingsFlash nowMilliseconds relayPin =>
    obtain ⟨huntouched, hown⟩ | ⟨hreplaced, hown⟩ := removeLocally_cases hsound id answers settingsFlash
      nowMilliseconds relayPin
    · exact .inl ⟨hown, .inr huntouched⟩
    · exact .inr ⟨hreplaced.macAddress.trans hmac, _, hown ▸ hreplaced.leaves⟩
  | decommission stateTaken answers nodeMacAddress =>
    exact .inl ⟨rfl, .inr (decommission_untouched stateTaken answers nodeMacAddress)⟩
  | restart globals answers nowMilliseconds =>
    by_cases hid : id.macAddress = localMac
    · exact .inr ⟨hid, leaves_restart localMac plant id globals answers nowMilliseconds⟩
    · rw [CentralPlant.own, CentralPlant.localFields, restart_copy, hmac, if_neg hid, if_neg hid]
      exact .inl ⟨rfl, .inl rfl⟩
  | other globals => exact .inl ⟨rfl, .inr ⟨rfl, rfl, rfl⟩⟩

/-- Every event but a cycle and a command for the load. -/
theorem exists_leaves (hsound : plant.Sound localMac) {event : SettingsEvent} (hplans : event.plans = false)
    (hcommands : event.commands id = false) :
    ∃ base kept, Leaves plant id (plant.own localMac id event) (plant.next localMac event) base kept := by
  cases hreports : event.reports with
  | true =>
    obtain ⟨stateTaken, originMac, report, nowMilliseconds, rfl⟩ := SettingsEvent.reports_iff.mp hreports
    exact leaves_nodeReport stateTaken originMac report nowMilliseconds
  | false =>
    obtain ⟨hown, hnone | huntouched⟩ | ⟨-, base, hleaves⟩ := own_cases hsound hreports hplans hcommands
    · rw [hown]
      exact ⟨none, none, .of_none hnone⟩
    · rw [hown]
      exact ⟨_, _, huntouched.leaves⟩
    · exact ⟨base, none, hleaves⟩

theorem copy_id {load : Load} (hcopy : plant.copy id = some load) : load.id = id :=
  (CentralNodeRegistry.findLoad_eq_some_iff.mp hcopy).2

/-- A load without an override is left as it is. -/
theorem Leaves.copy_of_entry_none {after : CentralPlant} {own kept : Option LoadFields} {base : Option Load}
    (hleaves : Leaves plant id own after base kept) (hentry : after.entry id = none) : after.copy id = base := by
  obtain hcopy | hcopy := hleaves.copy
  · exact hcopy
  · rw [hcopy]
    refine (Option.map_congr fun load hload => ?_).trans Option.map_id'
    have hid : (after.central.centralLoadConfigurationStore.applyToLoad load).1.id = id :=
      copy_id (hcopy.trans (by rw [hload, Option.map_some]))
    rw [LoadConfigurationStore.applyToLoad_id] at hid
    subst hid
    exact LoadConfigurationStore.applyToLoad_of_none hentry

/-- The overrides leave a load with given settings exactly if the override that it has
agrees with them. -/
theorem applyToLoad_agree_iff (hsound : plant.Sound localMac) {load : Load} (hid : load.id = id)
    {settings : LoadSettings} (hwellFormed : settings.WellFormed)
    (hunstored : plant.entry id = none → load.settings.Agree settings) :
    (plant.central.centralLoadConfigurationStore.applyToLoad load).1.settings.Agree settings ↔
      ∀ entry, plant.entry id = some entry → entry.AgreesWith settings := by
  subst hid
  cases hentry : plant.entry load.id with
  | none =>
    rw [LoadConfigurationStore.applyToLoad_of_none hentry]
    exact iff_of_true (hunstored hentry) fun _ => nofun
  | some entry =>
    have hvalid := hsound.overrides.findConfiguration hentry
    rw [LoadConfigurationStore.applyToLoad_agree_iff hentry hvalid hwellFormed]
    constructor
    · rintro hagrees other hother
      obtain rfl := Option.some.inj hother
      exact hagrees
    · intro hall
      exact hall entry rfl

/-- What Central plans a load with. -/
theorem plannedRegistry_findLoad (plant : CentralPlant) (id : Load.Id) :
    plant.central.plannedRegistry.findLoad id.macAddress id.relayPin =
      (plant.copy id).map fun load => (plant.central.centralLoadConfigurationStore.applyToLoad load).1 := by
  rw [CentralState.plannedRegistry_eq, CentralNodeRegistry.mapLoads_findLoad]
  rfl

/-- A cycle keeps the configuration that it has planned with. -/
theorem runCycle_copy (plant : CentralPlant) (id : Load.Id) (clock : CycleClock) (answers : FlashAnswers) :
    ∃ update : Load → Load, (∀ load, CentralState.KeepsConfiguration load (update load)) ∧
      (plant.runCycle clock answers).copy id = (plant.copy id).map fun load =>
        update (plant.central.centralLoadConfigurationStore.applyToLoad load).1 := by
  obtain ⟨update, hregistry, hkeeps⟩ := (plant.central.autoPass_keeps clock).loads
  refine ⟨update.apply, hkeeps, ?_⟩
  have hsame : (plant.runCycle clock answers).central.registry = (plant.central.autoPass clock).registry := rfl
  rw [CentralPlant.copy, hsame, hregistry, CentralNodeRegistry.mapLoads_findLoad, plannedRegistry_findLoad,
    Option.map_map]
  rfl

/-- A cycle leaves alone what is named of the reports. -/
theorem runCycle_named (clock : CycleClock) (answers : FlashAnswers) (macAddress : MacAddress) :
    ((plant.runCycle clock answers).central.registry.viewOf macAddress).named =
      (plant.central.registry.viewOf macAddress).named := by
  have hregistry : (plant.runCycle clock answers).central.registry = (plant.central.autoPass clock).registry := rfl
  rw [hregistry, CentralState.autoPass_registry, CentralNodeRegistry.viewOf_named_mapLoads,
    CentralState.plannedRegistry_eq, CentralNodeRegistry.viewOf_named_mapLoads]

/-- A cycle keeps an override, or stores the state of an AUTO load. -/
theorem runCycle_entry (plant : CentralPlant) (id : Load.Id) (clock : CycleClock) (answers : FlashAnswers) :
    (plant.runCycle clock answers).entry id = plant.entry id ∨
      ∃ entry, (plant.runCycle clock answers).entry id = some entry ∧
        CentralState.IsRuntimeEntry plant.central.plannedRegistry id entry :=
  (plant.central.autoPass_keeps clock).overrides id

/-- A load without an override had none before the cycle, and keeps its configuration. -/
theorem runCycle_of_entry_none {clock : CycleClock} {answers : FlashAnswers}
    (hentry : (plant.runCycle clock answers).entry id = none) :
    plant.entry id = none ∧ ∃ update : Load → Load, (∀ load, CentralState.KeepsConfiguration load (update load)) ∧
      (plant.runCycle clock answers).copy id = (plant.copy id).map update := by
  obtain hsame | ⟨entry, hstored, -⟩ := runCycle_entry plant id clock answers
  · have hunstored := hsame.symm.trans hentry
    obtain ⟨update, hkeeps, hcopy⟩ := runCycle_copy plant id clock answers
    refine ⟨hunstored, update, hkeeps, hcopy.trans (Option.map_congr fun load hload => ?_)⟩
    obtain rfl := copy_id hload
    rw [LoadConfigurationStore.applyToLoad_of_none hunstored]
  · rw [hstored] at hentry
    cases hentry

/-- The overrides after a command that is not refused. -/
theorem Attempted.next_overrides {stateTaken : Bool} {request : LoadCommandRequest} {load : Load}
    (hattempted : Attempted localMac stateTaken request plant.commandState load) (answers : FlashAnswers) :
    (plant.next localMac (.loadCommand stateTaken answers request)).central.centralLoadConfigurationStore =
      plant.commandState.commandedStore request load := by
  rw [CentralPlant.next, hattempted.handleLoadCommand]
  rfl

/-- The commanded load takes its override. -/
theorem Attempted.next_copy {stateTaken : Bool} {request : LoadCommandRequest} {load : Load}
    (hattempted : Attempted localMac stateTaken request plant.commandState load) (answers : FlashAnswers) :
    (plant.next localMac (.loadCommand stateTaken answers request)).copy request.id =
      some ((plant.next localMac (.loadCommand stateTaken answers
        request)).central.centralLoadConfigurationStore.applyToLoad load).1 := by
  rw [hattempted.next_overrides, CentralPlant.next, hattempted.handleLoadCommand]
  refine (CentralNodeRegistry.updateLoad_findLoad _ request.id request.id _).trans ?_
  rw [if_pos rfl]
  exact congrArg (Option.map _) hattempted.findLoad

/-- A Node tells of the loads of its hardware, or of those in a report, which are checked. -/
theorem own_origin {event : SettingsEvent} {fields : LoadFields} (hown : plant.own localMac id event = some fields) :
    (∃ load ∈ (plant.next localMac event).hardware.node.loads, fields = load.fields) ∨
      ∃ report : LoadReportPacket, report.validLoadReport = true ∧ fields = report.fields := by
  have hlocal : (plant.next localMac event).localFields id = some fields →
      ∃ load ∈ (plant.next localMac event).hardware.node.loads, fields = load.fields := by
    intro hfields
    rw [CentralPlant.localFields] at hfields
    split at hfields
    · obtain ⟨load, hload, rfl⟩ := Option.map_eq_some_iff.mp hfields
      exact ⟨load, (Node.getLoadByRelayPin_eq_some_iff.mp hload).1, rfl⟩
    · cases hfields
  cases event with
  | nodeReport stateTaken originMac report nowMilliseconds =>
    rw [CentralPlant.own] at hown
    split at hown
    · rw [View.announced] at hown
      split at hown
      · cases hown
      · obtain ⟨sent, hsent, hentry⟩ := List.mem_map.mp (mem_of_overwrite hown)
        obtain rfl := (Prod.mk.inj hentry).2
        exact .inr ⟨sent, (List.mem_filter.mp hsent).2, rfl⟩
    · cases hown
  | configureLocally answers nowMilliseconds configuration =>
    rw [CentralPlant.own] at hown
    split at hown
    · exact .inl (hlocal hown)
    · cases hown
  | removeLocally answers settingsFlash nowMilliseconds relayPin =>
    rw [CentralPlant.own] at hown
    split at hown
    · exact .inl (hlocal hown)
    · cases hown
  | restart globals answers nowMilliseconds => exact .inl (hlocal hown)
  | cycle | loadCommand | acknowledge | decommission | other => cases hown

/-- A Node only tells of well-formed loads. -/
theorem own_wellFormed (hsound : plant.Sound localMac) {event : SettingsEvent} {fields : LoadFields}
    (hown : plant.own localMac id event = some fields) : fields.settings.WellFormed := by
  obtain ⟨load, hload, rfl⟩ | ⟨report, hvalid, rfl⟩ := own_origin hown
  · exact (hsound.next event).loads load hload
  · exact LoadReportPacket.fields_wellFormed hvalid

/-- What Nodes tell of a load has a property that overrides and cycles keep. Then every
event keeps it of Central's copy. -/
theorem next_copy_fields (hsound : plant.Sound localMac) {event : SettingsEvent} {holds : LoadFields → Prop}
    (hown : ∀ fields, plant.own localMac id event = some fields → holds fields)
    (happlied : ∀ store : LoadConfigurationStore, store = plant.central.centralLoadConfigurationStore ∨
      store = (plant.next localMac event).central.centralLoadConfigurationStore →
        ∀ load : Load, load.id = id → holds load.fields → holds (store.applyToLoad load).1.fields)
    (hkeeps : ∀ before after, CentralState.KeepsConfiguration before after → holds before.fields → holds after.fields)
    (hbefore : ∀ load, plant.copy id = some load → holds load.fields) :
    ∀ load, (plant.next localMac event).copy id = some load → holds load.fields := by
  intro load hload
  by_cases hplans : event.plans = true
  · obtain ⟨clock, answers, rfl⟩ := SettingsEvent.plans_iff.mp hplans
    obtain ⟨update, hupdate, hcopy⟩ := runCycle_copy plant id clock answers
    rw [CentralPlant.next, hcopy] at hload
    obtain ⟨before, hfound, rfl⟩ := Option.map_eq_some_iff.mp hload
    exact hkeeps _ _ (hupdate _) (happlied _ (.inl rfl) before (copy_id hfound) (hbefore before hfound))
  by_cases hcommands : event.commands id = true
  · cases event with
    | loadCommand stateTaken answers request =>
      obtain rfl : request.id = id := of_decide_eq_true hcommands
      by_cases hattempted : ∃ load, Attempted localMac stateTaken request plant.commandState load
      · obtain ⟨before, hattempted⟩ := hattempted
        obtain rfl := Option.some.inj ((hattempted.next_copy answers).symm.trans hload)
        have hfound : plant.copy request.id = some before := hattempted.findLoad
        exact happlied _ (.inr rfl) before (copy_id hfound) (hbefore before hfound)
      · rw [CentralPlant.next,
          (handleLoadCommand_of_not_attempted answers fun load hload => hattempted ⟨load, hload⟩).1] at hload
        exact hbefore load hload
    | nodeReport | cycle | acknowledge | configureLocally | removeLocally | decommission | restart | other =>
      cases hcommands
  · obtain ⟨base, kept, hleaves⟩ := exists_leaves hsound (Bool.eq_false_of_not_eq_true hplans)
      (Bool.eq_false_of_not_eq_true hcommands)
    have hbase : ∀ found, base = some found → holds found.fields := by
      rintro found rfl
      have hfields := hleaves.fields.symm
      rw [Option.map_some, Option.or_eq_some_iff] at hfields
      obtain hown' | ⟨-, hkept⟩ := hfields
      · exact hown found.fields hown'
      · obtain hnone | ⟨hsame, -⟩ := hleaves.kept
        · rw [hnone] at hkept
          cases hkept
        · obtain ⟨before, hfound, heq⟩ := Option.map_eq_some_iff.mp (hsame.symm.trans hkept)
          exact heq ▸ hbefore before hfound
    obtain hcopy | hcopy := hleaves.copy
    · exact hbase load (hcopy.symm.trans hload)
    · obtain ⟨found, hfound, rfl⟩ := Option.map_eq_some_iff.mp (hcopy.symm.trans hload)
      have hid := copy_id hload
      rw [LoadConfigurationStore.applyToLoad_id] at hid
      exact happlied _ (.inr rfl) found hid (hbase found hfound)

end Effects

section Runs

/-- A Central without own loads and without a battery, next to a Smart Node. -/
def smartNodePlant : CentralPlant where
  central := { CentralState.threeLoadPlant with
    registry := oneHopRegistry
    commissioningRegistry := oneHopCommissioning
    configuration := { CentralState.threeLoadPlant.configuration with powerPlanning := ⟨false, 0, 0, 0, 0⟩ } }
  overridesFlash := ⟨[]⟩
  hardware := ⟨⟨.empty, .empty⟩, .empty, .make (Vector.replicate 6 1)⟩

theorem smartNodePlant_sound : smartNodePlant.Sound (Vector.replicate 6 1) :=
  ⟨rfl, List.forall_mem_nil _, List.forall_mem_nil _, List.forall_mem_nil _⟩

/-- A load of the Smart Node of the plant. -/
def pumpId : Load.Id := ⟨Vector.replicate 6 2, 4⟩

/-- The report of a load on the pin of the pump. -/
def pinReport (mode : LoadMode) (priority : UInt16) (schedule : AutoSchedule) : LoadReportPacket where
  name := CharBuffer.zero.print [80, 117, 109, 112]
  relayPin := 4
  mode := mode.toByte
  powerType := 0
  priority
  powerRatingWatts := .finite 60
  scheduleEnabled := if schedule.enabled then 1 else 0
  scheduleStartHour := schedule.startHour
  scheduleStartMinute := schedule.startMinute
  scheduleEndHour := schedule.endHour
  scheduleEndMinute := schedule.endMinute

/-- The Smart Node sends a report of one page. -/
def smartNodeReport (reportSequenceId : UInt16) (reports : List LoadReportPacket) : SettingsEvent :=
  .nodeReport true (Vector.replicate 6 2)
    { nodeName := .zero
      nodeMacAddress := Vector.replicate 6 2
      upstreamNodeMacAddress := Vector.replicate 6 1
      hopCountToCentral := 1
      numberOfLoads := UInt8.ofNat reports.length
      reportSequenceId
      pageIndex := 0
      totalPages := 1
      loads := LoadReportPacket.packed reports } 0

def noonCycle : SettingsEvent := .cycle CentralState.noonClock .succeeding

end Runs

end kilowatts
