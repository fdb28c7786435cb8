import Kilowatts.Central.CentralPlant
import Kilowatts.NodeManager.ConsistentLoads

namespace kilowatts

namespace LoadConfigurationStore

/-- The fields of a load with its override. -/
def appliedFields (store : LoadConfigurationStore) (load : Load) : LoadFields := (store.applyToLoad load).1.fields

variable {store : LoadConfigurationStore} {load : Load}

/-- An override replaces all fields that a user can change. -/
theorem appliedFields_of_some {entry : ConfigurationEntry}
    (hfind : store.findConfiguration load.id.macAddress load.id.relayPin = some entry)
    (hdeclared : entry.mode.isDeclared = true) (hvalid : entry.schedule.isValidSchedule = true) :
    store.appliedFields load =
      { name := load.name
        mode := entry.mode
        powerType := load.powerType
        priority := entry.priority
        powerRatingWatts := load.powerRatingWatts
        schedule := if entry.mode = .FIXED_ON ∨ entry.mode = .FIXED_OFF then .none else entry.schedule } := by
  rw [appliedFields, applyToLoad_eq hfind]
  cases hmode : entry.mode with
  | FIXED_ON => simp [Load.fields, Load.withSettings, ConfigurationEntry.settings, hmode]
  | FIXED_OFF => simp [Load.fields, Load.withSettings, ConfigurationEntry.settings, hmode]
  | AUTO_ON => simp [Load.fields, Load.withSettings, ConfigurationEntry.settings, hmode, hvalid]
  | AUTO_OFF => simp [Load.fields, Load.withSettings, ConfigurationEntry.settings, hmode, hvalid]
  | undeclared byte hbyte =>
    rw [hmode] at hdeclared
    cases hdeclared

theorem appliedFields_of_none
    (hfind : store.findConfiguration load.id.macAddress load.id.relayPin = none) :
    store.appliedFields load = load.fields :=
  congrArg Load.fields (applyToLoad_of_none hfind)

end LoadConfigurationStore

/-- The fields of a load that no override changes. -/
structure SameEquipment (first second : Load) : Prop where
  name : first.name = second.name
  powerType : first.powerType = second.powerType
  powerRatingWatts : first.powerRatingWatts = second.powerRatingWatts

/-- What equipment is the same does not depend on settings. -/
theorem SameEquipment.trans {first second third : Load} (hfirst : SameEquipment first second)
    (hsecond : SameEquipment second third) : SameEquipment first third :=
  ⟨hfirst.name.trans hsecond.name, hfirst.powerType.trans hsecond.powerType,
    hfirst.powerRatingWatts.trans hsecond.powerRatingWatts⟩

namespace CentralState

variable {before after : Load}

theorem KeepsConfiguration.sameEquipment (hkeeps : KeepsConfiguration before after) : SameEquipment after before := by
  rw [hkeeps.rest]
  exact ⟨rfl, rfl, rfl⟩

/-- With its mode, a load keeps all that its settings show. -/
theorem KeepsConfiguration.fields_of_mode (hkeeps : KeepsConfiguration before after) (hmode : after.mode = before.mode) :
    after.fields = before.fields := by
  rw [hkeeps.rest, Load.fields, hmode]
  rfl

end CentralState

namespace LoadConfigurationStore

variable {store : LoadConfigurationStore} {first second : Load}

/-- An override changes settings, never equipment. -/
theorem applyToLoad_sameEquipment (store : LoadConfigurationStore) (load : Load) :
    SameEquipment (store.applyToLoad load).1 load := by
  cases hfind : store.findConfiguration load.getMacAddress load.getRelayPin with
  | none =>
    rw [applyToLoad_of_none hfind]
    exact ⟨rfl, rfl, rfl⟩
  | some entry =>
    rw [applyToLoad_eq hfind]
    exact ⟨rfl, rfl, rfl⟩

theorem sameEquipment_of_appliedFields (happlied : store.appliedFields first = store.appliedFields second) :
    SameEquipment first second := by
  have hfirst := store.applyToLoad_sameEquipment first
  have hsecond := store.applyToLoad_sameEquipment second
  exact ⟨hfirst.name.symm.trans ((congrArg LoadFields.name happlied).trans hsecond.name),
    hfirst.powerType.symm.trans ((congrArg LoadFields.powerType happlied).trans hsecond.powerType),
    hfirst.powerRatingWatts.symm.trans
      ((congrArg LoadFields.powerRatingWatts happlied).trans hsecond.powerRatingWatts)⟩

/-- The override of the load, if it has one, is one that replaces all it can. -/
def Replaces (store : LoadConfigurationStore) (id : Load.Id) : Prop :=
  ∀ entry, store.findConfiguration id.macAddress id.relayPin = some entry →
    entry.mode.isDeclared = true ∧ entry.schedule.isValidSchedule = true

/-- Under one override it does not matter what two states of a load had for settings. -/
theorem appliedFields_congr (hreplaces : store.Replaces first.id) (hid : first.id = second.id)
    (hsame : SameEquipment first second)
    (hunstored : store.findConfiguration first.id.macAddress first.id.relayPin = none → first.fields = second.fields) :
    store.appliedFields first = store.appliedFields second := by
  cases hfind : store.findConfiguration first.id.macAddress first.id.relayPin with
  | none => rw [appliedFields_of_none hfind, appliedFields_of_none (hid ▸ hfind), hunstored hfind]
  | some entry =>
    obtain ⟨hdeclared, hvalid⟩ := hreplaces entry hfind
    rw [appliedFields_of_some hfind hdeclared hvalid, appliedFields_of_some (hid ▸ hfind) hdeclared hvalid, hsame.name,
      hsame.powerType, hsame.powerRatingWatts]

/-- Overrides that are applied already change nothing more. -/
theorem appliedFields_applyToLoad {load : Load} (hreplaces : store.Replaces load.id) :
    store.appliedFields (store.applyToLoad load).1 = store.appliedFields load := by
  have hid := store.applyToLoad_id load
  refine appliedFields_congr (hid.symm ▸ hreplaces) hid (store.applyToLoad_sameEquipment load) fun hnone => ?_
  rw [hid] at hnone
  rw [applyToLoad_of_none hnone]

end LoadConfigurationStore

namespace CentralNodeRegistry

/-- If the registry has an entry for the address, it is that of Central itself. -/
def IsCentral (registry : CentralNodeRegistry) (macAddress : MacAddress) : Prop :=
  ∀ planningNode, registry.findNodeByMacAddress macAddress = some planningNode → planningNode.isCentralNode = true

variable {registry : CentralNodeRegistry} {macAddress : MacAddress}

/-- Needs the update to leave the role of the node alone, if it is for this node. -/
theorem IsCentral.updatePlanningNode (hcentral : registry.IsCentral macAddress) (updated : MacAddress)
    {update : PlanningNodeUpdate} (hkeeps : updated = macAddress →
      ∀ planningNode, (update.apply planningNode).isCentralNode = planningNode.isCentralNode) :
    (registry.updatePlanningNode updated update).IsCentral macAddress := by
  intro planningNode hfind
  rw [findNodeByMacAddress_updatePlanningNode] at hfind
  split at hfind
  · rename_i hmac
    obtain ⟨before, hbefore, rfl⟩ := Option.map_eq_some_iff.mp hfind
    exact (hkeeps hmac.symm before).trans (hcentral before hbefore)
  · exact hcentral planningNode hfind

theorem IsCentral.mapLoads (hcentral : registry.IsCentral macAddress) (update : LoadUpdate) :
    (registry.mapLoads update).IsCentral macAddress := by
  intro planningNode hfind
  rw [findNodeByMacAddress_mapLoads] at hfind
  obtain ⟨before, hbefore, rfl⟩ := Option.map_eq_some_iff.mp hfind
  exact hcentral before hbefore

theorem IsCentral.addLocalCentralNode (hcentral : registry.IsCentral macAddress) (nodeName : List UInt8)
    (centralNode : Node) (nowMilliseconds : UInt32) :
    (registry.addLocalCentralNode nodeName centralNode nowMilliseconds).IsCentral macAddress := by
  intro planningNode hfind
  by_cases hmac : macAddress = centralNode.macAddress
  · subst hmac
    have hadded := hfind.symm.trans ((KeyedList.lookup_put _ registry.planningNodes _).trans (if_pos rfl))
    rw [Option.some.inj hadded]
  · rw [findNodeByMacAddress_addLocalCentralNode _ _ _ _ _ hmac] at hfind
    exact hcentral planningNode hfind

theorem isCentral_empty (macAddress : MacAddress) : empty.IsCentral macAddress := by
  intro planningNode hfind
  cases hfind

end CentralNodeRegistry

namespace SettingsEvent

/-- The event is about Central's own loads, or comes from another Node. The parsers
know no mode that is not declared. -/
def Admissible (localMac : MacAddress) : SettingsEvent → Prop
  | .nodeReport _ originMac _ _ => originMac ≠ localMac
  | .acknowledge _ _ _ originMac _ => originMac ≠ localMac
  | .loadCommand _ _ request => request.hasMode = true → request.mode.isDeclared = true
  | _ => True

end SettingsEvent

namespace CentralPlant

/-- Central's copies of its own loads and the loads themselves come to the same once the
overrides are applied. -/
structure Mirrors (localMac : MacAddress) (plant : CentralPlant) : Prop where
  sound : plant.Sound localMac
  isCentral : plant.central.registry.IsCentral localMac
  windows : ∀ load ∈ plant.hardware.node.loads, load.schedule.isValidSchedule = true
  overrides : ∀ entry ∈ plant.central.centralLoadConfigurationStore.entries,
    entry.macAddress = localMac → entry.mode.isDeclared = true
  flash : ∀ entry ∈ plant.overridesFlash.entries, entry.macAddress = localMac → entry.mode.isDeclared = true
  copies : ∀ relayPin load, plant.copy ⟨localMac, relayPin⟩ = some load → load.mode.isDeclared = true
  fields : ∀ relayPin,
    (plant.copy ⟨localMac, relayPin⟩).map plant.central.centralLoadConfigurationStore.appliedFields =
      (plant.hardware.node.getLoadByRelayPin relayPin).map plant.central.centralLoadConfigurationStore.appliedFields

end CentralPlant

open CentralPlant

section Steps

variable {localMac : MacAddress} {plant : CentralPlant} {event : SettingsEvent}

theorem CentralPlant.Mirrors.replaces (hmirrors : plant.Mirrors localMac) (relayPin : UInt8) :
    plant.central.centralLoadConfigurationStore.Replaces ⟨localMac, relayPin⟩ := by
  intro entry hfind
  have hmac := congrArg Load.Id.macAddress (KeyedList.key_of_lookup hfind)
  exact ⟨hmirrors.overrides entry (KeyedList.mem_of_lookup hfind) hmac, hmirrors.sound.overrides.findConfiguration hfind⟩

/-- Central stays known as Central, also over a restart. -/
theorem CentralPlant.Mirrors.isCentral_next (hmirrors : plant.Mirrors localMac) (hadmissible : event.Admissible localMac) :
    (plant.next localMac event).central.registry.IsCentral localMac := by
  have hcentral := hmirrors.isCentral
  cases event with
  | nodeReport stateTaken originMac report nowMilliseconds =>
    simp only [CentralPlant.next, CentralState.handleNodeReport]
    split
    · rename_i hhandled
      simp only [Bool.and_eq_true, decide_eq_true_eq] at hhandled
      have hother : localMac ≠ report.nodeMacAddress := fun hmac => hadmissible (hhandled.1.symm.trans hmac.symm)
      have hsame := CentralNodeRegistry.findNodeByMacAddress_applyNodeReport_of_ne hother plant.central.registry
        nowMilliseconds
      rw [Central.applyStoredNodeSettings_eq]
      refine CentralNodeRegistry.IsCentral.mapLoads (fun planningNode hfind => ?_) _
      exact hcentral planningNode (hsame.symm.trans hfind)
    · exact hcentral
  | cycle clock answers =>
    obtain ⟨update, hregistry, -⟩ := (plant.central.autoPass_keeps clock).loads
    have hsame : (plant.next localMac (.cycle clock answers)).central.registry =
        (plant.central.autoPass clock).registry := rfl
    rw [hsame, hregistry, CentralState.plannedRegistry_eq]
    exact (hcentral.mapLoads _).mapLoads update
  | loadCommand stateTaken answers request =>
    rw [CentralPlant.next]
    by_cases hattempted : ∃ load, Attempted localMac stateTaken request plant.commandState load
    · obtain ⟨load, hattempted⟩ := hattempted
      rw [hattempted.handleLoadCommand]
      exact hcentral.updatePlanningNode request.nodeMacAddress fun _ _ => rfl
    · rw [(handleLoadCommand_of_not_attempted answers fun load hload => hattempted ⟨load, hload⟩).1]
      exact hcentral
  | acknowledge pendingHardwareCommands stateTaken answers originMac acknowledgement =>
    rw [CentralPlant.next]
    obtain hsame | hremoved := handleHardwareConfigurationAcknowledgement_commandState
      ⟨plant.commandState, pendingHardwareCommands⟩ stateTaken answers originMac acknowledgement
    · rw [hsame]
      exact hcentral
    · rw [hremoved]
      exact hcentral.updatePlanningNode originMac fun _ _ => rfl
  | configureLocally answers nowMilliseconds configuration =>
    rw [CentralPlant.next, CentralPlant.withRuntime, configureLocalLoad_commandState]
    split
    · exact hcentral.addLocalCentralNode _ _ _
    · exact hcentral
  | removeLocally answers settingsFlash nowMilliseconds relayPin =>
    rw [CentralPlant.next, CentralPlant.withRuntime, removeLocalLoad_commandState]
    split
    · exact hcentral.addLocalCentralNode _ _ _
    · exact hcentral
  | decommission stateTaken answers nodeMacAddress =>
    rw [CentralPlant.next, LoadCommandState.handleDecommissionNode]
    split
    · exact hcentral
    split
    · exact hcentral
    dsimp only
    split
    · exact hcentral
    · exact hcentral
  | restart globals answers nowMilliseconds =>
    rw [restart_registry]
    exact ((CentralNodeRegistry.isCentral_empty localMac).addLocalCentralNode _ _ _).mapLoads _
  | other globals => exact hcentral

/-- No event stores an undeclared mode for one of Central's own loads. -/
theorem CentralPlant.Mirrors.overrides_next (hmirrors : plant.Mirrors localMac)
    (hadmissible : event.Admissible localMac) :
    ∀ entry ∈ (plant.next localMac event).central.centralLoadConfigurationStore.entries,
      entry.macAddress = localMac → entry.mode.isDeclared = true := by
  intro entry hentry hmac
  cases next_entries_origin hentry with
  | kept hentry => exact hmirrors.overrides entry hentry hmac
  | reloaded hentry => exact hmirrors.flash entry hentry hmac
  | planned id hruntime =>
    obtain ⟨load, requestedOn, -, -, -, rfl⟩ := hruntime
    cases requestedOn
    · rfl
    · rfl
  | @commanded stateTaken answers request load hevent hattempted hcommanded =>
    subst hevent hcommanded
    dsimp only [LoadCommandRequest.entry, LoadCommandRequest.settings]
    split
    · rename_i hasMode
      exact hadmissible hasMode
    · have hcopy : plant.copy ⟨request.nodeMacAddress, request.relayPin⟩ = some load := hattempted.findLoad
      exact hmirrors.copies request.relayPin load (hmac ▸ hcopy)

/-- Nor does one copy such a mode. -/
theorem CentralPlant.Mirrors.copies_next (hmirrors : plant.Mirrors localMac) (hadmissible : event.Admissible localMac) :
    ∀ relayPin load, (plant.next localMac event).copy ⟨localMac, relayPin⟩ = some load →
      load.mode.isDeclared = true := by
  intro relayPin load hcopy
  have hown : ∀ fields : LoadFields, plant.own localMac ⟨localMac, relayPin⟩ event = some fields →
      fields.settings.mode.isDeclared = true := fun fields hown => (own_wellFormed hmirrors.sound hown).mode
  have happlied : ∀ store : LoadConfigurationStore, store = plant.central.centralLoadConfigurationStore ∨
      store = (plant.next localMac event).central.centralLoadConfigurationStore →
        ∀ load : Load, load.id = ⟨localMac, relayPin⟩ → load.fields.settings.mode.isDeclared = true →
          (store.applyToLoad load).1.fields.settings.mode.isDeclared = true := by
    intro store hstore load hid hmode
    have hdeclared : ∀ entry ∈ store.entries, entry.macAddress = localMac → entry.mode.isDeclared = true := by
      obtain rfl | rfl := hstore
      · exact hmirrors.overrides
      · exact hmirrors.overrides_next hadmissible
    cases hfind : store.findConfiguration load.getMacAddress load.getRelayPin with
    | none => rwa [LoadConfigurationStore.applyToLoad_of_none hfind]
    | some entry =>
      have hmac : entry.macAddress = load.id.macAddress := congrArg Load.Id.macAddress (KeyedList.key_of_lookup hfind)
      rw [LoadConfigurationStore.applyToLoad_eq hfind]
      exact hdeclared entry (KeyedList.mem_of_lookup hfind) (hmac.trans (congrArg Load.Id.macAddress hid))
  have hkeeps : ∀ before after, CentralState.KeepsConfiguration before after →
      before.fields.settings.mode.isDeclared = true → after.fields.settings.mode.isDeclared = true := by
    intro before after hkeeps hmode
    obtain hsame | ⟨-, hauto⟩ := hkeeps.mode
    · exact (congrArg LoadMode.isDeclared hsame).trans hmode
    · have hmodes : after.mode = .AUTO_ON ∨ after.mode = .AUTO_OFF := by simpa [Load.isAuto] using hauto
      obtain hon | hoff := hmodes
      · exact congrArg LoadMode.isDeclared hon
      · exact congrArg LoadMode.isDeclared hoff
  exact next_copy_fields hmirrors.sound hown happlied hkeeps (hmirrors.copies relayPin) load hcopy

theorem CentralPlant.Mirrors.local_id (hmirrors : plant.Mirrors localMac) {relayPin : UInt8} {load : Load}
    (hlocal : plant.hardware.node.getLoadByRelayPin relayPin = some load) : load.id = ⟨localMac, relayPin⟩ := by
  obtain ⟨hmem, hpin⟩ := Node.getLoadByRelayPin_eq_some_iff.mp hlocal
  exact Load.Id.ext ((plant.hardware.node.loads_mac load hmem).trans hmirrors.sound.macAddress) hpin

/-- A copy without an override has the fields of the load itself. -/
theorem CentralPlant.Mirrors.local_of_unstored (hmirrors : plant.Mirrors localMac) {relayPin : UInt8} {load : Load}
    (hcopy : plant.copy ⟨localMac, relayPin⟩ = some load) (hunstored : plant.entry ⟨localMac, relayPin⟩ = none) :
    ∃ own ∈ plant.hardware.node.loads, own.fields = load.fields := by
  have hfields := hmirrors.fields relayPin
  rw [hcopy, Option.map_some] at hfields
  obtain ⟨own, hlocal, hsame⟩ := Option.map_eq_some_iff.mp hfields.symm
  have hunapplied : ∀ found : Load, found.id = ⟨localMac, relayPin⟩ →
      plant.central.centralLoadConfigurationStore.appliedFields found = found.fields := by
    intro found hid
    apply LoadConfigurationStore.appliedFields_of_none
    rw [hid]
    exact hunstored
  rw [hunapplied own (hmirrors.local_id hlocal), hunapplied load (copy_id hcopy)] at hsame
  exact ⟨own, (Node.getLoadByRelayPin_eq_some_iff.mp hlocal).1, hsame⟩

/-- The copy of a load that a cycle plans as AUTO gets an override. -/
theorem CentralPlant.Mirrors.cycle_isSome (hmirrors : plant.Mirrors localMac) (clock : CycleClock)
    (answers : FlashAnswers) {relayPin : UInt8} {load : Load} (hcopy : plant.copy ⟨localMac, relayPin⟩ = some load)
    (hunstored : plant.entry ⟨localMac, relayPin⟩ = none) (hauto : load.isAuto = true) :
    ((plant.runCycle clock answers).entry ⟨localMac, relayPin⟩).isSome := by
  have hid := copy_id hcopy
  have hfind : plant.central.centralLoadConfigurationStore.findConfiguration load.id.macAddress load.id.relayPin =
      none := hid ▸ hunstored
  have hplanned := (plannedRegistry_findLoad plant ⟨localMac, relayPin⟩).trans (congrArg (Option.map _) hcopy)
  rw [Option.map_some, LoadConfigurationStore.applyToLoad_of_none hfind] at hplanned
  have hvalid : load.schedule.isValidSchedule = true := by
    obtain ⟨own, hmem, hsame⟩ := hmirrors.local_of_unstored hcopy hunstored
    rw [← show own.schedule = load.schedule from congrArg LoadFields.schedule hsame]
    exact hmirrors.windows own hmem
  have hmem : load ∈ plant.central.plannedLoads clock := by
    obtain ⟨planningNode, hnode, hload⟩ := CentralNodeRegistry.mem_loads.mp
      (CentralNodeRegistry.findLoad_eq_some_iff.mp hplanned).1
    have hmac : planningNode.getMacAddress = localMac :=
      (planningNode.node.loads_mac load hload).symm.trans (congrArg Load.Id.macAddress hid)
    have hcentral : plant.central.plannedRegistry.IsCentral localMac := by
      rw [CentralState.plannedRegistry_eq]
      exact hmirrors.isCentral.mapLoads _
    have hflag := hcentral planningNode (CentralNodeRegistry.findNodeByMacAddress_eq_some_iff.mpr ⟨hnode, hmac⟩)
    exact Central.mem_plannedLoads.mpr ⟨planningNode, hnode, by rw [Central.isPlanned, hflag]; rfl, hload⟩
  have hsome := plant.central.autoPass_isSome clock hmem hauto hvalid
  rw [hid] at hsome
  exact hsome

end Steps

/-- The pin that a CONFIGURE_LOAD or REMOVE_LOAD command for Central is about. -/
def SettingsEvent.edits : SettingsEvent → Option UInt8
  | .configureLocally _ _ configuration => some configuration.relayPin
  | .removeLocally _ _ _ relayPin => some relayPin
  | _ => none

/-- What a command for one pin leaves of Central's own loads: it is refused, or all
copies are replaced. -/
structure LocalEdit (localMac : MacAddress) (relayPin : UInt8) (before after : CentralPlant) : Prop where
  loads : ∀ other, other ≠ relayPin →
    after.hardware.node.getLoadByRelayPin other = before.hardware.node.getLoadByRelayPin other
  entries : ∀ other, other ≠ relayPin → after.entry ⟨localMac, other⟩ = before.entry ⟨localMac, other⟩
  outcome : (after.hardware.node = before.hardware.node ∧ ∀ id, Untouched before after id) ∨
    ∀ other, Replaced after ⟨localMac, other⟩

section Edits

variable {localMac : MacAddress} {plant : CentralPlant} {event : SettingsEvent}

/-- A configuration of a pin changes nothing on the other pins. -/
theorem localEdit_configureLocally (hsound : plant.Sound localMac) (answers : ConfigureAnswers)
    (nowMilliseconds : UInt32) (configuration : LoadConfiguration) :
    LocalEdit localMac configuration.relayPin plant
      (plant.next localMac (.configureLocally answers nowMilliseconds configuration)) := by
  have hcommandState := configureLocalLoad_commandState answers nowMilliseconds configuration plant.runtime
  have hmac := (next_node hsound.macAddress (.configureLocally answers nowMilliseconds configuration)).1
  cases haccepted : (plant.runtime.configureLocalLoad answers nowMilliseconds configuration).2.accepted with
  | true =>
    rw [haccepted, if_pos rfl] at hcommandState
    obtain ⟨hconfigurable, hconfigured⟩ := configureLocalLoad_accepted haccepted
    refine ⟨fun other hother => ?_, fun other _ => ?_, .inr fun other => ?_⟩
    · exact (hconfigured.getLoadByRelayPin hconfigurable other).trans (if_neg hother)
    · rw [CentralPlant.next, CentralPlant.withRuntime, hcommandState]
      rfl
    · exact .of_addLocalCentralNode (congrArg LoadCommandState.registry hcommandState) hmac.symm
  | false =>
    rw [haccepted, if_neg Bool.false_ne_true] at hcommandState
    have hnode := configureLocalLoad_refused haccepted
    refine ⟨fun other _ => congrArg (Node.getLoadByRelayPin · other) hnode, fun other _ => ?_, .inl ⟨hnode, fun id => ?_⟩⟩
    · rw [CentralPlant.next, CentralPlant.withRuntime, hcommandState]
      rfl
    · rw [CentralPlant.next, CentralPlant.withRuntime, hcommandState]
      exact ⟨rfl, rfl, rfl⟩

/-- Neither does a removal. -/
theorem localEdit_removeLocally (hsound : plant.Sound localMac) (answers : RemoveAnswers)
    (settingsFlash : FlashAnswers) (nowMilliseconds : UInt32) (relayPin : UInt8) :
    LocalEdit localMac relayPin plant
      (plant.next localMac (.removeLocally answers settingsFlash nowMilliseconds relayPin)) := by
  have hcommandState := removeLocalLoad_commandState localMac answers settingsFlash nowMilliseconds relayPin
    plant.runtime
  have hmac := (next_node hsound.macAddress (.removeLocally answers settingsFlash nowMilliseconds relayPin)).1
  cases haccepted :
    (plant.runtime.removeLocalLoad localMac answers settingsFlash nowMilliseconds relayPin).2.accepted with
  | true =>
    rw [haccepted, if_pos rfl] at hcommandState
    refine ⟨fun other hother => ?_, fun other hother => ?_, .inr fun other => ?_⟩
    · exact ((removeLocalLoad_accepted haccepted).getLoadByRelayPin other).trans (if_neg hother)
    · have hid : (⟨localMac, other⟩ : Load.Id) ≠ ⟨localMac, relayPin⟩ := fun hid =>
        hother (congrArg Load.Id.relayPin hid)
      rw [CentralPlant.next, CentralPlant.withRuntime, hcommandState]
      exact LoadConfigurationStore.removeConfiguration_findConfiguration_of_ne hid _
    · exact .of_addLocalCentralNode (congrArg LoadCommandState.registry hcommandState) hmac.symm
  | false =>
    rw [haccepted, if_neg Bool.false_ne_true] at hcommandState
    have hnode := removeLocalLoad_refused haccepted
    refine ⟨fun other _ => congrArg (Node.getLoadByRelayPin · other) hnode, fun other _ => ?_, .inl ⟨hnode, fun id => ?_⟩⟩
    · rw [CentralPlant.next, CentralPlant.withRuntime, hcommandState]
      rfl
    · rw [CentralPlant.next, CentralPlant.withRuntime, hcommandState]
      exact ⟨rfl, rfl, rfl⟩

theorem localEdit_of_edits (hsound : plant.Sound localMac) {relayPin : UInt8} (hedits : event.edits = some relayPin) :
    LocalEdit localMac relayPin plant (plant.next localMac event) := by
  cases event with
  | configureLocally answers nowMilliseconds configuration =>
    obtain rfl := Option.some.inj hedits
    exact localEdit_configureLocally hsound answers nowMilliseconds configuration
  | removeLocally answers settingsFlash nowMilliseconds removed =>
    obtain rfl := Option.some.inj hedits
    exact localEdit_removeLocally hsound answers settingsFlash nowMilliseconds removed
  | nodeReport | cycle | loadCommand | acknowledge | decommission | restart | other => cases hedits

/-- Every override of an own load replaces what the load has. -/
theorem CentralPlant.Mirrors.replaces_next (hmirrors : plant.Mirrors localMac)
    (hadmissible : event.Admissible localMac) (relayPin : UInt8) :
    (plant.next localMac event).central.centralLoadConfigurationStore.Replaces ⟨localMac, relayPin⟩ := by
  intro entry hfind
  have hmac := congrArg Load.Id.macAddress (KeyedList.key_of_lookup hfind)
  exact ⟨hmirrors.overrides_next hadmissible entry (KeyedList.mem_of_lookup hfind) hmac,
    (hmirrors.sound.next event).overrides.findConfiguration hfind⟩

/-- Another override of a load changes both states of it in the same way. -/
theorem LoadConfigurationStore.map_appliedFields_congr {before after : LoadConfigurationStore} {id : Load.Id}
    {first second : Option Load} (hfirst : ∀ load, first = some load → load.id = id)
    (hsecond : ∀ load, second = some load → load.id = id) (hreplaces : after.Replaces id)
    (hkept : after.findConfiguration id.macAddress id.relayPin = none →
      before.findConfiguration id.macAddress id.relayPin = none)
    (hsame : first.map before.appliedFields = second.map before.appliedFields) :
    first.map after.appliedFields = second.map after.appliedFields := by
  cases first with
  | none => rw [Option.map_none, Option.map_eq_none_iff.mp hsame.symm, Option.map_none]
  | some load =>
    obtain ⟨other, rfl, hother⟩ := Option.map_eq_some_iff.mp hsame.symm
    obtain rfl := hfirst load rfl
    have hid := hsecond other rfl
    refine congrArg some (appliedFields_congr hreplaces hid.symm (sameEquipment_of_appliedFields hother.symm) ?_)
    intro hnone
    have hunstored := hkept hnone
    rw [appliedFields_of_none hunstored, appliedFields_of_none (hid.symm ▸ hunstored)] at hother
    exact hother.symm

/-- Two states of a load with the same fields come to the same under every override. -/
theorem LoadConfigurationStore.map_appliedFields_of_fields {store : LoadConfigurationStore} {id : Load.Id}
    {first second : Option Load} (hfirst : ∀ load, first = some load → load.id = id)
    (hsecond : ∀ load, second = some load → load.id = id) (hreplaces : store.Replaces id)
    (hsame : first.map Load.fields = second.map Load.fields) :
    first.map store.appliedFields = second.map store.appliedFields := by
  cases first with
  | none => rw [Option.map_none, Option.map_eq_none_iff.mp hsame.symm, Option.map_none]
  | some load =>
    obtain ⟨other, rfl, hother⟩ := Option.map_eq_some_iff.mp hsame.symm
    obtain rfl := hfirst load rfl
    refine congrArg some (appliedFields_congr hreplaces (hsecond other rfl).symm ?_ fun _ => hother.symm)
    exact ⟨congrArg LoadFields.name hother.symm, congrArg LoadFields.powerType hother.symm,
      congrArg LoadFields.powerRatingWatts hother.symm⟩

/-- An event that neither touches a load nor removes its override. -/
theorem CentralPlant.Mirrors.fields_of_kept (hmirrors : plant.Mirrors localMac) (hadmissible : event.Admissible localMac)
    {relayPin : UInt8} (hcopy : (plant.next localMac event).copy ⟨localMac, relayPin⟩ = plant.copy ⟨localMac, relayPin⟩)
    (hlocal : (plant.next localMac event).hardware.node.getLoadByRelayPin relayPin =
      plant.hardware.node.getLoadByRelayPin relayPin)
    (hentry : (plant.next localMac event).entry ⟨localMac, relayPin⟩ = plant.entry ⟨localMac, relayPin⟩) :
    ((plant.next localMac event).copy ⟨localMac, relayPin⟩).map
        (plant.next localMac event).central.centralLoadConfigurationStore.appliedFields =
      ((plant.next localMac event).hardware.node.getLoadByRelayPin relayPin).map
        (plant.next localMac event).central.centralLoadConfigurationStore.appliedFields := by
  rw [hcopy, hlocal]
  exact LoadConfigurationStore.map_appliedFields_congr (fun load => copy_id) (fun load => hmirrors.local_id)
    (hmirrors.replaces_next hadmissible relayPin) hentry.symm.trans (hmirrors.fields relayPin)

/-- An edit is shown at once, on all pins. -/
theorem CentralPlant.Mirrors.fields_of_edits (hmirrors : plant.Mirrors localMac) {edited : UInt8}
    (hadmissible : event.Admissible localMac) (hedits : event.edits = some edited) (relayPin : UInt8) :
    ((plant.next localMac event).copy ⟨localMac, relayPin⟩).map
        (plant.next localMac event).central.centralLoadConfigurationStore.appliedFields =
      ((plant.next localMac event).hardware.node.getLoadByRelayPin relayPin).map
        (plant.next localMac event).central.centralLoadConfigurationStore.appliedFields := by
  have hmac := (next_node hmirrors.sound.macAddress event).1
  obtain ⟨hnode, huntouched⟩ | hreplaced := (localEdit_of_edits hmirrors.sound hedits).outcome
  · exact hmirrors.fields_of_kept hadmissible (huntouched _).copy (congrArg (Node.getLoadByRelayPin · relayPin) hnode)
      (huntouched _).entry
  · have hfields := (hreplaced relayPin).fields
    rw [CentralPlant.localFields, if_pos hmac.symm] at hfields
    refine LoadConfigurationStore.map_appliedFields_of_fields (fun load => copy_id) (fun load hlocal => ?_)
      (hmirrors.replaces_next hadmissible relayPin) hfields.symm
    obtain ⟨hmem, hpin⟩ := Node.getLoadByRelayPin_eq_some_iff.mp hlocal
    exact Load.Id.ext (((plant.next localMac event).hardware.node.loads_mac load hmem).trans hmac) hpin

/-- A cycle applies the overrides, and stores what it changes. -/
theorem CentralPlant.Mirrors.fields_cycle (hmirrors : plant.Mirrors localMac) (clock : CycleClock)
    (answers : FlashAnswers) (relayPin : UInt8) :
    ((plant.runCycle clock answers).copy ⟨localMac, relayPin⟩).map
        (plant.runCycle clock answers).central.centralLoadConfigurationStore.appliedFields =
      (plant.hardware.node.getLoadByRelayPin relayPin).map
        (plant.runCycle clock answers).central.centralLoadConfigurationStore.appliedFields := by
  have hreplaces : (plant.runCycle clock answers).central.centralLoadConfigurationStore.Replaces ⟨localMac, relayPin⟩ :=
    hmirrors.replaces_next (show SettingsEvent.Admissible localMac (.cycle clock answers) from trivial) relayPin
  have hkept : (plant.runCycle clock answers).entry ⟨localMac, relayPin⟩ = none →
      plant.entry ⟨localMac, relayPin⟩ = none := fun hnone => (runCycle_of_entry_none hnone).1
  refine Eq.trans ?_ (LoadConfigurationStore.map_appliedFields_congr (fun load => copy_id)
    (fun load => hmirrors.local_id) hreplaces hkept (hmirrors.fields relayPin))
  obtain ⟨update, hupdate, hcopy⟩ := runCycle_copy plant ⟨localMac, relayPin⟩ clock answers
  rw [hcopy, Option.map_map]
  refine Option.map_congr fun load hload => ?_
  have hkeeps := hupdate (plant.central.centralLoadConfigurationStore.applyToLoad load).1
  have hid : (update (plant.central.centralLoadConfigurationStore.applyToLoad load).1).id = load.id :=
    hkeeps.id.trans (LoadConfigurationStore.applyToLoad_id _ load)
  have hloadId := copy_id hload
  refine LoadConfigurationStore.appliedFields_congr ((hid.trans hloadId).symm ▸ hreplaces) hid
    (hkeeps.sameEquipment.trans (LoadConfigurationStore.applyToLoad_sameEquipment _ load)) fun hnone => ?_
  have hunstored : (plant.runCycle clock answers).entry ⟨localMac, relayPin⟩ = none := by
    rw [← hloadId, ← hid]
    exact hnone
  have hunapplied : (plant.central.centralLoadConfigurationStore.applyToLoad load).1 = load := by
    apply LoadConfigurationStore.applyToLoad_of_none
    rw [Load.getMacAddress, Load.getRelayPin, hloadId]
    exact hkept hunstored
  dsimp only
  rw [hunapplied] at hkeeps ⊢
  refine hkeeps.fields_of_mode (hkeeps.mode.resolve_right fun hauto => ?_)
  have hsome := hmirrors.cycle_isSome clock answers hload (hkept hunstored) hauto.1
  rw [hunstored] at hsome
  cases hsome

/-- The commanded load takes its new override. -/
theorem CentralPlant.Mirrors.fields_loadCommand (hmirrors : plant.Mirrors localMac) {stateTaken : Bool}
    {answers : FlashAnswers} {request : LoadCommandRequest} {relayPin : UInt8}
    (hadmissible : SettingsEvent.Admissible localMac (.loadCommand stateTaken answers request))
    (hid : request.id = ⟨localMac, relayPin⟩) :
    ((plant.next localMac (.loadCommand stateTaken answers request)).copy ⟨localMac, relayPin⟩).map
        (plant.next localMac (.loadCommand stateTaken answers
          request)).central.centralLoadConfigurationStore.appliedFields =
      (plant.hardware.node.getLoadByRelayPin relayPin).map
        (plant.next localMac (.loadCommand stateTaken answers
          request)).central.centralLoadConfigurationStore.appliedFields := by
  by_cases hattempted : ∃ load, Attempted localMac stateTaken request plant.commandState load
  · obtain ⟨load, hattempted⟩ := hattempted
    have hreplaces := hmirrors.replaces_next hadmissible relayPin
    have hcopy := hattempted.next_copy answers
    have hfound : plant.copy request.id = some load := hattempted.findLoad
    have hstored := hattempted.findConfiguration request.id
    rw [if_pos rfl, ← hattempted.next_overrides answers] at hstored
    rw [hid] at hcopy hfound hstored
    rw [hcopy, Option.map_some, LoadConfigurationStore.appliedFields_applyToLoad (copy_id hfound ▸ hreplaces),
      ← Option.map_some, ← hfound]
    refine LoadConfigurationStore.map_appliedFields_congr (fun load => copy_id) (fun load => hmirrors.local_id)
      hreplaces (fun hnone => ?_) (hmirrors.fields relayPin)
    rw [hstored] at hnone
    cases hnone
  · have hsame := (handleLoadCommand_of_not_attempted answers fun load hload => hattempted ⟨load, hload⟩).1
    rw [CentralPlant.next, hsame]
    exact hmirrors.fields relayPin

/-- So the planned fields are those of the load on the pin, after every admissible event. -/
theorem CentralPlant.Mirrors.fields_next (hmirrors : plant.Mirrors localMac) (hadmissible : event.Admissible localMac)
    (relayPin : UInt8) :
    ((plant.next localMac event).copy ⟨localMac, relayPin⟩).map
        (plant.next localMac event).central.centralLoadConfigurationStore.appliedFields =
      ((plant.next localMac event).hardware.node.getLoadByRelayPin relayPin).map
        (plant.next localMac event).central.centralLoadConfigurationStore.appliedFields := by
  have hreplaces := hmirrors.replaces_next hadmissible relayPin
  cases event with
  | nodeReport stateTaken originMac report nowMilliseconds =>
    have hcounted : ¬ Counted stateTaken originMac report ⟨localMac, relayPin⟩ := fun hcounted =>
      hadmissible (hcounted.sender.symm.trans hcounted.owner)
    obtain ⟨hcopy | hcopy, -⟩ := nodeReport_of_not_counted localMac plant hcounted nowMilliseconds
    · exact hmirrors.fields_of_kept hadmissible hcopy rfl rfl
    · rw [hcopy, Option.map_map]
      refine Eq.trans (Option.map_congr fun load hload => ?_) (hmirrors.fields relayPin)
      exact LoadConfigurationStore.appliedFields_applyToLoad (copy_id hload ▸ hreplaces)
  | cycle clock answers => exact hmirrors.fields_cycle clock answers relayPin
  | loadCommand stateTaken answers request =>
    by_cases hid : request.id = ⟨localMac, relayPin⟩
    · exact hmirrors.fields_loadCommand hadmissible hid
    · have huntouched : Untouched plant (plant.next localMac (.loadCommand stateTaken answers request))
          ⟨localMac, relayPin⟩ := loadCommand_untouched hid stateTaken answers
      exact hmirrors.fields_of_kept hadmissible huntouched.copy rfl huntouched.entry
  | acknowledge pendingHardwareCommands stateTaken answers originMac acknowledgement =>
    obtain ⟨hid, -⟩ | huntouched := acknowledge_cases localMac plant ⟨localMac, relayPin⟩ pendingHardwareCommands
      stateTaken answers originMac acknowledgement
    · exact absurd (congrArg Load.Id.macAddress hid).symm hadmissible
    · exact hmirrors.fields_of_kept hadmissible huntouched.copy rfl huntouched.entry
  | configureLocally answers nowMilliseconds configuration =>
    exact hmirrors.fields_of_edits hadmissible rfl relayPin
  | removeLocally answers settingsFlash nowMilliseconds removed =>
    exact hmirrors.fields_of_edits hadmissible rfl relayPin
  | decommission stateTaken answers nodeMacAddress =>
    have huntouched : Untouched plant (plant.next localMac (.decommission stateTaken answers nodeMacAddress))
        ⟨localMac, relayPin⟩ := decommission_untouched stateTaken answers nodeMacAddress
    exact hmirrors.fields_of_kept hadmissible huntouched.copy rfl huntouched.entry
  | restart globals answers nowMilliseconds =>
    have hmac := (next_node hmirrors.sound.macAddress (.restart globals answers nowMilliseconds)).1
    rw [restart_copy, if_pos hmac.symm, Option.map_map]
    refine Option.map_congr fun load hlocal => ?_
    obtain ⟨hmem, hpin⟩ := Node.getLoadByRelayPin_eq_some_iff.mp hlocal
    have hid : load.id = ⟨localMac, relayPin⟩ := Load.Id.ext ((Node.loads_mac _ load hmem).trans hmac) hpin
    exact LoadConfigurationStore.appliedFields_applyToLoad (hid.symm ▸ hreplaces)
  | other globals => exact hmirrors.fields_of_kept hadmissible rfl rfl rfl

/-- The invariant of the runs: each admissible event keeps it. -/
theorem CentralPlant.Mirrors.next (hmirrors : plant.Mirrors localMac) (hadmissible : event.Admissible localMac) :
    (plant.next localMac event).Mirrors localMac := by
  have hoverrides := hmirrors.overrides_next hadmissible
  refine ⟨hmirrors.sound.next event, hmirrors.isCentral_next hadmissible, fun load hload => ?_, hoverrides, ?_,
    hmirrors.copies_next hadmissible, hmirrors.fields_next hadmissible⟩
  · obtain hold | ⟨value, -, rfl⟩ := (next_node hmirrors.sound.macAddress event).2 load hload
    · exact hmirrors.windows load hold
    · exact (value.consistent_load localMac).window
  · obtain hsame | htaken := next_overridesFlash localMac plant event
    · exact hsame ▸ hmirrors.flash
    · exact htaken ▸ hoverrides

end Edits

namespace CentralPlant

/-- Central as it starts for the first time. -/
def factoryNew (localMac : MacAddress) (globals : CentralState) (nowMilliseconds : UInt32) : CentralPlant where
  central := { globals with
    registry := CentralNodeRegistry.empty.addLocalCentralNode CENTRAL_NODE_NAME (.make localMac) nowMilliseconds
    centralLoadConfigurationStore := ⟨[]⟩ }
  overridesFlash := ⟨[]⟩
  hardware := ⟨⟨.empty, .empty⟩, .empty, .make localMac⟩

/-- A new Central has no load to mirror. -/
theorem factoryNew_mirrors (localMac : MacAddress) (globals : CentralState) (nowMilliseconds : UInt32) :
    (factoryNew localMac globals nowMilliseconds).Mirrors localMac := by
  have hcopy : ∀ relayPin, (factoryNew localMac globals nowMilliseconds).copy ⟨localMac, relayPin⟩ = none := by
    intro relayPin
    refine (CentralNodeRegistry.empty.addLocalCentralNode_findLoad CENTRAL_NODE_NAME (.make localMac)
      nowMilliseconds ⟨localMac, relayPin⟩).trans ?_
    exact if_pos rfl
  refine ⟨⟨rfl, List.forall_mem_nil _, List.forall_mem_nil _, List.forall_mem_nil _⟩,
    (CentralNodeRegistry.isCentral_empty localMac).addLocalCentralNode _ _ _, List.forall_mem_nil _,
    List.forall_mem_nil _, List.forall_mem_nil _, fun relayPin load hload => ?_, fun relayPin => ?_⟩
  · rw [hcopy] at hload
    cases hload
  · rw [hcopy]
    rfl

/-- What a load has in the registry once the overrides are applied to it. -/
def plannedFields (plant : CentralPlant) (id : Load.Id) : Option LoadFields :=
  (plant.central.plannedRegistry.findLoad id.macAddress id.relayPin).map Load.fields

theorem plannedFields_eq (plant : CentralPlant) (id : Load.Id) :
    plant.plannedFields id = (plant.copy id).map plant.central.centralLoadConfigurationStore.appliedFields := by
  rw [plannedFields, plannedRegistry_findLoad, Option.map_map]
  rfl

end CentralPlant

theorem LoadConfigurationStore.appliedFields_of_findConfiguration {before after : LoadConfigurationStore} {load : Load}
    (hsame : after.findConfiguration load.id.macAddress load.id.relayPin =
      before.findConfiguration load.id.macAddress load.id.relayPin) :
    after.appliedFields load = before.appliedFields load := by
  have hfind : after.findConfiguration load.getMacAddress load.getRelayPin =
      before.findConfiguration load.getMacAddress load.getRelayPin := hsame
  rw [appliedFields, appliedFields, applyToLoad, applyToLoad, hfind]

/-- One event of a Central whose own loads are configured, updated, removed and planned. -/
structure EditingStep (localMac : MacAddress) (before : CentralPlant) (event : SettingsEvent) (after : CentralPlant) :
    Prop where
  next : after = before.next localMac event
  admissible : event.Admissible localMac

/-- A command for one of Central's own loads changes nothing that Central plans any other of them with.
Holds in every state that a new Central reaches by such commands. -/
theorem local_edit_keeps_others {localMac : MacAddress} {globals : CentralState} {nowMilliseconds : UInt32}
    {last : CentralPlant} {events : List SettingsEvent} {event : SettingsEvent} {edited relayPin : UInt8}
    (hrun : Run (EditingStep localMac) (factoryNew localMac globals nowMilliseconds) events last)
    (hedits : event.edits = some edited) (hother : relayPin ≠ edited) :
    (last.next localMac event).plannedFields ⟨localMac, relayPin⟩ = last.plannedFields ⟨localMac, relayPin⟩ := by
  have hpreserved : ∀ before event after, before.Mirrors localMac → EditingStep localMac before event after →
      after.Mirrors localMac := by
    rintro before event after hmirrors ⟨rfl, hadmissible⟩
    exact hmirrors.next hadmissible
  have hmirrors := hrun.invariant hpreserved (factoryNew_mirrors localMac globals nowMilliseconds)
  have hadmissible : event.Admissible localMac := by
    cases event with
    | configureLocally | removeLocally => trivial
    | nodeReport | cycle | loadCommand | acknowledge | decommission | restart | other => cases hedits
  have hedit := localEdit_of_edits hmirrors.sound hedits
  rw [plannedFields_eq, plannedFields_eq, hmirrors.fields, (hmirrors.next hadmissible).fields,
    hedit.loads relayPin hother]
  refine Option.map_congr fun load hlocal => LoadConfigurationStore.appliedFields_of_findConfiguration ?_
  rw [hmirrors.local_id hlocal]
  exact hedit.entries relayPin hother

section Runs

/-- An AUTO heater on pin 4 is planned, and then fixed ON. -/
def heaterFixed : List SettingsEvent :=
  [.configureLocally .succeeding 0 (heaterRequest .AUTO_OFF).loadConfiguration, noonCycle,
    .loadCommand true .succeeding (heaterMode .FIXED_ON)]

/-- A load on another pin. -/
def lampConfigured : SettingsEvent :=
  .configureLocally .succeeding 0 { (heaterRequest .FIXED_OFF).loadConfiguration with relayPin := 5 }

theorem run_heaterFixed :
    Run (EditingStep (Vector.replicate 6 1))
      (factoryNew (Vector.replicate 6 1) smartNodePlant.central 0) heaterFixed
      (heaterFixed.foldl (CentralPlant.next (Vector.replicate 6 1))
        (factoryNew (Vector.replicate 6 1) smartNodePlant.central 0)) :=
  .snoc (.snoc (.snoc (.nil _) ⟨rfl, trivial⟩) ⟨rfl, trivial⟩) ⟨rfl, fun _ => rfl⟩

/-- The heater stays fixed ON although the lamp makes Central copy the heater anew. -/
theorem local_edit_keeps_others_heater :
    ((heaterFixed.foldl (CentralPlant.next (Vector.replicate 6 1))
        (factoryNew (Vector.replicate 6 1) smartNodePlant.central 0)).next (Vector.replicate 6 1)
      lampConfigured).plannedFields ⟨Vector.replicate 6 1, 4⟩ =
        (heaterFixed.foldl (CentralPlant.next (Vector.replicate 6 1))
          (factoryNew (Vector.replicate 6 1) smartNodePlant.central 0)).plannedFields ⟨Vector.replicate 6 1, 4⟩ ∧
      ((heaterFixed.foldl (CentralPlant.next (Vector.replicate 6 1))
        (factoryNew (Vector.replicate 6 1) smartNodePlant.central 0)).plannedFields
          ⟨Vector.replicate 6 1, 4⟩).map LoadFields.mode = some .FIXED_ON :=
  ⟨local_edit_keeps_others run_heaterFixed rfl (by decide), by decide +kernel⟩

end Runs

end kilowatts
