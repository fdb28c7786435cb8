import Kilowatts.Central.DispatchedPlan
import Kilowatts.Central.LoadCommand
import Kilowatts.Central.Routing
import Kilowatts.NodeManager.NodeLoadHardwareStore
import Kilowatts.NodeManager.ReportConvergence

namespace kilowatts

namespace Central

/-- The loop over the loads of the Node that has reported. -/
def applyStoredNodeSettings (store : LoadConfigurationStore) (originMac : MacAddress) (registry : CentralNodeRegistry) :
    CentralNodeRegistry :=
  match registry.findNodeByMacAddress originMac with
  | none => registry
  | some planningNode =>
    planningNode.node.loads.foldl
      (fun registry load => registry.updateLoad originMac load.getRelayPin (storedSettingsUpdate store)) registry

end Central

namespace CentralState

/-- The NODE_REPORT branch of `espNowCommunicationTask`. A report of the right Node is
acknowledged as accepted even if `stateMutex` was not obtained in time. -/
def handleNodeReport (stateTaken : Bool) (originMac : MacAddress) (report : NodeReportPacket)
    (nowMilliseconds : UInt32) (state : CentralState) : CentralState × NodeReportAckStatus :=
  let accepted : Bool := report.nodeMacAddress = originMac
  let registry :=
    if accepted && stateTaken then
      Central.applyStoredNodeSettings state.centralLoadConfigurationStore originMac
        (state.registry.applyNodeReport report nowMilliseconds)
    else state.registry
  ({ state with registry }, if accepted then .ACCEPTED else .REJECTED)

end CentralState

namespace LoadCommandState

/-- The DECOMMISSION_NODE branch of `handleConfigCommand`. The overrides are persisted,
and none of them is removed. -/
def handleDecommissionNode (localMac : MacAddress) (stateTaken : Bool) (answers : FlashAnswers)
    (nodeMacAddress : MacAddress) (state : LoadCommandState) : LoadCommandState × CommandResult :=
  if nodeMacAddress = localMac then (state, ⟨false, false, "Central cannot decommission itself"⟩)
  else if !stateTaken then (state, ⟨false, false, "state is busy"⟩)
  else
    let routeFound := (state.registry.findNextHopFromCentral localMac nodeMacAddress).isSome
    let (commissioningRegistry, decommissioned) := state.commissioningRegistry.decommission nodeMacAddress
    if !decommissioned then (state, ⟨false, false, "unknown Node or invalid lifecycle transition"⟩)
    else
      ({ state with
          commissioningRegistry
          centralLoadConfigurationStore := (state.centralLoadConfigurationStore.persist answers).1 },
        ⟨true, !routeFound,
          if routeFound then "decommission dispatched" else "decommissioned at Central; Node is offline"⟩)

end LoadCommandState

/-- The part of the fields that an override can replace. -/
def LoadFields.settings (fields : LoadFields) : LoadSettings := ⟨fields.priority, fields.mode, fields.schedule⟩

theorem Load.fields_settings (load : Load) : load.fields.settings = load.settings := rfl

/-- A Node only reports settings that are well-formed. -/
theorem LoadReportPacket.fields_wellFormed {report : LoadReportPacket} (hvalid : report.validLoadReport = true) :
    report.fields.settings.WellFormed := by
  refine ⟨?_, fun hauto => if_neg fun hmode => ?_⟩
  · simp only [validLoadReport, Bool.and_eq_true, validMode, Bool.or_eq_true, decide_eq_true_eq] at hvalid
    obtain ⟨⟨⟨⟨⟨-, hmode⟩, -⟩, -⟩, -⟩, -⟩ := hvalid
    change (LoadMode.ofByte report.mode).isDeclared = true
    obtain ((hmode | hmode) | hmode) | hmode := hmode <;> rw [hmode] <;> rfl
  · rw [LoadSettings.isAuto_iff.mpr hmode] at hauto
    cases hauto

/-- A well-formed configuration gives a well-formed load. -/
theorem LoadConfiguration.load_wellFormed {configuration : LoadConfiguration}
    (hwellFormed : configuration.isWellFormed = true) (macAddress : MacAddress) :
    (configuration.load macAddress).settings.WellFormed := by
  simp only [isWellFormed, Bool.and_eq_true] at hwellFormed
  obtain ⟨rating, hnonneg, hload⟩ := configuration.load_eq hwellFormed.2 macAddress
  rw [hload]
  refine ⟨hwellFormed.1.1.1.2, fun hauto => if_neg fun hmode => ?_⟩
  rw [LoadSettings.isAuto_iff.mpr hmode] at hauto
  cases hauto

namespace Central

/-- The loop changes each load of the Node on its own. -/
theorem applyStoredNodeSettings_eq (store : LoadConfigurationStore) (originMac : MacAddress)
    (registry : CentralNodeRegistry) :
    applyStoredNodeSettings store originMac registry =
      registry.mapLoads ((storedSettingsUpdate store).onlyOn fun id => id.macAddress = originMac) := by
  unfold applyStoredNodeSettings
  cases hfind : registry.findNodeByMacAddress originMac with
  | none =>
    refine (CentralNodeRegistry.mapLoads_eq_self fun load hload => if_neg fun hmac => ?_).symm
    obtain ⟨planningNode, hnode, hmem⟩ := CentralNodeRegistry.mem_loads.mp hload
    have hown := planningNode.node.loads_mac load hmem
    rw [CentralNodeRegistry.findNodeByMacAddress_eq_none_iff] at hfind
    exact hfind (List.mem_map.mpr ⟨planningNode, hnode, hown.symm.trans hmac⟩)
  | some planningNode =>
    obtain ⟨hnode, hmac⟩ := CentralNodeRegistry.findNodeByMacAddress_eq_some_iff.mp hfind
    have hids : ∀ load ∈ planningNode.node.loads, load.id = ⟨originMac, load.getRelayPin⟩ := by
      intro load hload
      exact Load.Id.ext ((planningNode.node.loads_mac load hload).trans hmac) rfl
    have hloop := CentralNodeRegistry.foldl_updateLoad (planningNode.node.loads.map Load.id)
      planningNode.node.loads_nodup (fun _ => storedSettingsUpdate store) registry
    rw [List.foldl_map] at hloop
    refine Eq.trans ?_ (hloop.trans (CentralNodeRegistry.mapLoads_congr fun load hload => ?_))
    · apply List.foldl_ext
      intro other load hload
      rw [hids load hload]
    · have hlisted : load.id ∈ planningNode.node.loads.map Load.id ↔ load.id.macAddress = originMac := by
        constructor
        · intro hlisted
          obtain ⟨other, hother, hid⟩ := List.mem_map.mp hlisted
          exact hid ▸ congrArg Load.Id.macAddress (hids other hother)
        · intro horigin
          obtain ⟨other, hother, hmem⟩ := CentralNodeRegistry.mem_loads.mp hload
          have hotherFind := CentralNodeRegistry.findNodeByMacAddress_eq_some_iff.mpr
            ⟨hother, (other.node.loads_mac load hmem).symm.trans horigin⟩
          rw [hfind, Option.some.injEq] at hotherFind
          exact List.mem_map_of_mem (hotherFind ▸ hmem)
      simp only [LoadUpdate.each, LoadUpdate.onlyOn, hlisted]

end Central

namespace CentralState

open Central

theorem KeepsConfiguration.refl (load : Load) : KeepsConfiguration load load := ⟨rfl, .inl rfl⟩

theorem KeepsConfiguration.ite {before after : Load} (selected : Prop) [Decidable selected]
    (hkeeps : KeepsConfiguration before after) : KeepsConfiguration before (if selected then after else before) := by
  split
  · exact hkeeps
  · exact .refl before

theorem KeepsConfiguration.isAuto {before after : Load} (hkeeps : KeepsConfiguration before after) :
    after.isAuto = before.isAuto := by
  obtain hmode | ⟨hbefore, hafter⟩ := hkeeps.mode
  · rw [Load.isAuto, hmode]
    rfl
  · rw [hbefore, hafter]

/-- Steps that keep the configuration add up. -/
theorem KeepsConfiguration.trans {first second third : Load} (hfirst : KeepsConfiguration first second)
    (hsecond : KeepsConfiguration second third) : KeepsConfiguration first third := by
  refine ⟨hsecond.rest.trans (by rw [hfirst.rest]), ?_⟩
  obtain hmode | ⟨hbefore, hafter⟩ := hsecond.mode
  · rw [hmode]
    exact hfirst.mode.imp_right fun ⟨hbefore, hauto⟩ => ⟨hbefore, by rw [Load.isAuto, hmode]; exact hauto⟩
  · exact .inr ⟨hfirst.isAuto.symm.trans hbefore, hafter⟩

/-- A cycle changes nothing of the class, the priority and the schedule. -/
theorem KeepsConfiguration.agree {before after : Load} (hkeeps : KeepsConfiguration before after) :
    after.settings.Agree before.settings := by
  have hauto := hkeeps.isAuto
  refine ⟨?_, hauto, by rw [hkeeps.rest]; rfl, by rw [hkeeps.rest]; rfl⟩
  obtain hmode | ⟨hbefore, hafter⟩ := hkeeps.mode
  · rw [LoadSettings.isFixed, LoadSettings.isFixed, Load.settings, Load.settings, hmode]
  · have hexclusive : ∀ load : Load, load.isAuto = true → load.settings.isFixed = false :=
      fun load hload => LoadSettings.isFixed_of_isAuto hload
    rw [hexclusive before hbefore, hexclusive after hafter]

/-- The entry of a plan does not depend on the mode before. -/
theorem KeepsConfiguration.runtimeEntry {before after : Load} (hkeeps : KeepsConfiguration before after)
    (requestedOn : Bool) : runtimeEntry after requestedOn = runtimeEntry before requestedOn := by
  rw [hkeeps.rest]
  rfl

/-- The entry is one that a cycle stores for an AUTO load of the registry. -/
def IsRuntimeEntry (registry : CentralNodeRegistry) (id : Load.Id) (entry : ConfigurationEntry) : Prop :=
  ∃ load requestedOn, deref registry id = some load ∧ load.isAuto = true ∧
    load.schedule.isValidSchedule = true ∧ entry = Central.runtimeEntry load requestedOn

/-- A plan writes its own entry, or none. -/
theorem storeAutoRuntimeState_findConfiguration (store : LoadConfigurationStore) (load : Load) (requestedOn : Bool)
    (id : Load.Id) :
    (storeAutoRuntimeState store load requestedOn).1.findConfiguration id.macAddress id.relayPin =
        store.findConfiguration id.macAddress id.relayPin ∨
      (id = load.id ∧ load.isAuto = true ∧ load.schedule.isValidSchedule = true ∧
        (storeAutoRuntimeState store load requestedOn).1.findConfiguration id.macAddress id.relayPin =
          some (Central.runtimeEntry load requestedOn)) := by
  unfold storeAutoRuntimeState
  cases hauto : load.isAuto with
  | false => exact .inl rfl
  | true =>
    simp only [Bool.not_true, Bool.false_eq_true, if_false]
    cases hvalid : load.schedule.isValidSchedule with
    | false =>
      have hrefused : (Central.runtimeEntry load requestedOn).schedule.isValidSchedule = false := hvalid
      rw [LoadConfigurationStore.setConfiguration_eq, hrefused]
      exact .inl rfl
    | true =>
      have haccepted : (Central.runtimeEntry load requestedOn).schedule.isValidSchedule = true := hvalid
      rw [LoadConfigurationStore.setConfiguration_findConfiguration haccepted]
      by_cases hid : id = load.id
      · exact .inr ⟨hid, trivial, rfl, if_pos hid⟩
      · exact .inl (if_neg hid)

/-- What the loops over the AUTO loads have made of the planned registry and of the
overrides so far. -/
structure PassKeeps (planned : CentralNodeRegistry) (store : LoadConfigurationStore) (pass : AutoPass) : Prop where
  loads : ∃ update : LoadUpdate, pass.registry = planned.mapLoads update ∧
    ∀ load, KeepsConfiguration load (update.apply load)
  overrides : ∀ id : Load.Id, pass.store.findConfiguration id.macAddress id.relayPin =
      store.findConfiguration id.macAddress id.relayPin ∨
    ∃ entry, pass.store.findConfiguration id.macAddress id.relayPin = some entry ∧ IsRuntimeEntry planned id entry
  valid : store.Valid → pass.store.Valid

section Pass

variable {planned : CentralNodeRegistry} {store : LoadConfigurationStore} {pass after : AutoPass} {pointer : Load.Id}

/-- A load is updated, and its new state stored. -/
theorem PassKeeps.step (hkeeps : PassKeeps planned store pass) {update : LoadUpdate}
    (hupdate : ∀ load, KeepsConfiguration load (update.apply load))
    (hregistry : after.registry = updateAt pass.registry pointer update)
    (hstore : after.store = pass.store ∨ ∃ load stored requestedOn, deref pass.registry pointer = some load ∧
      KeepsConfiguration load stored ∧ after.store = (storeAutoRuntimeState pass.store stored requestedOn).1) :
    PassKeeps planned store after := by
  obtain ⟨first, hfirst, hfirstKeeps⟩ := hkeeps.loads
  refine ⟨⟨first.andThen (update.onlyOn (· = pointer)), ?_, fun load => ?_⟩, fun id => ?_, fun hvalid => ?_⟩
  · rw [hregistry, hfirst, updateAt_eq_mapLoads, CentralNodeRegistry.mapLoads_mapLoads]
  · exact (hfirstKeeps load).trans (.ite _ (hupdate _))
  · obtain hsame | ⟨load, stored, requestedOn, hderef, hstored, hset⟩ := hstore
    · rw [hsame]
      exact hkeeps.overrides id
    rw [hset]
    obtain hold | ⟨rfl, hauto, hvalid, hnew⟩ :=
      storeAutoRuntimeState_findConfiguration pass.store stored requestedOn id
    · rw [hold]
      exact hkeeps.overrides id
    -- the stored load is that of the planned registry, up to its mode
    rw [hfirst, deref_mapLoads] at hderef
    obtain ⟨before, hbefore, rfl⟩ := Option.map_eq_some_iff.mp hderef
    have hkept := (hfirstKeeps before).trans hstored
    have hid : stored.id = pointer := by
      rw [hkept.rest]
      exact (deref_eq_some_iff.mp hbefore).2
    refine .inr ⟨_, hnew, before, requestedOn, hid ▸ hbefore, hkept.isAuto ▸ hauto, ?_, hkept.runtimeEntry requestedOn⟩
    rwa [hkept.rest] at hvalid
  · obtain hsame | ⟨-, stored, requestedOn, -, -, hset⟩ := hstore
    · rw [hsame]
      exact hkeeps.valid hvalid
    · rw [hset, storeAutoRuntimeState]
      split
      · exact hkeeps.valid hvalid
      · exact (hkeeps.valid hvalid).setConfiguration _

theorem keepsConfiguration_rejectionReasonUpdate (reason : UInt8) (load : Load) :
    KeepsConfiguration load ((rejectionReasonUpdate reason).apply load) := ⟨rfl, .inl rfl⟩

/-- A plan switches between AUTO_ON and AUTO_OFF only. -/
theorem keepsConfiguration_autoRuntimeUpdate (requestedOn : Bool) (load : Load) :
    KeepsConfiguration load ((autoRuntimeUpdate requestedOn).apply load) := by
  rw [autoRuntimeUpdate_apply]
  cases hauto : load.isAuto with
  | false => exact .refl load
  | true =>
    refine ⟨rfl, .inr ⟨hauto, ?_⟩⟩
    simpa [Load.isAuto] using requestedAutoMode_cases requestedOn

/-- One turn of the loop keeps the account. -/
theorem PassKeeps.planAutoLoad (hkeeps : PassKeeps planned store pass) (selectedAutoLoads : List Load.Id)
    (pointer : Load.Id) : PassKeeps planned store (planAutoLoad selectedAutoLoads pass pointer) := by
  have hupdate : ∀ load, KeepsConfiguration load ((plannedUpdate selectedAutoLoads pointer).apply load) := fun load =>
    (keepsConfiguration_rejectionReasonUpdate _ load).trans (keepsConfiguration_autoRuntimeUpdate _ _)
  refine hkeeps.step hupdate (planAutoLoad_registry selectedAutoLoads pass pointer) ?_
  unfold Central.planAutoLoad
  cases hderef : deref pass.registry pointer with
  | none => exact .inl rfl
  | some load => exact .inr ⟨load, _, _, rfl, keepsConfiguration_rejectionReasonUpdate _ load, rfl⟩

theorem PassKeeps.switchOffAutoLoad (hkeeps : PassKeeps planned store pass) (pointer : Load.Id) :
    PassKeeps planned store (switchOffAutoLoad pass pointer) := by
  refine hkeeps.step (keepsConfiguration_autoRuntimeUpdate false) (switchOffAutoLoad_registry pass pointer) ?_
  unfold Central.switchOffAutoLoad
  cases hderef : deref pass.registry pointer with
  | none => exact .inl rfl
  | some load => exact .inr ⟨load, load, _, rfl, .refl load, rfl⟩

/-- And so does the loop, by induction on its pointers. -/
theorem PassKeeps.foldl {step : AutoPass → Load.Id → AutoPass}
    (hstep : ∀ pass pointer, PassKeeps planned store pass → PassKeeps planned store (step pass pointer))
    (pointers : List Load.Id) (hkeeps : PassKeeps planned store pass) :
    PassKeeps planned store (pointers.foldl step pass) := by
  induction pointers generalizing pass with
  | nil => exact hkeeps
  | cons pointer pointers ih => exact ih (hstep pass pointer hkeeps)

end Pass

variable (state : CentralState) (clock : CycleClock)

/-- Both branches of a cycle run one loop over the AUTO candidates, from the planned
registry with new rejection reasons. -/
theorem autoPass_eq_foldl :
    ∃ step start, state.autoPass clock = (state.loadFilter clock).autoCandidateLoads.foldl step start ∧
      (step = planAutoLoad (state.selectedAutoLoads clock) ∨ step = switchOffAutoLoad) ∧
      start.store = state.centralLoadConfigurationStore ∧
      PassKeeps state.plannedRegistry state.centralLoadConfigurationStore start := by
  have hprepared : ∀ load, KeepsConfiguration load ((state.fixedReasonsUpdate clock).apply load) := by
    intro load
    obtain ⟨reason, hreason⟩ := state.fixedReasonsUpdate_apply clock load
    rw [hreason]
    exact ⟨rfl, .inl rfl⟩
  unfold autoPass
  split
  · exact ⟨_, _, rfl, .inl rfl, rfl,
      ⟨_, state.preparedRegistry_eq clock, hprepared⟩, fun id => .inl rfl, fun hvalid => hvalid⟩
  · have hreasons := CentralNodeRegistry.foldl_updateLoad _ (state.autoCandidateLoads_nodup clock)
      (fun _ => rejectionReasonUpdate BEST_FIRST_POWER_BUDGET_EXCEEDED) (state.preparedRegistry clock)
    rw [preparedRegistry_eq, CentralNodeRegistry.mapLoads_mapLoads] at hreasons
    refine ⟨_, _, rfl, .inr rfl, rfl, ?_⟩
    rw [preparedRegistry_eq]
    refine ⟨⟨_, hreasons, fun load => (hprepared load).trans ?_⟩, fun id => .inl rfl, fun hvalid => hvalid⟩
    exact .ite _ (keepsConfiguration_rejectionReasonUpdate _ _)

/-- The loops of a cycle leave an override as it is, or store the state of an AUTO load. -/
theorem autoPass_keeps :
    PassKeeps state.plannedRegistry state.centralLoadConfigurationStore (state.autoPass clock) := by
  obtain ⟨step, start, heq, hstep, -, hstart⟩ := state.autoPass_eq_foldl clock
  rw [heq]
  obtain rfl | rfl := hstep
  · exact hstart.foldl (fun _ pointer hkeeps => hkeeps.planAutoLoad _ pointer) _
  · exact hstart.foldl (fun _ pointer hkeeps => hkeeps.switchOffAutoLoad pointer) _

end CentralState

end kilowatts
