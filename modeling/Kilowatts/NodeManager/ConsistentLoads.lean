import Kilowatts.LoadManager.LoadConfigurationStore
import Kilowatts.NodeManager.EveryLoad

namespace kilowatts

/-- A schedule is a window of an AUTO load, or it is disabled. -/
structure Load.Consistent (load : Load) : Prop where
  window : load.schedule.isValidSchedule = true
  auto : load.schedule.enabled = true → load.isAuto = true

namespace Load

variable {load : Load}

/-- A load without a schedule is consistent in every mode. -/
theorem Consistent.of_none (hschedule : load.schedule = .none) : load.Consistent := by
  refine ⟨by rw [hschedule]; rfl, fun henabled => ?_⟩
  rw [hschedule] at henabled
  cases henabled

/-- Clearing the schedule makes any load consistent. -/
theorem consistent_clearSchedule (load : Load) : load.clearSchedule.Consistent := .of_none rfl

/-- An AUTO load takes windows only, and keeps its own otherwise. -/
theorem consistent_setSchedule (hwindow : load.schedule.isValidSchedule = true) (hauto : load.isAuto = true)
    (schedule : AutoSchedule) : (load.setSchedule schedule).1.Consistent := by
  rw [setSchedule_eq, hauto, Bool.true_and]
  split
  · rename_i hvalid
    exact ⟨hvalid, fun _ => hauto⟩
  · exact ⟨hwindow, fun _ => hauto⟩

theorem schedule_make (id : Load.Id) (name : List UInt8) (rating : CFloat) (priority : UInt16)
    (powerType : LoadPowerType) (mode : LoadMode) :
    (make id name rating priority powerType mode).schedule = .none := by
  obtain ⟨value, hnonneg, hmake⟩ := make_eq id name rating priority powerType mode
  rw [hmake]

/-- A change of mode keeps the window valid, for it may only clear the schedule. -/
theorem window_setMode (hwindow : load.schedule.isValidSchedule = true) (mode : LoadMode) :
    (load.setMode mode).schedule.isValidSchedule = true := by
  rw [setMode_eq]
  dsimp only
  split
  · rfl
  · exact hwindow

/-- The rating is no matter of the schedule. -/
theorem schedule_setPowerRatingWatts (load : Load) (rating : CFloat) :
    (load.setPowerRatingWatts rating).1.schedule = load.schedule := by
  cases rating with
  | finite value =>
    simp only [setPowerRatingWatts]
    split <;> rfl
  | nonFinite => rfl

end Load

/-- The load of a stored configuration is consistent. -/
theorem LoadConfiguration.consistent_load (configuration : LoadConfiguration) (macAddress : MacAddress) :
    (configuration.load macAddress).Consistent := by
  have hnone := Load.schedule_make ⟨macAddress, configuration.relayPin⟩ configuration.name.text
    configuration.powerRatingWatts configuration.priority configuration.powerType configuration.mode
  rw [load]
  split
  · rename_i hauto
    exact Load.consistent_setSchedule (by rw [hnone]; rfl) hauto configuration.schedule
  · exact .of_none hnone

/-- A fixed mode drops the schedule, and an AUTO mode is set before the schedule. -/
theorem LoadConfigurationStore.consistent_applyToLoad {store : LoadConfigurationStore} {load : Load}
    (hdeclared : ∀ entry ∈ store.entries, entry.mode.isDeclared = true) (hload : load.Consistent) :
    (store.applyToLoad load).1.Consistent := by
  cases hfind : store.findConfiguration load.getMacAddress load.getRelayPin with
  | none => rwa [applyToLoad_of_none hfind]
  | some entry =>
    have hmode := hdeclared entry (KeyedList.mem_of_lookup hfind)
    rw [applyToLoad, hfind]
    dsimp only
    have hpriority : (load.setPriority entry.priority).schedule.isValidSchedule = true := hload.window
    have hwindow := Load.window_setMode hpriority entry.mode
    cases hauto : ((load.setPriority entry.priority).setMode entry.mode).isAuto with
    | true => exact Load.consistent_setSchedule hwindow hauto entry.schedule
    | false =>
      rw [Load.setSchedule_eq, hauto, Bool.false_and]
      refine .of_none ?_
      rw [Load.setMode_eq] at hauto ⊢
      refine if_pos ?_
      cases hentry : entry.mode with
      | FIXED_ON => exact .inl rfl
      | FIXED_OFF => exact .inr rfl
      | AUTO_ON => simp [Load.isAuto, hentry] at hauto
      | AUTO_OFF => simp [Load.isAuto, hentry] at hauto
      | undeclared byte hbyte => simp [hentry, LoadMode.isDeclared] at hmode

namespace Node

/-- Every load of the node is consistent. -/
def AllConsistent (node : Node) : Prop := ∀ load ∈ node.loads, load.Consistent

end Node

/-- Every event of the Node's hardware keeps its loads consistent. -/
theorem NodeHardware.allConsistent_afterEvent {hardware : NodeHardware} (hall : hardware.node.AllConsistent)
    (event : HardwareEvent) : (hardware.afterEvent event).node.AllConsistent :=
  every_afterEvent hall event fun value _ => value.consistent_load _

namespace PlanningNode

/-- A reported schedule leaves a consistent load. Needs only that the old window was valid. -/
theorem consistent_applySchedule (report : LoadReportPacket) {load : Load}
    (hwindow : load.schedule.isValidSchedule = true) : (applySchedule report load).Consistent := by
  unfold applySchedule
  split
  · rename_i hauto
    exact Load.consistent_setSchedule hwindow hauto report.schedule
  · exact load.consistent_clearSchedule

/-- A reported load stays consistent when it is overwritten. -/
theorem consistent_overwritten (report : LoadReportPacket) {load : Load} (hload : load.Consistent) :
    (((overwriteUpdate report).andThen (scheduleUpdate report)).apply load).Consistent := by
  have hname : (load.setName report.name.text).schedule.isValidSchedule = true := hload.window
  refine consistent_applySchedule report ?_
  rw [overwriteUpdate]
  dsimp only [overwrittenLoad, Load.setPriority, Load.setPowerType]
  rw [Load.schedule_setPowerRatingWatts]
  exact Load.window_setMode hname (.ofByte report.mode)

/-- Whatever a load report holds, applying it keeps loads consistent. -/
theorem keeps_consistent (nodeMacAddress : MacAddress) (report : LoadReportPacket) :
    report.Keeps Load.Consistent nodeMacAddress where
  created := .of_none (Load.schedule_make ⟨nodeMacAddress, report.relayPin⟩ report.name.text
    report.powerRatingWatts report.priority (.ofByte report.powerType) (.ofByte report.mode))
  scheduled _ hload := consistent_applySchedule report hload.window
  overwritten _ hload := consistent_overwritten report hload

/-- A page keeps the loads of its node consistent. -/
theorem allConsistent_applyPage {planningNode : PlanningNode} (hall : planningNode.node.AllConsistent)
    (packet : NodeReportPacket) (nowMilliseconds : UInt32) :
    (applyPage packet nowMilliseconds planningNode).node.AllConsistent :=
  every_applyPage hall (fun report _ _ => keeps_consistent packet.nodeMacAddress report) nowMilliseconds

end PlanningNode

namespace CentralNodeRegistry

/-- Every load of the registry is consistent. -/
def AllConsistent (registry : CentralNodeRegistry) : Prop :=
  ∀ planningNode ∈ registry.planningNodes, planningNode.node.AllConsistent

variable {registry : CentralNodeRegistry}

/-- Any packet keeps the registry's loads consistent. -/
theorem AllConsistent.applyNodeReport (hall : registry.AllConsistent) (packet : NodeReportPacket)
    (nowMilliseconds : UInt32) : (registry.applyNodeReport packet nowMilliseconds).AllConsistent :=
  Every.applyNodeReport hall (fun load hload => by cases hload)
    fun _ hnode => PlanningNode.allConsistent_applyPage hnode packet nowMilliseconds

/-- Needs that the loads of the added node are consistent. -/
theorem AllConsistent.addLocalCentralNode (hall : registry.AllConsistent) (nodeName : List UInt8) {centralNode : Node}
    (hnode : centralNode.AllConsistent) (nowMilliseconds : UInt32) :
    (registry.addLocalCentralNode nodeName centralNode nowMilliseconds).AllConsistent := by
  intro planningNode hmem
  obtain hold | rfl := KeyedList.mem_put hmem
  · exact hall planningNode hold
  · exact hnode

/-- Removing a load keeps the others as they are. -/
theorem AllConsistent.removeLoad (hall : registry.AllConsistent) (macAddress : MacAddress) (relayPin : UInt8) :
    (registry.removeLoad macAddress relayPin).1.AllConsistent :=
  Every.updatePlanningNode hall macAddress fun _ hnode => Node.Every.removeLoadByRelayPin hnode relayPin

/-- Needs that the update keeps a load consistent. -/
theorem AllConsistent.updateLoad (hall : registry.AllConsistent) (macAddress : MacAddress) (relayPin : UInt8)
    {update : LoadUpdate} (hkeeps : ∀ load, load.Consistent → (update.apply load).Consistent) :
    (registry.updateLoad macAddress relayPin update).AllConsistent :=
  Every.updatePlanningNode hall macAddress fun _ hnode => Node.Every.updateLoadByRelayPin hnode relayPin hkeeps

end CentralNodeRegistry

end kilowatts
