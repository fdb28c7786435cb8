import Kilowatts.NodeManager.CentralNodeRegistry
import Kilowatts.NodeManager.HardwareAgreement

/-!
Where loads come from. What holds of the loads of a configuration and of a report, and
is kept by every update, holds of all loads of a Node and of a registry.
-/

namespace kilowatts

variable {holds : Load → Prop}

namespace Node

/-- Every load of the node is like this. -/
def Every (holds : Load → Prop) (node : Node) : Prop := ∀ load ∈ node.loads, holds load

variable {node : Node}

/-- Needs that the new load is like this. -/
theorem Every.addLoad (hall : node.Every holds) {load : Load} (hload : holds load) : (node.addLoad load).1.Every holds := by
  intro other hother
  obtain hold | rfl := mem_addLoad_loads hother
  · exact hall other hold
  · exact hload

/-- The loads that stay were there before. -/
theorem Every.removeLoadByRelayPin (hall : node.Every holds) (relayPin : UInt8) :
    (node.removeLoadByRelayPin relayPin).1.Every holds :=
  fun load hload => hall load ((KeyedList.remove_sublist _ _).mem hload)

/-- The pruning of a report only removes loads. -/
theorem Every.removeLoads (hall : node.Every holds) (relayPins : List UInt8) :
    (relayPins.foldl (fun node relayPin => (node.removeLoadByRelayPin relayPin).1) node).Every holds := by
  induction relayPins generalizing node with
  | nil => exact hall
  | cons relayPin rest ih => exact ih (hall.removeLoadByRelayPin relayPin)

/-- Needs that the update keeps a load like this. -/
theorem Every.updateLoadByRelayPin (hall : node.Every holds) (relayPin : UInt8) {update : LoadUpdate}
    (hkeeps : ∀ load, holds load → holds (update.apply load)) :
    (node.updateLoadByRelayPin relayPin update).Every holds := by
  intro load hload
  obtain hold | ⟨old, hold, rfl⟩ := KeyedList.mem_update hload
  · exact hall load hold
  · exact hkeeps old (hall old (KeyedList.mem_of_lookup hold))

end Node

namespace NodeHardware

variable {hardware : NodeHardware}

/-- The configurations that a call may apply. -/
def HardwareEvent.applied (hardware : NodeHardware) : HardwareEvent → List LoadConfiguration
  | .configureNewLoad _ value => [value]
  | .applyPersistedConfigurations _ => hardware.store.memory.configurations
  | _ => []

/-- Every load of the Node belongs to a configuration that was applied, and stays as it was added. -/
theorem every_afterEvent (hall : hardware.node.Every holds) (event : HardwareEvent)
    (happlied : ∀ value ∈ event.applied hardware, holds (value.load hardware.node.macAddress)) :
    (hardware.afterEvent event).node.Every holds := by
  cases event with
  | configureNewLoad answers value =>
    obtain ⟨-, -, -, hconfigured⟩ | ⟨-, -, hsame, -⟩ := configureNewLoad_cases answers hardware value
    · rw [afterEvent, hconfigured.node]
      exact hall.addLoad (happlied value (List.mem_singleton_self value))
    · rw [afterEvent, hsame.node]
      exact hall
  | removeLoad answers relayPin =>
    obtain ⟨-, -, -, hremoved⟩ | ⟨-, -, hsame, -⟩ := removeLoad_cases answers hardware relayPin
    · rw [afterEvent, hremoved.node]
      exact hall.removeLoadByRelayPin relayPin
    · rw [afterEvent, hsame.node]
      exact hall
  | clearAllConfigurations written flash =>
    obtain hsame | ⟨-, hfound⟩ := clearAllConfigurations_cases written flash hardware
    · rw [afterEvent, hsame.node]
      exact hall
    · intro load hload
      rw [afterEvent] at hload
      have hpin := (hfound load.getRelayPin).2
      rw [Node.getLoadByRelayPin_eq_some_iff.mpr ⟨hload, rfl⟩] at hpin
      split at hpin
      · cases hpin
      · exact hall load (Node.getLoadByRelayPin_eq_some_iff.mp hpin.symm).1
  | applyPersistedConfigurations answers =>
    intro load hload
    obtain hold | ⟨value, hvalue, rfl⟩ :=
      (applyAll_node answers hardware.store.memory.configurations [] hardware).2 load hload
    · exact hall load hold
    · exact happlied value hvalue

/-- A configuration in memory was there before, or the call brought it. -/
theorem mem_configurations_afterEvent {event : HardwareEvent} {value : LoadConfiguration}
    (hvalue : value ∈ (hardware.afterEvent event).store.memory.configurations) :
    value ∈ hardware.store.memory.configurations ∨ value ∈ event.applied hardware := by
  cases event with
  | configureNewLoad answers added =>
    obtain ⟨-, -, -, hconfigured⟩ | ⟨-, -, hsame, -⟩ := configureNewLoad_cases answers hardware added
    · rw [afterEvent, hconfigured.configurations] at hvalue
      exact List.mem_append.mp hvalue
    · rw [afterEvent, hsame.memory] at hvalue
      exact .inl hvalue
  | removeLoad answers relayPin =>
    obtain ⟨-, -, -, hremoved⟩ | ⟨-, -, hsame, -⟩ := removeLoad_cases answers hardware relayPin
    · rw [afterEvent, hremoved.memory] at hvalue
      exact .inl ((KeyedList.remove_sublist _ _).mem hvalue)
    · rw [afterEvent, hsame.memory] at hvalue
      exact .inl hvalue
  | clearAllConfigurations written flash =>
    obtain hsame | ⟨hmemory, -⟩ := clearAllConfigurations_cases written flash hardware
    · rw [afterEvent, hsame.memory] at hvalue
      exact .inl hvalue
    · rw [afterEvent, hmemory] at hvalue
      cases hvalue
  | applyPersistedConfigurations answers =>
    rw [afterEvent, applyPersistedConfigurations, applyAll_store] at hvalue
    exact .inl hvalue

end NodeHardware

/-- What is needed of a reported load, where it is new and where it is not. -/
structure LoadReportPacket.Keeps (holds : Load → Prop) (nodeMacAddress : MacAddress) (report : LoadReportPacket) :
    Prop where
  created : holds (PlanningNode.createdLoad nodeMacAddress report)
  scheduled : ∀ load, holds load → holds ((PlanningNode.scheduleUpdate report).apply load)
  overwritten : ∀ load, holds load →
    holds (((PlanningNode.overwriteUpdate report).andThen (PlanningNode.scheduleUpdate report)).apply load)

namespace PlanningNode

/-- Needs what a valid report keeps; one that is not valid changes no load. -/
theorem every_applyLoadReport {planningNode : PlanningNode} (hall : planningNode.node.Every holds)
    {nodeMacAddress : MacAddress} {report : LoadReportPacket}
    (hkeeps : report.validLoadReport = true → report.Keeps holds nodeMacAddress) :
    (applyLoadReport nodeMacAddress planningNode report).node.Every holds := by
  unfold applyLoadReport
  split
  · exact hall
  rename_i hvalid
  have hkeeps := hkeeps (by simpa using hvalid)
  cases planningNode.node.getLoadByRelayPin report.relayPin with
  | some load => exact hall.updateLoadByRelayPin report.relayPin hkeeps.overwritten
  | none =>
    have hadded := hall.addLoad hkeeps.created
    dsimp only
    split
    · exact hadded.updateLoadByRelayPin report.relayPin hkeeps.scheduled
    · exact hadded

/-- By induction on the reported loads of the page. -/
theorem every_applyPage {planningNode : PlanningNode} (hall : planningNode.node.Every holds) {packet : NodeReportPacket}
    (hkeeps : ∀ report ∈ reportedLoads packet, report.validLoadReport = true →
      report.Keeps holds packet.nodeMacAddress) (nowMilliseconds : UInt32) :
    (applyPage packet nowMilliseconds planningNode).node.Every holds := by
  have hreported : ∀ (reports : List LoadReportPacket) (current : PlanningNode), current.node.Every holds →
      (∀ report ∈ reports, report.validLoadReport = true → report.Keeps holds packet.nodeMacAddress) →
      (reports.foldl (applyLoadReport packet.nodeMacAddress) current).node.Every holds := by
    intro reports
    induction reports with
    | nil => exact fun current hcurrent _ => hcurrent
    | cons report rest ih =>
      intro current hcurrent hreports
      obtain ⟨hreport, hrest⟩ := List.forall_mem_cons.mp hreports
      exact ih _ (every_applyLoadReport hcurrent hreport) hrest
  dsimp only [applyPage]
  split
  · exact hall
  have hloads := hreported (reportedLoads packet) (beginPage packet nowMilliseconds planningNode) hall hkeeps
  unfold finishPage
  split
  · exact hloads
  · exact hloads.removeLoads _

end PlanningNode

namespace CentralNodeRegistry

variable {registry : CentralNodeRegistry} {holdsOf : PlanningNode → Prop}

/-- Every node of the registry is like this. -/
def Every (holdsOf : PlanningNode → Prop) (registry : CentralNodeRegistry) : Prop :=
  ∀ planningNode ∈ registry.planningNodes, holdsOf planningNode

/-- Needs that the update keeps a node like this. -/
theorem Every.updatePlanningNode (hall : registry.Every holdsOf) (macAddress : MacAddress) {update : PlanningNodeUpdate}
    (hkeeps : ∀ planningNode, holdsOf planningNode → holdsOf (update.apply planningNode)) :
    (registry.updatePlanningNode macAddress update).Every holdsOf := by
  intro planningNode hmem
  obtain hold | ⟨old, hold, rfl⟩ := KeyedList.mem_update hmem
  · exact hall planningNode hold
  · exact hkeeps old (hall old (KeyedList.mem_of_lookup hold))

/-- Needs that a new node is like this and that a page keeps a node so. -/
theorem Every.applyNodeReport (hall : registry.Every holdsOf) {packet : NodeReportPacket} {nowMilliseconds : UInt32}
    (hnew : holdsOf (newPlanningNode packet.nodeMacAddress nowMilliseconds))
    (hkeeps : ∀ planningNode, holdsOf planningNode →
      holdsOf (PlanningNode.applyPage packet nowMilliseconds planningNode)) :
    (registry.applyNodeReport packet nowMilliseconds).Every holdsOf := by
  have hensured : (registry.ensurePlanningNode packet.nodeMacAddress nowMilliseconds).Every holdsOf := by
    unfold ensurePlanningNode
    split
    · intro planningNode hmem
      obtain hold | hlast := List.mem_append.mp hmem
      · exact hall planningNode hold
      · rw [List.mem_singleton.mp hlast]
        exact hnew
    · exact hall
  unfold CentralNodeRegistry.applyNodeReport
  split
  · exact hall
  · exact hensured.updatePlanningNode packet.nodeMacAddress hkeeps

end CentralNodeRegistry

end kilowatts
