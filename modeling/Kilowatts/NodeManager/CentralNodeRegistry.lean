import Kilowatts.Library.ByteSet
import Kilowatts.NodeManager.Node
import Kilowatts.NodeManager.NodeReportPackets

namespace kilowatts

/-- Which pages of the report in progress have arrived. -/
structure PendingNodeReport where
  sequenceId : UInt16
  totalPages : UInt8
  pagesReceivedMask : UInt8
  reportedRelayPins : List UInt8

/-- No page of a report has been received. -/
def PendingNodeReport.none : PendingNodeReport := ⟨0, 0, 0, []⟩

/-- A Node as Central plans with it, and the report that it is collecting. -/
structure PlanningNode where
  node : Node
  nodeName : List UInt8
  nextHopToCentralMacAddress : MacAddress
  hopCountToCentral : UInt16
  isCentralNode : Bool
  lastSeenMilliseconds : UInt32
  pendingReport : PendingNodeReport

/-- A planning node is known by the MAC of its node. -/
def PlanningNode.getMacAddress (planningNode : PlanningNode) : MacAddress := planningNode.node.macAddress

/-- Central's view of every Node. An entry is only added for an address that is
not found, and no code changes the address of an entry. -/
@[ext]
structure CentralNodeRegistry where
  planningNodes : List PlanningNode
  macs_nodup : (planningNodes.map PlanningNode.getMacAddress).Nodup

/-- What code that holds a `PlanningNode*` can do: anything but change its address. -/
structure PlanningNodeUpdate where
  apply : PlanningNode → PlanningNode
  mac_apply : ∀ planningNode, (apply planningNode).getMacAddress = planningNode.getMacAddress

namespace PlanningNode

/-- The same update on every load of the node. -/
def mapLoads (planningNode : PlanningNode) (update : LoadUpdate) : PlanningNode :=
  { planningNode with node := planningNode.node.mapLoads update }

/-- The update of the load on this pin, if there is one. -/
def updateLoad (relayPin : UInt8) (update : LoadUpdate) (planningNode : PlanningNode) : PlanningNode :=
  { planningNode with node := planningNode.node.updateLoadByRelayPin relayPin update }

/-- The node without the load on this pin. -/
def removeLoad (relayPin : UInt8) (planningNode : PlanningNode) : PlanningNode :=
  { planningNode with node := (planningNode.node.removeLoadByRelayPin relayPin).1 }

/-- The schedule part of the loop over the reported loads. -/
def applySchedule (report : LoadReportPacket) (load : Load) : Load :=
  if load.isAuto then (load.setSchedule report.schedule).1 else load.clearSchedule

/-- The load built for a pin that is not registered yet. -/
def createdLoad (nodeMacAddress : MacAddress) (report : LoadReportPacket) : Load :=
  .make ⟨nodeMacAddress, report.relayPin⟩ report.name.text report.powerRatingWatts report.priority
    (.ofByte report.powerType) (.ofByte report.mode)

/-- The setters called on a load that is registered already. -/
def overwrittenLoad (report : LoadReportPacket) (load : Load) : Load :=
  (((((load.setName report.name.text).setMode (.ofByte report.mode)).setPowerRatingWatts
    report.powerRatingWatts).1).setPowerType (.ofByte report.powerType)).setPriority report.priority

/-- The schedule of a report, as an update of a load. -/
def scheduleUpdate (report : LoadReportPacket) : LoadUpdate where
  apply := applySchedule report
  id_apply := by
    intro load
    unfold applySchedule
    split
    · exact load.setSchedule_id report.schedule
    · rfl

/-- The other fields of a report, as an update of a load. -/
def overwriteUpdate (report : LoadReportPacket) : LoadUpdate where
  apply := overwrittenLoad report
  id_apply := by
    intro load
    rw [overwrittenLoad, Load.setPriority, Load.setPowerType]
    simp [Load.setName]

/-- The loop body for one reported load. -/
def applyLoadReport (nodeMacAddress : MacAddress) (planningNode : PlanningNode) (report : LoadReportPacket) :
    PlanningNode :=
  if !report.validLoadReport then planningNode
  else
    let reported := { planningNode.pendingReport with
      reportedRelayPins := planningNode.pendingReport.reportedRelayPins ++ [report.relayPin] }
    match planningNode.node.getLoadByRelayPin report.relayPin with
    | none =>
      let (node, added) := planningNode.node.addLoad (createdLoad nodeMacAddress report)
      { planningNode with
        node := if added then node.updateLoadByRelayPin report.relayPin (scheduleUpdate report) else node
        pendingReport := reported }
    | some _ =>
      { planningNode with
        node := planningNode.node.updateLoadByRelayPin report.relayPin
          ((overwriteUpdate report).andThen (scheduleUpdate report))
        pendingReport := reported }

/-- `static_cast<std::uint8_t>(1U << pageIndex)`. -/
def pageBit (pageIndex : UInt8) : UInt8 := ByteSet.bit pageIndex

/-- `static_cast<std::uint8_t>((1U << totalPages) - 1U)`. -/
def allPagesMask (totalPages : UInt8) : UInt8 := ByteSet.below totalPages

/-- A page of another report starts the bookkeeping anew. -/
def selectReport (packet : NodeReportPacket) (pending : PendingNodeReport) : PendingNodeReport :=
  if pending.sequenceId != packet.reportSequenceId || pending.totalPages != packet.totalPages then
    ⟨packet.reportSequenceId, packet.totalPages, 0, []⟩
  else pending

/-- What every accepted page refreshes, a duplicate included. -/
def beginPage (packet : NodeReportPacket) (nowMilliseconds : UInt32) (planningNode : PlanningNode) :
    PlanningNode :=
  { planningNode with
    nodeName := packet.nodeName.text
    nextHopToCentralMacAddress := packet.upstreamNodeMacAddress
    hopCountToCentral := packet.hopCountToCentral
    lastSeenMilliseconds := nowMilliseconds
    pendingReport := selectReport packet planningNode.pendingReport }

/-- The loads that the page says it holds, as far as it has room for them. -/
def reportedLoads (packet : NodeReportPacket) : List LoadReportPacket :=
  packet.loads.toList.take (min packet.numberOfLoads.toNat MAX_LOADS_PER_NODE_PACKET)

/-- Removes every load whose pin no page of the report has named. -/
def pruneUnreported (planningNode : PlanningNode) : PlanningNode :=
  let pinsToRemove := (planningNode.node.loads.filter fun load =>
    !planningNode.pendingReport.reportedRelayPins.contains load.getRelayPin).map Load.getRelayPin
  { planningNode with
    node := pinsToRemove.foldl (fun node relayPin => (node.removeLoadByRelayPin relayPin).1) planningNode.node
    pendingReport := { planningNode.pendingReport with pagesReceivedMask := 0, reportedRelayPins := [] } }

/-- The page counts as received. -/
def markPage (packet : NodeReportPacket) (planningNode : PlanningNode) : PlanningNode :=
  { planningNode with pendingReport := { planningNode.pendingReport with
    pagesReceivedMask := planningNode.pendingReport.pagesReceivedMask ||| pageBit packet.pageIndex } }

/-- The end of `applyNodeReport`: nothing is pruned while pages are missing. -/
def finishPage (packet : NodeReportPacket) (planningNode : PlanningNode) : PlanningNode :=
  if planningNode.pendingReport.pagesReceivedMask != allPagesMask packet.totalPages then planningNode
  else pruneUnreported planningNode

/-- `applyNodeReport` from the point where the planning entry is found. -/
def applyPage (packet : NodeReportPacket) (nowMilliseconds : UInt32) (planningNode : PlanningNode) :
    PlanningNode :=
  let current := beginPage packet nowMilliseconds planningNode
  if current.pendingReport.pagesReceivedMask &&& pageBit packet.pageIndex != 0 then current
  else finishPage packet
    (markPage packet ((reportedLoads packet).foldl (applyLoadReport packet.nodeMacAddress) current))

@[simp] theorem mapLoads_getMacAddress (planningNode : PlanningNode) (update : LoadUpdate) :
    (planningNode.mapLoads update).getMacAddress = planningNode.getMacAddress := rfl

@[simp] theorem applyLoadReport_getMacAddress (nodeMacAddress : MacAddress) (planningNode : PlanningNode)
    (report : LoadReportPacket) :
    (applyLoadReport nodeMacAddress planningNode report).getMacAddress = planningNode.getMacAddress := by
  unfold applyLoadReport
  split
  · rfl
  · cases planningNode.node.getLoadByRelayPin report.relayPin with
    | some _ => rfl
    | none =>
      simp only [getMacAddress]
      split
      · exact planningNode.node.addLoad_macAddress _
      · exact planningNode.node.addLoad_macAddress _

theorem foldl_applyLoadReport_getMacAddress (nodeMacAddress : MacAddress) (reports : List LoadReportPacket)
    (planningNode : PlanningNode) :
    (reports.foldl (applyLoadReport nodeMacAddress) planningNode).getMacAddress =
      planningNode.getMacAddress := by
  induction reports generalizing planningNode with
  | nil => rfl
  | cons report reports ih => rw [List.foldl_cons, ih, applyLoadReport_getMacAddress]

theorem foldl_removeLoadByRelayPin_macAddress (relayPins : List UInt8) (node : Node) :
    (relayPins.foldl (fun node relayPin => (node.removeLoadByRelayPin relayPin).1) node).macAddress =
      node.macAddress := by
  induction relayPins generalizing node with
  | nil => rfl
  | cons relayPin relayPins ih => rw [List.foldl_cons, ih, Node.removeLoadByRelayPin_macAddress]

/-- Pruning keeps the node's MAC. -/
theorem finishPage_getMacAddress (packet : NodeReportPacket) (planningNode : PlanningNode) :
    (finishPage packet planningNode).getMacAddress = planningNode.getMacAddress := by
  unfold finishPage
  split
  · rfl
  · exact foldl_removeLoadByRelayPin_macAddress _ _

/-- A page keeps the node's MAC. -/
theorem applyPage_getMacAddress (packet : NodeReportPacket) (nowMilliseconds : UInt32)
    (planningNode : PlanningNode) :
    (applyPage packet nowMilliseconds planningNode).getMacAddress = planningNode.getMacAddress := by
  dsimp only [applyPage]
  split
  · rfl
  · exact (finishPage_getMacAddress packet _).trans (foldl_applyLoadReport_getMacAddress _ _ _)

/-- Applying reported loads changes the node and the bookkeeping only. -/
theorem foldl_applyLoadReport_rest (nodeMacAddress : MacAddress) (reports : List LoadReportPacket)
    (planningNode : PlanningNode) : ∃ node pendingReport,
      reports.foldl (applyLoadReport nodeMacAddress) planningNode = { planningNode with node, pendingReport } := by
  induction reports generalizing planningNode with
  | nil => exact ⟨_, _, rfl⟩
  | cons report reports ih =>
    obtain ⟨node, pendingReport, hfirst⟩ : ∃ node pendingReport,
        applyLoadReport nodeMacAddress planningNode report = { planningNode with node, pendingReport } := by
      unfold applyLoadReport
      split
      · exact ⟨_, _, rfl⟩
      · cases planningNode.node.getLoadByRelayPin report.relayPin with
        | none => exact ⟨_, _, rfl⟩
        | some _ => exact ⟨_, _, rfl⟩
    rw [List.foldl_cons, hfirst]
    exact ih { planningNode with node, pendingReport }

/-- But for the loads and the report in progress, a page does to an entry what `beginPage` does. -/
theorem applyPage_rest (packet : NodeReportPacket) (nowMilliseconds : UInt32) (planningNode : PlanningNode) :
    ∃ node pendingReport, applyPage packet nowMilliseconds planningNode =
      { beginPage packet nowMilliseconds planningNode with node, pendingReport } := by
  dsimp only [applyPage]
  split
  · exact ⟨_, _, rfl⟩
  · obtain ⟨node, pendingReport, hreported⟩ := foldl_applyLoadReport_rest packet.nodeMacAddress (reportedLoads packet)
      (beginPage packet nowMilliseconds planningNode)
    rw [hreported]
    unfold finishPage
    split
    · exact ⟨_, _, rfl⟩
    · exact ⟨_, _, rfl⟩

/-- A page, as an update of a planning node. -/
def applyPageUpdate (packet : NodeReportPacket) (nowMilliseconds : UInt32) : PlanningNodeUpdate where
  apply := applyPage packet nowMilliseconds
  mac_apply := applyPage_getMacAddress packet nowMilliseconds

end PlanningNode

namespace CentralNodeRegistry

/-- The bookkeeping has one bit for each page. -/
def MAX_TRACKED_REPORT_PAGES : UInt8 := 8

/-- The planning node with this MAC, if there is one. -/
def findNodeByMacAddress (registry : CentralNodeRegistry) (macAddress : MacAddress) : Option PlanningNode :=
  KeyedList.lookup PlanningNode.getMacAddress registry.planningNodes macAddress

/-- The load that `findMutableLoad` points to. -/
def findLoad (registry : CentralNodeRegistry) (macAddress : MacAddress) (relayPin : UInt8) : Option Load :=
  (registry.findNodeByMacAddress macAddress).bind (·.node.getLoadByRelayPin relayPin)

/-- Code that runs on the entry that `findMutablePlanningNode` returns. -/
def updatePlanningNode (registry : CentralNodeRegistry) (macAddress : MacAddress) (update : PlanningNodeUpdate) :
    CentralNodeRegistry where
  planningNodes := KeyedList.update PlanningNode.getMacAddress macAddress update.apply registry.planningNodes
  macs_nodup := by
    rw [KeyedList.map_key_update update.mac_apply]
    exact registry.macs_nodup

/-- `push_back` of an entry whose address is not registered. -/
def push (registry : CentralNodeRegistry) (planningNode : PlanningNode)
    (hnew : registry.findNodeByMacAddress planningNode.getMacAddress = none) : CentralNodeRegistry where
  planningNodes := registry.planningNodes ++ [planningNode]
  macs_nodup := by
    rw [List.map_append, List.map_singleton, ← List.concat_eq_append]
    exact registry.macs_nodup.concat (KeyedList.lookup_eq_none_iff.mp hnew)

/-- The entry that a first report of an unknown Node creates. -/
def newPlanningNode (macAddress : MacAddress) (nowMilliseconds : UInt32) : PlanningNode where
  node := .make macAddress
  nodeName := []
  nextHopToCentralMacAddress := Vector.replicate 6 0
  hopCountToCentral := 0
  isCentralNode := false
  lastSeenMilliseconds := nowMilliseconds
  pendingReport := .none

/-- An unknown Node gets an entry of its own. -/
def ensurePlanningNode (registry : CentralNodeRegistry) (macAddress : MacAddress) (nowMilliseconds : UInt32) :
    CentralNodeRegistry :=
  if hnew : registry.findNodeByMacAddress macAddress = none then
    registry.push (newPlanningNode macAddress nowMilliseconds) hnew
  else registry

/-- A packet whose page count or index is out of range is ignored. -/
def applyNodeReport (registry : CentralNodeRegistry) (packet : NodeReportPacket) (nowMilliseconds : UInt32) :
    CentralNodeRegistry :=
  if packet.totalPages = 0 || packet.totalPages > MAX_TRACKED_REPORT_PAGES ||
      packet.pageIndex ≥ packet.totalPages then registry
  else (registry.ensurePlanningNode packet.nodeMacAddress nowMilliseconds).updatePlanningNode
    packet.nodeMacAddress (PlanningNode.applyPageUpdate packet nowMilliseconds)

/-- The registry after a boot. -/
def empty : CentralNodeRegistry := ⟨[], List.nodup_nil⟩

/-- The entry of Central itself. Of an entry that exists, only its pending report is
kept. -/
def addLocalCentralNode (registry : CentralNodeRegistry) (nodeName : List UInt8) (centralNode : Node)
    (nowMilliseconds : UInt32) : CentralNodeRegistry where
  planningNodes := KeyedList.put PlanningNode.getMacAddress
    { node := centralNode
      nodeName
      nextHopToCentralMacAddress := centralNode.macAddress
      hopCountToCentral := 0
      isCentralNode := true
      lastSeenMilliseconds := nowMilliseconds
      pendingReport := ((registry.findNodeByMacAddress centralNode.macAddress).map PlanningNode.pendingReport).getD .none }
    registry.planningNodes
  macs_nodup := KeyedList.nodup_put registry.macs_nodup _

/-- `update` on every registered load. -/
def mapLoads (registry : CentralNodeRegistry) (update : LoadUpdate) : CentralNodeRegistry where
  planningNodes := registry.planningNodes.map (·.mapLoads update)
  macs_nodup := by
    rw [List.map_map, List.map_congr_left fun planningNode _ => planningNode.mapLoads_getMacAddress update]
    exact registry.macs_nodup

/-- Code that runs on the load that `findMutableLoad` returns. -/
def updateLoad (registry : CentralNodeRegistry) (macAddress : MacAddress) (relayPin : UInt8)
    (update : LoadUpdate) : CentralNodeRegistry :=
  registry.updatePlanningNode macAddress ⟨PlanningNode.updateLoad relayPin update, fun _ => rfl⟩

/-- Also returns whether there was such a load. -/
def removeLoad (registry : CentralNodeRegistry) (macAddress : MacAddress) (relayPin : UInt8) :
    CentralNodeRegistry × Bool :=
  (registry.updatePlanningNode macAddress ⟨PlanningNode.removeLoad relayPin, fun _ => rfl⟩,
   (registry.findLoad macAddress relayPin).isSome)

/-- Every registered load, Node by Node. -/
def loads (registry : CentralNodeRegistry) : List Load :=
  registry.planningNodes.flatMap (·.node.loads)

/-- A node is found exactly if it is registered under this MAC. -/
theorem findNodeByMacAddress_eq_some_iff {registry : CentralNodeRegistry} {macAddress : MacAddress}
    {planningNode : PlanningNode} :
    registry.findNodeByMacAddress macAddress = some planningNode ↔
      planningNode ∈ registry.planningNodes ∧ planningNode.getMacAddress = macAddress :=
  KeyedList.lookup_eq_some_iff registry.macs_nodup

/-- No node is found exactly if the MAC is not registered. -/
theorem findNodeByMacAddress_eq_none_iff {registry : CentralNodeRegistry} {macAddress : MacAddress} :
    registry.findNodeByMacAddress macAddress = none ↔
      macAddress ∉ registry.planningNodes.map PlanningNode.getMacAddress :=
  KeyedList.lookup_eq_none_iff

/-- An update is seen under the node's own MAC only. -/
theorem findNodeByMacAddress_updatePlanningNode (registry : CentralNodeRegistry) (macAddress other : MacAddress)
    (update : PlanningNodeUpdate) :
    (registry.updatePlanningNode macAddress update).findNodeByMacAddress other =
      if other = macAddress then (registry.findNodeByMacAddress other).map update.apply
      else registry.findNodeByMacAddress other :=
  KeyedList.lookup_update update.mac_apply macAddress other registry.planningNodes

/-- The loads of the registry are those of its nodes. -/
theorem mem_loads {registry : CentralNodeRegistry} {load : Load} :
    load ∈ registry.loads ↔ ∃ planningNode ∈ registry.planningNodes, load ∈ planningNode.node.loads :=
  List.mem_flatMap

/-- A load is found by its address and pin, and nothing else is. -/
theorem findLoad_eq_some_iff {registry : CentralNodeRegistry} {id : Load.Id} {load : Load} :
    registry.findLoad id.macAddress id.relayPin = some load ↔ load ∈ registry.loads ∧ load.id = id := by
  rw [findLoad, Option.bind_eq_some_iff, mem_loads]
  constructor
  · rintro ⟨planningNode, hnode, hload⟩
    obtain ⟨hmem, hmac⟩ := findNodeByMacAddress_eq_some_iff.mp hnode
    obtain ⟨hload, hpin⟩ := Node.getLoadByRelayPin_eq_some_iff.mp hload
    refine ⟨⟨planningNode, hmem, hload⟩, ?_⟩
    have hown := planningNode.node.loads_mac load hload
    cases id
    simp_all [Load.getMacAddress, Load.getRelayPin, PlanningNode.getMacAddress, Load.Id.ext_iff]
  · rintro ⟨⟨planningNode, hmem, hload⟩, rfl⟩
    have hown := planningNode.node.loads_mac load hload
    exact ⟨planningNode, findNodeByMacAddress_eq_some_iff.mpr ⟨hmem, hown.symm⟩,
      Node.getLoadByRelayPin_eq_some_iff.mpr ⟨hload, rfl⟩⟩

/-- No two registered loads have the same id. -/
theorem ids_nodup (registry : CentralNodeRegistry) : (registry.loads.map Load.id).Nodup := by
  rw [loads, List.map_flatMap, List.nodup_flatMap]
  refine ⟨fun planningNode _ => planningNode.node.loads_nodup, ?_⟩
  refine (List.pairwise_map.mp registry.macs_nodup).imp ?_
  intro first second hne id hfirst hsecond
  obtain ⟨load, hload, rfl⟩ := List.mem_map.mp hfirst
  obtain ⟨other, hother, hid⟩ := List.mem_map.mp hsecond
  apply hne
  have hfirstMac := first.node.loads_mac load hload
  have hsecondMac := second.node.loads_mac other hother
  rw [Load.getMacAddress] at hfirstMac hsecondMac
  rw [PlanningNode.getMacAddress, PlanningNode.getMacAddress, ← hfirstMac, ← hsecondMac, hid]

@[simp] theorem mapLoads_planningNodes (registry : CentralNodeRegistry) (update : LoadUpdate) :
    (registry.mapLoads update).planningNodes = registry.planningNodes.map (·.mapLoads update) := rfl

theorem mapLoads_loads (registry : CentralNodeRegistry) (update : LoadUpdate) :
    (registry.mapLoads update).loads = registry.loads.map update.apply := by
  simp [loads, PlanningNode.mapLoads, List.flatMap_map, List.map_flatMap]

/-- Only the loads that are registered matter to a map over them. -/
theorem mapLoads_congr {registry : CentralNodeRegistry} {first second : LoadUpdate}
    (hagree : ∀ load ∈ registry.loads, first.apply load = second.apply load) :
    registry.mapLoads first = registry.mapLoads second := by
  apply CentralNodeRegistry.ext
  apply List.map_congr_left
  intro planningNode hnode
  have hloads : planningNode.node.loads.map first.apply = planningNode.node.loads.map second.apply :=
    List.map_congr_left fun load hload => hagree load (mem_loads.mpr ⟨planningNode, hnode, hload⟩)
  have hnodes : planningNode.node.mapLoads first = planningNode.node.mapLoads second := Node.ext rfl hloads
  rw [PlanningNode.mapLoads, PlanningNode.mapLoads, hnodes]

theorem mapLoads_mapLoads (registry : CentralNodeRegistry) (first second : LoadUpdate) :
    (registry.mapLoads first).mapLoads second = registry.mapLoads (first.andThen second) := by
  apply CentralNodeRegistry.ext
  rw [mapLoads_planningNodes, mapLoads_planningNodes, List.map_map]
  apply List.map_congr_left
  intro planningNode _
  have hnodes : (planningNode.node.mapLoads first).mapLoads second =
      planningNode.node.mapLoads (first.andThen second) := by
    refine Node.ext rfl ?_
    simp [LoadUpdate.andThen]
  simp only [Function.comp, PlanningNode.mapLoads, hnodes]

/-- An update that changes no load changes nothing. -/
theorem mapLoads_eq_self {registry : CentralNodeRegistry} {update : LoadUpdate}
    (hsame : ∀ load ∈ registry.loads, update.apply load = load) : registry.mapLoads update = registry := by
  apply CentralNodeRegistry.ext
  conv_rhs => rw [← List.map_id registry.planningNodes]
  apply List.map_congr_left
  intro planningNode hnode
  have hloads : planningNode.node.loads.map update.apply = planningNode.node.loads := by
    conv_rhs => rw [← List.map_id planningNode.node.loads]
    exact List.map_congr_left fun load hload => hsame load (mem_loads.mpr ⟨planningNode, hnode, hload⟩)
  have hnodes : planningNode.node.mapLoads update = planningNode.node := Node.ext rfl hloads
  rw [PlanningNode.mapLoads, hnodes]
  rfl

/-- An update through `findMutableLoad` changes the one load with that id. -/
theorem updateLoad_eq_mapLoads (registry : CentralNodeRegistry) (id : Load.Id) (update : LoadUpdate) :
    registry.updateLoad id.macAddress id.relayPin update = registry.mapLoads (update.onlyOn (· = id)) := by
  apply CentralNodeRegistry.ext
  refine (KeyedList.update_eq_map registry.macs_nodup _ _).trans ?_
  apply List.map_congr_left
  intro planningNode _
  by_cases hmac : planningNode.getMacAddress = id.macAddress
  · rw [if_pos hmac]
    have hid : id = ⟨planningNode.node.macAddress, id.relayPin⟩ := by
      rw [show planningNode.node.macAddress = id.macAddress from hmac]
    change planningNode.updateLoad id.relayPin update = _
    rw [PlanningNode.updateLoad, Node.updateLoadByRelayPin_eq_mapLoads, ← hid]
    rfl
  · rw [if_neg hmac]
    have hloads : planningNode.node.mapLoads (update.onlyOn (· = id)) = planningNode.node := by
      refine Node.ext rfl ?_
      conv_rhs => rw [← List.map_id planningNode.node.loads]
      refine List.map_congr_left fun load hload => if_neg fun hid => hmac ?_
      rw [PlanningNode.getMacAddress, ← planningNode.node.loads_mac load hload, Load.getMacAddress, hid]
    rw [PlanningNode.mapLoads, hloads]

theorem findNodeByMacAddress_mapLoads (registry : CentralNodeRegistry) (update : LoadUpdate) (macAddress : MacAddress) :
    (registry.mapLoads update).findNodeByMacAddress macAddress =
      (registry.findNodeByMacAddress macAddress).map (·.mapLoads update) := by
  rw [findNodeByMacAddress, KeyedList.lookup, mapLoads_planningNodes, List.find?_map]
  rfl

/-- The updated load is found under the same id. -/
theorem mapLoads_findLoad (registry : CentralNodeRegistry) (update : LoadUpdate) (id : Load.Id) :
    (registry.mapLoads update).findLoad id.macAddress id.relayPin =
      (registry.findLoad id.macAddress id.relayPin).map update.apply := by
  ext load
  rw [findLoad_eq_some_iff, mapLoads_loads, Option.map_eq_some_iff]
  constructor
  · rintro ⟨hload, hid⟩
    obtain ⟨before, hbefore, rfl⟩ := List.mem_map.mp hload
    exact ⟨before, findLoad_eq_some_iff.mpr ⟨hbefore, (update.id_apply before).symm.trans hid⟩, rfl⟩
  · rintro ⟨before, hbefore, rfl⟩
    obtain ⟨hmem, hid⟩ := findLoad_eq_some_iff.mp hbefore
    exact ⟨List.mem_map_of_mem hmem, (update.id_apply before).trans hid⟩

/-- An update is seen under the load's own id only. -/
theorem updateLoad_findLoad (registry : CentralNodeRegistry) (updated id : Load.Id) (update : LoadUpdate) :
    (registry.updateLoad updated.macAddress updated.relayPin update).findLoad id.macAddress id.relayPin =
      if id = updated then (registry.findLoad id.macAddress id.relayPin).map update.apply
      else registry.findLoad id.macAddress id.relayPin := by
  rw [updateLoad_eq_mapLoads, mapLoads_findLoad]
  cases hfind : registry.findLoad id.macAddress id.relayPin with
  | none => simp
  | some load =>
    have hid := (findLoad_eq_some_iff.mp hfind).2
    by_cases hsame : id = updated
    · simp [LoadUpdate.onlyOn, hid, hsame]
    · simp [LoadUpdate.onlyOn, hid, hsame]

/-- A removed load is not found any more, and every other load is. -/
theorem removeLoad_findLoad (registry : CentralNodeRegistry) (removed id : Load.Id) :
    (registry.removeLoad removed.macAddress removed.relayPin).1.findLoad id.macAddress id.relayPin =
      if id = removed then none else registry.findLoad id.macAddress id.relayPin := by
  rw [removeLoad, findLoad, findNodeByMacAddress_updatePlanningNode]
  by_cases hmac : id.macAddress = removed.macAddress
  · rw [if_pos hmac, findLoad]
    cases registry.findNodeByMacAddress id.macAddress with
    | none => simp
    | some planningNode =>
      refine (planningNode.node.removeLoadByRelayPin_getLoadByRelayPin removed.relayPin id.relayPin).trans ?_
      simp [Load.Id.ext_iff, hmac]
  · rw [if_neg hmac, if_neg fun hsame => hmac (congrArg Load.Id.macAddress hsame)]
    rfl

/-- The other nodes are found as before. -/
theorem findNodeByMacAddress_addLocalCentralNode (registry : CentralNodeRegistry) (nodeName : List UInt8)
    (centralNode : Node) (nowMilliseconds : UInt32) (macAddress : MacAddress) (hother : macAddress ≠ centralNode.macAddress) :
    (registry.addLocalCentralNode nodeName centralNode nowMilliseconds).findNodeByMacAddress macAddress =
      registry.findNodeByMacAddress macAddress :=
  (KeyedList.lookup_put _ _ _).trans (if_neg hother)

/-- The loads of Central become those of its own Node. -/
theorem addLocalCentralNode_findLoad (registry : CentralNodeRegistry) (nodeName : List UInt8) (centralNode : Node)
    (nowMilliseconds : UInt32) (id : Load.Id) :
    (registry.addLocalCentralNode nodeName centralNode nowMilliseconds).findLoad id.macAddress id.relayPin =
      if id.macAddress = centralNode.macAddress then centralNode.getLoadByRelayPin id.relayPin
      else registry.findLoad id.macAddress id.relayPin := by
  by_cases hmac : id.macAddress = centralNode.macAddress
  · have hfind : (registry.addLocalCentralNode nodeName centralNode nowMilliseconds).findNodeByMacAddress
        centralNode.macAddress = some _ := (KeyedList.lookup_put _ _ _).trans (if_pos rfl)
    rw [if_pos hmac, findLoad, hmac, hfind]
    rfl
  · rw [if_neg hmac, findLoad, findNodeByMacAddress_addLocalCentralNode _ _ _ _ _ hmac]
    rfl

/-- What an update makes of a registered load decides what it makes of the registry. -/
theorem updateLoad_eq_iff {registry : CentralNodeRegistry} {id : Load.Id} {load : Load}
    (hload : registry.findLoad id.macAddress id.relayPin = some load) (first second : LoadUpdate) :
    registry.updateLoad id.macAddress id.relayPin first = registry.updateLoad id.macAddress id.relayPin second ↔
      first.apply load = second.apply load := by
  obtain ⟨hmem, hid⟩ := findLoad_eq_some_iff.mp hload
  rw [updateLoad_eq_mapLoads, updateLoad_eq_mapLoads]
  constructor
  · intro hsame
    have hfind := congrArg (fun other : CentralNodeRegistry => other.findLoad id.macAddress id.relayPin) hsame
    simp only [mapLoads_findLoad, hload, Option.map_some, Option.some.injEq, LoadUpdate.onlyOn, hid, if_true] at hfind
    exact hfind
  · intro hagree
    apply mapLoads_congr
    intro other hother
    by_cases hsame : other.id = id
    · obtain rfl := List.inj_on_of_nodup_map registry.ids_nodup hother hmem (hsame.trans hid.symm)
      simp [LoadUpdate.onlyOn, hsame, hagree]
    · simp [LoadUpdate.onlyOn, hsame]

/-- The registry stays as it was if and only if the load does. Needs that there is such a load. -/
theorem updateLoad_eq_self_iff {registry : CentralNodeRegistry} {id : Load.Id} {load : Load}
    (hload : registry.findLoad id.macAddress id.relayPin = some load) (update : LoadUpdate) :
    registry.updateLoad id.macAddress id.relayPin update = registry ↔ update.apply load = load := by
  have hself : registry.updateLoad id.macAddress id.relayPin ⟨fun load => load, fun _ => rfl⟩ = registry := by
    rw [updateLoad_eq_mapLoads]
    exact mapLoads_eq_self fun other _ => by simp [LoadUpdate.onlyOn]
  have hiff := updateLoad_eq_iff hload update ⟨fun load => load, fun _ => rfl⟩
  rwa [hself] at hiff

/-- A loop that updates each load of a duplicate-free list once. -/
theorem foldl_updateLoad (ids : List Load.Id) (hids : ids.Nodup) (update : Load.Id → LoadUpdate)
    (registry : CentralNodeRegistry) :
    ids.foldl (fun registry id => registry.updateLoad id.macAddress id.relayPin (update id)) registry =
      registry.mapLoads (.each ids update) := by
  induction ids generalizing registry with
  | nil => exact (mapLoads_eq_self fun load _ => by simp [LoadUpdate.each]).symm
  | cons id ids ih =>
    obtain ⟨hnew, hrest⟩ := List.nodup_cons.mp hids
    rw [List.foldl_cons, ih hrest, updateLoad_eq_mapLoads, mapLoads_mapLoads]
    apply mapLoads_congr
    intro load _
    by_cases hid : load.id = id
    · have hupdated : ((update id).apply load).id = id := ((update id).id_apply load).trans hid
      simp [LoadUpdate.andThen, LoadUpdate.onlyOn, LoadUpdate.each, hid, hupdated, hnew]
    · simp [LoadUpdate.andThen, LoadUpdate.onlyOn, LoadUpdate.each, hid]

end CentralNodeRegistry

end kilowatts
