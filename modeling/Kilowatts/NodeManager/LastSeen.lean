import Kilowatts.NodeManager.ReportConvergence

namespace kilowatts

/-- When a Smart Node was last seen; Central itself is not watched. -/
def PlanningNode.smartLastSeen (planningNode : PlanningNode) : Option UInt32 :=
  if planningNode.isCentralNode then none else some planningNode.lastSeenMilliseconds

namespace PlanningNode

/-- Every page that is applied, a duplicate included, refreshes the entry. -/
theorem applyPage_smartLastSeen (packet : NodeReportPacket) (nowMilliseconds : UInt32) (planningNode : PlanningNode) :
    (applyPage packet nowMilliseconds planningNode).smartLastSeen =
      planningNode.smartLastSeen.map fun _ => nowMilliseconds := by
  obtain ⟨node, pendingReport, hpage⟩ := applyPage_rest packet nowMilliseconds planningNode
  rw [hpage, smartLastSeen, smartLastSeen, beginPage]
  cases planningNode.isCentralNode with
  | true => rfl
  | false => rfl

end PlanningNode

namespace CentralNodeRegistry

def smartLastSeen (registry : CentralNodeRegistry) (macAddress : MacAddress) : Option UInt32 :=
  (registry.findNodeByMacAddress macAddress).bind PlanningNode.smartLastSeen

variable (registry : CentralNodeRegistry) (macAddress other : MacAddress)

theorem smartLastSeen_mapLoads (update : LoadUpdate) :
    (registry.mapLoads update).smartLastSeen macAddress = registry.smartLastSeen macAddress := by
  rw [smartLastSeen, findNodeByMacAddress_mapLoads, Option.bind_map]
  rfl

theorem smartLastSeen_updateLoad (relayPin : UInt8) (update : LoadUpdate) :
    (registry.updateLoad other relayPin update).smartLastSeen macAddress = registry.smartLastSeen macAddress := by
  rw [updateLoad_eq_mapLoads registry ⟨other, relayPin⟩, smartLastSeen_mapLoads]

theorem smartLastSeen_removeLoad (relayPin : UInt8) :
    (registry.removeLoad other relayPin).1.smartLastSeen macAddress = registry.smartLastSeen macAddress := by
  rw [removeLoad, smartLastSeen, findNodeByMacAddress_updatePlanningNode]
  split
  · rw [Option.bind_map]
    rfl
  · rfl

/-- Central's own entry is not watched, and no other entry is touched. -/
theorem smartLastSeen_addLocalCentralNode (nodeName : List UInt8) (centralNode : Node) (nowMilliseconds : UInt32) :
    (registry.addLocalCentralNode nodeName centralNode nowMilliseconds).smartLastSeen macAddress =
      if macAddress = centralNode.macAddress then none else registry.smartLastSeen macAddress := by
  split
  · next hmac =>
    subst hmac
    have hfind : (registry.addLocalCentralNode nodeName centralNode nowMilliseconds).findNodeByMacAddress
        centralNode.macAddress = some _ := (KeyedList.lookup_put _ _ _).trans (if_pos rfl)
    rw [smartLastSeen, hfind]
    rfl
  · next hmac =>
    rw [smartLastSeen, findNodeByMacAddress_addLocalCentralNode registry nodeName centralNode nowMilliseconds macAddress
      hmac]
    rfl

/-- A page that is applied is the only thing that refreshes an entry, and creates it. -/
theorem smartLastSeen_applyNodeReport {packet : NodeReportPacket} {nowMilliseconds lastSeen : UInt32}
    (hseen : (registry.applyNodeReport packet nowMilliseconds).smartLastSeen macAddress = some lastSeen) :
    (if packet.HasPageNumber ∧ macAddress = packet.nodeMacAddress then lastSeen = nowMilliseconds
      else registry.smartLastSeen macAddress = some lastSeen) := by
  split
  · next hrefreshed =>
    obtain ⟨hnumber, rfl⟩ := hrefreshed
    rw [applyNodeReport_of_hasPageNumber hnumber, smartLastSeen, findNodeByMacAddress_updatePlanningNode, if_pos rfl,
      Option.bind_map, Option.bind_eq_some_iff] at hseen
    obtain ⟨planningNode, -, hseen⟩ := hseen
    change (PlanningNode.applyPage packet nowMilliseconds planningNode).smartLastSeen = some lastSeen at hseen
    rw [PlanningNode.applyPage_smartLastSeen, Option.map_eq_some_iff] at hseen
    obtain ⟨-, -, rfl⟩ := hseen
    rfl
  · next hkept =>
    by_cases hnumber : packet.HasPageNumber
    · rw [smartLastSeen, findNodeByMacAddress_applyNodeReport_of_ne fun hmac => hkept ⟨hnumber, hmac⟩] at hseen
      exact hseen
    · rwa [applyNodeReport_of_not_hasPageNumber hnumber] at hseen

end CentralNodeRegistry

end kilowatts
