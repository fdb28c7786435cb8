import Kilowatts.NodeManager.ReportedLoads
import Kilowatts.Smart.SmartNode

namespace kilowatts

/-- What the communication layer says about a Smart Node. -/
structure CommunicationStatus where
  localNodeName : List UInt8
  upstreamNode : Option MacAddress
  hopCountToCentral : UInt16

/-- `computeReportPageCount`. -/
def computeReportPageCount (loadCount : Nat) : UInt8 :=
  let bounded := min loadCount MAX_LOADS_PER_NODE
  let pages := (bounded + MAX_LOADS_PER_NODE_PACKET - 1) / MAX_LOADS_PER_NODE_PACKET
  UInt8.ofNat (if pages = 0 then 1 else pages)

/-- The loads on one page of a list. -/
def pageLoads (loads : List Load) (pageIndex : UInt8) : List Load :=
  let totalLoads := min loads.length MAX_LOADS_PER_NODE
  let startIndex := pageIndex.toNat * MAX_LOADS_PER_NODE_PACKET
  let endIndex := min (startIndex + MAX_LOADS_PER_NODE_PACKET) totalLoads
  (loads.drop startIndex).take (if startIndex < endIndex then endIndex - startIndex else 0)

/-- A page of a report. Without the lock, or without a Node, it has a page number
but no loads. -/
def buildNodeReportPacket (communication : CommunicationStatus) (localMac : MacAddress) (sequence : UInt16)
    (pageIndex totalPages : UInt8) (lockedNode : Option Node) : NodeReportPacket where
  nodeName := CharBuffer.zero.print communication.localNodeName
  nodeMacAddress := localMac
  upstreamNodeMacAddress := communication.upstreamNode.getD localMac
  hopCountToCentral := communication.hopCountToCentral
  numberOfLoads :=
    match lockedNode with
    | none => 0
    | some node => UInt8.ofNat (pageLoads node.loads pageIndex).length
  reportSequenceId := sequence
  pageIndex
  totalPages
  loads :=
    match lockedNode with
    | none => LoadReportPacket.packed []
    | some node => LoadReportPacket.packed ((pageLoads node.loads pageIndex).map LoadReportPacket.ofLoad)

theorem pageLoads_length_le (loads : List Load) (pageIndex : UInt8) :
    (pageLoads loads pageIndex).length ≤ MAX_LOADS_PER_NODE_PACKET := by
  simp only [pageLoads, List.length_take, List.length_drop]
  split <;> omega

theorem reportedLoads_buildNodeReportPacket (communication : CommunicationStatus) (localMac : MacAddress)
    (sequence : UInt16) (pageIndex totalPages : UInt8) (node : Node) :
    PlanningNode.reportedLoads (buildNodeReportPacket communication localMac sequence pageIndex totalPages (some node)) =
      (pageLoads node.loads pageIndex).map LoadReportPacket.ofLoad := by
  have hlength := pageLoads_length_le node.loads pageIndex
  have hfour : MAX_LOADS_PER_NODE_PACKET = 4 := rfl
  have hnumber : min (UInt8.ofNat (pageLoads node.loads pageIndex).length).toNat MAX_LOADS_PER_NODE_PACKET =
      ((pageLoads node.loads pageIndex).map LoadReportPacket.ofLoad).length := by
    rw [UInt8.toNat_ofNat', Nat.mod_eq_of_lt (by omega), List.length_map]
    omega
  simp only [PlanningNode.reportedLoads, buildNodeReportPacket, hnumber]
  exact LoadReportPacket.packed_take (by rwa [List.length_map])

/-- The page on which a pin stands in a list of pins. -/
def pageOf (relayPin : UInt8) (relayPins : List UInt8) : Nat := relayPins.idxOf relayPin / MAX_LOADS_PER_NODE_PACKET

namespace SmartNode

def relayPins (smartNode : SmartNode) : List UInt8 := smartNode.node.loads.map Load.getRelayPin

/-- A page holds the load at a pin exactly if the load stands on that page. -/
theorem mem_map_pageLoads_iff {smartNode : SmartNode} {relayPin pageIndex : UInt8} :
    relayPin ∈ (pageLoads smartNode.node.loads pageIndex).map Load.getRelayPin ↔
      relayPin ∈ smartNode.relayPins ∧ pageOf relayPin smartNode.relayPins = pageIndex.toNat := by
  have hlimit := smartNode.loads_le
  have hfour : MAX_LOADS_PER_NODE_PACKET = 4 := rfl
  have hsixteen : MAX_LOADS_PER_NODE = 16 := rfl
  have hlength : smartNode.relayPins.length = smartNode.node.loads.length := List.length_map _
  have hmap : (pageLoads smartNode.node.loads pageIndex).map Load.getRelayPin =
      (smartNode.relayPins.drop (pageIndex.toNat * 4)).take 4 := by
    rw [pageLoads, List.map_take, List.map_drop, hfour, hsixteen]
    apply List.take_eq_take_iff.mpr
    rw [List.length_drop, List.length_map]
    split <;> omega
  rw [hmap, List.mem_take_iff_getElem, pageOf, hfour]
  constructor
  · rintro ⟨place, hplace, hget⟩
    rw [List.length_drop] at hplace
    rw [List.getElem_drop] at hget
    have hindex : smartNode.relayPins.idxOf relayPin = pageIndex.toNat * 4 + place := by
      rw [← hget]
      exact smartNode.node.pins_nodup.idxOf_getElem _ _
    exact ⟨hget ▸ List.getElem_mem _, by omega⟩
  · rintro ⟨hpin, hpage⟩
    have hindex := List.idxOf_lt_length_iff.mpr hpin
    refine ⟨smartNode.relayPins.idxOf relayPin - pageIndex.toNat * 4, ?_, ?_⟩
    · rw [List.length_drop]
      omega
    · rw [List.getElem_drop]
      convert List.getElem_idxOf hindex using 2
      omega

end SmartNode

/-- The list of pins that the page was built from, if it was built under the lock. -/
def CarriedBy (relayPin : UInt8) (lockedPins : Option (List UInt8)) (pageIndex : UInt8) : Prop :=
  ∃ relayPins ∈ lockedPins, relayPin ∈ relayPins ∧ pageOf relayPin relayPins = pageIndex.toNat

instance (relayPin : UInt8) (lockedPins : Option (List UInt8)) (pageIndex : UInt8) :
    Decidable (CarriedBy relayPin lockedPins pageIndex) :=
  inferInstanceAs (Decidable (∃ _ ∈ _, _))

/-- A page names exactly the loads that stand on it while it is built, under the
lock. -/
theorem mem_keys_buildNodeReportPacket_iff (communication : CommunicationStatus) (localMac : MacAddress)
    (sequence : UInt16) (pageIndex totalPages : UInt8) (lockedNode : Option SmartNode) (relayPin : UInt8) :
    relayPin ∈ (buildNodeReportPacket communication localMac sequence pageIndex totalPages
        (lockedNode.map SmartNode.node)).page.keys ↔
      CarriedBy relayPin (lockedNode.map SmartNode.relayPins) pageIndex := by
  cases lockedNode with
  | none => simp [CarriedBy, PagedReport.Page.keys, NodeReportPacket.page, PlanningNode.entriesOf,
      PlanningNode.reportedLoads, buildNodeReportPacket]
  | some smartNode =>
    have hall : ((pageLoads smartNode.node.loads pageIndex).map LoadReportPacket.ofLoad).filter
        LoadReportPacket.validLoadReport = (pageLoads smartNode.node.loads pageIndex).map LoadReportPacket.ofLoad := by
      rw [List.filter_eq_self]
      intro report hreport
      obtain ⟨load, hload, rfl⟩ := List.mem_map.mp hreport
      exact smartNode.reportable load (List.mem_of_mem_drop (List.mem_of_mem_take hload))
    have hkeys : (buildNodeReportPacket communication localMac sequence pageIndex totalPages
        (some smartNode.node)).page.keys = (pageLoads smartNode.node.loads pageIndex).map Load.getRelayPin := by
      rw [PagedReport.Page.keys, NodeReportPacket.page, PlanningNode.entriesOf,
        reportedLoads_buildNodeReportPacket, hall, List.map_map, List.map_map]
      rfl
    rw [Option.map_some, hkeys, smartNode.mem_map_pageLoads_iff]
    simp [CarriedBy]

theorem computeReportPageCount_toNat (loadCount : Nat) :
    (computeReportPageCount loadCount).toNat =
      max 1 ((min loadCount MAX_LOADS_PER_NODE + MAX_LOADS_PER_NODE_PACKET - 1) / MAX_LOADS_PER_NODE_PACKET) := by
  have hfour : MAX_LOADS_PER_NODE_PACKET = 4 := rfl
  have hsixteen : MAX_LOADS_PER_NODE = 16 := rfl
  rw [computeReportPageCount, UInt8.toNat_ofNat', hfour, hsixteen]
  split
  · omega
  · rw [Nat.mod_eq_of_lt (by omega)]
    omega

theorem computeReportPageCount_bounds (loadCount : Nat) :
    0 < (computeReportPageCount loadCount).toNat ∧ (computeReportPageCount loadCount).toNat ≤ 4 := by
  have hfour : MAX_LOADS_PER_NODE_PACKET = 4 := rfl
  have hsixteen : MAX_LOADS_PER_NODE = 16 := rfl
  rw [computeReportPageCount_toNat, hfour, hsixteen]
  omega

end kilowatts
