import Kilowatts.Library.PagedReport.Convergence
import Kilowatts.NodeManager.ReportedLoads

namespace kilowatts

open PagedReport

namespace CentralNodeRegistry

/-- The fields of a load, as Central has them. -/
def fieldsAt (registry : CentralNodeRegistry) (macAddress : MacAddress) (relayPin : UInt8) : Option LoadFields :=
  (registry.findLoad macAddress relayPin).map Load.fields

/-- The table of a Node. One without an entry counts as new. -/
def viewOf (registry : CentralNodeRegistry) (macAddress : MacAddress) : View (UInt16 × UInt8) UInt8 LoadFields :=
  match registry.findNodeByMacAddress macAddress with
  | some planningNode => planningNode.view
  | none => (newPlanningNode macAddress 0).view

theorem viewOf_contents (registry : CentralNodeRegistry) (macAddress : MacAddress) :
    (registry.viewOf macAddress).contents = registry.fieldsAt macAddress := by
  funext relayPin
  unfold viewOf fieldsAt findLoad
  cases registry.findNodeByMacAddress macAddress <;> rfl

/-- What the report in progress has named is kept in its bookkeeping alone. -/
theorem viewOf_named_congr {first second : CentralNodeRegistry} {macAddress : MacAddress}
    (hpending : (first.findNodeByMacAddress macAddress).map PlanningNode.pendingReport =
      (second.findNodeByMacAddress macAddress).map PlanningNode.pendingReport) :
    (first.viewOf macAddress).named = (second.viewOf macAddress).named := by
  unfold viewOf
  cases hfirst : first.findNodeByMacAddress macAddress <;> cases hsecond : second.findNodeByMacAddress macAddress
  · rfl
  · simp [hfirst, hsecond] at hpending
  · simp [hfirst, hsecond] at hpending
  · simp only [hfirst, hsecond, Option.map_some, Option.some.injEq] at hpending
    simp only [PlanningNode.view, hpending]

theorem viewOf_named_mapLoads (registry : CentralNodeRegistry) (update : LoadUpdate) (macAddress : MacAddress) :
    ((registry.mapLoads update).viewOf macAddress).named = (registry.viewOf macAddress).named := by
  apply viewOf_named_congr
  rw [findNodeByMacAddress_mapLoads, Option.map_map]
  rfl

theorem viewOf_named_updatePlanningNode {update : PlanningNodeUpdate}
    (hpending : ∀ planningNode, (update.apply planningNode).pendingReport = planningNode.pendingReport)
    (registry : CentralNodeRegistry) (updated macAddress : MacAddress) :
    ((registry.updatePlanningNode updated update).viewOf macAddress).named = (registry.viewOf macAddress).named := by
  apply viewOf_named_congr
  rw [findNodeByMacAddress_updatePlanningNode]
  split
  · rw [Option.map_map]
    exact Option.map_congr fun planningNode _ => hpending planningNode
  · rfl

theorem findNodeByMacAddress_ensurePlanningNode (registry : CentralNodeRegistry) (macAddress : MacAddress)
    (nowMilliseconds : UInt32) :
    ∃ planningNode, (registry.ensurePlanningNode macAddress nowMilliseconds).findNodeByMacAddress macAddress =
        some planningNode ∧ planningNode.view = registry.viewOf macAddress := by
  unfold ensurePlanningNode viewOf
  split
  · rename_i hnew
    refine ⟨newPlanningNode macAddress nowMilliseconds, ?_, by rw [hnew]; rfl⟩
    refine (KeyedList.lookup_append_singleton registry.planningNodes _ macAddress).trans ?_
    rw [findNodeByMacAddress] at hnew
    rw [hnew, Option.none_or]
    exact if_pos rfl
  · rename_i hknown
    obtain ⟨planningNode, hfind⟩ := Option.ne_none_iff_exists'.mp hknown
    exact ⟨planningNode, hfind, by rw [hfind]⟩

theorem applyNodeReport_of_hasPageNumber {packet : NodeReportPacket} (hnumber : packet.HasPageNumber)
    (registry : CentralNodeRegistry) (nowMilliseconds : UInt32) :
    registry.applyNodeReport packet nowMilliseconds =
      (registry.ensurePlanningNode packet.nodeMacAddress nowMilliseconds).updatePlanningNode packet.nodeMacAddress
        (PlanningNode.applyPageUpdate packet nowMilliseconds) := by
  obtain ⟨hpositive, hlimit, hindex⟩ := hnumber
  rw [applyNodeReport, if_neg]
  simp only [Bool.or_eq_true, decide_eq_true_eq, not_or]
  refine ⟨⟨?_, ?_⟩, ?_⟩
  · rintro hzero
    simp [hzero] at hpositive
  · rw [gt_iff_lt, UInt8.lt_iff_toNat_lt]
    exact Nat.not_lt.mpr hlimit
  · rw [ge_iff_le, UInt8.le_iff_toNat_le]
    exact Nat.not_le.mpr hindex

theorem applyNodeReport_of_not_hasPageNumber {packet : NodeReportPacket} (hnumber : ¬ packet.HasPageNumber)
    (registry : CentralNodeRegistry) (nowMilliseconds : UInt32) :
    registry.applyNodeReport packet nowMilliseconds = registry := by
  refine if_pos ?_
  by_contra hchecked
  simp only [Bool.or_eq_true, decide_eq_true_eq, not_or, gt_iff_lt, UInt8.not_lt, ge_iff_le, UInt8.not_le] at hchecked
  obtain ⟨⟨hpositive, hlimit⟩, hindex⟩ := hchecked
  refine hnumber ⟨Nat.pos_of_ne_zero fun hzero => hpositive (UInt8.toNat_inj.mp hzero), ?_, ?_⟩
  · exact UInt8.le_iff_toNat_le.mp hlimit
  · exact UInt8.lt_iff_toNat_lt.mp hindex

/-- A report of one Node touches no other Node. -/
theorem findNodeByMacAddress_applyNodeReport_of_ne {packet : NodeReportPacket} {macAddress : MacAddress}
    (hother : macAddress ≠ packet.nodeMacAddress) (registry : CentralNodeRegistry) (nowMilliseconds : UInt32) :
    (registry.applyNodeReport packet nowMilliseconds).findNodeByMacAddress macAddress =
      registry.findNodeByMacAddress macAddress := by
  unfold applyNodeReport
  split
  · rfl
  rw [findNodeByMacAddress_updatePlanningNode, if_neg hother, ensurePlanningNode]
  split
  · refine (KeyedList.lookup_append_singleton registry.planningNodes _ macAddress).trans ?_
    have hnew : (newPlanningNode packet.nodeMacAddress nowMilliseconds).getMacAddress ≠ macAddress := Ne.symm hother
    rw [if_neg hnew, Option.or_none]
    rfl
  · rfl

/-- A page from a Node acts on the table of that Node. -/
theorem viewOf_applyNodeReport {packet : NodeReportPacket} (hnumber : packet.HasPageNumber)
    (registry : CentralNodeRegistry) (nowMilliseconds : UInt32) :
    (registry.applyNodeReport packet nowMilliseconds).viewOf packet.nodeMacAddress =
      (registry.viewOf packet.nodeMacAddress).applyPage packet.page := by
  obtain ⟨planningNode, hfind, hview⟩ :=
    registry.findNodeByMacAddress_ensurePlanningNode packet.nodeMacAddress nowMilliseconds
  obtain ⟨-, hmac⟩ := findNodeByMacAddress_eq_some_iff.mp hfind
  rw [applyNodeReport_of_hasPageNumber hnumber, viewOf, findNodeByMacAddress_updatePlanningNode, if_pos rfl, hfind,
    ← hview]
  exact PlanningNode.view_applyPage hnumber hmac nowMilliseconds

/-- Deliveries of pages, each with the time of its arrival. -/
def applyNodeReports (registry : CentralNodeRegistry) (deliveries : List (NodeReportPacket × UInt32)) :
    CentralNodeRegistry :=
  deliveries.foldl (fun registry delivery => registry.applyNodeReport delivery.1 delivery.2) registry

theorem viewOf_applyNodeReports {macAddress : MacAddress} {deliveries : List (NodeReportPacket × UInt32)}
    (hpages : ∀ delivery ∈ deliveries, delivery.1.nodeMacAddress = macAddress ∧ delivery.1.HasPageNumber)
    (registry : CentralNodeRegistry) :
    (registry.applyNodeReports deliveries).viewOf macAddress =
      (deliveries.map fun delivery => delivery.1.page).foldl (fun view page => view.applyPage page)
        (registry.viewOf macAddress) := by
  induction deliveries generalizing registry with
  | nil => rfl
  | cons delivery deliveries ih =>
    obtain ⟨hmac, hnumber⟩ := hpages delivery List.mem_cons_self
    rw [List.map_cons, List.foldl_cons, ← hmac, ← viewOf_applyNodeReport hnumber registry delivery.2, hmac]
    exact ih (fun other hother => hpages other (List.mem_cons_of_mem delivery hother)) _

end CentralNodeRegistry

/-- A load list that a Node reports in one to eight pages. -/
structure NodeReport where
  nodeMacAddress : MacAddress
  reportSequenceId : UInt16
  pages : List (List LoadReportPacket)
  pages_ne_nil : pages ≠ []
  pages_le : pages.length ≤ 8
  page_le : ∀ reports ∈ pages, reports.length ≤ MAX_LOADS_PER_NODE_PACKET
  valid : ∀ reports ∈ pages, ∀ report ∈ reports, report.validLoadReport = true
  pins_nodup : (pages.flatten.map LoadReportPacket.relayPin).Nodup

namespace NodeReport

/-- What the report says about the load at a pin. -/
def fieldsAt (nodeReport : NodeReport) (relayPin : UInt8) : Option LoadFields :=
  (nodeReport.pages.flatten.find? (·.relayPin = relayPin)).map LoadReportPacket.fields

/-- The packet carries a page of the report; the loads behind `numberOfLoads` do
not belong to it. -/
structure IsPage (nodeReport : NodeReport) (packet : NodeReportPacket) : Prop where
  nodeMacAddress : packet.nodeMacAddress = nodeReport.nodeMacAddress
  reportSequenceId : packet.reportSequenceId = nodeReport.reportSequenceId
  totalPages : packet.totalPages.toNat = nodeReport.pages.length
  loads : nodeReport.pages[packet.pageIndex.toNat]? = some (PlanningNode.reportedLoads packet)

theorem keys_entriesOf {reports : List LoadReportPacket}
    (hvalid : ∀ report ∈ reports, report.validLoadReport = true) :
    PlanningNode.entriesOf reports = reports.map fun report => (report.relayPin, report.fields) := by
  rw [PlanningNode.entriesOf, List.filter_eq_self.mpr hvalid]

theorem flatten_entriesOf (nodeReport : NodeReport) :
    (nodeReport.pages.map PlanningNode.entriesOf).flatten =
      nodeReport.pages.flatten.map fun report => (report.relayPin, report.fields) := by
  rw [List.map_flatten]
  congr 1
  exact List.map_congr_left fun reports hreports => keys_entriesOf (nodeReport.valid reports hreports)

def snapshot (nodeReport : NodeReport) : Snapshot (UInt16 × UInt8) UInt8 LoadFields where
  report := (nodeReport.reportSequenceId, UInt8.ofNat nodeReport.pages.length)
  pages := nodeReport.pages.map PlanningNode.entriesOf
  pages_ne_nil := by simpa using nodeReport.pages_ne_nil
  keys_nodup := by
    rw [flatten_entriesOf, List.map_map]
    exact nodeReport.pins_nodup

theorem snapshot_contents (nodeReport : NodeReport) : nodeReport.snapshot.contents = nodeReport.fieldsAt := by
  have hflatten : nodeReport.snapshot.pages.flatten =
      nodeReport.pages.flatten.map fun report => (report.relayPin, report.fields) := nodeReport.flatten_entriesOf
  funext relayPin
  unfold fieldsAt
  cases hfind : nodeReport.pages.flatten.find? (·.relayPin = relayPin) with
  | none =>
    rw [List.find?_eq_none] at hfind
    apply Snapshot.contents_of_notMem
    rw [hflatten, List.map_map, List.mem_map]
    rintro ⟨report, hreport, hpin⟩
    exact hfind report hreport (decide_eq_true hpin)
  | some report =>
    obtain rfl : report.relayPin = relayPin := by simpa using List.find?_some hfind
    have hentry : (report.relayPin, report.fields) ∈ nodeReport.snapshot.pages.flatten := by
      rw [hflatten]
      exact List.mem_map_of_mem (List.mem_of_find?_eq_some hfind)
    exact Snapshot.contents_of_mem hentry

theorem IsPage.hasPageNumber {nodeReport : NodeReport} {packet : NodeReportPacket}
    (hpage : nodeReport.IsPage packet) : packet.HasPageNumber := by
  have hindex := (List.getElem?_eq_some_iff.mp hpage.loads).1
  have hlimit := nodeReport.pages_le
  rw [← hpage.totalPages] at hindex hlimit
  exact ⟨by omega, hlimit, hindex⟩

theorem IsPage.page {nodeReport : NodeReport} {packet : NodeReportPacket} (hpage : nodeReport.IsPage packet) :
    nodeReport.snapshot.IsPage packet.page where
  report := by
    refine Prod.ext hpage.reportSequenceId ?_
    simp only [NodeReportPacket.page, snapshot, ← hpage.totalPages, UInt8.ofNat_toNat]
  total := by
    rw [snapshot, List.length_map]
    exact hpage.totalPages
  entries := by
    rw [snapshot, List.getElem?_map]
    exact congrArg (Option.map PlanningNode.entriesOf) hpage.loads

/-- What a list of deliveries of pages of one report does to the table of the Node. -/
theorem viewOf_applyNodeReports (nodeReport : NodeReport) {deliveries : List (NodeReportPacket × UInt32)}
    (hpages : ∀ delivery ∈ deliveries, nodeReport.IsPage delivery.1) (registry : CentralNodeRegistry) :
    (registry.applyNodeReports deliveries).viewOf nodeReport.nodeMacAddress =
      (deliveries.map fun delivery => delivery.1.page).foldl (fun view page => view.applyPage page)
        (registry.viewOf nodeReport.nodeMacAddress) :=
  CentralNodeRegistry.viewOf_applyNodeReports
    (fun delivery hdelivery => ⟨(hpages delivery hdelivery).nodeMacAddress, (hpages delivery hdelivery).hasPageNumber⟩)
    registry

theorem isPage_of_mem_map (nodeReport : NodeReport) {deliveries : List (NodeReportPacket × UInt32)}
    (hpages : ∀ delivery ∈ deliveries, nodeReport.IsPage delivery.1) :
    ∀ page ∈ deliveries.map fun delivery => delivery.1.page, nodeReport.snapshot.IsPage page := by
  intro page hpage
  obtain ⟨delivery, hdelivery, rfl⟩ := List.mem_map.mp hpage
  exact (hpages delivery hdelivery).page

/-- The pages of the report have all been delivered, each at least once. -/
def DeliveredBy (nodeReport : NodeReport) (deliveries : List (NodeReportPacket × UInt32)) : Prop :=
  (∀ delivery ∈ deliveries, nodeReport.IsPage delivery.1) ∧
    ∀ index < nodeReport.pages.length, ∃ delivery ∈ deliveries, delivery.1.pageIndex.toNat = index

theorem fieldsAt_of_deliveredBy {nodeReport : NodeReport} {deliveries : List (NodeReportPacket × UInt32)}
    (hdelivered : nodeReport.DeliveredBy deliveries) {registry : CentralNodeRegistry}
    (hreport : (registry.viewOf nodeReport.nodeMacAddress).report ≠ nodeReport.snapshot.report) :
    (registry.applyNodeReports deliveries).fieldsAt nodeReport.nodeMacAddress = nodeReport.fieldsAt := by
  obtain ⟨hpages, hall⟩ := hdelivered
  rw [← CentralNodeRegistry.viewOf_contents, nodeReport.viewOf_applyNodeReports hpages, ← snapshot_contents]
  refine foldl_applyPage_contents hreport (nodeReport.isPage_of_mem_map hpages) fun index hindex => ?_
  rw [snapshot, List.length_map] at hindex
  obtain ⟨delivery, hdelivery, rfl⟩ := hall index hindex
  exact ⟨_, List.mem_map_of_mem hdelivery, rfl⟩

theorem DeliveredBy.append {nodeReport : NodeReport} {deliveries later : List (NodeReportPacket × UInt32)}
    (hdelivered : nodeReport.DeliveredBy deliveries) (hlater : ∀ delivery ∈ later, nodeReport.IsPage delivery.1) :
    nodeReport.DeliveredBy (deliveries ++ later) := by
  obtain ⟨hpages, hall⟩ := hdelivered
  refine ⟨fun delivery hdelivery => ?_, fun index hindex => ?_⟩
  · obtain hold | hnew := List.mem_append.mp hdelivery
    · exact hpages delivery hold
    · exact hlater delivery hnew
  · obtain ⟨delivery, hdelivery, hindex⟩ := hall index hindex
    exact ⟨delivery, List.mem_append_left later hdelivery, hindex⟩

theorem viewOf_report_ne {nodeReport : NodeReport} {registry : CentralNodeRegistry}
    (hpending : ∀ planningNode, registry.findNodeByMacAddress nodeReport.nodeMacAddress = some planningNode →
      planningNode.pendingReport.sequenceId ≠ nodeReport.reportSequenceId) :
    (registry.viewOf nodeReport.nodeMacAddress).report ≠ nodeReport.snapshot.report := by
  unfold CentralNodeRegistry.viewOf
  cases hfind : registry.findNodeByMacAddress nodeReport.nodeMacAddress with
  | some planningNode => exact fun hsame => hpending planningNode hfind (congrArg Prod.fst hsame)
  | none =>
    intro hsame
    have htotal : (UInt8.ofNat nodeReport.pages.length).toNat = 0 := congrArg (UInt8.toNat ∘ Prod.snd) hsame.symm
    have hlimit := nodeReport.pages_le
    have hpositive := List.length_pos_of_ne_nil nodeReport.pages_ne_nil
    rw [UInt8.toNat_ofNat', Nat.mod_eq_of_lt (by omega)] at htotal
    omega

/-- A packet for one page of the report. -/
def packet (nodeReport : NodeReport) (index : Nat) : NodeReportPacket where
  nodeName := .zero
  nodeMacAddress := nodeReport.nodeMacAddress
  upstreamNodeMacAddress := nodeReport.nodeMacAddress
  hopCountToCentral := 1
  numberOfLoads := UInt8.ofNat ((nodeReport.pages[index]?).getD []).length
  reportSequenceId := nodeReport.reportSequenceId
  pageIndex := UInt8.ofNat index
  totalPages := UInt8.ofNat nodeReport.pages.length
  loads := LoadReportPacket.packed ((nodeReport.pages[index]?).getD [])

theorem isPage_packet {nodeReport : NodeReport} {index : Nat} (hindex : index < nodeReport.pages.length) :
    nodeReport.IsPage (nodeReport.packet index) := by
  have hlimit := nodeReport.pages_le
  have hlength := nodeReport.page_le _ (List.getElem_mem hindex)
  have hpage : (nodeReport.pages[index]?).getD [] = nodeReport.pages[index] := by
    rw [List.getElem?_eq_getElem hindex, Option.getD_some]
  refine ⟨rfl, rfl, ?_, ?_⟩
  · rw [packet, UInt8.toNat_ofNat', Nat.mod_eq_of_lt (by omega)]
  · have hpageIndex : (nodeReport.packet index).pageIndex.toNat = index := by
      rw [packet, UInt8.toNat_ofNat', Nat.mod_eq_of_lt (by omega)]
    have hnumber : min (nodeReport.packet index).numberOfLoads.toNat MAX_LOADS_PER_NODE_PACKET =
        nodeReport.pages[index].length := by
      have hfour : MAX_LOADS_PER_NODE_PACKET = 4 := rfl
      rw [packet, hpage, UInt8.toNat_ofNat', Nat.mod_eq_of_lt (by omega)]
      omega
    rw [hpageIndex, List.getElem?_eq_getElem hindex, PlanningNode.reportedLoads, hnumber, packet, hpage,
      LoadReportPacket.packed_take hlength]

/-- All pages of the report, one after the other. -/
def deliveries (nodeReport : NodeReport) : List (NodeReportPacket × UInt32) :=
  (List.range nodeReport.pages.length).map fun index => (nodeReport.packet index, 0)

theorem deliveredBy_deliveries (nodeReport : NodeReport) : nodeReport.DeliveredBy nodeReport.deliveries := by
  refine ⟨fun delivery hdelivery => ?_, fun index hindex => ?_⟩
  · obtain ⟨index, hindex, rfl⟩ := List.mem_map.mp hdelivery
    exact isPage_packet (List.mem_range.mp hindex)
  · refine ⟨_, List.mem_map_of_mem (List.mem_range.mpr hindex), ?_⟩
    have hlimit := nodeReport.pages_le
    rw [packet, UInt8.toNat_ofNat', Nat.mod_eq_of_lt (by omega)]

theorem DeliveredBy.ne_nil {nodeReport : NodeReport} {deliveries : List (NodeReportPacket × UInt32)}
    (hdelivered : nodeReport.DeliveredBy deliveries) : deliveries ≠ [] := by
  rintro rfl
  obtain ⟨delivery, hdelivery, -⟩ := hdelivered.2 0 (List.length_pos_of_ne_nil nodeReport.pages_ne_nil)
  exact List.not_mem_nil hdelivery

end NodeReport

/-- Once every page of a report has been delivered, in whatever order and however
often, the loads of the Node are exactly the reported ones with the reported
fields, and later copies change nothing. The registry was arbitrary before, except
that it was not collecting a report with this sequence id. -/
theorem applyNodeReports_converge (nodeReport : NodeReport) (registry : CentralNodeRegistry)
    (hpending : ∀ planningNode, registry.findNodeByMacAddress nodeReport.nodeMacAddress = some planningNode →
      planningNode.pendingReport.sequenceId ≠ nodeReport.reportSequenceId)
    (deliveries later : List (NodeReportPacket × UInt32)) (hdelivered : nodeReport.DeliveredBy deliveries)
    (hlater : ∀ delivery ∈ later, nodeReport.IsPage delivery.1) (relayPin : UInt8) :
    (registry.applyNodeReports deliveries).fieldsAt nodeReport.nodeMacAddress relayPin =
        nodeReport.fieldsAt relayPin ∧
      (registry.applyNodeReports (deliveries ++ later)).fieldsAt nodeReport.nodeMacAddress relayPin =
        nodeReport.fieldsAt relayPin := by
  have hreport := NodeReport.viewOf_report_ne hpending
  have hfirst := NodeReport.fieldsAt_of_deliveredBy hdelivered hreport
  have hagain := NodeReport.fieldsAt_of_deliveredBy (hdelivered.append hlater) hreport
  exact ⟨congrFun hfirst relayPin, congrFun hagain relayPin⟩

section Runs

def emptyRegistry : CentralNodeRegistry := ⟨[], List.nodup_nil⟩

/-- The report of a lamp of 40 W that is always on. -/
def lampReport (relayPin : UInt8) : LoadReportPacket :=
  ⟨CharBuffer.zero.print [76, 97, 109, 112], relayPin, 1, 0, 5, .finite 40, 0, 0, 0, 0, 0⟩

theorem lampReport_valid (relayPin : UInt8) : (lampReport relayPin).validLoadReport = true := by
  have hvalid : (lampReport 0).validLoadReport = true := by decide +kernel
  exact hvalid

/-- Lamps on the given pins, page by page. -/
def lampsReport (reportSequenceId : UInt16) (pages : List (List UInt8))
    (hpages : pages ≠ [] ∧ pages.length ≤ 8 ∧ (∀ pins ∈ pages, pins.length ≤ 4) ∧ pages.flatten.Nodup) :
    NodeReport where
  nodeMacAddress := Vector.replicate 6 2
  reportSequenceId
  pages := pages.map (·.map lampReport)
  pages_ne_nil := by simpa using hpages.1
  pages_le := by simpa using hpages.2.1
  page_le := by
    intro reports hreports
    obtain ⟨pins, hpin, rfl⟩ := List.mem_map.mp hreports
    rw [List.length_map]
    exact hpages.2.2.1 pins hpin
  valid := by
    intro reports hreports report hreport
    obtain ⟨pins, -, rfl⟩ := List.mem_map.mp hreports
    obtain ⟨relayPin, -, rfl⟩ := List.mem_map.mp hreport
    exact lampReport_valid relayPin
  pins_nodup := by
    have hmap : (pages.map (·.map lampReport)).flatten.map LoadReportPacket.relayPin = pages.flatten := by
      rw [← List.map_flatten, List.map_map]
      exact List.map_id _
    rw [hmap]
    exact hpages.2.2.2

/-- Five lamps in two pages. -/
def fiveLamps : NodeReport := lampsReport 7 [[4, 5, 12, 13], [14]] (by decide)

/-- The second page comes first and twice, and once more at the end. -/
theorem applyNodeReports_converge_fiveLamps :
    (emptyRegistry.applyNodeReports [(fiveLamps.packet 1, 0), (fiveLamps.packet 1, 20), (fiveLamps.packet 0, 40)]).fieldsAt
      (Vector.replicate 6 2) 14 = some (lampReport 14).fields := by
  have hpacket : ∀ index < 2, fiveLamps.IsPage (fiveLamps.packet index) :=
    fun index hindex => NodeReport.isPage_packet hindex
  refine (applyNodeReports_converge fiveLamps emptyRegistry (fun _ hfind => by cases hfind) _
    [(fiveLamps.packet 1, 60)] ⟨?_, ?_⟩ ?_ 14).1
  · simp [hpacket]
  · decide
  · simp [hpacket]

end Runs

end kilowatts
