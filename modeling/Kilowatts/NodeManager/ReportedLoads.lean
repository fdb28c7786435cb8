import Kilowatts.Library.PagedReport
import Kilowatts.NodeManager.CentralNodeRegistry

namespace kilowatts

open PagedReport

/-- What a report says about a load, and what Central keeps of it. -/
structure LoadFields where
  name : List UInt8
  mode : LoadMode
  powerType : LoadPowerType
  priority : UInt16
  powerRatingWatts : Rat
  schedule : AutoSchedule
deriving DecidableEq

/-- The fields of a load that a report names. -/
def Load.fields (load : Load) : LoadFields :=
  ⟨load.name, load.mode, load.powerType, load.priority, load.powerRatingWatts, load.schedule⟩

namespace LoadReportPacket

/-- The reported fields. The schedule is cleared when the mode is fixed, and a
disabled schedule has no times. -/
def fields (report : LoadReportPacket) : LoadFields where
  name := report.name.text
  mode := .ofByte report.mode
  powerType := .ofByte report.powerType
  priority := report.priority
  powerRatingWatts :=
    match report.powerRatingWatts with
    | .finite value => value
    | .nonFinite => 0
  schedule :=
    if LoadMode.ofByte report.mode = .AUTO_ON ∨ LoadMode.ofByte report.mode = .AUTO_OFF then report.schedule
    else .none

/-- The rating of a valid report is a number, and not negative. -/
theorem validLoadReport_rating {report : LoadReportPacket} (hvalid : report.validLoadReport = true) :
    ∃ value, report.powerRatingWatts = .finite value ∧ 0 ≤ value := by
  simp only [validLoadReport, Bool.and_eq_true] at hvalid
  obtain ⟨⟨-, hrating⟩, -⟩ := hvalid
  cases hvalue : report.powerRatingWatts with
  | finite value =>
    rw [hvalue, validPowerRating, decide_eq_true_eq] at hrating
    exact ⟨value, rfl, hrating⟩
  | nonFinite =>
    rw [hvalue] at hrating
    cases hrating

/-- The schedule of a valid report is valid. -/
theorem validLoadReport_schedule {report : LoadReportPacket} (hvalid : report.validLoadReport = true) :
    report.schedule.isValidSchedule = true := by
  simp only [validLoadReport, Bool.and_eq_true] at hvalid
  rw [← validSchedule_eq]
  exact hvalid.2

end LoadReportPacket

namespace PlanningNode

/-- A reported schedule replaces the old one. Needs a valid report. -/
theorem fields_applySchedule {report : LoadReportPacket} (hvalid : report.validLoadReport = true) (load : Load) :
    (applySchedule report load).fields =
      { load.fields with schedule := if load.isAuto then report.schedule else .none } := by
  cases hauto : load.isAuto with
  | true =>
    have hschedule := LoadReportPacket.validLoadReport_schedule hvalid
    simp [applySchedule, hauto, Load.setSchedule_eq, hschedule, Load.fields]
  | false => simp [applySchedule, hauto, Load.clearSchedule, Load.fields]

/-- A new load has the reported fields. Needs a valid report. -/
theorem fields_createdLoad {report : LoadReportPacket} (hvalid : report.validLoadReport = true)
    (nodeMacAddress : MacAddress) :
    (applySchedule report (createdLoad nodeMacAddress report)).fields = report.fields := by
  obtain ⟨value, hrating, hnonneg⟩ := LoadReportPacket.validLoadReport_rating hvalid
  rw [fields_applySchedule hvalid]
  simp [createdLoad, Load.make, Load.setPowerRatingWatts, hrating, hnonneg, Load.fields, LoadReportPacket.fields,
    Load.isAuto]

/-- A known load takes the reported fields. Needs a valid report. -/
theorem fields_overwrittenLoad {report : LoadReportPacket} (hvalid : report.validLoadReport = true) (load : Load) :
    (applySchedule report (overwrittenLoad report load)).fields = report.fields := by
  obtain ⟨value, hrating, hnonneg⟩ := LoadReportPacket.validLoadReport_rating hvalid
  rw [fields_applySchedule hvalid]
  simp [overwrittenLoad, Load.setName, Load.setMode_eq, Load.setPowerRatingWatts, Load.setPowerType,
    Load.setPriority, hrating, hnonneg, Load.fields, LoadReportPacket.fields, Load.isAuto]

/-- The fields of the load at a pin, as Central has them. -/
def fieldsAt (planningNode : PlanningNode) (relayPin : UInt8) : Option LoadFields :=
  (planningNode.node.getLoadByRelayPin relayPin).map Load.fields

/-- The table and the bookkeeping of an entry. -/
def view (planningNode : PlanningNode) : View (UInt16 × UInt8) UInt8 LoadFields where
  report := (planningNode.pendingReport.sequenceId, planningNode.pendingReport.totalPages)
  received := ByteSet.members planningNode.pendingReport.pagesReceivedMask
  named := planningNode.pendingReport.reportedRelayPins.toFinset
  contents := planningNode.fieldsAt

/-- One valid report sets the load at its pin and touches no other load. -/
theorem fieldsAt_applyLoadReport {nodeMacAddress : MacAddress} {planningNode : PlanningNode}
    (hmac : planningNode.getMacAddress = nodeMacAddress) {report : LoadReportPacket}
    (hvalid : report.validLoadReport = true) :
    (applyLoadReport nodeMacAddress planningNode report).fieldsAt =
      Function.update planningNode.fieldsAt report.relayPin (some report.fields) := by
  funext relayPin
  unfold applyLoadReport
  rw [hvalid]
  cases hload : planningNode.node.getLoadByRelayPin report.relayPin with
  | none =>
    have hid : (createdLoad nodeMacAddress report).id = ⟨nodeMacAddress, report.relayPin⟩ := Load.make_id _ _ _ _ _ _
    have hpin : (createdLoad nodeMacAddress report).getRelayPin = report.relayPin := congrArg Load.Id.relayPin hid
    have hown : (createdLoad nodeMacAddress report).getMacAddress = planningNode.node.macAddress :=
      (congrArg Load.Id.macAddress hid).trans hmac.symm
    have hfree : (createdLoad nodeMacAddress report).getRelayPin ∉ planningNode.node.loads.map Load.getRelayPin := by
      rw [hpin]
      exact Node.getLoadByRelayPin_eq_none_iff.mp hload
    have hadded : (planningNode.node.addLoad (createdLoad nodeMacAddress report)).2 = true := by
      rw [Node.addLoad, dif_pos hown, dif_neg hfree]
    have hfind := Node.addLoad_getLoadByRelayPin hown (Node.getLoadByRelayPin_eq_none_iff.mpr hfree) relayPin
    rw [hpin] at hfind
    simp only [Bool.not_true, Bool.false_eq_true, if_false, fieldsAt, hadded, if_true,
      Node.updateLoadByRelayPin_getLoadByRelayPin, hfind]
    by_cases hsame : relayPin = report.relayPin
    · rw [hsame, Function.update_self, if_pos rfl, if_pos rfl]
      exact congrArg some (fields_createdLoad hvalid nodeMacAddress)
    · rw [Function.update_of_ne hsame, if_neg hsame, if_neg hsame]
      rfl
  | some load =>
    simp only [Bool.not_true, Bool.false_eq_true, if_false, fieldsAt, Node.updateLoadByRelayPin_getLoadByRelayPin]
    by_cases hsame : relayPin = report.relayPin
    · rw [hsame, Function.update_self, if_pos rfl, hload]
      exact congrArg some (fields_overwrittenLoad hvalid load)
    · rw [Function.update_of_ne hsame, if_neg hsame]
      rfl

/-- The pin of a valid report is marked as reported. -/
theorem pendingReport_applyLoadReport {report : LoadReportPacket} (hvalid : report.validLoadReport = true)
    (nodeMacAddress : MacAddress) (planningNode : PlanningNode) :
    (applyLoadReport nodeMacAddress planningNode report).pendingReport =
      { planningNode.pendingReport with
        reportedRelayPins := planningNode.pendingReport.reportedRelayPins ++ [report.relayPin] } := by
  unfold applyLoadReport
  rw [hvalid]
  cases planningNode.node.getLoadByRelayPin report.relayPin <;> rfl

/-- What the valid reports of a page say, by pin. -/
def entriesOf (reports : List LoadReportPacket) : List (UInt8 × LoadFields) :=
  (reports.filter LoadReportPacket.validLoadReport).map fun report => (report.relayPin, report.fields)

/-- The reported loads overwrite those of their pins, the last report of a pin last. -/
theorem foldl_applyLoadReport {nodeMacAddress : MacAddress} {planningNode : PlanningNode}
    (hmac : planningNode.getMacAddress = nodeMacAddress) (reports : List LoadReportPacket) :
    (reports.foldl (applyLoadReport nodeMacAddress) planningNode).fieldsAt =
        overwrite (entriesOf reports) planningNode.fieldsAt ∧
      (reports.foldl (applyLoadReport nodeMacAddress) planningNode).pendingReport =
        { planningNode.pendingReport with
          reportedRelayPins := planningNode.pendingReport.reportedRelayPins ++ (entriesOf reports).map Prod.fst } := by
  induction reports generalizing planningNode with
  | nil => simp [entriesOf, overwrite]
  | cons report reports ih =>
    have hrest := ih ((applyLoadReport_getMacAddress nodeMacAddress planningNode report).trans hmac)
    rw [List.foldl_cons, hrest.1, hrest.2]
    cases hvalid : report.validLoadReport with
    | false =>
      have hself : applyLoadReport nodeMacAddress planningNode report = planningNode := by
        simp [applyLoadReport, hvalid]
      have hentries : entriesOf (report :: reports) = entriesOf reports := by simp [entriesOf, hvalid]
      rw [hself, hentries]
      exact ⟨rfl, rfl⟩
    | true =>
      have hentries : entriesOf (report :: reports) = (report.relayPin, report.fields) :: entriesOf reports := by
        simp [entriesOf, hvalid]
      rw [hentries, overwrite_cons, fieldsAt_applyLoadReport hmac hvalid, pendingReport_applyLoadReport hvalid]
      exact ⟨rfl, by simp⟩

/-- The loads on the removed pins are gone, and no others. -/
theorem foldl_removeLoadByRelayPin (relayPins : List UInt8) (node : Node) (relayPin : UInt8) :
    (relayPins.foldl (fun node relayPin => (node.removeLoadByRelayPin relayPin).1) node).getLoadByRelayPin relayPin =
      if relayPin ∈ relayPins then none else node.getLoadByRelayPin relayPin := by
  induction relayPins generalizing node with
  | nil => simp
  | cons first relayPins ih =>
    rw [List.foldl_cons, ih, Node.removeLoadByRelayPin_getLoadByRelayPin]
    by_cases hrest : relayPin ∈ relayPins
    · simp [hrest]
    · simp [hrest]

/-- The loop over `pinsToRemove` leaves exactly the loads that were named. -/
theorem fieldsAt_pruneUnreported (planningNode : PlanningNode) (relayPin : UInt8) :
    planningNode.pruneUnreported.fieldsAt relayPin =
      if relayPin ∈ planningNode.pendingReport.reportedRelayPins then planningNode.fieldsAt relayPin else none := by
  simp only [pruneUnreported, fieldsAt, foldl_removeLoadByRelayPin]
  by_cases hnamed : relayPin ∈ planningNode.pendingReport.reportedRelayPins
  · rw [if_pos hnamed, if_neg]
    simp only [List.mem_map, List.mem_filter, not_exists, not_and]
    rintro load ⟨-, hunnamed⟩ rfl
    simp [hnamed] at hunnamed
  · rw [if_neg hnamed]
    cases hload : planningNode.node.getLoadByRelayPin relayPin with
    | none => simp
    | some load =>
      obtain ⟨hmem, hpin⟩ := Node.getLoadByRelayPin_eq_some_iff.mp hload
      rw [if_pos, Option.map_none]
      refine List.mem_map.mpr ⟨load, List.mem_filter.mpr ⟨hmem, ?_⟩, hpin⟩
      simp [hpin, hnamed]

end PlanningNode

namespace NodeReportPacket

/-- The checks at the start of `applyNodeReport`. -/
def HasPageNumber (packet : NodeReportPacket) : Prop :=
  0 < packet.totalPages.toNat ∧ packet.totalPages.toNat ≤ 8 ∧ packet.pageIndex.toNat < packet.totalPages.toNat

instance (packet : NodeReportPacket) : Decidable packet.HasPageNumber :=
  inferInstanceAs (Decidable (_ ∧ _ ∧ _))

/-- The packet as a page of a report. -/
def page (packet : NodeReportPacket) : Page (UInt16 × UInt8) UInt8 LoadFields where
  report := (packet.reportSequenceId, packet.totalPages)
  index := packet.pageIndex.toNat
  total := packet.totalPages.toNat
  entries := PlanningNode.entriesOf (PlanningNode.reportedLoads packet)

end NodeReportPacket

namespace PlanningNode

/-- The bookkeeping selects the packet's report. -/
theorem view_beginPage (packet : NodeReportPacket) (nowMilliseconds : UInt32) (planningNode : PlanningNode) :
    (beginPage packet nowMilliseconds planningNode).view = planningNode.view.select packet.page.report := by
  by_cases hsame : planningNode.pendingReport.sequenceId = packet.reportSequenceId ∧
      planningNode.pendingReport.totalPages = packet.totalPages
  · have hreport : planningNode.view.report = packet.page.report := Prod.ext hsame.1 hsame.2
    have hpending : selectReport packet planningNode.pendingReport = planningNode.pendingReport := by
      simp [selectReport, hsame]
    rw [View.select_of_eq hreport, view, beginPage, hpending]
    rfl
  · have hreport : planningNode.view.report ≠ packet.page.report := by
      intro hequal
      exact hsame ⟨congrArg Prod.fst hequal, congrArg Prod.snd hequal⟩
    have hpending : selectReport packet planningNode.pendingReport =
        ⟨packet.reportSequenceId, packet.totalPages, 0, []⟩ := by
      rw [selectReport, if_pos]
      rw [Bool.or_eq_true, bne_iff_ne, bne_iff_ne]
      tauto
    rw [View.select_of_ne hreport, view, beginPage, hpending, ByteSet.members_zero]
    rfl

/-- Pruning keeps exactly the loads that the report has named. -/
theorem view_pruneUnreported (planningNode : PlanningNode) :
    planningNode.pruneUnreported.view =
      { planningNode.view with
        received := ∅
        named := ∅
        contents := fun relayPin =>
          if relayPin ∈ planningNode.view.named then planningNode.view.contents relayPin else none } := by
  refine View.ext rfl ByteSet.members_zero rfl ?_
  funext relayPin
  refine (fieldsAt_pruneUnreported planningNode relayPin).trans ?_
  simp only [view, List.mem_toFinset]

/-- The report is complete when all pages are marked. Needs a page number within the report. -/
theorem view_finishPage {packet : NodeReportPacket} (hnumber : packet.HasPageNumber) (planningNode : PlanningNode) :
    (finishPage packet planningNode).view = planningNode.view.finish packet.totalPages.toNat := by
  have hcomplete : planningNode.pendingReport.pagesReceivedMask = allPagesMask packet.totalPages ↔
      planningNode.view.received = Finset.range packet.totalPages.toNat := by
    rw [← ByteSet.members_below hnumber.2.1]
    exact ByteSet.members_injective.eq_iff.symm
  unfold finishPage View.finish
  by_cases hmask : planningNode.pendingReport.pagesReceivedMask = allPagesMask packet.totalPages
  · rw [if_pos (hcomplete.mp hmask), hmask, bne_self_eq_false]
    exact view_pruneUnreported planningNode
  · rw [if_neg fun hall => hmask (hcomplete.mpr hall), if_pos (by simpa using hmask)]

/-- The entry refines the table of a paged report. -/
theorem view_applyPage {packet : NodeReportPacket} (hnumber : packet.HasPageNumber) {planningNode : PlanningNode}
    (hmac : planningNode.getMacAddress = packet.nodeMacAddress) (nowMilliseconds : UInt32) :
    (applyPage packet nowMilliseconds planningNode).view = planningNode.view.applyPage packet.page := by
  have hindex : packet.pageIndex.toNat < 8 := lt_of_lt_of_le hnumber.2.2 hnumber.2.1
  have hbegin := view_beginPage packet nowMilliseconds planningNode
  have hreceived : (beginPage packet nowMilliseconds planningNode).pendingReport.pagesReceivedMask &&&
      pageBit packet.pageIndex ≠ 0 ↔ packet.page.index ∈ (planningNode.view.select packet.page.report).received := by
    rw [← hbegin]
    exact ByteSet.and_bit_ne_zero_iff hindex
  dsimp only [applyPage, View.applyPage]
  by_cases hduplicate : packet.page.index ∈ (planningNode.view.select packet.page.report).received
  · rw [if_pos hduplicate, if_pos (bne_iff_ne.mpr (hreceived.mpr hduplicate)), hbegin]
  · rw [if_neg hduplicate, if_neg (fun hne => hduplicate (hreceived.mp (bne_iff_ne.mp hne))), view_finishPage hnumber]
    have hmacBegin : (beginPage packet nowMilliseconds planningNode).getMacAddress = packet.nodeMacAddress := hmac
    obtain ⟨hfields, hpending⟩ := foldl_applyLoadReport hmacBegin (reportedLoads packet)
    have hrecord : (markPage packet ((reportedLoads packet).foldl (applyLoadReport packet.nodeMacAddress)
        (beginPage packet nowMilliseconds planningNode))).view =
        (planningNode.view.select packet.page.report).record packet.page := by
      rw [← hbegin]
      refine View.ext ?_ ?_ ?_ hfields
      · simp only [view, markPage, hpending, View.record]
      · simp only [view, markPage, hpending, View.record]
        exact ByteSet.members_or_bit hindex
      · simp only [view, markPage, hpending, View.record, List.toFinset_append]
        rfl
    rw [hrecord]
    rfl

end PlanningNode

end kilowatts
