import Kilowatts.NodeManager.ReportConvergence

namespace kilowatts

open PagedReport

theorem applyNodeReports_append (registry : CentralNodeRegistry) (first second : List (NodeReportPacket × UInt32)) :
    registry.applyNodeReports (first ++ second) = (registry.applyNodeReports first).applyNodeReports second :=
  List.foldl_append

/-- Old pages of a report that arrive after all pages of a newer one are harmless
in every number and order exactly if both reports say the same: then they repeat
it, and otherwise the old report can win again as a whole. -/
theorem stale_pages_harmless_iff (older newer : NodeReport) (hmac : older.nodeMacAddress = newer.nodeMacAddress)
    (hdifferent : older.reportSequenceId ≠ newer.reportSequenceId ∨ older.pages.length ≠ newer.pages.length)
    (registry : CentralNodeRegistry)
    (hpending : ∀ planningNode, registry.findNodeByMacAddress newer.nodeMacAddress = some planningNode →
      planningNode.pendingReport.sequenceId ≠ newer.reportSequenceId)
    {deliveries : List (NodeReportPacket × UInt32)} (hdelivered : newer.DeliveredBy deliveries) :
    (∀ stale : List (NodeReportPacket × UInt32), (∀ delivery ∈ stale, older.IsPage delivery.1) → ∀ relayPin,
      (registry.applyNodeReports (deliveries ++ stale)).fieldsAt newer.nodeMacAddress relayPin =
        (registry.applyNodeReports deliveries).fieldsAt newer.nodeMacAddress relayPin) ↔
      ∀ relayPin, older.fieldsAt relayPin = newer.fieldsAt relayPin := by
  have hnewer := NodeReport.fieldsAt_of_deliveredBy hdelivered (NodeReport.viewOf_report_ne hpending)
  have hreport : ((registry.applyNodeReports deliveries).viewOf older.nodeMacAddress).report ≠
      older.snapshot.report := by
    have hnewerReport : ((registry.applyNodeReports deliveries).viewOf newer.nodeMacAddress).report =
        newer.snapshot.report := by
      rw [newer.viewOf_applyNodeReports hdelivered.1]
      exact foldl_applyPage_report (by simpa using hdelivered.ne_nil) (newer.isPage_of_mem_map hdelivered.1) _
    rw [hmac, hnewerReport]
    intro hsame
    obtain hsequence | hlength := hdifferent
    · exact hsequence (congrArg Prod.fst hsame).symm
    · have hbytes : (UInt8.ofNat newer.pages.length).toNat = (UInt8.ofNat older.pages.length).toNat :=
        congrArg (UInt8.toNat ∘ Prod.snd) hsame
      have holder := older.pages_le
      have hnewer := newer.pages_le
      rw [UInt8.toNat_ofNat', UInt8.toNat_ofNat', Nat.mod_eq_of_lt (by omega), Nat.mod_eq_of_lt (by omega)] at hbytes
      exact hlength hbytes.symm
  constructor
  · intro hharmless relayPin
    have holder := NodeReport.fieldsAt_of_deliveredBy older.deliveredBy_deliveries hreport
    have hsame := hharmless older.deliveries older.deliveredBy_deliveries.1 relayPin
    rw [applyNodeReports_append, ← hmac, holder, hmac, hnewer] at hsame
    exact hsame
  · intro hsame stale hstale relayPin
    have hcontents : ((registry.applyNodeReports deliveries).viewOf older.nodeMacAddress).contents =
        older.snapshot.contents := by
      rw [CentralNodeRegistry.viewOf_contents, older.snapshot_contents, hmac, hnewer]
      exact (funext hsame).symm
    have hunchanged := foldl_applyPage_of_contents_eq hreport (older.isPage_of_mem_map hstale) hcontents
    rw [← older.viewOf_applyNodeReports hstale, CentralNodeRegistry.viewOf_contents,
      CentralNodeRegistry.viewOf_contents] at hunchanged
    rw [applyNodeReports_append, ← hmac]
    exact congrFun hunchanged relayPin

section Runs

def firstLamp : NodeReport := lampsReport 1 [[4]] (by decide)
def sameLamp : NodeReport := lampsReport 2 [[4]] (by decide)
def noLamp : NodeReport := lampsReport 2 [[]] (by decide)

/-- The same lamp reported twice is harmless. -/
theorem stale_pages_harmless_iff_sameLamp :
    (emptyRegistry.applyNodeReports (sameLamp.deliveries ++ firstLamp.deliveries)).fieldsAt (Vector.replicate 6 2) 4 =
      (emptyRegistry.applyNodeReports sameLamp.deliveries).fieldsAt (Vector.replicate 6 2) 4 :=
  (stale_pages_harmless_iff firstLamp sameLamp rfl (.inl (by decide)) emptyRegistry (fun _ hfind => by cases hfind)
    sameLamp.deliveredBy_deliveries).mpr (fun _ => rfl) firstLamp.deliveries firstLamp.deliveredBy_deliveries.1 4

/-- A copy of the page that reported a lamp brings the lamp back after the Node
has reported that it has none. -/
theorem stale_page_restores_lamp :
    firstLamp.DeliveredBy firstLamp.deliveries ∧ noLamp.DeliveredBy noLamp.deliveries ∧
    ((emptyRegistry.applyNodeReports firstLamp.deliveries).applyNodeReports noLamp.deliveries).fieldsAt
      (Vector.replicate 6 2) 4 = none ∧
    (((emptyRegistry.applyNodeReports firstLamp.deliveries).applyNodeReports noLamp.deliveries).applyNodeReports
      firstLamp.deliveries).fieldsAt (Vector.replicate 6 2) 4 = some (lampReport 4).fields :=
  ⟨NodeReport.deliveredBy_deliveries _, NodeReport.deliveredBy_deliveries _, by decide +kernel, by decide +kernel⟩

end Runs

end kilowatts
