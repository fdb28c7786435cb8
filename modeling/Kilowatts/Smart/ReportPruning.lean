import Kilowatts.Library.Run
import Kilowatts.NodeManager.ReportConvergence
import Kilowatts.Smart.NodeReports

namespace kilowatts

namespace ReportPruning

open PagedReport

/-- The loop over the pages of one report. The number of pages was computed before. -/
structure ReportCycle where
  page : UInt8
  totalPages : UInt8
  page_lt : page.toNat < totalPages.toNat
  totalPages_le : totalPages.toNat ≤ 4

/-- A page of a report on its way to Central. `lockedPins` remembers the load
list that the page was built from, if its builder got the lock. -/
structure SentPage (localMac : MacAddress) where
  packet : NodeReportPacket
  lockedPins : Option (List UInt8)
  nodeMacAddress : packet.nodeMacAddress = localMac
  hasPageNumber : packet.HasPageNumber
  mem_keys_iff : ∀ relayPin, relayPin ∈ packet.page.keys ↔ CarriedBy relayPin lockedPins packet.pageIndex

/-- A Smart Node and Central. Any page that was ever sent may still arrive, for
the first time or again. `collected` remembers the pages that Central has counted
towards the report it is collecting from the Node. -/
structure Plant (localMac : MacAddress) where
  smartNode : SmartNode
  reportSequence : UInt16
  cycle : Option ReportCycle
  sent : List (SentPage localMac)
  central : CentralNodeRegistry
  collected : List (SentPage localMac)

/-- What changes the load list of a Smart Node. Each holds `nodeMutex` throughout. -/
inductive Edit where
  | configured (configuration : LoadConfiguration) (answers : HardwareAnswers)
  | removed (relayPin : UInt8) (answers : HardwareAnswers)
  | updated (relayPin : UInt8) (configuration : LoadConfiguration) (removing configuring : HardwareAnswers)

def Edit.apply (smartNode : SmartNode) : Edit → SmartNode
  | configured configuration answers => (smartNode.configureNewLoad configuration answers).1
  | removed relayPin answers => (smartNode.removeLoad relayPin answers).1
  | updated relayPin configuration removing configuring =>
    smartNode.updateLoad relayPin configuration removing configuring

inductive Event where
  | edit (edit : Edit)
  | beginReport (lockTaken : Bool)
  | sendPage (communication : CommunicationStatus) (lockTaken : Bool)
  | restart (reloaded : SmartNode)
  | deliver (place : Nat) (nowMilliseconds : UInt32)
  | change (central : CentralNodeRegistry)

/-- The loop starts with page 0. -/
def ReportCycle.begin (loadCount : Nat) : ReportCycle where
  page := 0
  totalPages := computeReportPageCount loadCount
  page_lt := (computeReportPageCount_bounds loadCount).1
  totalPages_le := (computeReportPageCount_bounds loadCount).2

def ReportCycle.next (cycle : ReportCycle) : Option ReportCycle :=
  if hnext : (cycle.page + 1).toNat < cycle.totalPages.toNat then
    some ⟨cycle.page + 1, cycle.totalPages, hnext, cycle.totalPages_le⟩
  else none

/-- The page that the loop sends next. -/
def ReportCycle.sentPage (cycle : ReportCycle) (communication : CommunicationStatus) (localMac : MacAddress)
    (sequence : UInt16) (lockedNode : Option SmartNode) : SentPage localMac where
  packet := buildNodeReportPacket communication localMac sequence cycle.page cycle.totalPages
    (lockedNode.map SmartNode.node)
  lockedPins := lockedNode.map SmartNode.relayPins
  nodeMacAddress := rfl
  hasPageNumber := ⟨Nat.zero_lt_of_lt cycle.page_lt, cycle.totalPages_le.trans (by decide), cycle.page_lt⟩
  mem_keys_iff := mem_keys_buildNodeReportPacket_iff communication localMac sequence cycle.page cycle.totalPages
    lockedNode

namespace Plant

variable {localMac : MacAddress}

/-- Central's table of the Node. -/
def view (plant : Plant localMac) : View (UInt16 × UInt8) UInt8 LoadFields := plant.central.viewOf localMac

/-- The load at the pin has been reported to Central. -/
def Knows (plant : Plant localMac) (relayPin : UInt8) : Prop := plant.central.fieldsAt localMac relayPin ≠ none

/-- One step of the Node, of the network or of Central. The lock is asked for once
for the page count and once for each page. A restart begins with the sequence
number 0 and with the loads that the flash and the hardware give back. `deliver`
hands any page sent so far to Central, and `change` is whatever else happens
there, other than the bookkeeping of the Node's report. -/
def step (plant : Plant localMac) : Event → Option (Plant localMac)
  | .edit edit => some { plant with smartNode := edit.apply plant.smartNode }
  | .beginReport lockTaken =>
    match plant.cycle with
    | some _ => none
    | none =>
      some { plant with
        reportSequence := plant.reportSequence + 1
        cycle := some (.begin (if lockTaken then plant.smartNode.node.loads.length else 0)) }
  | .sendPage communication lockTaken =>
    plant.cycle.map fun cycle =>
      { plant with
        cycle := cycle.next
        sent := plant.sent ++ [cycle.sentPage communication localMac plant.reportSequence
          (if lockTaken then some plant.smartNode else none)] }
  | .restart reloaded => some { plant with smartNode := reloaded, reportSequence := 0, cycle := none }
  | .deliver place nowMilliseconds =>
    plant.sent[place]?.map fun page =>
      { plant with
        central := plant.central.applyNodeReport page.packet nowMilliseconds
        collected := plant.view.collect page.packet.page plant.collected page }
  | .change central =>
    if (central.viewOf localMac).report = plant.view.report ∧
        (central.viewOf localMac).received = plant.view.received ∧
        (central.viewOf localMac).named = plant.view.named then some { plant with central }
    else none

/-- Central is not in the middle of a report from the Node. -/
structure NothingCounted (plant : Plant localMac) : Prop where
  received : plant.view.received = ∅
  named : plant.view.named = ∅
  collected : plant.collected = []

/-- When the page that was still missing arrives, one of the pages of the report
was built under the lock while the load stood on it. -/
def Carried (relayPin : UInt8) (plant : Plant localMac) : Event → Prop
  | .deliver place _ => ∀ page ∈ plant.sent[place]?, plant.Knows relayPin → plant.view.Completes page.packet.page →
      ∃ counted ∈ page :: plant.view.counted page.packet.page plant.collected,
        CarriedBy relayPin counted.lockedPins counted.packet.pageIndex
  | _ => True

instance (plant : Plant localMac) (relayPin : UInt8) : Decidable (plant.Knows relayPin) :=
  inferInstanceAs (Decidable (_ ≠ _))

instance (relayPin : UInt8) (plant : Plant localMac) (event : Event) : Decidable (plant.Carried relayPin event) :=
  match event with
  | .deliver _ _ => inferInstanceAs (Decidable (∀ page ∈ _, _))
  | .edit _ | .beginReport _ | .sendPage _ _ | .restart _ | .change _ => .isTrue trivial

end Plant

variable {localMac : MacAddress}

/-- A step during which the load stays configured. -/
structure ConfiguredStep (relayPin : UInt8) (before : Plant localMac) (event : Event) (after : Plant localMac) :
    Prop where
  step : before.step event = some after
  configured : relayPin ∈ before.smartNode.relayPins
  stillConfigured : relayPin ∈ after.smartNode.relayPins

/-- A step in which no page makes Central drop the load. -/
structure UnprunedStep (relayPin : UInt8) (before : Plant localMac) (event : Event) (after : Plant localMac) : Prop
    extends ConfiguredStep relayPin before event after where
  unpruned : ∀ place nowMilliseconds, event = .deliver place nowMilliseconds → before.Knows relayPin →
    after.Knows relayPin

structure CarriedStep (relayPin : UInt8) (before : Plant localMac) (event : Event) (after : Plant localMac) : Prop
    extends ConfiguredStep relayPin before event after where
  carried : before.Carried relayPin event

/-- The bookkeeping of Central is that of the collected pages. -/
def Plant.Backed (plant : Plant localMac) : Prop :=
  plant.view.BackedBy (plant.collected.map fun page => page.packet.page)

theorem Plant.NothingCounted.backed {plant : Plant localMac} (hnothing : plant.NothingCounted) : plant.Backed := by
  obtain ⟨hreceived, hnamed, hcollected⟩ := hnothing
  rw [Backed, hcollected]
  exact ⟨hreceived, hnamed⟩

theorem SentPage.viewOf_applyNodeReport (page : SentPage localMac) (registry : CentralNodeRegistry)
    (nowMilliseconds : UInt32) :
    (registry.applyNodeReport page.packet nowMilliseconds).viewOf localMac =
      (registry.viewOf localMac).applyPage page.packet.page := by
  have hview := registry.viewOf_applyNodeReport page.hasPageNumber nowMilliseconds
  rwa [page.nodeMacAddress] at hview

theorem Plant.Backed.step {before after : Plant localMac} {event : Event} (hbacked : before.Backed)
    (hstep : before.step event = some after) : after.Backed := by
  cases event with
  | edit edit =>
    obtain rfl := Option.some.inj hstep
    exact hbacked
  | beginReport lockTaken =>
    simp only [Plant.step] at hstep
    split at hstep
    · cases hstep
    · obtain rfl := Option.some.inj hstep
      exact hbacked
  | sendPage communication lockTaken =>
    obtain ⟨cycle, -, rfl⟩ := Option.map_eq_some_iff.mp hstep
    exact hbacked
  | restart reloaded =>
    obtain rfl := Option.some.inj hstep
    exact hbacked
  | deliver place nowMilliseconds =>
    obtain ⟨page, -, rfl⟩ := Option.map_eq_some_iff.mp hstep
    have happlied := View.BackedBy.applyPage hbacked page.packet.page
    rw [Backed, view, page.viewOf_applyNodeReport, View.map_collect]
    exact happlied
  | change central =>
    simp only [Plant.step] at hstep
    split at hstep
    · rename_i hsame
      obtain rfl := Option.some.inj hstep
      exact ⟨hsame.2.1.trans hbacked.received, hsame.2.2.trans hbacked.named⟩
    · cases hstep

/-- A page leaves a load that Central knows exactly if a page of its report carried
the load, once no page is missing. -/
theorem Plant.Backed.knows_after_iff {before after : Plant localMac} (hbacked : before.Backed) {place : Nat}
    {nowMilliseconds : UInt32} (hstep : before.step (.deliver place nowMilliseconds) = some after) {relayPin : UInt8}
    (hknows : before.Knows relayPin) :
    after.Knows relayPin ↔ before.Carried relayPin (.deliver place nowMilliseconds) := by
  obtain ⟨page, hpage, rfl⟩ := Option.map_eq_some_iff.mp hstep
  have hcontents : before.view.contents relayPin ≠ none := by
    rwa [view, CentralNodeRegistry.viewOf_contents]
  have hnamed : relayPin ∈ (before.view.select page.packet.page.report).named ↔
      ∃ counted ∈ before.view.counted page.packet.page before.collected,
        CarriedBy relayPin counted.lockedPins counted.packet.pageIndex := by
    rw [(View.BackedBy.select hbacked page.packet.page).named, ← View.map_counted, List.mem_toFinset,
      List.mem_flatMap]
    simp only [List.mem_map, exists_exists_and_eq_and, SentPage.mem_keys_iff]
  rw [Knows, ← CentralNodeRegistry.viewOf_contents, page.viewOf_applyNodeReport]
  refine (View.applyPage_contents_ne_none_iff hcontents).trans ?_
  rw [hnamed, page.mem_keys_iff, Carried]
  simp only [hpage, Option.mem_some_iff, forall_eq', List.exists_mem_cons_iff, or_comm]
  exact ⟨fun hcarried _ => hcarried, fun hcarried => hcarried hknows⟩

theorem UnprunedStep.carriedStep {relayPin : UInt8} {before after : Plant localMac} {event : Event}
    (hbacked : before.Backed) (hstep : UnprunedStep relayPin before event after) :
    CarriedStep relayPin before event after := by
  refine ⟨hstep.toConfiguredStep, ?_⟩
  cases event with
  | deliver place nowMilliseconds =>
    intro page hpage hknows
    have hafter := hstep.unpruned place nowMilliseconds rfl hknows
    exact (hbacked.knows_after_iff hstep.step hknows).mp hafter page hpage hknows
  | _ => trivial

theorem CarriedStep.unprunedStep {relayPin : UInt8} {before after : Plant localMac} {event : Event}
    (hbacked : before.Backed) (hstep : CarriedStep relayPin before event after) :
    UnprunedStep relayPin before event after := by
  refine ⟨hstep.toConfiguredStep, ?_⟩
  rintro place nowMilliseconds rfl hknows
  exact (hbacked.knows_after_iff hstep.step hknows).mpr hstep.carried

/-- Whatever the order of edits, reports, restarts and deliveries is, no page makes
Central drop a load that stays configured and that it knows, exactly if the pages
that complete a report together always carried the load. The run may start with
any pages on the way, as long as Central has counted none of them. -/
theorem never_pruned_iff {start last : Plant localMac} {events : List Event} {relayPin : UInt8}
    (hstart : start.NothingCounted) :
    Run (UnprunedStep relayPin) start events last ↔ Run (CarriedStep relayPin) start events last := by
  refine Run.congr (fun before event after hbacked hstep => ?_) (fun before event after hbacked => ?_) hstart.backed
  · exact hbacked.step hstep.step
  · exact ⟨fun hstep => hstep.carriedStep hbacked, fun hstep => hstep.unprunedStep hbacked⟩

section Runs

def smartMac : MacAddress := Vector.replicate 6 2

/-- The configuration of a lamp of 40 W that is always on. -/
def lampConfiguration (relayPin : UInt8) : LoadConfiguration :=
  { LoadConfiguration.zero with
    name := CharBuffer.zero.print [76, 97, 109, 112]
    relayPin
    mode := .FIXED_ON
    powerRatingWatts := .finite 40 }

def succeeding : HardwareAnswers := ⟨true, true⟩

/-- Lamps that were configured one after the other. -/
def lampsNode (relayPins : List UInt8) : SmartNode :=
  relayPins.foldl (fun smartNode relayPin =>
      (smartNode.configureNewLoad (lampConfiguration relayPin) succeeding).1)
    ⟨.make smartMac, Nat.zero_le _, fun _ hload => absurd hload List.not_mem_nil⟩

/-- Five lamps, of which the one on pin 14 stands on the second page. -/
def fiveLampPlant : Plant smartMac where
  smartNode := lampsNode [4, 5, 12, 13, 14]
  reportSequence := 0
  cycle := none
  sent := []
  central := emptyRegistry
  collected := []

theorem fiveLampPlant_nothingCounted : fiveLampPlant.NothingCounted := ⟨by decide +kernel, by decide +kernel, rfl⟩

def sendPage (lockTaken : Bool) : Event := .sendPage ⟨[78], none, 1⟩ lockTaken

/-- A report of two pages, which arrive in order. -/
def reported (place : Nat) : List Event :=
  [.beginReport true, sendPage true, sendPage true, .deliver place 0, .deliver (place + 1) 0]

/-- The pin of the first lamp is configured anew, which moves the lamp to the end. -/
def firstLampUpdated : Event := .edit (.updated 4 (lampConfiguration 4) succeeding succeeding)

/-- A step of the plant, where it is a `CarriedStep`. -/
def carriedNext (relayPin : UInt8) (plant : Plant localMac) (event : Event) : Option (Plant localMac) :=
  (plant.step event).filter fun after =>
    relayPin ∈ plant.smartNode.relayPins ∧ relayPin ∈ after.smartNode.relayPins ∧ plant.Carried relayPin event

theorem carriedStep_of_carriedNext {relayPin : UInt8} (before : Plant localMac) (event : Event)
    (after : Plant localMac) (hnext : carriedNext relayPin before event = some after) :
    CarriedStep relayPin before event after := by
  obtain ⟨hstep, hchecked⟩ := Option.filter_eq_some_iff.mp hnext
  obtain ⟨hbefore, hafter, hcarried⟩ := of_decide_eq_true hchecked
  exact ⟨⟨hstep, hbefore, hafter⟩, hcarried⟩

/-- Two reports, with the first lamp updated in between. -/
theorem never_pruned_iff_fiveLampPlant :
    ∃ last, Run (UnprunedStep 14) fiveLampPlant (reported 0 ++ firstLampUpdated :: reported 2) last := by
  have hsome : ((reported 0 ++ firstLampUpdated :: reported 2).foldlM (carriedNext 14) fiveLampPlant).isSome := by
    decide +kernel
  obtain ⟨last, hlast⟩ := Option.isSome_iff_exists.mp hsome
  exact ⟨last, (never_pruned_iff fiveLampPlant_nothingCounted).mpr
    (.of_foldlM carriedStep_of_carriedNext hlast)⟩

/-- A run that keeps the load configured ends with the arrival of a page which
makes Central drop it. -/
def Prunes (relayPin : UInt8) (start : Plant localMac) (events : List Event) (place : Nat) : Prop :=
  ∃ before after, Run (ConfiguredStep relayPin) start events before ∧
    ConfiguredStep relayPin before (.deliver place 0) after ∧ before.Knows relayPin ∧ ¬ after.Knows relayPin

theorem prunes_of_eval {relayPin : UInt8} {start : Plant localMac} {events : List Event} {place : Nat}
    (heval : (events.foldlM (carriedNext relayPin) start).any (fun before =>
      (before.step (.deliver place 0)).any fun after =>
        relayPin ∈ before.smartNode.relayPins ∧ relayPin ∈ after.smartNode.relayPins ∧
          before.Knows relayPin ∧ ¬ after.Knows relayPin) = true) :
    Prunes relayPin start events place := by
  obtain ⟨before, hrun, hlast⟩ := (Option.any_eq_true _ _).mp heval
  obtain ⟨after, hstep, hpruned⟩ := (Option.any_eq_true _ _).mp hlast
  obtain ⟨hbefore, hafter, hknows, hdropped⟩ := of_decide_eq_true hpruned
  refine ⟨before, after, .of_foldlM (fun _ _ _ hnext => ?_) hrun, ⟨hstep, hbefore, hafter⟩, hknows, hdropped⟩
  exact (carriedStep_of_carriedNext _ _ _ hnext).toConfiguredStep

/-- The lamp on pin 14 is configured in the same way throughout, was reported, and
is dropped: after the lock was not obtained for its page, after the lock was not
obtained for the page count, after another lamp was removed between two pages,
and after the pages of two reports with one sequence number, from before and
after a restart, were counted together. -/
theorem configured_load_is_pruned :
    Prunes 14 fiveLampPlant
      (reported 0 ++ [.beginReport true, sendPage true, sendPage false, .deliver 2 0]) 3 ∧
    Prunes 14 fiveLampPlant (reported 0 ++ [.beginReport false, sendPage true]) 2 ∧
    Prunes 14 fiveLampPlant
      (reported 0 ++ [.beginReport true, sendPage true, .edit (.removed 4 succeeding), sendPage true,
        .deliver 2 0]) 3 ∧
    Prunes 14 fiveLampPlant
      (reported 0 ++ [.restart (lampsNode [4, 5, 12, 13, 14]), .beginReport true, sendPage true, .deliver 2 0,
        firstLampUpdated, .restart (lampsNode [5, 12, 13, 14, 4]), .beginReport true, sendPage true,
        sendPage true]) 4 := by
  refine ⟨prunes_of_eval ?_, prunes_of_eval ?_, prunes_of_eval ?_, prunes_of_eval ?_⟩
  · decide +kernel
  · decide +kernel
  · decide +kernel
  · decide +kernel

end Runs

end ReportPruning

end kilowatts
