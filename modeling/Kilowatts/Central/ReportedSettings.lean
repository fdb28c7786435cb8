import Kilowatts.Central.CentralPlant
import Kilowatts.Library.Run

namespace kilowatts

namespace ReportedSettings

open CentralPlant PagedReport

/-- `reported` is what the pages of the report in progress have said of the load. -/
structure ReportedState where
  plant : CentralPlant
  reported : Option LoadFields

namespace ReportedState

variable (id : Load.Id) (before : ReportedState)

/-- What a report has said of the load, once one more of its pages has arrived. -/
def said (report : NodeReportPacket) : Option LoadFields :=
  let view := before.plant.central.registry.viewOf id.macAddress
  (view.announced report.page id.relayPin).or (if view.report = report.page.report then before.reported else none)

/-- What a report says of the load that is fully applied with this event. -/
def completed (event : SettingsEvent) : Option LoadFields :=
  match event with
  | .nodeReport stateTaken originMac report _ =>
    if Counted stateTaken originMac report id ∧
        (before.plant.central.registry.viewOf id.macAddress).Completes report.page then
      before.said id report
    else none
  | _ => none

/-- What the report in progress says of the load after an event. -/
def collected (event : SettingsEvent) : Option LoadFields :=
  match event with
  | .nodeReport stateTaken originMac report _ =>
    if Counted stateTaken originMac report id then
      if (before.plant.central.registry.viewOf id.macAddress).Completes report.page then none
      else before.said id report
    else before.reported
  | _ => before.reported

/-- With the load, Central also drops what was reported of it. -/
def next (localMac : MacAddress) (event : SettingsEvent) : ReportedState where
  plant := before.plant.next localMac event
  reported := if ((before.plant.next localMac event).copy id).isSome then before.collected id event else none

end ReportedState

section Steps

variable (localMac : MacAddress) (id : Load.Id) (before : ReportedState) (event : SettingsEvent)
  (after : ReportedState)

/-- Once a report is fully applied, Central's copy of the load has the class, the priority
and the schedule that the report carries. There are no user commands for the load. -/
structure RulesStep : Prop where
  next : after = before.next id localMac event
  uncommanded : event.commands id = false
  rules : ∀ fields, before.completed id event = some fields →
    ∃ load, after.plant.copy id = some load ∧ load.settings.Agree fields.settings

/-- The report that is completed finds no override, or one that agrees with it. -/
structure UnstoredStep : Prop where
  next : after = before.next id localMac event
  uncommanded : event.commands id = false
  unstored : ∀ fields, before.completed id event = some fields →
    ∀ entry, before.plant.entry id = some entry → entry.AgreesWith fields.settings

end Steps

/-- Where there is no override, Central's copy has what the report in progress has said. -/
structure Collects (localMac : MacAddress) (id : Load.Id) (state : ReportedState) : Prop where
  sound : state.plant.Sound localMac
  wellFormed : ∀ fields, state.reported = some fields → fields.settings.WellFormed
  named : state.reported ≠ none → id.relayPin ∈ (state.plant.central.registry.viewOf id.macAddress).named
  agree : ∀ fields, state.reported = some fields → ∃ load, state.plant.copy id = some load ∧
    (state.plant.entry id = none → load.settings.Agree fields.settings)

section Pages

variable {localMac : MacAddress} {id : Load.Id} {before : ReportedState} {report : NodeReportPacket}

/-- A field is told by this page, or by an earlier page of the same report. -/
theorem said_cases {fields : LoadFields} (hsaid : before.said id report = some fields) :
    (before.plant.central.registry.viewOf id.macAddress).announced report.page id.relayPin = some fields ∨
      ((before.plant.central.registry.viewOf id.macAddress).announced report.page id.relayPin = none ∧
        (before.plant.central.registry.viewOf id.macAddress).report = report.page.report ∧
        before.reported = some fields) := by
  obtain hannounced | ⟨hnone, hreported⟩ := Option.or_eq_some_iff.mp hsaid
  · exact .inl hannounced
  · split at hreported
    · rename_i hreport
      exact .inr ⟨hnone, hreport, hreported⟩
    · cases hreported

/-- The pin is named by a page that has arrived, or by the one that arrives. -/
theorem Collects.said_named (hcollects : Collects localMac id before) {fields : LoadFields}
    (hsaid : before.said id report = some fields) :
    id.relayPin ∈ ((before.plant.central.registry.viewOf id.macAddress).select report.page.report).named ∨
      (before.plant.central.registry.viewOf id.macAddress).announced report.page id.relayPin ≠ none := by
  obtain hannounced | ⟨-, hreport, hreported⟩ := said_cases hsaid
  · exact .inr (by simp [hannounced])
  · rw [View.select_of_eq hreport]
    exact .inl (hcollects.named (by simp [hreported]))

/-- What a report tells of a load is well-formed. -/
theorem Collects.said_wellFormed (hcollects : Collects localMac id before) {stateTaken : Bool}
    {originMac : MacAddress} (hcounted : Counted stateTaken originMac report id) {fields : LoadFields}
    (hsaid : before.said id report = some fields) : fields.settings.WellFormed := by
  obtain hannounced | ⟨-, -, hreported⟩ := said_cases hsaid
  · have hown : before.plant.own localMac id (.nodeReport stateTaken originMac report 0) = some fields :=
      (if_pos hcounted).trans hannounced
    exact own_wellFormed hcollects.sound hown
  · exact hcollects.wellFormed fields hreported

/-- A page leaves a load of which the report has said something. -/
theorem Collects.applyNodeReport (hcollects : Collects localMac id before)
    (hmac : report.nodeMacAddress = id.macAddress) (hnumber : report.HasPageNumber) {fields : LoadFields}
    (hsaid : before.said id report = some fields) (nowMilliseconds : UInt32) :
    ∃ base, (before.plant.central.registry.applyNodeReport report nowMilliseconds).findLoad id.macAddress
        id.relayPin = some base ∧
      (before.plant.entry id = none → base.settings.Agree fields.settings) := by
  have hfields := applyNodeReport_fields before.plant hmac hnumber nowMilliseconds
  rw [(View.applyPage_contents_of_named (hcollects.said_named hsaid)).1] at hfields
  obtain hannounced | ⟨hnone, -, hreported⟩ := said_cases hsaid
  · rw [hannounced, Option.some_or] at hfields
    obtain ⟨base, hbase, hsettings⟩ := Option.map_eq_some_iff.mp hfields
    refine ⟨base, hbase, fun _ => ?_⟩
    rw [← Load.fields_settings, hsettings]
    exact .refl _
  · obtain ⟨load, hcopy, hagree⟩ := hcollects.agree fields hreported
    rw [hnone, Option.none_or, ← copy_fields, hcopy, Option.map_some] at hfields
    obtain ⟨base, hbase, hsettings⟩ := Option.map_eq_some_iff.mp hfields
    refine ⟨base, hbase, fun hentry => ?_⟩
    rw [← Load.fields_settings, hsettings]
    exact hagree hentry

/-- After a page, the copy has what the report has said, exactly if the override of the
load agrees with it. -/
theorem Collects.page (hcollects : Collects localMac id before)
    {stateTaken : Bool} {originMac : MacAddress} (hcounted : Counted stateTaken originMac report id)
    {fields : LoadFields} (hsaid : before.said id report = some fields) (nowMilliseconds : UInt32) :
    ∃ load, (before.plant.next localMac (.nodeReport stateTaken originMac report nowMilliseconds)).copy id =
        some load ∧
      (load.settings.Agree fields.settings ↔
        ∀ entry, before.plant.entry id = some entry → entry.AgreesWith fields.settings) := by
  have hwellFormed := hcollects.said_wellFormed hcounted hsaid
  obtain ⟨rfl, rfl, hmac, hnumber⟩ := hcounted
  obtain ⟨base, hbase, hunstored⟩ := hcollects.applyNodeReport hmac hnumber hsaid nowMilliseconds
  have hid : base.id = id := (CentralNodeRegistry.findLoad_eq_some_iff.mp hbase).2
  refine ⟨_, (nodeReport_copy hmac nowMilliseconds).trans (by rw [hbase, Option.map_some]), ?_⟩
  exact applyToLoad_agree_iff hcollects.sound hid hwellFormed hunstored

/-- The pin stays named until the report is complete. -/
theorem Collects.page_named (hcollects : Collects localMac id before)
    {stateTaken : Bool} {originMac : MacAddress} (hcounted : Counted stateTaken originMac report id)
    {fields : LoadFields} (hsaid : before.said id report = some fields) (nowMilliseconds : UInt32)
    (hincomplete : ¬ (before.plant.central.registry.viewOf id.macAddress).Completes report.page) :
    id.relayPin ∈ ((before.plant.next localMac
      (.nodeReport stateTaken originMac report nowMilliseconds)).central.registry.viewOf id.macAddress).named := by
  obtain ⟨rfl, rfl, hmac, hnumber⟩ := hcounted
  have hnamed := (View.applyPage_contents_of_named (hcollects.said_named hsaid)).2 hincomplete
  rw [nodeReport_registry, CentralNodeRegistry.viewOf_named_mapLoads, ← hmac,
    CentralNodeRegistry.viewOf_applyNodeReport hnumber, hmac]
  exact hnamed

end Pages

/-- A load stays, and where it has no override with its settings. -/
structure Keeps (before after : CentralPlant) (id : Load.Id) : Prop where
  copy : ∀ load, before.copy id = some load → ∃ kept, after.copy id = some kept ∧
    (after.entry id = none → before.entry id = none ∧ kept.settings.Agree load.settings)
  named : (after.central.registry.viewOf id.macAddress).named = (before.central.registry.viewOf id.macAddress).named

section Events

variable {localMac : MacAddress} {id : Load.Id} {plant : CentralPlant}

/-- What is left alone keeps the account. -/
theorem keeps_of_untouched {after : CentralPlant} (huntouched : Untouched plant after id) : Keeps plant after id := by
  refine ⟨fun load hload => ⟨load, huntouched.copy.trans hload, fun hentry => ?_⟩, huntouched.named⟩
  exact ⟨huntouched.entry.symm.trans hentry, .refl _⟩

/-- A report that does not count changes nothing of this load. -/
theorem keeps_nodeReport {stateTaken : Bool} {originMac : MacAddress} {report : NodeReportPacket}
    (hcounted : ¬ Counted stateTaken originMac report id) (nowMilliseconds : UInt32) :
    Keeps plant (plant.next localMac (.nodeReport stateTaken originMac report nowMilliseconds)) id := by
  obtain ⟨hsame | happlied, hnamed⟩ := nodeReport_of_not_counted localMac plant hcounted nowMilliseconds
  · exact keeps_of_untouched ⟨hsame, rfl, hnamed⟩
  · refine ⟨fun load hload => ⟨_, by rw [happlied, hload, Option.map_some], fun hentry => ⟨hentry, ?_⟩⟩, hnamed⟩
    obtain rfl := copy_id hload
    have hunstored : plant.entry load.id = none := hentry
    rw [LoadConfigurationStore.applyToLoad_of_none hunstored]
    exact .refl _

/-- A cycle changes modes only where an override of its own tells so. -/
theorem keeps_cycle (plant : CentralPlant) (id : Load.Id) (clock : CycleClock) (answers : FlashAnswers) :
    Keeps plant (plant.runCycle clock answers) id := by
  refine ⟨fun load hload => ?_, runCycle_named clock answers id.macAddress⟩
  obtain ⟨update, hkeeps, hcopy⟩ := runCycle_copy plant id clock answers
  refine ⟨_, by rw [hcopy, hload, Option.map_some], fun hentry => ?_⟩
  obtain ⟨hunstored, -⟩ := runCycle_of_entry_none hentry
  obtain rfl := copy_id hload
  rw [LoadConfigurationStore.applyToLoad_of_none hunstored]
  exact ⟨hunstored, (hkeeps load).agree⟩

/-- Any event but a page of a report and a command for the load. -/
theorem keeps_of_not_reports (hsound : plant.Sound localMac) (hother : id.macAddress ≠ localMac)
    {event : SettingsEvent} (hreports : event.reports = false) (hcommands : event.commands id = false) :
    (plant.next localMac event).copy id = none ∨ Keeps plant (plant.next localMac event) id := by
  cases hplans : event.plans with
  | true =>
    obtain ⟨clock, answers, rfl⟩ := SettingsEvent.plans_iff.mp hplans
    exact .inr (keeps_cycle plant id clock answers)
  | false =>
    obtain ⟨-, hcases⟩ | ⟨hlocal, -⟩ := own_cases hsound hreports hplans hcommands
    · exact hcases.imp_right keeps_of_untouched
    · exact absurd hlocal hother

end Events

section Invariant

variable {localMac : MacAddress} {id : Load.Id} {before after : ReportedState} {event : SettingsEvent}

/-- Events that keep the copy keep what was collected. -/
theorem Collects.of_keeps (hcollects : Collects localMac id before) {after : CentralPlant}
    (hsound : after.Sound localMac) (hkeeps : Keeps before.plant after id) :
    Collects localMac id ⟨after, before.reported⟩ := by
  refine ⟨hsound, hcollects.wellFormed, fun hreported => ?_, fun fields hreported => ?_⟩
  · dsimp only
    rw [hkeeps.named]
    exact hcollects.named hreported
  · obtain ⟨load, hload, hagree⟩ := hcollects.agree fields hreported
    obtain ⟨kept, hkept, hsame⟩ := hkeeps.copy load hload
    refine ⟨kept, hkept, fun hentry => ?_⟩
    obtain ⟨hunstored, hsettings⟩ := hsame hentry
    exact hsettings.trans (hagree hunstored)

/-- A new report begins with nothing collected. -/
theorem Collects.of_none {after : CentralPlant} (hsound : after.Sound localMac) :
    Collects localMac id ⟨after, none⟩ :=
  ⟨hsound, fun _ hsome => absurd hsome.symm (Option.some_ne_none _), fun hne => absurd rfl hne,
    fun _ hsome => absurd hsome.symm (Option.some_ne_none _)⟩

/-- A page of the report in progress. -/
theorem Collects.of_page (hcollects : Collects localMac id before) {stateTaken : Bool} {originMac : MacAddress}
    {report : NodeReportPacket} (hcounted : Counted stateTaken originMac report id)
    (hincomplete : ¬ (before.plant.central.registry.viewOf id.macAddress).Completes report.page)
    (nowMilliseconds : UInt32) :
    Collects localMac id
      ⟨before.plant.next localMac (.nodeReport stateTaken originMac report nowMilliseconds), before.said id report⟩ := by
  refine ⟨hcollects.sound.next (.nodeReport stateTaken originMac report nowMilliseconds),
    fun fields hsaid => hcollects.said_wellFormed hcounted hsaid, fun hsaid => ?_,
    fun fields hsaid => ?_⟩
  · obtain ⟨fields, hfields⟩ := Option.ne_none_iff_exists'.mp hsaid
    exact hcollects.page_named hcounted hfields nowMilliseconds hincomplete
  · obtain ⟨load, hload, hagree⟩ := hcollects.page hcounted hsaid nowMilliseconds
    refine ⟨load, hload, fun hentry => hagree.mpr fun entry hstored => ?_⟩
    have hunstored : before.plant.entry id = none := hentry
    rw [hunstored] at hstored
    cases hstored

/-- Needs a load of a Smart Node, and an event that is no command for it. -/
theorem Collects.next (hcollects : Collects localMac id before) (hother : id.macAddress ≠ localMac)
    (hcommands : event.commands id = false) : Collects localMac id (before.next id localMac event) := by
  have hsound := hcollects.sound.next event
  rw [ReportedState.next]
  split
  · rename_i hcopy
    cases hreports : event.reports with
    | true =>
      obtain ⟨stateTaken, originMac, report, nowMilliseconds, rfl⟩ := SettingsEvent.reports_iff.mp hreports
      dsimp only [ReportedState.collected]
      split
      · rename_i hcounted
        split
        · exact .of_none hsound
        · rename_i hincomplete
          exact hcollects.of_page hcounted hincomplete nowMilliseconds
      · rename_i hcounted
        exact hcollects.of_keeps hsound (keeps_nodeReport hcounted nowMilliseconds)
    | false =>
      have hsame : before.collected id event = before.reported := by
        cases event with
        | nodeReport => cases hreports
        | _ => rfl
      rw [hsame]
      obtain hdropped | hkeeps := keeps_of_not_reports hcollects.sound hother hreports hcommands
      · rw [hdropped] at hcopy
        cases hcopy
      · exact hcollects.of_keeps hsound hkeeps
  · exact .of_none hsound

/-- A report that is fully applied rules exactly if the override agrees with it. -/
theorem Collects.rules_iff (hcollects : Collects localMac id before) {fields : LoadFields}
    (hcompleted : before.completed id event = some fields) :
    (∃ load, (before.plant.next localMac event).copy id = some load ∧ load.settings.Agree fields.settings) ↔
      ∀ entry, before.plant.entry id = some entry → entry.AgreesWith fields.settings := by
  unfold ReportedState.completed at hcompleted
  split at hcompleted
  · split at hcompleted
    · rename_i hpage
      obtain ⟨load, hload, hagree⟩ := hcollects.page hpage.1 hcompleted _
      rw [← hagree, hload]
      simp
    · cases hcompleted
  · cases hcompleted

end Invariant

/-- In a run without user commands for a load of a Smart Node, Central's copy has what every fully applied
report carries exactly if no report finds an override that differs. Needs a sound plant at the start, and no
report of the load before. -/
theorem reported_settings_rule_iff {localMac : MacAddress} {id : Load.Id} (hother : id.macAddress ≠ localMac)
    {start last : ReportedState} {events : List SettingsEvent} (hsound : start.plant.Sound localMac)
    (hreported : start.reported = none) :
    Run (RulesStep localMac id) start events last ↔ Run (UnstoredStep localMac id) start events last := by
  have hstart : Collects localMac id start := by
    obtain ⟨plant, reported⟩ := start
    subst hreported
    exact .of_none hsound
  have hpreserved : ∀ before event after, Collects localMac id before → RulesStep localMac id before event after →
      Collects localMac id after := by
    rintro before event after hcollects ⟨rfl, huncommanded, -⟩
    exact hcollects.next hother huncommanded
  refine Run.congr hpreserved (fun before event after hcollects => ?_) hstart
  constructor
  · rintro ⟨rfl, huncommanded, hrules⟩
    exact ⟨rfl, huncommanded, fun fields hcompleted =>
      (hcollects.rules_iff hcompleted).mp (hrules fields hcompleted)⟩
  · rintro ⟨rfl, huncommanded, hunstored⟩
    exact ⟨rfl, huncommanded, fun fields hcompleted =>
      (hcollects.rules_iff hcompleted).mpr (hunstored fields hcompleted)⟩

section Runs

def pumpStart : ReportedState := ⟨smartNodePlant, none⟩

/-- An AUTO pump of priority 5 is reported, and planned. -/
def pumpPlanned : List SettingsEvent := [smartNodeReport 1 [pinReport .AUTO_OFF 5 .none], noonCycle]

/-- A step, where a completed report finds no override that differs. -/
def unstoredNext (before : ReportedState) (event : SettingsEvent) : Option ReportedState :=
  if event.commands pumpId = false ∧
      (before.completed pumpId event).all fun fields =>
        (before.plant.entry pumpId).all fun entry => entry.AgreesWith fields.settings then
    some (before.next pumpId (Vector.replicate 6 1) event)
  else none

theorem unstoredStep_of_unstoredNext (before : ReportedState) (event : SettingsEvent) (after : ReportedState)
    (hnext : unstoredNext before event = some after) :
    UnstoredStep (Vector.replicate 6 1) pumpId before event after := by
  unfold unstoredNext at hnext
  split at hnext
  · rename_i hagrees
    refine ⟨(Option.some.inj hnext).symm, hagrees.1, fun fields hcompleted entry hentry => ?_⟩
    simpa [hcompleted, hentry] using hagrees.2
  · cases hnext

/-- A FIXED load is edited on the console, until it is the AUTO pump. -/
theorem reported_settings_rule_iff_pump :
    ∃ last, Run (RulesStep (Vector.replicate 6 1) pumpId) pumpStart
      ([smartNodeReport 5 [pinReport .FIXED_OFF 3 .none], noonCycle] ++ pumpPlanned ++
        [smartNodeReport 2 [pinReport .AUTO_ON 5 .none]]) last := by
  have hsome : (([smartNodeReport 5 [pinReport .FIXED_OFF 3 .none], noonCycle] ++ pumpPlanned ++
      [smartNodeReport 2 [pinReport .AUTO_ON 5 .none]]).foldlM unstoredNext pumpStart).isSome := by
    decide +kernel
  obtain ⟨last, hlast⟩ := Option.isSome_iff_exists.mp hsome
  have hother : pumpId.macAddress ≠ Vector.replicate 6 1 := by decide
  exact ⟨last, (reported_settings_rule_iff hother smartNodePlant_sound rfl).mpr
    (.of_foldlM unstoredStep_of_unstoredNext hlast)⟩

/-- The report would be fully applied, and the copy not have what it carries. -/
theorem not_rules_of_eval {events : List SettingsEvent} {event : SettingsEvent}
    (heval : let before := events.foldl (fun before => before.next pumpId (Vector.replicate 6 1)) pumpStart
      (before.completed pumpId event).any (fun fields =>
        ((before.plant.next (Vector.replicate 6 1) event).copy pumpId).all fun load =>
          ¬ load.settings.Agree fields.settings) = true) :
    ¬ ∃ last, Run (RulesStep (Vector.replicate 6 1) pumpId) pumpStart (events ++ [event]) last := by
  rintro ⟨last, hrun⟩
  obtain ⟨fields, hcompleted, hdiffers⟩ := (Option.any_eq_true _ _).mp heval
  have hfollows : ∀ before event after, RulesStep (Vector.replicate 6 1) pumpId before event after →
      after = before.next pumpId (Vector.replicate 6 1) event := fun _ _ _ hstep => hstep.next
  have hstep := hrun.step_of_snoc hfollows
  obtain ⟨load, hload, hagree⟩ := hstep.rules fields hcompleted
  rw [hstep.next] at hload
  simp only [ReportedState.next] at hload
  rw [hload] at hdiffers
  exact of_decide_eq_true hdiffers hagree

/-- Once the pump has been planned, an edit of its class, of its priority or of its
schedule on the console of the Node has no effect at Central. -/
theorem console_edits_overridden :
    pumpStart.plant.Sound (Vector.replicate 6 1) ∧ pumpStart.reported = none ∧
      ∀ edited ∈ [pinReport .FIXED_OFF 5 .none, pinReport .AUTO_OFF 7 .none,
          pinReport .AUTO_OFF 5 (.make true 8 0 9 0)],
        ¬ ∃ last, Run (RulesStep (Vector.replicate 6 1) pumpId) pumpStart
          (pumpPlanned ++ [smartNodeReport 2 [edited]]) last := by
  refine ⟨smartNodePlant_sound, rfl, fun edited hedited => not_rules_of_eval ?_⟩
  simp only [List.mem_cons, List.not_mem_nil, or_false] at hedited
  obtain rfl | rfl | rfl := hedited
  · decide +kernel
  · decide +kernel
  · decide +kernel

end Runs

end ReportedSettings

end kilowatts
