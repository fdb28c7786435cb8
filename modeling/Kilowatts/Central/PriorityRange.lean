import Kilowatts.Central.CentralPlant

namespace kilowatts

open CentralPlant

/-- The largest priority that a load is configured with. -/
def maximumPriority : UInt16 := 10

/-- Priorities go up to the maximum that the commands accept. -/
def LoadFields.InRange (fields : LoadFields) : Prop := fields.priority ≤ maximumPriority

namespace CentralPlant

/-- No load that Central plans with, and no override in memory or in the flash, has a
larger priority. -/
structure InRange (plant : CentralPlant) : Prop where
  loads : ∀ load ∈ plant.central.registry.loads, load.priority ≤ maximumPriority
  overrides : ∀ entry ∈ plant.central.centralLoadConfigurationStore.entries, entry.priority ≤ maximumPriority
  flash : ∀ entry ∈ plant.overridesFlash.entries, entry.priority ≤ maximumPriority

/-- Nor has a load of Central's own Node. -/
structure Bounded (localMac : MacAddress) (plant : CentralPlant) : Prop where
  sound : plant.Sound localMac
  inRange : plant.InRange
  node : ∀ load ∈ plant.hardware.node.loads, load.priority ≤ maximumPriority

end CentralPlant

section Steps

variable (localMac : MacAddress) (before : CentralPlant) (event : SettingsEvent) (after : CentralPlant)

/-- An event that leaves all priorities in range. -/
structure InRangeStep : Prop where
  next : after = before.next localMac event
  inRange : after.InRange

/-- A user command that is not refused asks for no larger priority. -/
structure BoundedStep : Prop where
  next : after = before.next localMac event
  bounded : ∀ stateTaken answers request load, event = .loadCommand stateTaken answers request →
    Attempted localMac stateTaken request before.commandState load →
      request.hasPriority = true → request.priority ≤ maximumPriority

end Steps

/-- A well-formed configuration has a priority in range. -/
theorem LoadConfiguration.load_priority_le {configuration : LoadConfiguration}
    (hwellFormed : configuration.isWellFormed = true) (macAddress : MacAddress) :
    (configuration.load macAddress).priority ≤ maximumPriority := by
  simp only [isWellFormed, Bool.and_eq_true] at hwellFormed
  obtain ⟨rating, hnonneg, hload⟩ := configuration.load_eq hwellFormed.2 macAddress
  rw [hload]
  exact of_decide_eq_true hwellFormed.1.2

/-- Central takes no report with a priority out of range. -/
theorem LoadReportPacket.fields_inRange {report : LoadReportPacket} (hvalid : report.validLoadReport = true) :
    report.fields.InRange := by
  simp only [validLoadReport, Bool.and_eq_true, decide_eq_true_eq] at hvalid
  obtain ⟨⟨⟨-, hpriority⟩, -⟩, -⟩ := hvalid
  exact hpriority

/-- A load has its own priority or that of its override. -/
theorem LoadConfigurationStore.applyToLoad_priority_le {store : LoadConfigurationStore}
    (hstore : ∀ entry ∈ store.entries, entry.priority ≤ maximumPriority) {load : Load}
    (hload : load.priority ≤ maximumPriority) : (store.applyToLoad load).1.priority ≤ maximumPriority := by
  cases hfind : store.findConfiguration load.getMacAddress load.getRelayPin with
  | none => rwa [applyToLoad_of_none hfind]
  | some entry =>
    rw [applyToLoad_eq hfind]
    exact hstore entry (KeyedList.mem_of_lookup hfind)

section Bounds

variable {localMac : MacAddress} {plant : CentralPlant} {event : SettingsEvent}

theorem CentralPlant.InRange.copy (hinRange : plant.InRange) {id : Load.Id} {load : Load}
    (hcopy : plant.copy id = some load) : load.priority ≤ maximumPriority :=
  hinRange.loads load (CentralNodeRegistry.findLoad_eq_some_iff.mp hcopy).1

/-- The overrides of a cycle have the priorities of planned loads. -/
theorem CentralPlant.InRange.runtimeEntry (hinRange : plant.InRange) {id : Load.Id} {entry : ConfigurationEntry}
    (hruntime : CentralState.IsRuntimeEntry plant.central.plannedRegistry id entry) :
    entry.priority ≤ maximumPriority := by
  obtain ⟨load, requestedOn, hplanned, -, -, rfl⟩ := hruntime
  have hcopy := (plannedRegistry_findLoad plant id).symm.trans hplanned
  obtain ⟨found, hfound, rfl⟩ := Option.map_eq_some_iff.mp hcopy
  exact LoadConfigurationStore.applyToLoad_priority_le hinRange.overrides (hinRange.copy hfound)

/-- No event puts a priority out of range on one of Central's pins. -/
theorem CentralPlant.Bounded.node_next (hbounded : plant.Bounded localMac) (event : SettingsEvent) :
    ∀ load ∈ (plant.next localMac event).hardware.node.loads, load.priority ≤ maximumPriority := by
  intro load hload
  obtain hold | ⟨value, hwellFormed, rfl⟩ := (next_node hbounded.sound.macAddress event).2 load hload
  · exact hbounded.node load hold
  · exact LoadConfiguration.load_priority_le hwellFormed localMac

/-- Only a user command can store a larger priority. -/
theorem CentralPlant.Bounded.overrides_next (hbounded : plant.Bounded localMac)
    (hstep : BoundedStep localMac plant event (plant.next localMac event)) :
    ∀ entry ∈ (plant.next localMac event).central.centralLoadConfigurationStore.entries,
      entry.priority ≤ maximumPriority := by
  intro entry hentry
  cases next_entries_origin hentry with
  | kept hentry => exact hbounded.inRange.overrides entry hentry
  | reloaded hentry => exact hbounded.inRange.flash entry hentry
  | planned id hruntime => exact hbounded.inRange.runtimeEntry hruntime
  | @commanded stateTaken answers request load hevent hattempted hentry =>
    subst hentry
    dsimp only [LoadCommandRequest.entry, LoadCommandRequest.settings]
    split
    · rename_i hasPriority
      exact hstep.bounded stateTaken answers request load hevent hattempted hasPriority
    · have hcopy : plant.copy request.id = some load := hattempted.findLoad
      exact hbounded.inRange.copy hcopy

/-- Every other path checks the priority. -/
theorem CentralPlant.Bounded.inRange_next (hbounded : plant.Bounded localMac)
    (hstep : BoundedStep localMac plant event (plant.next localMac event)) :
    (plant.next localMac event).InRange := by
  have hoverrides := hbounded.overrides_next hstep
  have hown : ∀ id fields, plant.own localMac id event = some fields → fields.InRange := by
    intro id fields hown
    obtain ⟨load, hload, rfl⟩ | ⟨report, hvalid, rfl⟩ := own_origin hown
    · exact hbounded.node_next event load hload
    · exact LoadReportPacket.fields_inRange hvalid
  have happlied : ∀ store : LoadConfigurationStore, store = plant.central.centralLoadConfigurationStore ∨
      store = (plant.next localMac event).central.centralLoadConfigurationStore →
        ∀ load : Load, load.fields.InRange → (store.applyToLoad load).1.fields.InRange := by
    rintro store (rfl | rfl) load hload
    · exact LoadConfigurationStore.applyToLoad_priority_le hbounded.inRange.overrides hload
    · exact LoadConfigurationStore.applyToLoad_priority_le hoverrides hload
  refine ⟨fun load hload => ?_, hoverrides, ?_⟩
  · have hcopy : (plant.next localMac event).copy load.id = some load :=
      CentralNodeRegistry.findLoad_eq_some_iff.mpr ⟨hload, rfl⟩
    have hfields : load.fields.InRange := next_copy_fields hbounded.sound (hown load.id)
      (fun store hstore other _ => happlied store hstore other)
      (fun _ _ hkeeps hholds => hkeeps.priority.trans_le hholds) (fun _ hfound => hbounded.inRange.copy hfound) load hcopy
    exact hfields
  · obtain hsame | htaken := next_overridesFlash localMac plant event
    · exact hsame ▸ hbounded.inRange.flash
    · exact htaken ▸ hoverrides

/-- Needs `Bounded` before: then only an override out of range can leave the range. -/
theorem inRangeStep_iff (hbounded : plant.Bounded localMac) (after : CentralPlant) :
    InRangeStep localMac plant event after ↔ BoundedStep localMac plant event after := by
  constructor
  · rintro ⟨rfl, hinRange⟩
    refine ⟨rfl, ?_⟩
    rintro stateTaken answers request load rfl hattempted hasPriority
    have hentry : request.entry load ∈ (plant.next localMac (.loadCommand stateTaken answers
        request)).central.centralLoadConfigurationStore.entries := by
      rw [hattempted.next_overrides]
      have hfind := hattempted.findConfiguration request.id
      rw [if_pos rfl] at hfind
      exact KeyedList.mem_of_lookup hfind
    have hpriority := hinRange.overrides _ hentry
    rwa [LoadCommandRequest.entry, LoadCommandRequest.settings, if_pos hasPriority] at hpriority
  · rintro ⟨rfl, hcommand⟩
    exact ⟨rfl, hbounded.inRange_next ⟨rfl, hcommand⟩⟩

end Bounds

/-- All priorities stay in range exactly if no user command that is not refused asks for a larger one. Needs
that they are in range at the start. -/
theorem priorities_in_range_iff {localMac : MacAddress} {start last : CentralPlant} {events : List SettingsEvent}
    (hbounded : start.Bounded localMac) :
    Run (InRangeStep localMac) start events last ↔ Run (BoundedStep localMac) start events last := by
  have hpreserved : ∀ before event after, before.Bounded localMac → InRangeStep localMac before event after →
      after.Bounded localMac := by
    rintro before event after hbefore ⟨rfl, hinRange⟩
    exact ⟨hbefore.sound.next event, hinRange, hbefore.node_next event⟩
  exact Run.congr hpreserved (fun _ _ after hbefore => inRangeStep_iff hbefore after) hbounded

section Runs

theorem smartNodePlant_bounded : smartNodePlant.Bounded (Vector.replicate 6 1) :=
  ⟨smartNodePlant_sound, ⟨by decide +kernel, List.forall_mem_nil _, List.forall_mem_nil _⟩, List.forall_mem_nil _⟩

/-- The user asks for another priority of the pump. -/
def pumpPriority (priority : UInt16) : SettingsEvent :=
  .loadCommand true .succeeding
    { nodeMacAddress := Vector.replicate 6 2
      relayPin := 4
      hasPriority := true
      priority
      hasMode := false
      mode := .FIXED_OFF
      hasSchedule := false
      schedule := .none }

/-- An AUTO pump of priority 5 is reported, planned, and then updated. -/
def pumpUpdated (priority : UInt16) : List SettingsEvent :=
  [smartNodeReport 1 [pinReport .AUTO_OFF 5 .none], noonCycle, pumpPriority priority]

/-- The pump may get the largest priority. -/
theorem priorities_in_range_iff_pump :
    Run (InRangeStep (Vector.replicate 6 1)) smartNodePlant (pumpUpdated maximumPriority)
      ((pumpUpdated maximumPriority).foldl (CentralPlant.next (Vector.replicate 6 1)) smartNodePlant) := by
  refine (priorities_in_range_iff smartNodePlant_bounded).mpr
    (.snoc (.snoc (.snoc (.nil _) ⟨rfl, ?_⟩) ⟨rfl, ?_⟩) ⟨rfl, ?_⟩)
  · rintro _ _ _ _ ⟨⟩ _ _
    decide
  · rintro _ _ _ _ ⟨⟩
  · rintro _ _ _ _ ⟨⟩

/-- A larger priority is taken for the load, and stored for good. -/
theorem pump_priority_out_of_range :
    smartNodePlant.Bounded (Vector.replicate 6 1) ∧
      ¬ ((pumpUpdated 11).foldl (CentralPlant.next (Vector.replicate 6 1)) smartNodePlant).InRange := by
  refine ⟨smartNodePlant_bounded, fun hinRange => ?_⟩
  have hstored : ∃ entry ∈ ((pumpUpdated 11).foldl (CentralPlant.next (Vector.replicate 6 1))
      smartNodePlant).overridesFlash.entries, entry.priority = 11 := by
    decide +kernel
  obtain ⟨entry, hentry, hpriority⟩ := hstored
  have hle := hinRange.flash entry hentry
  rw [hpriority] at hle
  exact absurd hle (by decide)

end Runs

end kilowatts
