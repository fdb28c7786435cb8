import Kilowatts.Central.PlanningCycle
import Kilowatts.Library.FlashBacked
import Kilowatts.NodeManager.SystemCommandModel

namespace kilowatts

/-- What `handleLoadCommand` reads and writes under `stateMutex`. -/
structure LoadCommandState where
  registry : CentralNodeRegistry
  commissioningRegistry : NodeCommissioningRegistry
  centralLoadConfigurationStore : FlashBacked LoadConfigurationStore

namespace LoadCommandRequest

/-- The load that the command is for. -/
def id (request : LoadCommandRequest) : Load.Id := ⟨request.nodeMacAddress, request.relayPin⟩

/-- The requested fields over the others of `previous`. A fixed mode has no schedule. -/
def settings (request : LoadCommandRequest) (previous : LoadSettings) : LoadSettings :=
  let mode := if request.hasMode then request.mode else previous.mode
  { priority := if request.hasPriority then request.priority else previous.priority
    mode
    schedule :=
      if mode = .FIXED_ON ∨ mode = .FIXED_OFF then .none
      else if request.hasSchedule then request.schedule else previous.schedule }

/-- The entry that `handleLoadCommand` builds for the load. -/
def entry (request : LoadCommandRequest) (load : Load) : ConfigurationEntry where
  macAddress := request.nodeMacAddress
  relayPin := request.relayPin
  priority := (request.settings load.settings).priority
  mode := (request.settings load.settings).mode
  schedule := (request.settings load.settings).schedule

end LoadCommandRequest

namespace LoadCommandState

/-- Central itself, or a Smart Node that is commissioned. -/
def validOwner (localMac : MacAddress) (state : LoadCommandState) (request : LoadCommandRequest) : Bool :=
  request.nodeMacAddress = localMac || state.commissioningRegistry.isCommissionedSmartNode request.nodeMacAddress

/-- Each operand of the `&&` chain runs only if the ones before it succeeded.
`stateTaken` tells whether `stateMutex` was obtained in time. -/
def handleLoadCommand (localMac : MacAddress) (stateTaken : Bool) (answers : FlashAnswers)
    (request : LoadCommandRequest) (state : LoadCommandState) : LoadCommandState × CommandResult :=
  if !stateTaken then (state, ⟨false, false, "state is busy"⟩)
  else
    match state.registry.findLoad request.nodeMacAddress request.relayPin with
    | none => (state, ⟨false, false, "unknown or unavailable Load"⟩)
    | some load =>
      if !state.validOwner localMac request then (state, ⟨false, false, "unknown or unavailable Load"⟩)
      else
        let (store, set) := state.centralLoadConfigurationStore.memory.setConfiguration (request.entry load)
        if !set then (state, ⟨false, false, "could not save Load settings"⟩)
        else if !(store.applyToLoad load).2 then
          ({ state with centralLoadConfigurationStore.memory := store },
            ⟨false, false, "could not save Load settings"⟩)
        else
          let registry := state.registry.updateLoad request.nodeMacAddress request.relayPin
            (Central.storedSettingsUpdate store)
          let (centralLoadConfigurationStore, saved) :=
            { state.centralLoadConfigurationStore with memory := store }.persist answers
          ({ state with registry, centralLoadConfigurationStore },
            if saved then ⟨true, true, "applied"⟩ else ⟨false, false, "could not save Load settings"⟩)

end LoadCommandState

/-- Exactly the given settings of a load change. -/
def settingsUpdate (settings : LoadSettings) : LoadUpdate := ⟨Load.withSettings settings, fun _ => rfl⟩

/-- The load, its entry and its record have the requested fields, and their other
fields and everything else are as before. An entry or a record that was not there
before takes the other fields of the load. -/
structure Fulfilled (request : LoadCommandRequest) (load : Load) (before after : LoadCommandState) : Prop where
  load_found : before.registry.findLoad request.nodeMacAddress request.relayPin = some load
  registry : after.registry = before.registry.updateLoad request.nodeMacAddress request.relayPin
    (settingsUpdate (request.settings load.settings))
  commissioning : after.commissioningRegistry = before.commissioningRegistry
  entry : (after.centralLoadConfigurationStore.memory.findConfiguration request.nodeMacAddress request.relayPin).map
      ConfigurationEntry.settings =
    some (request.settings (((before.centralLoadConfigurationStore.memory.findConfiguration request.nodeMacAddress
      request.relayPin).map ConfigurationEntry.settings).getD load.settings))
  record : (after.centralLoadConfigurationStore.flash.findConfiguration request.nodeMacAddress request.relayPin).map
      ConfigurationEntry.settings =
    some (request.settings (((before.centralLoadConfigurationStore.flash.findConfiguration request.nodeMacAddress
      request.relayPin).map ConfigurationEntry.settings).getD load.settings))
  others : ∀ id : Load.Id, id ≠ request.id →
    after.centralLoadConfigurationStore.memory.findConfiguration id.macAddress id.relayPin =
        before.centralLoadConfigurationStore.memory.findConfiguration id.macAddress id.relayPin ∧
      after.centralLoadConfigurationStore.flash.findConfiguration id.macAddress id.relayPin =
        before.centralLoadConfigurationStore.flash.findConfiguration id.macAddress id.relayPin

/-- An accepted command is fulfilled, and one that is not accepted changes nothing. -/
def Atomic (request : LoadCommandRequest) (before : LoadCommandState)
    (outcome : LoadCommandState × CommandResult) : Prop :=
  if outcome.2.accepted then ∃ load, Fulfilled request load before outcome.1 else outcome.1 = before

/-- A command on the load that is not refused before anything is written. -/
structure Attempted (localMac : MacAddress) (stateTaken : Bool) (request : LoadCommandRequest)
    (state : LoadCommandState) (load : Load) : Prop where
  stateTaken : stateTaken = true
  load_found : state.registry.findLoad request.nodeMacAddress request.relayPin = some load
  validOwner : state.validOwner localMac request = true
  schedule : (request.settings load.settings).schedule.isValidSchedule = true

/-- What the command does not ask for is the same in the load, in its entry and in
its record, if it has them, and the records of the other loads are their entries.
A resulting mode that is not declared comes with the schedule of the load. -/
structure Consistent (request : LoadCommandRequest) (state : LoadCommandState) (load : Load) : Prop where
  schedule : (request.settings load.settings).mode.isDeclared = false →
    (request.settings load.settings).schedule = load.schedule
  entry : ∀ previous, state.centralLoadConfigurationStore.memory.findConfiguration request.nodeMacAddress
    request.relayPin = some previous → request.settings previous.settings = request.settings load.settings
  record : ∀ previous, state.centralLoadConfigurationStore.flash.findConfiguration request.nodeMacAddress
    request.relayPin = some previous → request.settings previous.settings = request.settings load.settings
  others : ∀ id : Load.Id, id ≠ request.id →
    state.centralLoadConfigurationStore.flash.findConfiguration id.macAddress id.relayPin =
      state.centralLoadConfigurationStore.memory.findConfiguration id.macAddress id.relayPin

/-- The load and its entry have the requested settings already, and so has the
flash if it is written. -/
structure NothingToDo (answers : FlashAnswers) (request : LoadCommandRequest) (state : LoadCommandState)
    (load : Load) : Prop where
  priority : load.priority = (request.settings load.settings).priority
  mode : load.mode = (request.settings load.settings).mode
  schedule : (request.settings load.settings).mode.isDeclared = true →
    load.schedule = (request.settings load.settings).schedule
  entry : state.centralLoadConfigurationStore.memory.findConfiguration request.nodeMacAddress request.relayPin =
    some (request.entry load)
  flash : answers.writes = true → state.centralLoadConfigurationStore.flash = state.centralLoadConfigurationStore.memory

section Atomicity

variable {localMac : MacAddress} {stateTaken : Bool} {answers : FlashAnswers} {request : LoadCommandRequest}
  {state : LoadCommandState} {load : Load}

/-- The stored entries once the command has set its own. -/
def LoadCommandState.commandedStore (state : LoadCommandState) (request : LoadCommandRequest) (load : Load) :
    LoadConfigurationStore :=
  (state.centralLoadConfigurationStore.memory.setConfiguration (request.entry load)).1

/-- A fixed mode drops the schedule. -/
theorem LoadCommandRequest.settings_schedule_of_fixed {request : LoadCommandRequest} {previous : LoadSettings}
    (hfixed : (request.settings previous).mode = .FIXED_ON ∨ (request.settings previous).mode = .FIXED_OFF) :
    (request.settings previous).schedule = .none :=
  if_pos hfixed

/-- A refused command changes nothing. -/
theorem handleLoadCommand_of_not_attempted (answers : FlashAnswers)
    (hrefused : ∀ load, ¬ Attempted localMac stateTaken request state load) :
    (state.handleLoadCommand localMac stateTaken answers request).1 = state ∧
      (state.handleLoadCommand localMac stateTaken answers request).2.accepted = false := by
  unfold LoadCommandState.handleLoadCommand
  split
  · exact ⟨rfl, rfl⟩
  rename_i htaken
  split
  · exact ⟨rfl, rfl⟩
  rename_i load hload
  split
  · exact ⟨rfl, rfl⟩
  rename_i howner
  have hinvalid : (request.entry load).schedule.isValidSchedule = false := by
    by_contra hvalid
    exact hrefused load ⟨by simpa using htaken, hload, by simpa using howner, (Bool.not_eq_false _).mp hvalid⟩
  rw [LoadConfigurationStore.setConfiguration_eq, hinvalid]
  exact ⟨rfl, rfl⟩

/-- A command is only attempted for a load that is known. -/
theorem Attempted.findLoad (hattempted : Attempted localMac stateTaken request state load) :
    state.registry.findLoad request.id.macAddress request.id.relayPin = some load := hattempted.load_found

/-- Only the override of this load is written. -/
theorem Attempted.findConfiguration (hattempted : Attempted localMac stateTaken request state load) (id : Load.Id) :
    (state.commandedStore request load).findConfiguration id.macAddress id.relayPin =
      if id = request.id then some (request.entry load)
      else state.centralLoadConfigurationStore.memory.findConfiguration id.macAddress id.relayPin :=
  LoadConfigurationStore.setConfiguration_findConfiguration hattempted.schedule id

/-- The load takes the entry's settings, but for the schedule of a mode that is not
declared. -/
theorem Attempted.applyToLoad (hattempted : Attempted localMac stateTaken request state load) :
    (state.commandedStore request load).applyToLoad load =
      (load.withSettings { request.settings load.settings with
        schedule := if (request.settings load.settings).mode.isDeclared then (request.settings load.settings).schedule
          else load.schedule }, true) := by
  have hid : load.id = request.id := (CentralNodeRegistry.findLoad_eq_some_iff.mp hattempted.findLoad).2
  have hfind : (state.commandedStore request load).findConfiguration load.getMacAddress load.getRelayPin =
      some (request.entry load) := by
    rw [Load.getMacAddress, Load.getRelayPin, hattempted.findConfiguration, if_pos hid]
  refine Prod.ext ?_ (by simp [LoadConfigurationStore.applyToLoad, hfind])
  rw [LoadConfigurationStore.applyToLoad_eq hfind]
  refine congrArg (Load.withSettings · load) (LoadSettings.ext rfl rfl ?_)
  have hvalid : (request.entry load).schedule.isValidSchedule = true := hattempted.schedule
  have hfixed : (request.entry load).mode = .FIXED_ON ∨ (request.entry load).mode = .FIXED_OFF →
      (request.entry load).schedule = .none := LoadCommandRequest.settings_schedule_of_fixed
  change _ = if (request.entry load).mode.isDeclared then (request.entry load).schedule else load.schedule
  cases hmode : (request.entry load).mode with
  | FIXED_ON =>
    rw [hfixed (.inl hmode)]
    rfl
  | FIXED_OFF =>
    rw [hfixed (.inr hmode)]
    rfl
  | AUTO_ON => simp [hvalid, LoadMode.isDeclared]
  | AUTO_OFF => simp [hvalid, LoadMode.isDeclared]
  | undeclared byte hbyte => simp [LoadMode.isDeclared]

/-- The outcome of a command that is not refused: everything is changed in memory
before the flash answers. -/
theorem Attempted.handleLoadCommand (hattempted : Attempted localMac stateTaken request state load) :
    state.handleLoadCommand localMac stateTaken answers request =
      ({ state with
          registry := state.registry.updateLoad request.nodeMacAddress request.relayPin
            (Central.storedSettingsUpdate (state.commandedStore request load))
          centralLoadConfigurationStore := ⟨state.commandedStore request load,
            if answers.writes then state.commandedStore request load else state.centralLoadConfigurationStore.flash⟩ },
        if answers.succeeds then ⟨true, true, "applied"⟩ else ⟨false, false, "could not save Load settings"⟩) := by
  have hset : (state.centralLoadConfigurationStore.memory.setConfiguration (request.entry load)).2 = true := by
    rw [LoadConfigurationStore.setConfiguration_eq]
    exact congrArg Prod.snd (if_pos hattempted.schedule)
  have happlied := congrArg Prod.snd hattempted.applyToLoad
  unfold LoadCommandState.handleLoadCommand
  simp only [hattempted.stateTaken, hattempted.load_found, hattempted.validOwner, hset, Bool.not_true, Bool.false_eq_true,
    if_false]
  rw [LoadCommandState.commandedStore] at happlied
  simp only [happlied, Bool.not_true, Bool.false_eq_true, if_false]
  rfl

/-- The schedule of the load is as requested, unless the mode is not declared. -/
theorem Attempted.applied_eq_iff (hattempted : Attempted localMac stateTaken request state load) :
    ((state.commandedStore request load).applyToLoad load).1 = load.withSettings (request.settings load.settings) ↔
      ((request.settings load.settings).mode.isDeclared = false →
        (request.settings load.settings).schedule = load.schedule) := by
  rw [hattempted.applyToLoad]
  constructor
  · intro hsame hmode
    have hschedule := congrArg Load.schedule hsame
    simpa [Load.withSettings, hmode] using hschedule.symm
  · intro hschedule
    refine congrArg (Load.withSettings · load) (LoadSettings.ext rfl rfl ?_)
    cases hmode : (request.settings load.settings).mode.isDeclared with
    | false => exact (hschedule hmode).symm
    | true => rfl

/-- An accepted command is fulfilled exactly if the state was consistent before. -/
theorem Attempted.fulfilled_iff (hattempted : Attempted localMac stateTaken request state load)
    (hsucceeds : answers.succeeds = true) :
    Fulfilled request load state (state.handleLoadCommand localMac stateTaken answers request).1 ↔
      Consistent request state load := by
  have hstore := hattempted.findConfiguration request.id
  rw [if_pos rfl] at hstore
  have hregistry := (CentralNodeRegistry.updateLoad_eq_iff hattempted.findLoad
    (Central.storedSettingsUpdate (state.commandedStore request load))
    (settingsUpdate (request.settings load.settings))).trans hattempted.applied_eq_iff
  rw [hattempted.handleLoadCommand, FlashAnswers.writes_of_succeeds hsucceeds]
  constructor
  · intro hfulfilled
    refine ⟨hregistry.mp hfulfilled.registry, fun previous hprevious => ?_, fun previous hprevious => ?_,
      fun id hid => ?_⟩
    · have hentry := hfulfilled.entry
      rw [hprevious] at hentry
      exact (Option.some.inj ((congrArg (Option.map ConfigurationEntry.settings) hstore).symm.trans hentry)).symm
    · have hrecord := hfulfilled.record
      rw [hprevious] at hrecord
      exact (Option.some.inj ((congrArg (Option.map ConfigurationEntry.settings) hstore).symm.trans hrecord)).symm
    · have hother := hattempted.findConfiguration id
      rw [if_neg hid] at hother
      exact (hfulfilled.others id hid).2.symm.trans hother
  · intro hconsistent
    have hkept : ∀ previous : Option ConfigurationEntry,
        (∀ entry, previous = some entry → request.settings entry.settings = request.settings load.settings) →
        (some (request.entry load)).map ConfigurationEntry.settings =
          some (request.settings ((previous.map ConfigurationEntry.settings).getD load.settings)) := by
      intro previous hprevious
      cases previous with
      | none => rfl
      | some entry => exact congrArg some (hprevious entry rfl).symm
    refine ⟨hattempted.load_found, hregistry.mpr hconsistent.schedule, rfl, ?_, ?_, fun id hid => ?_⟩
    · exact (congrArg _ hstore).trans (hkept _ hconsistent.entry)
    · exact (congrArg _ hstore).trans (hkept _ hconsistent.record)
    · have hother := hattempted.findConfiguration id
      rw [if_neg hid] at hother
      exact ⟨hother, hother.trans (hconsistent.others id hid).symm⟩

/-- A command that cannot be saved changes nothing exactly if there was nothing to do. -/
theorem Attempted.unchanged_iff (hattempted : Attempted localMac stateTaken request state load) :
    (state.handleLoadCommand localMac stateTaken answers request).1 = state ↔
      NothingToDo answers request state load := by
  have hregistry := CentralNodeRegistry.updateLoad_eq_self_iff hattempted.findLoad
    (Central.storedSettingsUpdate (state.commandedStore request load))
  have happlied : (Central.storedSettingsUpdate (state.commandedStore request load)).apply load =
      load.withSettings { request.settings load.settings with
        schedule := if (request.settings load.settings).mode.isDeclared then (request.settings load.settings).schedule
          else load.schedule } :=
    congrArg Prod.fst hattempted.applyToLoad
  have hstore : state.commandedStore request load = state.centralLoadConfigurationStore.memory ↔
      state.centralLoadConfigurationStore.memory.findConfiguration request.nodeMacAddress request.relayPin =
        some (request.entry load) :=
    LoadConfigurationStore.setConfiguration_eq_self_iff hattempted.schedule
  rw [hattempted.handleLoadCommand]
  constructor
  · intro hsame
    have hbacked := congrArg LoadCommandState.centralLoadConfigurationStore hsame
    have hmemory := congrArg FlashBacked.memory hbacked
    have hload := happlied.symm.trans (hregistry.mp (congrArg LoadCommandState.registry hsame))
    refine ⟨(congrArg Load.priority hload).symm, (congrArg Load.mode hload).symm, fun hdeclared => ?_,
      hstore.mp hmemory, fun hwrites => ?_⟩
    · have hschedule := congrArg Load.schedule hload
      simpa [Load.withSettings, hdeclared] using hschedule.symm
    · have hflash := congrArg FlashBacked.flash hbacked
      simp only [hwrites, if_true] at hflash
      exact hflash.symm.trans hmemory
  · intro hnothing
    have hsame := hstore.mpr hnothing.entry
    have hload : load.withSettings { request.settings load.settings with
        schedule := if (request.settings load.settings).mode.isDeclared then (request.settings load.settings).schedule
          else load.schedule } = load := by
      cases hmode : (request.settings load.settings).mode.isDeclared with
      | false => simp [Load.withSettings, ← hnothing.priority, ← hnothing.mode]
      | true => simp [Load.withSettings, ← hnothing.priority, ← hnothing.mode, ← hnothing.schedule hmode]
    have hflash : (if answers.writes then state.centralLoadConfigurationStore.memory
        else state.centralLoadConfigurationStore.flash) = state.centralLoadConfigurationStore.flash := by
      cases hwrites : answers.writes with
      | false => rfl
      | true => exact (hnothing.flash hwrites).symm
    have hupdate := hregistry.mpr (happlied.trans hload)
    rw [LoadCommandRequest.id] at hupdate
    rw [hsame] at hupdate ⊢
    simp only [hupdate, hflash]

/-- A load command is atomic exactly if it is refused before anything is written, or is saved in a
consistent state, or had nothing to do. Nothing is assumed about the request, the state or the flash. -/
theorem handleLoadCommand_atomic_iff (localMac : MacAddress) (stateTaken : Bool) (answers : FlashAnswers)
    (request : LoadCommandRequest) (state : LoadCommandState) :
    Atomic request state (state.handleLoadCommand localMac stateTaken answers request) ↔
      ∀ load, Attempted localMac stateTaken request state load →
        if answers.succeeds then Consistent request state load else NothingToDo answers request state load := by
  by_cases hattempted : ∃ load, Attempted localMac stateTaken request state load
  · obtain ⟨load, hattempted⟩ := hattempted
    have honly : ∀ other, Attempted localMac stateTaken request state other → other = load := fun other hother =>
      Option.some.inj (hother.load_found.symm.trans hattempted.load_found)
    cases hsucceeds : answers.succeeds with
    | true =>
      have haccepted : (state.handleLoadCommand localMac stateTaken answers request).2.accepted = true := by
        rw [hattempted.handleLoadCommand, hsucceeds]
        rfl
      rw [Atomic, if_pos haccepted]
      constructor
      · rintro ⟨found, hfulfilled⟩ other hother
        obtain rfl := honly other hother
        obtain rfl : found = other := Option.some.inj (hfulfilled.load_found.symm.trans hattempted.load_found)
        exact (hattempted.fulfilled_iff hsucceeds).mp hfulfilled
      · intro hconsistent
        exact ⟨load, (hattempted.fulfilled_iff hsucceeds).mpr (hconsistent load hattempted)⟩
    | false =>
      have hrefused : (state.handleLoadCommand localMac stateTaken answers request).2.accepted = false := by
        rw [hattempted.handleLoadCommand, hsucceeds]
        rfl
      rw [Atomic, if_neg (by simp [hrefused]), hattempted.unchanged_iff]
      constructor
      · intro hnothing other hother
        obtain rfl := honly other hother
        exact hnothing
      · intro hnothing
        exact hnothing load hattempted
  · have hnone : ∀ load, ¬ Attempted localMac stateTaken request state load := fun load hload => hattempted ⟨load, hload⟩
    obtain ⟨hsame, hrefused⟩ := handleLoadCommand_of_not_attempted answers hnone
    rw [Atomic, if_neg (by simp [hrefused])]
    exact iff_of_true hsame fun load hload => absurd hload (hnone load)

end Atomicity

section Runs

/-- A pump of Central on pin 4, and the entries that memory and flash hold. -/
def wellPumpState (entries : List ConfigurationEntry) : LoadCommandState where
  registry := {
    planningNodes := [
      { node := ((Node.make (Vector.replicate 6 1)).addLoad
          (.make ⟨Vector.replicate 6 1, 4⟩ [87, 101, 108, 108] (.finite 60) 5 .AC .FIXED_OFF)).1
        nodeName := [67]
        nextHopToCentralMacAddress := Vector.replicate 6 1
        hopCountToCentral := 0
        isCentralNode := true
        lastSeenMilliseconds := 0
        pendingReport := .none }]
    macs_nodup := by simp }
  commissioningRegistry := ⟨[]⟩
  centralLoadConfigurationStore := ⟨⟨entries⟩, ⟨entries⟩⟩

def wellPumpRequest : LoadCommandRequest where
  nodeMacAddress := Vector.replicate 6 1
  relayPin := 4
  hasPriority := false
  priority := 0
  hasMode := true
  mode := .FIXED_ON
  hasSchedule := false
  schedule := .none

/-- The priority only. -/
def wellPumpPriority : LoadCommandRequest := { wellPumpRequest with hasPriority := true, priority := 7, hasMode := false }

def wellPumpEntry : ConfigurationEntry := ⟨Vector.replicate 6 1, 4, 5, .AUTO_ON, .make true 6 0 18 0⟩

/-- The pump is switched on for good by a command that is not accepted, since its
record could not be written. And a command for its priority is accepted, although
it drops the mode and the window that are stored for the pump, while a new Load of
Central has put the registered pump back to its hardware configuration. -/
theorem handleLoadCommand_not_atomic :
    ¬ Atomic wellPumpRequest (wellPumpState [])
        ((wellPumpState []).handleLoadCommand (Vector.replicate 6 1) true ⟨false, false, false, false⟩ wellPumpRequest) ∧
      ¬ Atomic wellPumpPriority (wellPumpState [wellPumpEntry])
        ((wellPumpState [wellPumpEntry]).handleLoadCommand (Vector.replicate 6 1) true .succeeding wellPumpPriority) := by
  constructor
  · rw [Atomic, if_neg (by decide +kernel)]
    intro hsame
    have hmode := congrArg (fun state : LoadCommandState =>
      (state.registry.findLoad (Vector.replicate 6 1) 4).map Load.mode) hsame
    revert hmode
    decide +kernel
  · rw [Atomic, if_pos (by decide +kernel)]
    rintro ⟨load, hfulfilled⟩
    have hstored : (wellPumpState [wellPumpEntry]).centralLoadConfigurationStore.memory.findConfiguration
        wellPumpPriority.nodeMacAddress wellPumpPriority.relayPin = some wellPumpEntry := by decide +kernel
    have hmode := congrArg (Option.map LoadSettings.mode) hfulfilled.entry
    simp only [hstored, Option.map_some, Option.getD_some] at hmode
    revert hmode
    decide +kernel

end Runs

end kilowatts
