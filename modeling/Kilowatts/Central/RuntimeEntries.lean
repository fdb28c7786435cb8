import Kilowatts.Central.StoredSettings

namespace kilowatts

namespace Central

/-- What one step of the loops over the AUTO candidates does to the overrides: it
stores the state of the load behind the pointer, if there is one. -/
def StoresAt (before : AutoPass) (pointer : Load.Id) (after : AutoPass) : Prop :=
  (deref before.registry pointer = none ∧ after.store = before.store) ∨
    ∃ load stored requestedOn, deref before.registry pointer = some load ∧
      CentralState.KeepsConfiguration load stored ∧
        after.store = (storeAutoRuntimeState before.store stored requestedOn).1

/-- Each turn of the loop writes at most one entry, for its own load. -/
theorem planAutoLoad_storesAt (selectedAutoLoads : List Load.Id) (pass : AutoPass) (pointer : Load.Id) :
    StoresAt pass pointer (planAutoLoad selectedAutoLoads pass pointer) := by
  unfold planAutoLoad
  cases hderef : deref pass.registry pointer with
  | none => exact .inl ⟨hderef, rfl⟩
  | some load => exact .inr ⟨load, _, _, hderef, CentralState.keepsConfiguration_rejectionReasonUpdate _ load, rfl⟩

/-- So does each turn of the other loop. -/
theorem switchOffAutoLoad_storesAt (pass : AutoPass) (pointer : Load.Id) :
    StoresAt pass pointer (switchOffAutoLoad pass pointer) := by
  unfold switchOffAutoLoad
  cases hderef : deref pass.registry pointer with
  | none => exact .inl ⟨hderef, rfl⟩
  | some load => exact .inr ⟨load, load, _, hderef, .refl load, rfl⟩

/-- An entry that is stored with the state of a load is that of an AUTO load. -/
theorem mem_storeAutoRuntimeState {store : LoadConfigurationStore} {load : Load} {requestedOn : Bool}
    {entry : ConfigurationEntry} (hentry : entry ∈ (storeAutoRuntimeState store load requestedOn).1.entries) :
    entry ∈ store.entries ∨
      (load.isAuto = true ∧ load.schedule.isValidSchedule = true ∧ entry = runtimeEntry load requestedOn) := by
  unfold storeAutoRuntimeState at hentry
  cases hauto : load.isAuto with
  | false =>
    rw [hauto] at hentry
    exact .inl hentry
  | true =>
    simp only [hauto, Bool.not_true, Bool.false_eq_true, if_false] at hentry
    rw [LoadConfigurationStore.setConfiguration_eq] at hentry
    split at hentry
    · rename_i hvalid
      exact (KeyedList.mem_put hentry).imp_right fun heq => ⟨rfl, hvalid, heq⟩
    · exact .inl hentry

/-- No override goes, and an AUTO load with a schedule that is accepted gets one. -/
theorem storeAutoRuntimeState_isSome (store : LoadConfigurationStore) (load : Load) (requestedOn : Bool)
    (id : Load.Id) :
    ((storeAutoRuntimeState store load requestedOn).1.findConfiguration id.macAddress id.relayPin).isSome ↔
      (store.findConfiguration id.macAddress id.relayPin).isSome ∨
        (id = load.id ∧ load.isAuto = true ∧ load.schedule.isValidSchedule = true) := by
  unfold storeAutoRuntimeState
  cases hauto : load.isAuto with
  | false => simp
  | true =>
    simp only [Bool.not_true, Bool.false_eq_true, if_false]
    cases hvalid : load.schedule.isValidSchedule with
    | false =>
      have hrefused : (runtimeEntry load requestedOn).schedule.isValidSchedule = false := hvalid
      rw [LoadConfigurationStore.setConfiguration_eq, hrefused]
      simp
    | true =>
      have haccepted : (runtimeEntry load requestedOn).schedule.isValidSchedule = true := hvalid
      rw [LoadConfigurationStore.setConfiguration_findConfiguration haccepted]
      by_cases hid : id = load.id
      · have hkey : id = LoadConfigurationStore.entryId (runtimeEntry load requestedOn) := hid
        rw [if_pos hkey]
        simp [hid]
      · have hkey : id ≠ LoadConfigurationStore.entryId (runtimeEntry load requestedOn) := hid
        rw [if_neg hkey]
        simp [hid]

end Central

namespace CentralState

open Central

section Pass

variable {planned : CentralNodeRegistry} {store : LoadConfigurationStore} {pass after : AutoPass} {pointer : Load.Id}

/-- The load that a step works on is that of the planned registry, up to its mode. -/
theorem PassKeeps.deref_planned (hkeeps : PassKeeps planned store pass) {load stored : Load}
    (hderef : deref pass.registry pointer = some load) (hstored : KeepsConfiguration load stored) :
    ∃ before, deref planned pointer = some before ∧ KeepsConfiguration before stored := by
  obtain ⟨update, hregistry, hupdate⟩ := hkeeps.loads
  rw [hregistry, deref_mapLoads] at hderef
  obtain ⟨before, hbefore, rfl⟩ := Option.map_eq_some_iff.mp hderef
  exact ⟨before, hbefore, (hupdate before).trans hstored⟩

theorem KeepsConfiguration.schedule {before after : Load} (hkeeps : KeepsConfiguration before after) :
    after.schedule = before.schedule := by
  rw [hkeeps.rest]

theorem KeepsConfiguration.priority {before after : Load} (hkeeps : KeepsConfiguration before after) :
    after.priority = before.priority := by
  rw [hkeeps.rest]

theorem KeepsConfiguration.id {before after : Load} (hkeeps : KeepsConfiguration before after) :
    after.id = before.id := by
  rw [hkeeps.rest]

/-- Whatever a turn adds is an entry that a plan makes. -/
theorem PassKeeps.mem_of_storesAt (hkeeps : PassKeeps planned store pass) (hstores : StoresAt pass pointer after)
    {entry : ConfigurationEntry} (hentry : entry ∈ after.store.entries) :
    entry ∈ pass.store.entries ∨ ∃ id, IsRuntimeEntry planned id entry := by
  obtain ⟨-, hsame⟩ | ⟨load, stored, requestedOn, hderef, hstored, hset⟩ := hstores
  · rw [hsame] at hentry
    exact .inl hentry
  · rw [hset] at hentry
    obtain hold | ⟨hauto, hvalid, rfl⟩ := mem_storeAutoRuntimeState hentry
    · exact .inl hold
    · obtain ⟨before, hbefore, hkept⟩ := hkeeps.deref_planned hderef hstored
      exact .inr ⟨pointer, before, requestedOn, hbefore, hkept.isAuto ▸ hauto, hkept.schedule ▸ hvalid,
        hkept.runtimeEntry requestedOn⟩

/-- Needs the schedule to be valid, else the store refuses the entry. -/
theorem PassKeeps.isSome_of_storesAt (hkeeps : PassKeeps planned store pass) (hstores : StoresAt pass pointer after)
    {id : Load.Id} {load : Load} (hplanned : deref planned id = some load) (hauto : load.isAuto = true)
    (hvalid : load.schedule.isValidSchedule = true)
    (hready : pointer = id ∨ (pass.store.findConfiguration id.macAddress id.relayPin).isSome) :
    (after.store.findConfiguration id.macAddress id.relayPin).isSome := by
  obtain ⟨hnone, hsame⟩ | ⟨found, stored, requestedOn, hderef, hstored, hset⟩ := hstores
  · obtain rfl | hold := hready
    · obtain ⟨update, hregistry, -⟩ := hkeeps.loads
      rw [hregistry, deref_mapLoads, hplanned] at hnone
      cases hnone
    · rw [hsame]
      exact hold
  · rw [hset, storeAutoRuntimeState_isSome]
    obtain rfl | hold := hready
    · obtain ⟨before, hbefore, hkept⟩ := hkeeps.deref_planned hderef hstored
      obtain rfl := Option.some.inj (hplanned.symm.trans hbefore)
      exact .inr ⟨((hkept.id).trans (deref_eq_some_iff.mp hbefore).2).symm, hkept.isAuto.trans hauto,
        hkept.schedule.symm ▸ hvalid⟩
    · exact .inl hold

/-- The same over the whole loop, by induction on its pointers. -/
theorem PassKeeps.foldl_mem {step : AutoPass → Load.Id → AutoPass}
    (hstep : ∀ pass pointer, PassKeeps planned store pass → PassKeeps planned store (step pass pointer))
    (hstores : ∀ pass pointer, StoresAt pass pointer (step pass pointer)) (pointers : List Load.Id)
    (hkeeps : PassKeeps planned store pass) {entry : ConfigurationEntry}
    (hentry : entry ∈ (pointers.foldl step pass).store.entries) :
    entry ∈ pass.store.entries ∨ ∃ id, IsRuntimeEntry planned id entry := by
  induction pointers generalizing pass with
  | nil => exact .inl hentry
  | cons pointer pointers ih =>
    obtain hold | hruntime := ih (hstep pass pointer hkeeps) hentry
    · exact hkeeps.mem_of_storesAt (hstores pass pointer) hold
    · exact .inr hruntime

theorem PassKeeps.foldl_isSome {step : AutoPass → Load.Id → AutoPass}
    (hstep : ∀ pass pointer, PassKeeps planned store pass → PassKeeps planned store (step pass pointer))
    (hstores : ∀ pass pointer, StoresAt pass pointer (step pass pointer)) (pointers : List Load.Id)
    (hkeeps : PassKeeps planned store pass) {id : Load.Id} {load : Load} (hplanned : deref planned id = some load)
    (hauto : load.isAuto = true) (hvalid : load.schedule.isValidSchedule = true)
    (hready : id ∈ pointers ∨ (pass.store.findConfiguration id.macAddress id.relayPin).isSome) :
    ((pointers.foldl step pass).store.findConfiguration id.macAddress id.relayPin).isSome := by
  induction pointers generalizing pass with
  | nil => exact hready.resolve_left List.not_mem_nil
  | cons pointer pointers ih =>
    refine ih (hstep pass pointer hkeeps) ?_
    obtain hmem | hold := hready
    · obtain rfl | hrest := List.mem_cons.mp hmem
      · exact .inr (hkeeps.isSome_of_storesAt (hstores pass id) hplanned hauto hvalid (.inl rfl))
      · exact .inl hrest
    · exact .inr (hkeeps.isSome_of_storesAt (hstores pass pointer) hplanned hauto hvalid (.inr hold))

end Pass

variable (state : CentralState) (clock : CycleClock)

/-- What every step of the loop of a cycle keeps and stores. -/
theorem autoPass_eq_storing_foldl :
    ∃ step start, state.autoPass clock = (state.loadFilter clock).autoCandidateLoads.foldl step start ∧
      start.store = state.centralLoadConfigurationStore ∧
      PassKeeps state.plannedRegistry state.centralLoadConfigurationStore start ∧
      (∀ pass pointer, PassKeeps state.plannedRegistry state.centralLoadConfigurationStore pass →
        PassKeeps state.plannedRegistry state.centralLoadConfigurationStore (step pass pointer)) ∧
      ∀ pass pointer, StoresAt pass pointer (step pass pointer) := by
  obtain ⟨step, start, heq, hstep, hstore, hkeeps⟩ := state.autoPass_eq_foldl clock
  refine ⟨step, start, heq, hstore, hkeeps, ?_⟩
  obtain rfl | rfl := hstep
  · exact ⟨fun _ pointer hkeeps => hkeeps.planAutoLoad _ pointer, planAutoLoad_storesAt _⟩
  · exact ⟨fun _ pointer hkeeps => hkeeps.switchOffAutoLoad pointer, switchOffAutoLoad_storesAt⟩

/-- The overrides after a cycle are those before it and the states of AUTO loads. -/
theorem mem_autoPass_store {entry : ConfigurationEntry} (hentry : entry ∈ (state.autoPass clock).store.entries) :
    entry ∈ state.centralLoadConfigurationStore.entries ∨
      ∃ id, IsRuntimeEntry state.plannedRegistry id entry := by
  obtain ⟨step, start, heq, hstore, hkeeps, hstep, hstores⟩ := state.autoPass_eq_storing_foldl clock
  rw [heq] at hentry
  obtain hold | hruntime := hkeeps.foldl_mem hstep hstores _ hentry
  · exact .inl (hstore ▸ hold)
  · exact .inr hruntime

/-- After a cycle every planned AUTO load has an override. -/
theorem autoPass_isSome {load : Load} (hload : load ∈ state.plannedLoads clock) (hauto : load.isAuto = true)
    (hvalid : load.schedule.isValidSchedule = true) :
    ((state.autoPass clock).store.findConfiguration load.id.macAddress load.id.relayPin).isSome := by
  obtain ⟨step, start, heq, -, hkeeps, hstep, hstores⟩ := state.autoPass_eq_storing_foldl clock
  have hplanned := deref_of_mem (state.mem_plannedRegistry_of_mem_plannedLoads clock hload)
  have hcandidate := (state.mem_autoCandidateLoads clock).mpr ⟨load, hload, hauto, rfl⟩
  rw [heq]
  exact hkeeps.foldl_isSome hstep hstores _ hplanned hauto hvalid (.inl hcandidate)

end CentralState

end kilowatts
