import Kilowatts.BestFirstSearch.Optimality
import Kilowatts.Central.PlanningCycle

namespace kilowatts

namespace Central

/-- The loads of the planned Nodes, in registry order. -/
def plannedLoads (registry : CentralNodeRegistry) (commissioningRegistry : NodeCommissioningRegistry)
    (nowMilliseconds : UInt32) : List Load :=
  (registry.planningNodes.filter (isPlanned commissioningRegistry nowMilliseconds)).flatMap (·.node.loads)

/-- The loads of the Nodes that are online and commissioned, and those of Central. -/
theorem mem_plannedLoads {registry : CentralNodeRegistry} {commissioningRegistry : NodeCommissioningRegistry}
    {nowMilliseconds : UInt32} {load : Load} :
    load ∈ plannedLoads registry commissioningRegistry nowMilliseconds ↔
      ∃ planningNode ∈ registry.planningNodes,
        isPlanned commissioningRegistry nowMilliseconds planningNode = true ∧ load ∈ planningNode.node.loads := by
  simp [plannedLoads, List.mem_flatMap, and_assoc]

theorem plannedLoads_sublist (registry : CentralNodeRegistry) (commissioningRegistry : NodeCommissioningRegistry)
    (nowMilliseconds : UInt32) :
    (plannedLoads registry commissioningRegistry nowMilliseconds).Sublist registry.loads :=
  List.filter_sublist.flatMap _

/-- No load is planned twice, as the registry has none twice. -/
theorem plannedLoads_ids_nodup (registry : CentralNodeRegistry) (commissioningRegistry : NodeCommissioningRegistry)
    (nowMilliseconds : UInt32) :
    ((plannedLoads registry commissioningRegistry nowMilliseconds).map Load.id).Nodup :=
  ((plannedLoads_sublist registry commissioningRegistry nowMilliseconds).map _).nodup registry.ids_nodup

/-- The loops of `buildLoadFilter` sort the planned loads by mode. -/
theorem buildLoadFilter_eq (registry : CentralNodeRegistry) (commissioningRegistry : NodeCommissioningRegistry)
    (nowMilliseconds : UInt32) :
    buildLoadFilter registry commissioningRegistry nowMilliseconds =
      { fixedOnLoads :=
          ((plannedLoads registry commissioningRegistry nowMilliseconds).filter (·.mode = .FIXED_ON)).map Load.id
        fixedOffLoads :=
          ((plannedLoads registry commissioningRegistry nowMilliseconds).filter (·.mode = .FIXED_OFF)).map Load.id
        autoCandidateLoads :=
          ((plannedLoads registry commissioningRegistry nowMilliseconds).filter (·.isAuto)).map Load.id } := by
  have hinner : ∀ (loads : List Load) (filter : LoadFilter Load.Id),
      loads.foldl (fun filter load => (filter.addLoad load.id load).1) filter =
        { fixedOnLoads := filter.fixedOnLoads ++ (loads.filter (·.mode = .FIXED_ON)).map Load.id
          fixedOffLoads := filter.fixedOffLoads ++ (loads.filter (·.mode = .FIXED_OFF)).map Load.id
          autoCandidateLoads := filter.autoCandidateLoads ++ (loads.filter (·.isAuto)).map Load.id } := by
    intro loads filter
    have hpairs := LoadFilter.foldl_addLoad (loads.map fun load => (load.id, load)) filter
    rw [List.foldl_map] at hpairs
    simpa [List.filter_map, Function.comp_def] using hpairs
  have houter : ∀ (planningNodes : List PlanningNode) (filter : LoadFilter Load.Id),
      planningNodes.foldl (fun filter planningNode =>
          if !isPlanned commissioningRegistry nowMilliseconds planningNode then filter
          else planningNode.node.loads.foldl (fun filter load => (filter.addLoad load.id load).1) filter) filter =
        ((planningNodes.filter (isPlanned commissioningRegistry nowMilliseconds)).flatMap (·.node.loads)).foldl
          (fun filter load => (filter.addLoad load.id load).1) filter := by
    intro planningNodes
    induction planningNodes with
    | nil => intro filter; rfl
    | cons planningNode planningNodes ih =>
      intro filter
      rw [List.foldl_cons, ih]
      cases hplanned : isPlanned commissioningRegistry nowMilliseconds planningNode with
      | false => simp [hplanned]
      | true => simp [hplanned]
  unfold buildLoadFilter
  rw [houter, hinner]
  simp [LoadFilter.reset, plannedLoads]

/-- A pointer leads to the load with its id. -/
theorem deref_eq_some_iff {registry : CentralNodeRegistry} {pointer : Load.Id} {load : Load} :
    deref registry pointer = some load ↔ load ∈ registry.loads ∧ load.id = pointer :=
  CentralNodeRegistry.findLoad_eq_some_iff

/-- An update of all loads is seen through every pointer. -/
theorem deref_mapLoads (registry : CentralNodeRegistry) (update : LoadUpdate) (pointer : Load.Id) :
    deref (registry.mapLoads update) pointer = (deref registry pointer).map update.apply :=
  registry.mapLoads_findLoad update pointer

theorem deref_of_mem {registry : CentralNodeRegistry} {load : Load} (hload : load ∈ registry.loads) :
    deref registry load.id = some load :=
  deref_eq_some_iff.mpr ⟨hload, rfl⟩

/-- Applying the stored overrides changes every load on its own. -/
theorem applyStoredLoadSettings_eq (store : LoadConfigurationStore) (registry : CentralNodeRegistry) :
    applyStoredLoadSettings store registry = registry.mapLoads (storedSettingsUpdate store) := by
  refine (CentralNodeRegistry.foldl_updateLoad _ registry.ids_nodup (fun _ => storedSettingsUpdate store)
    registry).trans ?_
  exact CentralNodeRegistry.mapLoads_congr fun load hload => if_pos (List.mem_map_of_mem hload)

/-- An update through a pointer that does not point to a load does nothing. -/
theorem updateAt_of_deref_eq_none {registry : CentralNodeRegistry} {pointer : Load.Id}
    (hnone : deref registry pointer = none) (update : LoadUpdate) : updateAt registry pointer update = registry := by
  refine (registry.updateLoad_eq_mapLoads pointer update).trans ?_
  refine CentralNodeRegistry.mapLoads_eq_self fun load hload => if_neg ?_
  rintro rfl
  rw [deref_of_mem hload] at hnone
  cases hnone

/-- The rating read through a pointer, 0 for a pointer to nothing. -/
def ratingOf (registry : CentralNodeRegistry) (pointer : Load.Id) : Rat :=
  match deref registry pointer with
  | none => 0
  | some load => load.powerRatingWatts

/-- No load has a negative rating, and a pointer that leads nowhere counts 0. -/
theorem ratingOf_nonneg (registry : CentralNodeRegistry) (pointer : Load.Id) : 0 ≤ ratingOf registry pointer := by
  unfold ratingOf
  split
  · exact le_refl 0
  · rename_i load _
    exact load.powerRating_nonneg

/-- A cycle never changes a rating. -/
theorem ratingOf_mapLoads {update : LoadUpdate}
    (hrating : ∀ load, (update.apply load).powerRatingWatts = load.powerRatingWatts)
    (registry : CentralNodeRegistry) (pointer : Load.Id) :
    ratingOf (registry.mapLoads update) pointer = ratingOf registry pointer := by
  unfold ratingOf
  rw [deref_mapLoads]
  cases deref registry pointer with
  | none => rfl
  | some load => exact hrating load

/-- The loop of the source as a sum. -/
theorem sumFixedOnPowerWatts_eq (registry : CentralNodeRegistry) (filter : LoadFilter Load.Id) :
    sumFixedOnPowerWatts registry filter = (filter.fixedOnLoads.map (ratingOf registry)).sum := by
  rw [List.sum_eq_foldl, List.foldl_map]
  refine congrArg (fun step => filter.fixedOnLoads.foldl step 0) (funext fun total => funext fun pointer => ?_)
  unfold ratingOf
  cases deref registry pointer with
  | none => exact (add_zero total).symm
  | some load => rfl

/-- What a cycle does to one AUTO load: its rejection reason, then its mode. -/
def autoUpdate (reason : UInt8) (requestedOn : Bool) : LoadUpdate :=
  (rejectionReasonUpdate reason).andThen (autoRuntimeUpdate requestedOn)

@[simp] theorem rejectionReasonUpdate_apply (reason : UInt8) (load : Load) :
    (rejectionReasonUpdate reason).apply load = { load with lastBestFirstRejectionReason := reason } := rfl

/-- Planning never asks for a fixed mode. -/
theorem requestedAutoMode_cases (requestedOn : Bool) :
    requestedAutoMode requestedOn = .AUTO_ON ∨ requestedAutoMode requestedOn = .AUTO_OFF := by
  cases requestedOn
  · exact .inr rfl
  · exact .inl rfl

/-- An AUTO load gets the requested mode and keeps its schedule. -/
theorem autoRuntimeUpdate_apply (requestedOn : Bool) (load : Load) :
    (autoRuntimeUpdate requestedOn).apply load =
      if load.isAuto then { load with mode := requestedAutoMode requestedOn } else load := by
  have hmode : load.setMode (requestedAutoMode requestedOn) = { load with mode := requestedAutoMode requestedOn } := by
    rw [Load.setMode_eq]
    cases requestedOn <;> simp [requestedAutoMode]
  simp only [autoRuntimeUpdate, hmode]
  cases load.isAuto <;> rfl

/-- Only AUTO loads take the mode that is asked for. -/
theorem autoUpdate_apply (reason : UInt8) (requestedOn : Bool) (load : Load) :
    (autoUpdate reason requestedOn).apply load =
      if load.isAuto then
        { load with mode := requestedAutoMode requestedOn, lastBestFirstRejectionReason := reason }
      else { load with lastBestFirstRejectionReason := reason } := by
  simp only [autoUpdate, LoadUpdate.andThen, autoRuntimeUpdate_apply, rejectionReasonUpdate_apply]
  rfl

/-- An update through a pointer is an update of the one load with its id. -/
theorem updateAt_eq_mapLoads (registry : CentralNodeRegistry) (pointer : Load.Id) (update : LoadUpdate) :
    updateAt registry pointer update = registry.mapLoads (update.onlyOn (· = pointer)) :=
  registry.updateLoad_eq_mapLoads pointer update

/-- Two updates through one pointer are one update. -/
theorem updateAt_updateAt (registry : CentralNodeRegistry) (pointer : Load.Id) (first second : LoadUpdate) :
    updateAt (updateAt registry pointer first) pointer second = updateAt registry pointer (first.andThen second) := by
  simp only [updateAt_eq_mapLoads, CentralNodeRegistry.mapLoads_mapLoads]
  apply CentralNodeRegistry.mapLoads_congr
  intro load _
  by_cases hid : load.id = pointer
  · simp [LoadUpdate.andThen, LoadUpdate.onlyOn, hid, first.id_apply]
  · simp [LoadUpdate.andThen, LoadUpdate.onlyOn, hid]

/-- The update that the valid-budget branch runs on the AUTO candidate behind a pointer. -/
def plannedUpdate (selectedAutoLoads : List Load.Id) (pointer : Load.Id) : LoadUpdate :=
  autoUpdate (if selectedAutoLoads.contains pointer then BEST_FIRST_NONE else BEST_FIRST_POWER_BUDGET_EXCEEDED)
    (selectedAutoLoads.contains pointer)

theorem planAutoLoad_registry (selectedAutoLoads : List Load.Id) (pass : AutoPass) (pointer : Load.Id) :
    (planAutoLoad selectedAutoLoads pass pointer).registry =
      updateAt pass.registry pointer (plannedUpdate selectedAutoLoads pointer) := by
  unfold planAutoLoad
  cases hderef : deref pass.registry pointer with
  | none => exact (updateAt_of_deref_eq_none hderef _).symm
  | some load => exact updateAt_updateAt pass.registry pointer _ _

/-- The power adds up what is selected. -/
theorem planAutoLoad_P_auto (selectedAutoLoads : List Load.Id) (pass : AutoPass) (pointer : Load.Id) :
    (planAutoLoad selectedAutoLoads pass pointer).P_auto =
      pass.P_auto + if selectedAutoLoads.contains pointer then ratingOf pass.registry pointer else 0 := by
  unfold planAutoLoad ratingOf
  cases deref pass.registry pointer with
  | none => simp
  | some load =>
    dsimp only
    split
    · rfl
    · exact (add_zero _).symm

theorem switchOffAutoLoad_registry (pass : AutoPass) (pointer : Load.Id) :
    (switchOffAutoLoad pass pointer).registry = updateAt pass.registry pointer (autoRuntimeUpdate false) := by
  unfold switchOffAutoLoad
  cases hderef : deref pass.registry pointer with
  | none => exact (updateAt_of_deref_eq_none hderef _).symm
  | some load => rfl

/-- Planning changes no rating. -/
theorem plannedUpdate_rating (selectedAutoLoads : List Load.Id) (pointer : Load.Id) (load : Load) :
    ((plannedUpdate selectedAutoLoads pointer).apply load).powerRatingWatts = load.powerRatingWatts := by
  rw [plannedUpdate, autoUpdate_apply]
  split <;> rfl

theorem ratingOf_updateAt {update : LoadUpdate}
    (hrating : ∀ load, (update.apply load).powerRatingWatts = load.powerRatingWatts)
    (registry : CentralNodeRegistry) (pointer other : Load.Id) :
    ratingOf (updateAt registry pointer update) other = ratingOf registry other := by
  rw [updateAt_eq_mapLoads]
  apply ratingOf_mapLoads
  intro load
  simp only [LoadUpdate.onlyOn]
  split
  · exact hrating load
  · rfl

/-- Needs distinct pointers, so that no load is updated twice. -/
theorem foldl_planAutoLoad_registry (selectedAutoLoads : List Load.Id) {pointers : List Load.Id}
    (hpointers : pointers.Nodup) (pass : AutoPass) :
    (pointers.foldl (planAutoLoad selectedAutoLoads) pass).registry =
      pass.registry.mapLoads (.each pointers (plannedUpdate selectedAutoLoads)) := by
  rw [← CentralNodeRegistry.foldl_updateLoad pointers hpointers]
  clear hpointers
  induction pointers generalizing pass with
  | nil => rfl
  | cons pointer pointers ih =>
    rw [List.foldl_cons, List.foldl_cons, ih, planAutoLoad_registry]
    rfl

/-- The AUTO power entered into the budget is the rating sum of the selected candidates. -/
theorem foldl_planAutoLoad_P_auto (selectedAutoLoads pointers : List Load.Id) (pass : AutoPass) :
    (pointers.foldl (planAutoLoad selectedAutoLoads) pass).P_auto =
      pass.P_auto + ((pointers.filter (selectedAutoLoads.contains ·)).map (ratingOf pass.registry)).sum := by
  induction pointers generalizing pass with
  | nil => exact (add_zero _).symm
  | cons pointer pointers ih =>
    have hratings : ratingOf (planAutoLoad selectedAutoLoads pass pointer).registry = ratingOf pass.registry := by
      funext other
      rw [planAutoLoad_registry]
      exact ratingOf_updateAt (plannedUpdate_rating selectedAutoLoads pointer) _ _ _
    rw [List.foldl_cons, ih, planAutoLoad_P_auto, hratings, List.filter_cons]
    split
    · rw [List.map_cons, List.sum_cons, add_assoc]
    · rw [add_zero]

/-- The same for the loop that switches everything OFF. -/
theorem foldl_switchOffAutoLoad_registry {pointers : List Load.Id} (hpointers : pointers.Nodup) (pass : AutoPass) :
    (pointers.foldl switchOffAutoLoad pass).registry =
      pass.registry.mapLoads (.each pointers fun _ => autoRuntimeUpdate false) := by
  rw [← CentralNodeRegistry.foldl_updateLoad pointers hpointers]
  clear hpointers
  induction pointers generalizing pass with
  | nil => rfl
  | cons pointer pointers ih =>
    rw [List.foldl_cons, List.foldl_cons, ih, switchOffAutoLoad_registry]
    rfl

end Central

namespace CentralState

open Central

variable (state : CentralState) (clock : CycleClock)

/-- The loads that take part in the cycle, with the overrides applied. -/
def plannedLoads : List Load :=
  Central.plannedLoads state.plannedRegistry state.commissioningRegistry clock.nowMilliseconds

/-- The overrides are applied to all loads at once. -/
theorem plannedRegistry_eq :
    state.plannedRegistry = state.registry.mapLoads (storedSettingsUpdate state.centralLoadConfigurationStore) :=
  applyStoredLoadSettings_eq _ _

theorem mem_plannedRegistry_of_mem_plannedLoads {load : Load} (hload : load ∈ state.plannedLoads clock) :
    load ∈ state.plannedRegistry.loads :=
  (plannedLoads_sublist _ _ _).mem hload

/-- What the filter sorts into the list of FIXED_ON loads. -/
theorem mem_fixedOnLoads {pointer : Load.Id} :
    pointer ∈ (state.loadFilter clock).fixedOnLoads ↔
      ∃ load ∈ state.plannedLoads clock, load.mode = .FIXED_ON ∧ load.id = pointer := by
  rw [loadFilter, buildLoadFilter_eq]
  simp [CentralState.plannedLoads, and_assoc]

theorem mem_fixedOffLoads {pointer : Load.Id} :
    pointer ∈ (state.loadFilter clock).fixedOffLoads ↔
      ∃ load ∈ state.plannedLoads clock, load.mode = .FIXED_OFF ∧ load.id = pointer := by
  rw [loadFilter, buildLoadFilter_eq]
  simp [CentralState.plannedLoads, and_assoc]

/-- Both AUTO modes are candidates. -/
theorem mem_autoCandidateLoads {pointer : Load.Id} :
    pointer ∈ (state.loadFilter clock).autoCandidateLoads ↔
      ∃ load ∈ state.plannedLoads clock, load.isAuto = true ∧ load.id = pointer := by
  rw [loadFilter, buildLoadFilter_eq]
  simp [CentralState.plannedLoads, and_assoc]

theorem autoCandidateLoads_nodup : (state.loadFilter clock).autoCandidateLoads.Nodup := by
  rw [loadFilter, buildLoadFilter_eq]
  exact (List.filter_sublist.map _).nodup (plannedLoads_ids_nodup _ _ _)

theorem fixedOnLoads_nodup : (state.loadFilter clock).fixedOnLoads.Nodup := by
  rw [loadFilter, buildLoadFilter_eq]
  exact (List.filter_sublist.map _).nodup (plannedLoads_ids_nodup _ _ _)

theorem fixedOffLoads_nodup : (state.loadFilter clock).fixedOffLoads.Nodup := by
  rw [loadFilter, buildLoadFilter_eq]
  exact (List.filter_sublist.map _).nodup (plannedLoads_ids_nodup _ _ _)

/-- The reset of the fixed loads' rejection reasons as one update. -/
def fixedReasonsUpdate : LoadUpdate :=
  (LoadUpdate.each (state.loadFilter clock).fixedOnLoads fun _ => rejectionReasonUpdate BEST_FIRST_NONE).andThen
    (.each (state.loadFilter clock).fixedOffLoads fun _ => rejectionReasonUpdate BEST_FIRST_NONE)

theorem preparedRegistry_eq :
    state.preparedRegistry clock = state.plannedRegistry.mapLoads (state.fixedReasonsUpdate clock) := by
  have hon := CentralNodeRegistry.foldl_updateLoad _ (state.fixedOnLoads_nodup clock)
    (fun _ => rejectionReasonUpdate BEST_FIRST_NONE) state.plannedRegistry
  have hoff := CentralNodeRegistry.foldl_updateLoad _ (state.fixedOffLoads_nodup clock)
    (fun _ => rejectionReasonUpdate BEST_FIRST_NONE)
    (state.plannedRegistry.mapLoads
      (.each (state.loadFilter clock).fixedOnLoads fun _ => rejectionReasonUpdate BEST_FIRST_NONE))
  rw [fixedReasonsUpdate, ← CentralNodeRegistry.mapLoads_mapLoads, ← hoff, ← hon]
  rfl

/-- Everything a cycle does to the registry after the overrides. -/
def cycleUpdate : LoadUpdate :=
  (state.fixedReasonsUpdate clock).andThen
    (.each (state.loadFilter clock).autoCandidateLoads (plannedUpdate (state.selectedAutoLoads clock)))

/-- After the loops, every AUTO load has the mode that was planned for it. -/
theorem autoPass_registry :
    (state.autoPass clock).registry = state.plannedRegistry.mapLoads (state.cycleUpdate clock) := by
  rw [cycleUpdate, ← CentralNodeRegistry.mapLoads_mapLoads, ← preparedRegistry_eq]
  unfold autoPass
  split
  · exact foldl_planAutoLoad_registry _ (state.autoCandidateLoads_nodup clock) _
  · rename_i hinvalid
    rw [foldl_switchOffAutoLoad_registry (state.autoCandidateLoads_nodup clock)]
    have hreasons := CentralNodeRegistry.foldl_updateLoad _ (state.autoCandidateLoads_nodup clock)
      (fun _ => rejectionReasonUpdate BEST_FIRST_POWER_BUDGET_EXCEEDED) (state.preparedRegistry clock)
    change (recordAutoRejectionReason (state.loadFilter clock) BEST_FIRST_POWER_BUDGET_EXCEEDED
      (state.preparedRegistry clock)).mapLoads _ = _
    have hselected : state.selectedAutoLoads clock = [] := if_neg hinvalid
    rw [show recordAutoRejectionReason (state.loadFilter clock) BEST_FIRST_POWER_BUDGET_EXCEEDED
      (state.preparedRegistry clock) = _ from hreasons, CentralNodeRegistry.mapLoads_mapLoads, hselected]
    apply CentralNodeRegistry.mapLoads_congr
    intro load _
    by_cases hmem : load.id ∈ (state.loadFilter clock).autoCandidateLoads
    · simp [LoadUpdate.andThen, LoadUpdate.each, hmem, plannedUpdate, autoUpdate]
    · simp [LoadUpdate.andThen, LoadUpdate.each, hmem]

theorem fixedReasonsUpdate_apply (load : Load) :
    ∃ reason, (state.fixedReasonsUpdate clock).apply load = { load with lastBestFirstRejectionReason := reason } := by
  simp only [fixedReasonsUpdate, LoadUpdate.andThen, LoadUpdate.each, rejectionReasonUpdate_apply]
  by_cases hon : load.id ∈ (state.loadFilter clock).fixedOnLoads
  · by_cases hoff : load.id ∈ (state.loadFilter clock).fixedOffLoads
    · exact ⟨BEST_FIRST_NONE, by simp [hon, hoff]⟩
    · exact ⟨BEST_FIRST_NONE, by simp [hon, hoff]⟩
  · by_cases hoff : load.id ∈ (state.loadFilter clock).fixedOffLoads
    · exact ⟨BEST_FIRST_NONE, by simp [hon, hoff]⟩
    · exact ⟨load.lastBestFirstRejectionReason, by simp [hon, hoff]⟩

/-- A cycle changes nothing but the mode of an AUTO candidate and the rejection reason. -/
theorem cycleUpdate_apply (load : Load) :
    ∃ reason, (state.cycleUpdate clock).apply load =
      { load with
        mode :=
          if load.isAuto = true ∧ load.id ∈ (state.loadFilter clock).autoCandidateLoads then
            requestedAutoMode ((state.selectedAutoLoads clock).contains load.id)
          else load.mode
        lastBestFirstRejectionReason := reason } := by
  obtain ⟨reason, hreason⟩ := state.fixedReasonsUpdate_apply clock load
  simp only [cycleUpdate, LoadUpdate.andThen, hreason]
  by_cases hmem : load.id ∈ (state.loadFilter clock).autoCandidateLoads
  · cases hauto : load.isAuto with
    | false =>
      have hauto' : Load.isAuto { load with lastBestFirstRejectionReason := reason } = false := hauto
      exact ⟨_, by simp [LoadUpdate.each, hmem, plannedUpdate, autoUpdate_apply, hauto']; rfl⟩
    | true =>
      have hauto' : Load.isAuto { load with lastBestFirstRejectionReason := reason } = true := hauto
      exact ⟨_, by simp [LoadUpdate.each, hmem, plannedUpdate, autoUpdate_apply, hauto']; rfl⟩
  · exact ⟨reason, by simp [LoadUpdate.each, hmem]⟩

/-- The ratings that the search and the budget sums read are those after the overrides. -/
theorem ratingOf_preparedRegistry (pointer : Load.Id) :
    ratingOf (state.preparedRegistry clock) pointer = ratingOf state.plannedRegistry pointer := by
  rw [preparedRegistry_eq]
  apply ratingOf_mapLoads
  intro load
  obtain ⟨reason, hupdate⟩ := state.fixedReasonsUpdate_apply clock load
  rw [hupdate]

/-- The search sees the ratings of the planned registry. -/
theorem search_powerRatingOf (pointer : Load.Id) :
    (state.search clock).powerRatingOf pointer = ratingOf state.plannedRegistry pointer := by
  rw [← ratingOf_preparedRegistry state clock]
  rfl

/-- The search only selects AUTO candidates of the filter. -/
theorem selectedAutoLoads_spec :
    (state.selectedAutoLoads clock).Nodup ∧
      ∀ pointer ∈ state.selectedAutoLoads clock, pointer ∈ (state.loadFilter clock).autoCandidateLoads := by
  unfold selectedAutoLoads
  split
  · obtain ⟨hnodup, hcandidates⟩ := (state.search clock).getBestCombination_candidates
    refine ⟨hnodup, fun pointer hpointer => ?_⟩
    have hmem := hcandidates (List.mem_toFinset.mpr hpointer)
    rw [BestFirstSearch.candidates, List.mem_toFinset, List.mem_filter] at hmem
    exact hmem.1
  · simp

/-- The AUTO power of a cycle is the total rating of its selection. -/
theorem autoPass_P_auto (hfirst : (state.firstBudgetUpdate clock).2 = true) :
    (state.autoPass clock).P_auto =
      (state.search clock).calculateTotalPowerWatts (state.selectedAutoLoads clock) := by
  obtain ⟨hnodup, hselected⟩ := state.selectedAutoLoads_spec clock
  have hratings : ratingOf (state.autoPassStart (state.preparedRegistry clock)).registry =
      (state.search clock).powerRatingOf := by
    funext pointer
    rw [search_powerRatingOf, ← ratingOf_preparedRegistry state clock]
    rfl
  have hset : ((state.loadFilter clock).autoCandidateLoads.filter
      ((state.selectedAutoLoads clock).contains ·)).toFinset = (state.selectedAutoLoads clock).toFinset := by
    ext pointer
    simp only [List.mem_toFinset, List.mem_filter, List.contains_iff_mem, and_iff_right_iff_imp]
    exact hselected pointer
  rw [autoPass, if_pos hfirst, foldl_planAutoLoad_P_auto, hratings,
    (state.search clock).calculateTotalPowerWatts_eq_sum hnodup, ← hset,
    List.sum_toFinset _ ((state.autoCandidateLoads_nodup clock).filter _)]
  exact zero_add _

/-- A sum of ratings is not negative. -/
theorem autoPass_P_auto_nonneg (hfirst : (state.firstBudgetUpdate clock).2 = true) :
    0 ≤ (state.autoPass clock).P_auto := by
  rw [state.autoPass_P_auto clock hfirst, (state.search clock).calculateTotalPowerWatts_eq_sum
    (state.selectedAutoLoads_spec clock).1]
  exact Finset.sum_nonneg fun pointer _ => (state.search clock).powerRatingOf_nonneg pointer

end CentralState

end kilowatts
