import Kilowatts.Central.BudgetContract

namespace kilowatts

namespace CentralState

open Central

variable (state : CentralState) (clock : CycleClock)

/-- The pointers in the order in which `buildRelayTargets` appends them. -/
def appendedPointers : List Load.Id :=
  (state.loadFilter clock).fixedOffLoads ++ (state.loadFilter clock).autoCandidateLoads ++
    (state.loadFilter clock).fixedOnLoads

/-- The loads that the plan has a target for: all but those with an undeclared mode. -/
theorem mem_appendedPointers {pointer : Load.Id} :
    pointer ∈ state.appendedPointers clock ↔
      ∃ load ∈ state.plannedLoads clock,
        (load.mode = .FIXED_OFF ∨ load.isAuto = true ∨ load.mode = .FIXED_ON) ∧ load.id = pointer := by
  simp only [appendedPointers, List.mem_append, mem_fixedOffLoads, mem_autoCandidateLoads, mem_fixedOnLoads]
  constructor
  · rintro ((⟨load, hload, hmode, hid⟩ | ⟨load, hload, hmode, hid⟩) | ⟨load, hload, hmode, hid⟩)
    · exact ⟨load, hload, .inl hmode, hid⟩
    · exact ⟨load, hload, .inr (.inl hmode), hid⟩
    · exact ⟨load, hload, .inr (.inr hmode), hid⟩
  · rintro ⟨load, hload, hmode | hmode | hmode, hid⟩
    · exact .inl (.inl ⟨load, hload, hmode, hid⟩)
    · exact .inl (.inr ⟨load, hload, hmode, hid⟩)
    · exact .inr ⟨load, hload, hmode, hid⟩

/-- In a registry with distinct loads, the id tells the load. -/
theorem plannedLoads_eq_of_id {first second : Load} (hfirst : first ∈ state.plannedLoads clock)
    (hsecond : second ∈ state.plannedLoads clock) (hid : first.id = second.id) : first = second :=
  List.inj_on_of_nodup_map (plannedLoads_ids_nodup _ _ _) hfirst hsecond hid

/-- The three groups do not overlap, since a load has one mode. -/
theorem appendedPointers_nodup : (state.appendedPointers clock).Nodup := by
  refine List.Nodup.append (List.Nodup.append (state.fixedOffLoads_nodup clock)
    (state.autoCandidateLoads_nodup clock) ?_) (state.fixedOnLoads_nodup clock) ?_
  · intro pointer hoff hauto
    obtain ⟨load, hload, hmode, rfl⟩ := (state.mem_fixedOffLoads clock).mp hoff
    obtain ⟨other, hother, hotherAuto, hid⟩ := (state.mem_autoCandidateLoads clock).mp hauto
    obtain rfl := state.plannedLoads_eq_of_id clock hother hload hid
    simp [Load.isAuto, hmode] at hotherAuto
  · intro pointer hfirst hon
    obtain ⟨load, hload, hmode, rfl⟩ := (state.mem_fixedOnLoads clock).mp hon
    obtain hoff | hauto := List.mem_append.mp hfirst
    · obtain ⟨other, hother, hotherMode, hid⟩ := (state.mem_fixedOffLoads clock).mp hoff
      obtain rfl := state.plannedLoads_eq_of_id clock hother hload hid
      simp [hmode] at hotherMode
    · obtain ⟨other, hother, hotherAuto, hid⟩ := (state.mem_autoCandidateLoads clock).mp hauto
      obtain rfl := state.plannedLoads_eq_of_id clock hother hload hid
      simp [Load.isAuto, hmode] at hotherAuto

/-- After the cycle a pointer reads the load with the update of the cycle. -/
theorem deref_autoPass_registry {load : Load} (hload : load ∈ state.plannedLoads clock) :
    deref (state.autoPass clock).registry load.id = some ((state.cycleUpdate clock).apply load) := by
  rw [autoPass_registry, deref_mapLoads, deref_of_mem (state.mem_plannedRegistry_of_mem_plannedLoads clock hload)]
  rfl

/-- The dispatched list is a rearrangement of the targets of the appended pointers. -/
theorem dispatchOrder_perm :
    (state.runOptimizationCycle clock).dispatchOrder.Perm
      ((state.appendedPointers clock).filterMap fun pointer =>
        (deref (state.autoPass clock).registry pointer).map RelayTarget.ofLoad) :=
  RelayCommandDispatcher.buildDispatchOrder_perm _

/-- Every target is the planned state of a planned load. -/
theorem mem_dispatchOrder {target : RelayTarget} :
    target ∈ (state.runOptimizationCycle clock).dispatchOrder ↔
      ∃ load ∈ state.plannedLoads clock,
        (load.mode = .FIXED_OFF ∨ load.isAuto = true ∨ load.mode = .FIXED_ON) ∧
          target = RelayTarget.ofLoad ((state.cycleUpdate clock).apply load) := by
  rw [(state.dispatchOrder_perm clock).mem_iff, List.mem_filterMap]
  constructor
  · rintro ⟨pointer, hpointer, htarget⟩
    obtain ⟨load, hload, hmode, rfl⟩ := (state.mem_appendedPointers clock).mp hpointer
    rw [state.deref_autoPass_registry clock hload, Option.map_some, Option.some.injEq] at htarget
    exact ⟨load, hload, hmode, htarget.symm⟩
  · rintro ⟨load, hload, hmode, rfl⟩
    refine ⟨load.id, (state.mem_appendedPointers clock).mpr ⟨load, hload, hmode, rfl⟩, ?_⟩
    rw [state.deref_autoPass_registry clock hload]
    rfl

/-- Each load that is dispatched is dispatched once. -/
theorem dispatchOrder_ids_perm :
    ((state.runOptimizationCycle clock).dispatchOrder.map RelayTarget.id).Perm (state.appendedPointers clock) := by
  refine ((state.dispatchOrder_perm clock).map RelayTarget.id).trans (List.Perm.of_eq ?_)
  rw [List.map_filterMap]
  conv_rhs => rw [← List.filterMap_some (l := state.appendedPointers clock)]
  apply List.filterMap_congr
  intro pointer hpointer
  obtain ⟨load, hload, -, rfl⟩ := (state.mem_appendedPointers clock).mp hpointer
  rw [state.deref_autoPass_registry clock hload]
  exact congrArg some ((state.cycleUpdate clock).id_apply load)

/-- No relay is commanded twice by one cycle. -/
theorem dispatchOrder_ids_nodup :
    ((state.runOptimizationCycle clock).dispatchOrder.map RelayTarget.id).Nodup :=
  (state.dispatchOrder_ids_perm clock).nodup_iff.mpr (state.appendedPointers_nodup clock)

/-- What a cycle may change of a load: the ON/OFF half of an AUTO mode and the
rejection reason. -/
structure KeepsConfiguration (before after : Load) : Prop where
  rest : after = { before with
    mode := after.mode, lastBestFirstRejectionReason := after.lastBestFirstRejectionReason }
  mode : after.mode = before.mode ∨ (before.isAuto = true ∧ after.isAuto = true)

/-- A cycle changes modes only between AUTO_ON and AUTO_OFF. -/
theorem keepsConfiguration_cycleUpdate (load : Load) :
    KeepsConfiguration load ((state.cycleUpdate clock).apply load) := by
  obtain ⟨reason, hupdate⟩ := state.cycleUpdate_apply clock load
  rw [hupdate]
  refine ⟨rfl, ?_⟩
  dsimp only
  split
  · rename_i hauto
    refine .inr ⟨hauto.1, ?_⟩
    simpa [Load.isAuto] using requestedAutoMode_cases ((state.selectedAutoLoads clock).contains load.id)
  · exact .inl rfl

/-- Loads with a fixed mode stay as they are. -/
theorem cycleUpdate_isOn_of_not_auto {load : Load} (hauto : load.isAuto = false) :
    ((state.cycleUpdate clock).apply load).isOn = load.isOn := by
  obtain ⟨reason, hupdate⟩ := state.cycleUpdate_apply clock load
  rw [hupdate]
  simp [Load.isOn, hauto]

/-- AUTO loads are ON exactly if the search selected them. -/
theorem cycleUpdate_isOn_of_auto {load : Load} (hload : load ∈ state.plannedLoads clock)
    (hauto : load.isAuto = true) :
    ((state.cycleUpdate clock).apply load).isOn = (state.selectedAutoLoads clock).contains load.id := by
  obtain ⟨reason, hupdate⟩ := state.cycleUpdate_apply clock load
  have hmem := (state.mem_autoCandidateLoads clock).mpr ⟨load, hload, hauto, rfl⟩
  rw [hupdate]
  cases hselected : (state.selectedAutoLoads clock).contains load.id with
  | false => simp [Load.isOn, hauto, hmem, requestedAutoMode]
  | true => simp [Load.isOn, hauto, hmem, requestedAutoMode]

/-- The snapshot shows whether the first update succeeded. -/
theorem budgetValid_iff :
    (state.planningSnapshot clock).budgetValid = true ↔ (state.firstBudgetUpdate clock).2 = true := by
  cases hfirst : (state.firstBudgetUpdate clock).2 with
  | true => simp [planningSnapshot, state.secondBudgetUpdate_of_success clock hfirst]
  | false => simp [planningSnapshot, secondBudgetUpdate, hfirst]

/-- The dispatched order is the plan. Needs declared modes, since no group takes a load with another one;
distinct addresses and pins are part of the registry. -/
theorem dispatchOrder_eq_plan
    (hdeclared : ∀ load ∈ state.plannedRegistry.loads, load.mode.isDeclared = true) :
    let result := state.runOptimizationCycle clock
    -- one target for each load of Central and of the online commissioned Smart Nodes, and no other
    (result.dispatchOrder.map RelayTarget.id).Nodup ∧
    (∀ id, id ∈ result.dispatchOrder.map RelayTarget.id ↔
      ∃ planningNode ∈ state.plannedRegistry.planningNodes,
        (planningNode.isCentralNode = true ∨
          (isNodeOnline planningNode clock.nowMilliseconds = true ∧
            state.commissioningRegistry.isCommissionedSmartNode planningNode.getMacAddress = true)) ∧
        ∃ load ∈ planningNode.node.loads, load.id = id) ∧
    -- the demanded states
    (∀ target ∈ result.dispatchOrder, ∀ load ∈ state.plannedRegistry.loads, load.id = target.id →
      (load.mode = .FIXED_ON → target.desiredOn = true) ∧
      (load.mode = .FIXED_OFF → target.desiredOn = false) ∧
      (load.isAuto = true → (target.desiredOn = true ↔ load.id ∈ result.selectedAutoLoads)) ∧
      (load.isAuto = true → result.state.latestPlanningSnapshot.budgetValid = false → target.desiredOn = false)) ∧
    (result.state.latestPlanningSnapshot.budgetValid = true →
      result.selectedAutoLoads = (state.search clock).getBestCombination) ∧
    -- what the cycle leaves of the loads
    ∃ update : LoadUpdate, result.state.registry = state.plannedRegistry.mapLoads update ∧
      ∀ load, KeepsConfiguration load (update.apply load) := by
  refine ⟨state.dispatchOrder_ids_nodup clock, fun id => ?_, ?_, ?_,
    state.cycleUpdate clock, state.autoPass_registry clock, state.keepsConfiguration_cycleUpdate clock⟩
  · rw [(state.dispatchOrder_ids_perm clock).mem_iff, mem_appendedPointers]
    constructor
    · rintro ⟨load, hload, -, hid⟩
      obtain ⟨planningNode, hnode, hplanned, hload⟩ := mem_plannedLoads.mp hload
      exact ⟨planningNode, hnode, by simpa [isPlanned] using hplanned, load, hload, hid⟩
    · rintro ⟨planningNode, hnode, hplanned, load, hload, hid⟩
      have hmem : load ∈ state.plannedLoads clock :=
        mem_plannedLoads.mpr ⟨planningNode, hnode, by simpa [isPlanned] using hplanned, hload⟩
      have hmode := hdeclared load (state.mem_plannedRegistry_of_mem_plannedLoads clock hmem)
      refine ⟨load, hmem, ?_, hid⟩
      cases hcase : load.mode <;> simp_all [LoadMode.isDeclared, Load.isAuto]
  · intro target htarget load hload hid
    obtain ⟨planned, hplanned, -, rfl⟩ := (state.mem_dispatchOrder clock).mp htarget
    rw [RelayTarget.ofLoad_id, (state.cycleUpdate clock).id_apply] at hid
    obtain rfl : load = planned := List.inj_on_of_nodup_map state.plannedRegistry.ids_nodup hload
      (state.mem_plannedRegistry_of_mem_plannedLoads clock hplanned) hid
    rw [RelayTarget.ofLoad_desiredOn]
    refine ⟨fun hmode => ?_, fun hmode => ?_, fun hauto => ?_, fun hauto hinvalid => ?_⟩
    · rw [state.cycleUpdate_isOn_of_not_auto clock (by simp [Load.isAuto, hmode])]
      simp [Load.isOn, hmode]
    · rw [state.cycleUpdate_isOn_of_not_auto clock (by simp [Load.isAuto, hmode])]
      simp [Load.isOn, hmode]
    · rw [state.cycleUpdate_isOn_of_auto clock hplanned hauto]
      exact List.contains_iff_mem
    · have hfirst : (state.firstBudgetUpdate clock).2 ≠ true := by
        rw [Ne, ← state.budgetValid_iff clock]
        exact Bool.eq_false_iff.mp hinvalid
      rw [state.cycleUpdate_isOn_of_auto clock hplanned hauto, selectedAutoLoads, if_neg hfirst]
      rfl
  · intro hvalid
    exact if_pos ((state.budgetValid_iff clock).mp hvalid)

theorem dispatchOrder_eq_plan_threeLoadPlant :
    ((threeLoadPlant.runOptimizationCycle noonClock).dispatchOrder.map RelayTarget.id).Nodup ∧
      ∀ target ∈ (threeLoadPlant.runOptimizationCycle noonClock).dispatchOrder,
        ∀ load ∈ threeLoadPlant.plannedRegistry.loads, load.id = target.id →
          load.mode = .FIXED_ON → target.desiredOn = true := by
  have hplan := dispatchOrder_eq_plan threeLoadPlant noonClock (by decide +kernel)
  exact ⟨hplan.1, fun target htarget load hload hid => (hplan.2.2.1 target htarget load hload hid).1⟩

end CentralState

end kilowatts
