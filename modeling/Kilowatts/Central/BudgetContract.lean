import Kilowatts.Central.PlannedLoads

namespace kilowatts

namespace Central

/-- A chain succeeds when its last operand does, after the operands before it. -/
theorem andAlso_eq_success_iff {result : PowerManager × Bool} {next : PowerManager → PowerManager × Bool}
    {after : PowerManager} :
    andAlso result next = (after, true) ↔ ∃ before, result = (before, true) ∧ next before = (after, true) := by
  obtain ⟨before, success⟩ := result
  cases success with
  | false => simp [andAlso]
  | true => simp [andAlso]

end Central

namespace PowerManager

/-- The manager as the five setters leave it in front of the first update. -/
def prepared (manager : PowerManager) (planning : PowerPlanningConfiguration) (P_fixed hours : Rat) : PowerManager :=
  { manager with
    powerBudget := { manager.powerBudget with
      P_budget := planning.P_budget
      P_reserve := planning.P_reserve
      P_fixed := P_fixed
      P_auto := 0 }
    remainingRequiredRuntimeHours := hours }

/-- A setter that succeeds has passed its guard. -/
theorem eq_of_guarded_success {guard : Prop} [Decidable guard] {manager changed after : PowerManager}
    (hsuccess : (if guard then (changed, true) else (manager, false)) = (after, true)) : after = changed := by
  split at hsuccess
  · exact (Prod.mk.inj hsuccess).1.symm
  · exact nomatch (Prod.mk.inj hsuccess).2

end PowerManager

namespace CentralState

open Central

variable (state : CentralState) (clock : CycleClock)

/-- The battery monitor in front of the first update, once every guard passed. -/
def preparedMonitor : PowerManager :=
  state.batteryMonitor.prepared state.configuration.powerPlanning (state.fixedPowerWatts clock)
    (state.remainingRequiredRuntime clock).1

/-- A first update that succeeds is the update of the prepared monitor. -/
theorem firstBudgetUpdate_of_success (hsuccess : (state.firstBudgetUpdate clock).2 = true) :
    (state.preparedMonitor clock).updatePowerBudget.2 = true ∧
      state.firstBudgetUpdate clock = (state.preparedMonitor clock).updatePowerBudget := by
  have hpair : state.firstBudgetUpdate clock = ((state.firstBudgetUpdate clock).1, true) := Prod.ext rfl hsuccess
  unfold firstBudgetUpdate at hpair
  obtain ⟨withHours, hhours, hupdate⟩ := andAlso_eq_success_iff.mp hpair
  obtain ⟨withAuto, hauto, hhours⟩ := andAlso_eq_success_iff.mp hhours
  obtain ⟨withFixed, hfixed, hauto⟩ := andAlso_eq_success_iff.mp hauto
  obtain ⟨withReserve, hreserve, hfixed⟩ := andAlso_eq_success_iff.mp hfixed
  obtain ⟨withBudget, hbudget, hreserve⟩ := andAlso_eq_success_iff.mp hreserve
  obtain ⟨before, hbefore, hbudget⟩ := andAlso_eq_success_iff.mp hbudget
  obtain ⟨rfl, -⟩ := Prod.mk.inj hbefore
  obtain rfl := PowerManager.eq_of_guarded_success hbudget
  obtain rfl := PowerManager.eq_of_guarded_success hreserve
  obtain rfl := PowerManager.eq_of_guarded_success hfixed
  obtain rfl := PowerManager.eq_of_guarded_success hauto
  obtain rfl := PowerManager.eq_of_guarded_success hhours
  have hprepared : state.firstBudgetUpdate clock = (state.preparedMonitor clock).updatePowerBudget :=
    (Prod.ext rfl hsuccess : state.firstBudgetUpdate clock = (_, true)).trans hupdate.symm
  exact ⟨hprepared ▸ hsuccess, hprepared⟩

/-- The second update never fails, and differs from the first one in the AUTO
power and the remaining power only. -/
theorem secondBudgetUpdate_of_success (hsuccess : (state.firstBudgetUpdate clock).2 = true) :
    state.secondBudgetUpdate clock =
      ({ (state.firstBudgetUpdate clock).1 with
          powerBudget := { (state.firstBudgetUpdate clock).1.powerBudget with
            P_auto := (state.autoPass clock).P_auto
            P_remaining := max 0 (state.configuration.powerPlanning.P_budget -
              (state.fixedPowerWatts clock + (state.autoPass clock).P_auto)) } }, true) := by
  obtain ⟨hprepared, hfirst⟩ := state.firstBudgetUpdate_of_success clock hsuccess
  obtain ⟨entered, hentered, hupdate⟩ :=
    PowerManager.setAutoPowerWatts_updatePowerBudget hprepared (state.autoPass_P_auto_nonneg clock hsuccess)
  rw [secondBudgetUpdate, if_pos hsuccess, hfirst, hentered]
  exact hupdate

/-- The loop over the planned loads adds up those that are always ON. -/
theorem fixedPowerWatts_eq :
    state.fixedPowerWatts clock =
      (((state.plannedLoads clock).filter (·.mode = .FIXED_ON)).map Load.powerRatingWatts).sum := by
  have hratings : ratingOf (state.preparedRegistry clock) = ratingOf state.plannedRegistry :=
    funext (state.ratingOf_preparedRegistry clock)
  rw [fixedPowerWatts, sumFixedOnPowerWatts_eq, hratings, loadFilter, buildLoadFilter_eq, List.map_map]
  congr 1
  apply List.map_congr_left
  intro load hload
  have hmem := state.mem_plannedRegistry_of_mem_plannedLoads clock (List.mem_filter.mp hload).1
  simp only [Function.comp, ratingOf, deref_of_mem hmem]

/-- What the AUTO pass takes is the sum of the ratings that the search was asked about. -/
theorem autoPass_P_auto_eq (hsuccess : (state.firstBudgetUpdate clock).2 = true) :
    (state.autoPass clock).P_auto =
      ((state.selectedAutoLoads clock).map (ratingOf state.plannedRegistry)).sum := by
  have hratings : (state.search clock).powerRatingOf = ratingOf state.plannedRegistry :=
    funext (state.search_powerRatingOf clock)
  rw [state.autoPass_P_auto clock hsuccess, BestFirstSearch.calculateTotalPowerWatts, hratings,
    List.sum_eq_foldl, List.foldl_map]

/-- The selection fits into the power that the first update offers. -/
theorem autoPass_P_auto_le (hsuccess : (state.firstBudgetUpdate clock).2 = true) :
    (state.autoPass clock).P_auto ≤ (state.firstBudgetUpdate clock).1.powerBudget.P_auto_available := by
  obtain ⟨hprepared, hfirst⟩ := state.firstBudgetUpdate_of_success clock hsuccess
  have havailable : 0 ≤ (state.search clock).availablePowerWatts := by
    change 0 ≤ (state.firstBudgetUpdate clock).1.powerBudget.P_auto_available
    rw [hfirst, (PowerManager.updatePowerBudget_of_success hprepared).2.2.2.2]
    exact le_max_left 0 _
  rw [state.autoPass_P_auto clock hsuccess, selectedAutoLoads, if_pos hsuccess]
  exact (state.search clock).getBestCombination_feasible havailable

/-- The budget contract of a cycle whose first update succeeds: then the second
one does too. `usableEnergy` is what the battery may give away above the minimum
state of charge. The budget and the reserve are those of the plan, and the hours are what is
left of its runtime. No property of the loads, the overrides or the clocks is assumed. -/
theorem runOptimizationCycle_budget (hfirst : (state.firstBudgetUpdate clock).2 = true) :
    let result := state.runOptimizationCycle clock
    let budget := result.state.latestPlanningSnapshot.budget
    let monitor := result.state.batteryMonitor
    let battery := monitor.batteryConfiguration
    let hours := monitor.remainingRequiredRuntimeHours
    let usableEnergy := battery.capacityAmpHours * battery.nameplateVoltageVolts *
      (max 0 (monitor.stateOfChargePercent - battery.minimumStateOfChargePercent) / 100)
    -- what the two powers are
    budget.P_fixed = (((state.plannedLoads clock).filter (·.mode = .FIXED_ON)).map Load.powerRatingWatts).sum ∧
    budget.P_auto = (result.selectedAutoLoads.map (ratingOf state.plannedRegistry)).sum ∧
    -- the selection fits
    budget.P_auto ≤ budget.P_auto_available ∧
    -- the reserve and the runtime target are kept
    (budget.P_fixed ≤ budget.P_budget - budget.P_reserve →
      (budget.runtimeBudgetActive = true → budget.P_fixed ≤ usableEnergy / hours) →
      budget.P_fixed + budget.P_auto ≤ budget.P_budget - budget.P_reserve ∧
      (budget.runtimeBudgetActive = true → (budget.P_fixed + budget.P_auto) * hours ≤ usableEnergy)) ∧
    -- nothing is selected once the allowance is used up
    (budget.P_budget - budget.P_reserve < budget.P_fixed ∨
        (budget.runtimeBudgetActive = true ∧ usableEnergy / hours < budget.P_fixed) ∨
        (monitor.isStateOfChargeValid = true ∧
          monitor.stateOfChargePercent ≤ battery.minimumStateOfChargePercent) →
      (result.selectedAutoLoads.map (ratingOf state.plannedRegistry)).sum = 0) ∧
    -- the second update
    result.state.latestPlanningSnapshot.budgetValid = true ∧
    (state.secondBudgetUpdate clock).2 = true ∧
    budget.P_auto_available = (state.firstBudgetUpdate clock).1.powerBudget.P_auto_available ∧
    -- what the cycle plans with
    budget.P_budget = state.configuration.powerPlanning.P_budget ∧
    budget.P_reserve = state.configuration.powerPlanning.P_reserve ∧
    hours = (state.remainingRequiredRuntime clock).1 ∧
    battery = state.batteryMonitor.batteryConfiguration ∧
    monitor.stateOfChargePercent = state.batteryMonitor.stateOfChargePercent := by
  obtain ⟨hprepared, hfirstEq⟩ := state.firstBudgetUpdate_of_success clock hfirst
  obtain ⟨hinputs, -, hmetadata, -, hresult⟩ := PowerManager.updatePowerBudget_of_success hprepared
  have hsecond := state.secondBudgetUpdate_of_success clock hfirst
  have hle := state.autoPass_P_auto_le clock hfirst
  have hnonneg := state.autoPass_P_auto_nonneg clock hfirst
  have hautoEq := state.autoPass_P_auto_eq clock hfirst
  rw [hfirstEq, hresult] at hsecond hle
  have hsnapshot : (state.planningSnapshot clock).budget = (state.secondBudgetUpdate clock).1.powerBudget := by
    simp [planningSnapshot, hsecond]
  have hmonitor := PowerManager.usableEnergyWh_eq (state.preparedMonitor clock)
  simp only [runOptimizationCycle, hsnapshot, hsecond]
  refine ⟨state.fixedPowerWatts_eq clock, hautoEq, hle, ?_, ?_, ?_, trivial, ?_, rfl, rfl, rfl, rfl, rfl⟩
  · rw [← hmonitor]
    exact PowerManager.fixed_add_auto_le hinputs hmetadata hle
  · rw [← hmonitor, ← hautoEq]
    intro hexhausted
    refine PowerManager.auto_eq_zero_of_exhausted hinputs hmetadata hle hnonneg (hexhausted.imp_right (Or.imp_right ?_))
    intro ⟨hvalid, hminimum⟩
    rw [PowerManager.stateOfChargeExhausted, Bool.and_eq_true, decide_eq_true_iff]
    exact ⟨hvalid, hminimum⟩
  · rw [planningSnapshot, hsecond]
  · rw [hfirstEq, hresult]

/-- A Central Node with a 30 W FIXED_ON load and AUTO loads of 60 W and 80 W,
150 W planned with a reserve of 20 W, and a runtime target of two hours. -/
def threeLoadPlant : CentralState where
  registry :=
    { planningNodes := [{
        node := {
          macAddress := Vector.replicate 6 1
          loads := [
            .make ⟨Vector.replicate 6 1, 4⟩ [70] (.finite 30) 1 .AC .FIXED_ON,
            .make ⟨Vector.replicate 6 1, 5⟩ [65] (.finite 60) 3 .AC .AUTO_OFF,
            .make ⟨Vector.replicate 6 1, 12⟩ [66] (.finite 80) 7 .DC .AUTO_OFF]
          loads_mac := by decide +kernel
          pins_nodup := by decide +kernel }
        nodeName := [67]
        nextHopToCentralMacAddress := Vector.replicate 6 1
        hopCountToCentral := 0
        isCentralNode := true
        lastSeenMilliseconds := 0
        pendingReport := .none }]
      macs_nodup := by decide +kernel }
  commissioningRegistry := ⟨[]⟩
  centralLoadConfigurationStore := ⟨[]⟩
  batteryMonitor :=
    { batteryConfiguration := ⟨12, 100, 20⟩
      measurements := ⟨12, 5, 60⟩
      stateOfChargePercent := 80
      stateOfChargeSource := .INITIAL
      stateOfChargeInitialized := true
      powerBudget := .zero
      remainingRequiredRuntimeHours := 0 }
  configuration :=
    { batterySensor := ⟨true, true, 1 / 10, 3, 1 / 2, 100, 80, 12⟩
      powerPlanning := ⟨true, 150, 20, 20, 2⟩ }
  runtimeTargetReference := ⟨0, 0, false⟩
  latestPlanningSnapshot := ⟨false, .zero, 0, 0, 0, 0⟩
  lastOptimizationEpochSeconds := 0

/-- All readings of a cycle fall on noon. -/
def noonClock : CycleClock where
  nowMilliseconds := 1000
  currentTimeValid := true
  epochSeconds := 1000
  currentTimeProvider := fun _ _ => ⟨some 12, some 0⟩
  finishedTimeValid := true
  finishedEpochSeconds := 1000

theorem runOptimizationCycle_budget_threeLoadPlant :
    let snapshot := (threeLoadPlant.runOptimizationCycle noonClock).state.latestPlanningSnapshot
    snapshot.budgetValid = true ∧ snapshot.budget.P_auto ≤ snapshot.budget.P_auto_available ∧
      snapshot.budget.P_auto_available = (threeLoadPlant.firstBudgetUpdate noonClock).1.powerBudget.P_auto_available ∧
      snapshot.budget.P_budget = 150 ∧ snapshot.budget.P_reserve = 20 := by
  have hcontract := runOptimizationCycle_budget threeLoadPlant noonClock (by decide +kernel)
  obtain ⟨-, -, hfits, -, -, hvalid, -, hsame, hbudget, hreserve, -⟩ := hcontract
  exact ⟨hvalid, hfits, hsame, hbudget, hreserve⟩

end CentralState

end kilowatts
