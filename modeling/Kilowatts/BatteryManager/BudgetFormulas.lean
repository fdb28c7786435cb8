import Kilowatts.BatteryManager.PowerManager

namespace kilowatts.PowerManager

/-- Less is asked of the second battery, and it has more. Zero hours are no target. -/
structure LessDemanding (first second : PowerManager) : Prop where
  stateOfCharge : first.stateOfChargePercent ≤ second.stateOfChargePercent
  capacity : first.batteryConfiguration.capacityAmpHours ≤ second.batteryConfiguration.capacityAmpHours
  voltage : first.batteryConfiguration.nameplateVoltageVolts ≤ second.batteryConfiguration.nameplateVoltageVolts
  budget : first.powerBudget.P_budget ≤ second.powerBudget.P_budget
  reserve : second.powerBudget.P_reserve ≤ first.powerBudget.P_reserve
  fixed : second.powerBudget.P_fixed ≤ first.powerBudget.P_fixed
  minimum : second.batteryConfiguration.minimumStateOfChargePercent ≤
    first.batteryConfiguration.minimumStateOfChargePercent
  hours : second.remainingRequiredRuntimeHours ≤ first.remainingRequiredRuntimeHours

section Allowance

variable {manager : PowerManager}

/-- Needs capacity and voltage to be positive; the fraction is never negative. -/
theorem usableEnergyWh_nonneg (husable : manager.batteryMetadataUsable = true) : 0 ≤ manager.usableEnergyWh := by
  simp only [batteryMetadataUsable, Bool.and_eq_true, decide_eq_true_eq] at husable
  exact mul_nonneg (mul_nonneg husable.1.le husable.2.le) (le_max_left 0 _)

/-- Nothing is usable at the minimum state of charge. -/
theorem usableEnergyWh_of_le
    (hle : manager.stateOfChargePercent ≤ manager.batteryConfiguration.minimumStateOfChargePercent) :
    manager.usableEnergyWh = 0 := by
  have hfraction : manager.usableSocFraction = 0 := max_eq_left (by linarith)
  rw [usableEnergyWh, hfraction, mul_zero]

/-- The metadata matters only while a runtime is asked for. -/
theorem allowanceBeforeCutoffWatts_nonneg
    (hmetadata : manager.runtimeBudgetActive = true → manager.batteryMetadataUsable = true) :
    0 ≤ manager.allowanceBeforeCutoffWatts := by
  have hreserve : 0 ≤ manager.powerAfterReserveWatts := le_max_left 0 _
  unfold allowanceBeforeCutoffWatts
  split
  · rename_i hactive
    have hhours : 0 < manager.remainingRequiredRuntimeHours := by simpa [runtimeBudgetActive] using hactive
    exact le_min hreserve (div_nonneg (usableEnergyWh_nonneg (hmetadata hactive)) hhours.le)
  · exact hreserve

theorem planningAllowanceWatts_nonneg
    (hmetadata : manager.runtimeBudgetActive = true → manager.batteryMetadataUsable = true) :
    0 ≤ manager.planningAllowanceWatts := by
  unfold planningAllowanceWatts
  split
  · exact le_refl 0
  · exact allowanceBeforeCutoffWatts_nonneg hmetadata

/-- With a target the cut-off takes nothing away that the usable energy still allows. -/
theorem planningAllowanceWatts_of_active (hactive : manager.runtimeBudgetActive = true) :
    manager.planningAllowanceWatts = min manager.powerAfterReserveWatts manager.runtimeAllowanceWatts := by
  unfold planningAllowanceWatts allowanceBeforeCutoffWatts
  rw [if_pos hactive]
  split
  · rename_i hexhausted
    simp only [stateOfChargeExhausted, Bool.and_eq_true, decide_eq_true_eq] at hexhausted
    rw [runtimeAllowanceWatts, usableEnergyWh_of_le hexhausted.2, zero_div]
    exact (min_eq_right (le_max_left 0 _)).symm
  · rfl

end Allowance

section Monotone

variable {first second : PowerManager}

/-- More budget or less reserve leaves more. -/
theorem LessDemanding.powerAfterReserveWatts_le (hless : LessDemanding first second) :
    first.powerAfterReserveWatts ≤ second.powerAfterReserveWatts :=
  max_le_max_left 0 (sub_le_sub hless.budget hless.reserve)

/-- A larger battery, or a fuller one, has more to give. -/
theorem LessDemanding.usableEnergyWh_le (hless : LessDemanding first second)
    (husable : first.batteryMetadataUsable = true) : first.usableEnergyWh ≤ second.usableEnergyWh := by
  simp only [batteryMetadataUsable, Bool.and_eq_true, decide_eq_true_eq] at husable
  have hfraction : first.usableSocFraction ≤ second.usableSocFraction := by
    refine max_le_max_left 0 (div_le_div_of_nonneg_right ?_ (by norm_num))
    exact sub_le_sub hless.stateOfCharge hless.minimum
  have hcharge : first.batteryConfiguration.capacityAmpHours * first.batteryConfiguration.nameplateVoltageVolts ≤
      second.batteryConfiguration.capacityAmpHours * second.batteryConfiguration.nameplateVoltageVolts :=
    mul_le_mul hless.capacity hless.voltage husable.2.le (husable.1.le.trans hless.capacity)
  have hnonneg : 0 ≤ first.batteryConfiguration.capacityAmpHours * first.batteryConfiguration.nameplateVoltageVolts :=
    mul_nonneg husable.1.le husable.2.le
  exact mul_le_mul hcharge hfraction (le_max_left 0 _) (hnonneg.trans hcharge)

/-- Dropping the target, or shortening it, never lowers the allowance. -/
theorem LessDemanding.allowanceBeforeCutoffWatts_le (hless : LessDemanding first second)
    (hmetadata : first.runtimeBudgetActive = true → first.batteryMetadataUsable = true) :
    first.allowanceBeforeCutoffWatts ≤ second.allowanceBeforeCutoffWatts := by
  have hreserve := hless.powerAfterReserveWatts_le
  unfold allowanceBeforeCutoffWatts
  cases hsecond : second.runtimeBudgetActive with
  | false =>
    simp only [Bool.false_eq_true, if_false]
    split
    · exact (min_le_left _ _).trans hreserve
    · exact hreserve
  | true =>
    have hhours : 0 < second.remainingRequiredRuntimeHours := by simpa [runtimeBudgetActive] using hsecond
    have hactive : first.runtimeBudgetActive = true := decide_eq_true (hhours.trans_le hless.hours)
    have husable := hmetadata hactive
    have henergy := hless.usableEnergyWh_le husable
    rw [hactive, if_pos rfl, if_pos rfl]
    refine min_le_min hreserve ?_
    exact div_le_div₀ ((usableEnergyWh_nonneg husable).trans henergy) henergy hhours hless.hours

/-- The allowance is monotone wherever both sides know their batteries. The first needs a valid state of
charge, as an unknown one does not count as exhausted. -/
theorem LessDemanding.planningAllowanceWatts_le (hless : LessDemanding first second)
    (hvalid : first.isStateOfChargeValid = true)
    (hfirst : first.runtimeBudgetActive = true → first.batteryMetadataUsable = true)
    (hsecond : second.runtimeBudgetActive = true → second.batteryMetadataUsable = true) :
    first.planningAllowanceWatts ≤ second.planningAllowanceWatts := by
  by_cases hexhausted : first.stateOfChargeExhausted = true
  · rw [planningAllowanceWatts, if_pos hexhausted]
    exact planningAllowanceWatts_nonneg hsecond
  · have hcharged : second.stateOfChargeExhausted = false := by
      simp only [stateOfChargeExhausted, hvalid, Bool.true_and, decide_eq_true_eq, not_le] at hexhausted
      have habove := (hless.minimum.trans_lt hexhausted).trans_le hless.stateOfCharge
      rw [stateOfChargeExhausted, decide_eq_false (not_le.mpr habove), Bool.and_false]
    rw [planningAllowanceWatts, planningAllowanceWatts, if_neg hexhausted, hcharged, if_neg (by decide)]
    exact hless.allowanceBeforeCutoffWatts_le hfirst

/-- A battery that has more, and of which less is asked, offers AUTO loads no less. Needs that both updates
succeed and that the state of charge of the first is valid. -/
theorem P_auto_available_mono (hless : LessDemanding first second) (hfirst : first.updatePowerBudget.2 = true)
    (hsecond : second.updatePowerBudget.2 = true) (hvalid : first.isStateOfChargeValid = true) :
    first.updatePowerBudget.1.powerBudget.P_auto_available ≤
      second.updatePowerBudget.1.powerBudget.P_auto_available := by
  obtain ⟨-, -, hfirstMetadata, -, hfirstResult⟩ := updatePowerBudget_of_success hfirst
  obtain ⟨-, -, hsecondMetadata, -, hsecondResult⟩ := updatePowerBudget_of_success hsecond
  have hallowance := hless.planningAllowanceWatts_le hvalid hfirstMetadata hsecondMetadata
  rw [hfirstResult, hsecondResult]
  exact max_le_max_left 0 (sub_le_sub hallowance hless.fixed)

/-- A battery at half its charge, with or without a target. -/
def halfCharged (remainingRequiredRuntimeHours P_fixed : Rat) : PowerManager where
  batteryConfiguration := ⟨12, 100, 20⟩
  measurements := ⟨12, 5, 60⟩
  stateOfChargePercent := 50
  stateOfChargeSource := .INITIAL
  stateOfChargeInitialized := true
  powerBudget := { PowerBudget.zero with P_budget := 100, P_reserve := 20, P_fixed }
  remainingRequiredRuntimeHours

/-- Six hours leave 10 watts, and no target leaves 30. -/
theorem P_auto_available_mono_halfCharged :
    (halfCharged 6 50).updatePowerBudget.1.powerBudget.P_auto_available ≤
      (halfCharged 0 50).updatePowerBudget.1.powerBudget.P_auto_available := by
  have hless : LessDemanding (halfCharged 6 50) (halfCharged 0 50) :=
    ⟨by decide, by decide, by decide, by decide, by decide, by decide, by decide, by decide⟩
  exact P_auto_available_mono hless (by decide +kernel) (by decide +kernel) (by decide +kernel)

end Monotone

section Formulas

/-- `E_usable` of the manuals. -/
def E_usable (manager : PowerManager) : Rat :=
  manager.batteryConfiguration.capacityAmpHours * manager.batteryConfiguration.nameplateVoltageVolts *
    max 0 (manager.stateOfChargePercent - manager.batteryConfiguration.minimumStateOfChargePercent) / 100

variable {manager : PowerManager}

theorem usableEnergyWh_eq_E_usable (manager : PowerManager) : manager.usableEnergyWh = manager.E_usable := by
  rw [usableEnergyWh_eq, E_usable, mul_div_assoc]

/-- The verdict at the minimum state of charge is that of the allowance, which is zero there. -/
theorem requiredRuntimeAchievable_iff (hinputs : manager.budgetInputsValid = true)
    (hactive : manager.runtimeBudgetActive = true) :
    manager.requiredRuntimeAchievable = true ↔
      manager.powerBudget.P_fixed ≤ min manager.powerAfterReserveWatts manager.runtimeAllowanceWatts := by
  simp only [budgetInputsValid, Bool.and_eq_true, decide_eq_true_eq] at hinputs
  have hfixed : 0 ≤ manager.powerBudget.P_fixed := hinputs.1.1.1.2
  unfold requiredRuntimeAchievable allowanceBeforeCutoffWatts
  rw [hactive, if_pos rfl, if_pos rfl, Bool.and_true]
  split
  · rename_i hexhausted
    simp only [stateOfChargeExhausted, Bool.and_eq_true, decide_eq_true_eq] at hexhausted
    refine iff_of_false (by decide) fun hcovered => ?_
    have hzero : manager.runtimeAllowanceWatts = 0 := by
      rw [runtimeAllowanceWatts, usableEnergyWh_of_le hexhausted.1.2, zero_div]
    exact absurd (hcovered.trans (min_le_right _ _)) (not_le.mpr (hzero ▸ hexhausted.2))
  · rw [decide_eq_true_eq]

/-- With a target, the two powers are those of the manuals in every regime. The target counts as achievable
where the usable energy covers the FIXED loads and so does what the reserve leaves of the budget. Needs that
the update succeeds. -/
theorem budget_formulas (hsuccess : manager.updatePowerBudget.2 = true)
    (hhours : 0 < manager.remainingRequiredRuntimeHours) :
    manager.updatePowerBudget.1.powerBudget.P_auto_available =
        max 0 (min (manager.powerBudget.P_budget - manager.powerBudget.P_reserve)
          (manager.E_usable / manager.remainingRequiredRuntimeHours) - manager.powerBudget.P_fixed) ∧
      manager.updatePowerBudget.1.powerBudget.P_remaining =
        max 0 (manager.powerBudget.P_budget - (manager.powerBudget.P_fixed + manager.powerBudget.P_auto)) ∧
      (manager.updatePowerBudget.1.powerBudget.requiredRuntimeAchievable = true ↔
        manager.powerBudget.P_fixed * manager.remainingRequiredRuntimeHours ≤ manager.E_usable ∧
          manager.powerBudget.P_fixed ≤ manager.powerBudget.P_budget - manager.powerBudget.P_reserve) := by
  obtain ⟨hinputs, -, -, -, hresult⟩ := updatePowerBudget_of_success hsuccess
  have hactive : manager.runtimeBudgetActive = true := decide_eq_true hhours
  have hafter : manager.powerAfterReserveWatts = manager.powerBudget.P_budget - manager.powerBudget.P_reserve := by
    simp only [budgetInputsValid, Bool.and_eq_true, decide_eq_true_eq] at hinputs
    exact max_eq_right (sub_nonneg.mpr hinputs.1.2)
  have hruntime : manager.runtimeAllowanceWatts = manager.E_usable / manager.remainingRequiredRuntimeHours := by
    rw [runtimeAllowanceWatts, usableEnergyWh_eq_E_usable]
  rw [hresult]
  refine ⟨?_, rfl, ?_⟩
  · show max 0 (manager.planningAllowanceWatts - manager.powerBudget.P_fixed) = _
    rw [planningAllowanceWatts_of_active hactive, hafter, hruntime]
  · show manager.requiredRuntimeAchievable = true ↔ _
    rw [requiredRuntimeAchievable_iff hinputs hactive, hafter, hruntime, le_min_iff, le_div_iff₀ hhours]
    exact and_comm

/-- Four hours at 50 watts. -/
theorem budget_formulas_halfCharged :
    (halfCharged 4 50).updatePowerBudget.1.powerBudget.requiredRuntimeAchievable = true ↔
      (halfCharged 4 50).powerBudget.P_fixed * (halfCharged 4 50).remainingRequiredRuntimeHours ≤
          (halfCharged 4 50).E_usable ∧
        (halfCharged 4 50).powerBudget.P_fixed ≤
          (halfCharged 4 50).powerBudget.P_budget - (halfCharged 4 50).powerBudget.P_reserve :=
  (budget_formulas (by decide +kernel) (by decide +kernel)).2.2

/-- The battery lasts for an hour at 90 watts, which is more than the reserve leaves. -/
theorem covered_runtime_not_achievable :
    (halfCharged 1 90).updatePowerBudget.2 = true ∧ (halfCharged 1 90).isStateOfChargeValid = true ∧
      (halfCharged 1 90).powerBudget.P_fixed * (halfCharged 1 90).remainingRequiredRuntimeHours ≤
        (halfCharged 1 90).E_usable ∧
      (halfCharged 1 90).updatePowerBudget.1.powerBudget.requiredRuntimeAchievable = false := by
  decide +kernel

end Formulas

end kilowatts.PowerManager
