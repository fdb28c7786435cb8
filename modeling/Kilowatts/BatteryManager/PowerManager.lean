import Kilowatts.Library.BinaryFloat
import Mathlib.Algebra.Order.Field.Basic
import Mathlib.Algebra.Order.Field.Rat
import Mathlib.Data.Rat.Defs
import Mathlib.Tactic.Linarith
import Mathlib.Tactic.NormNum

namespace kilowatts

/-- How the state of charge was found. -/
inductive StateOfChargeSource where
  | UNKNOWN
  | INITIAL
  | PERSISTED
  | COULOMB_COUNTING
  | VOLTAGE_ESTIMATE
  | SIMULATED
deriving DecidableEq

/-- One reading, or a smoothed one. -/
structure PowerMeasurements where
  voltageVolts : Rat
  currentAmps : Rat
  powerWatts : Rat
deriving DecidableEq

/-- What a planning cycle publishes about power. The names are those of the source. -/
structure PowerBudget where
  batteryVoltageVolts : Rat
  batteryCurrentAmps : Rat
  P_measured : Rat
  P_budget : Rat
  P_reserve : Rat
  P_fixed : Rat
  P_auto_available : Rat
  P_auto : Rat
  P_remaining : Rat
  runtimeBudgetActive : Bool
  requiredRuntimeAchievable : Bool
deriving DecidableEq

/-- The value-initialised record. -/
def PowerBudget.zero : PowerBudget := ⟨0, 0, 0, 0, 0, 0, 0, 0, 0, false, false⟩

/-- The battery as the budget knows it, with the minimum that the plan asks for. -/
structure BatteryConfiguration where
  nameplateVoltageVolts : Rat
  capacityAmpHours : Rat
  minimumStateOfChargePercent : Rat
deriving DecidableEq

/-- The members of the battery monitor that the power budget reads or writes. Numbers are exact.
Rounding and overflow are modelled where a refusal depends on them: the allowance of a runtime
target, and the expected shunt voltage. -/
structure PowerManager where
  batteryConfiguration : BatteryConfiguration
  measurements : PowerMeasurements
  stateOfChargePercent : Rat
  stateOfChargeSource : StateOfChargeSource
  stateOfChargeInitialized : Bool
  powerBudget : PowerBudget
  remainingRequiredRuntimeHours : Rat
deriving DecidableEq

namespace PowerManager

/-- From 0 to 100, both included. -/
def isValidPercent (value : Rat) : Bool := 0 ≤ value && value ≤ 100

variable (manager : PowerManager)

/-- A state of charge is only used if it has a source and is in range. -/
def isStateOfChargeValid : Bool :=
  manager.stateOfChargeInitialized && manager.stateOfChargeSource ≠ .UNKNOWN &&
    isValidPercent manager.stateOfChargePercent

/-- The budget must be positive, unlike the other inputs. -/
def setPowerBudgetWatts (P_budget : Rat) : PowerManager × Bool :=
  if 0 < P_budget then ({ manager with powerBudget.P_budget := P_budget }, true) else (manager, false)

/-- The reserve may be zero. -/
def setPowerReserveWatts (P_reserve : Rat) : PowerManager × Bool :=
  if 0 ≤ P_reserve then ({ manager with powerBudget.P_reserve := P_reserve }, true) else (manager, false)

/-- What the loads that are always ON take. -/
def setFixedPowerWatts (P_fixed : Rat) : PowerManager × Bool :=
  if 0 ≤ P_fixed then ({ manager with powerBudget.P_fixed := P_fixed }, true) else (manager, false)

/-- What the selected AUTO loads take. -/
def setAutoPowerWatts (P_auto : Rat) : PowerManager × Bool :=
  if 0 ≤ P_auto then ({ manager with powerBudget.P_auto := P_auto }, true) else (manager, false)

/-- Zero hours switch the runtime budget off. -/
def setRemainingRequiredRuntimeHours (hours : Rat) : PowerManager × Bool :=
  if 0 ≤ hours then ({ manager with remainingRequiredRuntimeHours := hours }, true) else (manager, false)

/-- The stored values and the minimum state of charge are in range. -/
def budgetInputsValid : Bool :=
  0 < manager.powerBudget.P_budget && 0 ≤ manager.powerBudget.P_reserve && 0 ≤ manager.powerBudget.P_fixed &&
    0 ≤ manager.powerBudget.P_auto && manager.powerBudget.P_reserve ≤ manager.powerBudget.P_budget &&
    isValidPercent manager.batteryConfiguration.minimumStateOfChargePercent

/-- Some of the runtime that the plan asks for is left. -/
def runtimeBudgetActive : Bool := 0 < manager.remainingRequiredRuntimeHours

/-- A positive minimum needs the state of charge, and so does a runtime. -/
def stateOfChargeRequired : Bool :=
  0 < manager.batteryConfiguration.minimumStateOfChargePercent || manager.runtimeBudgetActive

/-- Both are needed for an energy in watt hours. -/
def batteryMetadataUsable : Bool :=
  0 < manager.batteryConfiguration.capacityAmpHours && 0 < manager.batteryConfiguration.nameplateVoltageVolts

/-- What the plan leaves when the reserve is kept. -/
def powerAfterReserveWatts : Rat := max 0 (manager.powerBudget.P_budget - manager.powerBudget.P_reserve)

/-- The part of the battery above the minimum. -/
def usableSocFraction : Rat :=
  max 0 ((manager.stateOfChargePercent - manager.batteryConfiguration.minimumStateOfChargePercent) / 100)

/-- The energy that may be used before the minimum is reached. -/
def usableEnergyWh : Rat :=
  manager.batteryConfiguration.capacityAmpHours * manager.batteryConfiguration.nameplateVoltageVolts *
    manager.usableSocFraction

/-- The power at which the usable energy lasts for the remaining hours. -/
def runtimeAllowanceWatts : Rat := manager.usableEnergyWh / manager.remainingRequiredRuntimeHours

/-- The allowance as `updatePowerBudget` computes it, every operation rounded to a `float`. There
is none if one of them overflows: an infinite product stays infinite or turns into a NaN. -/
def roundedRuntimeAllowanceWatts (battery : BatteryConfiguration) (stateOfChargePercent hours : Rat) :
    Option Rat := do
  let aboveMinimum ← BinaryFormat.binary32.nearest (stateOfChargePercent - battery.minimumStateOfChargePercent)
  let fraction ← BinaryFormat.binary32.nearest (aboveMinimum / 100)
  let nominalEnergyWh ← BinaryFormat.binary32.nearest (battery.capacityAmpHours * battery.nameplateVoltageVolts)
  let usableEnergyWh ← BinaryFormat.binary32.nearest (nominalEnergyWh * max 0 fraction)
  BinaryFormat.binary32.nearest (usableEnergyWh / hours)

/-- The `std::isfinite` test of the allowance. -/
def runtimeAllowanceFinite : Bool :=
  (roundedRuntimeAllowanceWatts manager.batteryConfiguration manager.stateOfChargePercent
    manager.remainingRequiredRuntimeHours).isSome

/-- A battery that is known to be at its minimum or below. -/
def stateOfChargeExhausted : Bool :=
  manager.isStateOfChargeValid &&
    manager.stateOfChargePercent ≤ manager.batteryConfiguration.minimumStateOfChargePercent

/-- The planning allowance before the state-of-charge cut-off. -/
def allowanceBeforeCutoffWatts : Rat :=
  if manager.runtimeBudgetActive then min manager.powerAfterReserveWatts manager.runtimeAllowanceWatts
  else manager.powerAfterReserveWatts

/-- No AUTO load gets power from an exhausted battery. -/
def planningAllowanceWatts : Rat :=
  if manager.stateOfChargeExhausted then 0 else manager.allowanceBeforeCutoffWatts

/-- Whether the fixed loads alone can be kept up for as long as the plan asks. -/
def requiredRuntimeAchievable : Bool :=
  if manager.stateOfChargeExhausted && manager.runtimeBudgetActive && 0 < manager.powerBudget.P_fixed then false
  else if manager.runtimeBudgetActive then manager.powerBudget.P_fixed ≤ manager.allowanceBeforeCutoffWatts
  else true

/-- The record that a successful update stores. -/
def updatedBudget : PowerBudget where
  batteryVoltageVolts := manager.measurements.voltageVolts
  batteryCurrentAmps := manager.measurements.currentAmps
  P_measured := manager.measurements.powerWatts
  P_budget := manager.powerBudget.P_budget
  P_reserve := manager.powerBudget.P_reserve
  P_fixed := manager.powerBudget.P_fixed
  P_auto_available := max 0 (manager.planningAllowanceWatts - manager.powerBudget.P_fixed)
  P_auto := manager.powerBudget.P_auto
  P_remaining := max 0 (manager.powerBudget.P_budget - (manager.powerBudget.P_fixed + manager.powerBudget.P_auto))
  runtimeBudgetActive := manager.runtimeBudgetActive
  requiredRuntimeAchievable := manager.requiredRuntimeAchievable

/-- The update is refused unless its inputs are valid, the state of charge is known when it is
needed, and an active runtime target has battery metadata and a finite allowance. -/
def updatePowerBudget : PowerManager × Bool :=
  if !manager.budgetInputsValid then (manager, false)
  else if manager.stateOfChargeRequired && !manager.isStateOfChargeValid then (manager, false)
  else if manager.runtimeBudgetActive && !manager.batteryMetadataUsable then (manager, false)
  else if manager.runtimeBudgetActive && !manager.runtimeAllowanceFinite then (manager, false)
  else ({ manager with powerBudget := manager.updatedBudget }, true)

/-- When an update succeeds, and what it stores. It touches nothing else. -/
theorem updatePowerBudget_of_success {manager : PowerManager} (hsuccess : manager.updatePowerBudget.2 = true) :
    manager.budgetInputsValid = true ∧
    (manager.stateOfChargeRequired = true → manager.isStateOfChargeValid = true) ∧
    (manager.runtimeBudgetActive = true → manager.batteryMetadataUsable = true) ∧
    (manager.runtimeBudgetActive = true → manager.runtimeAllowanceFinite = true) ∧
    manager.updatePowerBudget.1 = { manager with powerBudget := manager.updatedBudget } := by
  unfold updatePowerBudget at hsuccess ⊢
  by_cases hinputs : manager.budgetInputsValid = true
  · by_cases hcharge : (manager.stateOfChargeRequired && !manager.isStateOfChargeValid) = true
    · simp [hinputs, hcharge] at hsuccess
    · by_cases hmetadata : (manager.runtimeBudgetActive && !manager.batteryMetadataUsable) = true
      · simp [hinputs, hcharge, hmetadata] at hsuccess
      · by_cases hfinite : (manager.runtimeBudgetActive && !manager.runtimeAllowanceFinite) = true
        · simp [hinputs, hcharge, hmetadata, hfinite] at hsuccess
        · refine ⟨hinputs, by simpa using hcharge, by simpa using hmetadata, by simpa using hfinite, ?_⟩
          simp [hinputs, hcharge, hmetadata, hfinite]
  · simp [hinputs] at hsuccess

/-- The update succeeds whenever its four conditions hold. -/
theorem updatePowerBudget_success {manager : PowerManager} (hinputs : manager.budgetInputsValid = true)
    (hcharge : manager.stateOfChargeRequired = true → manager.isStateOfChargeValid = true)
    (hmetadata : manager.runtimeBudgetActive = true → manager.batteryMetadataUsable = true)
    (hfinite : manager.runtimeBudgetActive = true → manager.runtimeAllowanceFinite = true) :
    manager.updatePowerBudget.2 = true := by
  have hcharge' : (manager.stateOfChargeRequired && !manager.isStateOfChargeValid) = false := by simpa using hcharge
  have hmetadata' : (manager.runtimeBudgetActive && !manager.batteryMetadataUsable) = false := by
    simpa using hmetadata
  have hfinite' : (manager.runtimeBudgetActive && !manager.runtimeAllowanceFinite) = false := by simpa using hfinite
  simp [updatePowerBudget, hinputs, hcharge', hmetadata', hfinite']

/-- A second update after the AUTO power was entered succeeds again and changes
two numbers only. In particular it offers the AUTO loads the same power. -/
theorem setAutoPowerWatts_updatePowerBudget {manager : PowerManager}
    (hsuccess : manager.updatePowerBudget.2 = true) {P_auto : Rat} (hnonneg : 0 ≤ P_auto) :
    ∃ entered, manager.updatePowerBudget.1.setAutoPowerWatts P_auto = (entered, true) ∧
      entered.updatePowerBudget =
        ({ manager.updatePowerBudget.1 with powerBudget := { manager.updatePowerBudget.1.powerBudget with
            P_auto := P_auto
            P_remaining := max 0 (manager.powerBudget.P_budget - (manager.powerBudget.P_fixed + P_auto)) } }, true) := by
  obtain ⟨hinputs, hcharge, hmetadata, hfinite, hresult⟩ := updatePowerBudget_of_success hsuccess
  refine ⟨{ manager.updatePowerBudget.1 with powerBudget.P_auto := P_auto }, if_pos hnonneg, ?_⟩
  have hagain : ({ manager.updatePowerBudget.1 with powerBudget.P_auto := P_auto } :
      PowerManager).updatePowerBudget.2 = true := by
    rw [hresult]
    apply updatePowerBudget_success
    · simp only [budgetInputsValid, Bool.and_eq_true, decide_eq_true_eq] at hinputs ⊢
      exact ⟨⟨⟨hinputs.1.1.1, hnonneg⟩, hinputs.1.2⟩, hinputs.2⟩
    · exact hcharge
    · exact hmetadata
    · exact hfinite
  refine Prod.ext ((updatePowerBudget_of_success hagain).2.2.2.2.trans ?_) hagain
  rw [hresult]
  rfl

/-- Needs the inputs to be valid, by which the reserve is not above the budget. -/
theorem planningAllowanceWatts_le_afterReserve {manager : PowerManager}
    (hinputs : manager.budgetInputsValid = true) :
    manager.planningAllowanceWatts ≤ manager.powerBudget.P_budget - manager.powerBudget.P_reserve := by
  simp only [budgetInputsValid, Bool.and_eq_true, decide_eq_true_eq] at hinputs
  have hreserve : 0 ≤ manager.powerBudget.P_budget - manager.powerBudget.P_reserve := by linarith [hinputs.1.2]
  have hafter : manager.powerAfterReserveWatts = manager.powerBudget.P_budget - manager.powerBudget.P_reserve :=
    max_eq_right hreserve
  unfold planningAllowanceWatts allowanceBeforeCutoffWatts
  split
  · exact hreserve
  · split
    · rw [← hafter]
      exact min_le_left _ _
    · exact hafter.le

/-- With an active runtime target the allowance is covered by the usable energy. -/
theorem planningAllowanceWatts_le_runtime {manager : PowerManager}
    (hmetadata : manager.runtimeBudgetActive = true → manager.batteryMetadataUsable = true)
    (hactive : manager.runtimeBudgetActive = true) :
    manager.planningAllowanceWatts ≤ manager.runtimeAllowanceWatts := by
  have husable := hmetadata hactive
  simp only [batteryMetadataUsable, runtimeBudgetActive, Bool.and_eq_true, decide_eq_true_eq] at husable hactive
  have hfraction : 0 ≤ manager.usableSocFraction := le_max_left 0 _
  have hallowance : 0 ≤ manager.runtimeAllowanceWatts :=
    div_nonneg (mul_nonneg (mul_nonneg husable.1.le husable.2.le) hfraction) hactive.le
  unfold planningAllowanceWatts allowanceBeforeCutoffWatts
  split
  · exact hallowance
  · rw [if_pos (by simpa [runtimeBudgetActive] using hactive)]
    exact min_le_right _ _

theorem usableEnergyWh_eq (manager : PowerManager) :
    manager.usableEnergyWh = manager.batteryConfiguration.capacityAmpHours *
      manager.batteryConfiguration.nameplateVoltageVolts *
      (max 0 (manager.stateOfChargePercent - manager.batteryConfiguration.minimumStateOfChargePercent) / 100) := by
  rw [usableEnergyWh, usableSocFraction, ← max_div_div_right (by norm_num : (0 : Rat) ≤ 100), zero_div]

/-- A second power that only fills what the first one leaves of an allowance
stays with it under every bound of both. -/
theorem add_le_of_le_remaining {fixed auto allowance bound : Rat} (hauto : auto ≤ max 0 (allowance - fixed))
    (hallowance : allowance ≤ bound) (hfixed : fixed ≤ bound) : fixed + auto ≤ bound := by
  obtain hle | hle := le_total 0 (allowance - fixed)
  · rw [max_eq_right hle] at hauto
    linarith
  · rw [max_eq_left hle] at hauto
    linarith

/-- AUTO loads that stay within the power offered to them keep the reserve and
the runtime target, provided the fixed loads alone do. -/
theorem fixed_add_auto_le {manager : PowerManager} (hinputs : manager.budgetInputsValid = true)
    (hmetadata : manager.runtimeBudgetActive = true → manager.batteryMetadataUsable = true) {P_auto : Rat}
    (hauto : P_auto ≤ max 0 (manager.planningAllowanceWatts - manager.powerBudget.P_fixed))
    (hreserve : manager.powerBudget.P_fixed ≤ manager.powerBudget.P_budget - manager.powerBudget.P_reserve)
    (hruntime : manager.runtimeBudgetActive = true → manager.powerBudget.P_fixed ≤ manager.runtimeAllowanceWatts) :
    manager.powerBudget.P_fixed + P_auto ≤ manager.powerBudget.P_budget - manager.powerBudget.P_reserve ∧
    (manager.runtimeBudgetActive = true →
      (manager.powerBudget.P_fixed + P_auto) * manager.remainingRequiredRuntimeHours ≤ manager.usableEnergyWh) := by
  refine ⟨add_le_of_le_remaining hauto (planningAllowanceWatts_le_afterReserve hinputs) hreserve, fun hactive => ?_⟩
  have hsum := add_le_of_le_remaining hauto (planningAllowanceWatts_le_runtime hmetadata hactive) (hruntime hactive)
  have hhours : 0 < manager.remainingRequiredRuntimeHours := by simpa [runtimeBudgetActive] using hactive
  exact (le_div_iff₀ hhours).mp hsum

/-- Nothing is left for AUTO loads when the fixed loads use up the allowance, or
the state of charge is at its minimum. -/
theorem auto_eq_zero_of_exhausted {manager : PowerManager} (hinputs : manager.budgetInputsValid = true)
    (hmetadata : manager.runtimeBudgetActive = true → manager.batteryMetadataUsable = true) {P_auto : Rat}
    (hauto : P_auto ≤ max 0 (manager.planningAllowanceWatts - manager.powerBudget.P_fixed)) (hnonneg : 0 ≤ P_auto)
    (hexhausted : manager.powerBudget.P_budget - manager.powerBudget.P_reserve < manager.powerBudget.P_fixed ∨
      (manager.runtimeBudgetActive = true ∧ manager.runtimeAllowanceWatts < manager.powerBudget.P_fixed) ∨
      manager.stateOfChargeExhausted = true) : P_auto = 0 := by
  have hfixed : manager.planningAllowanceWatts ≤ manager.powerBudget.P_fixed := by
    obtain hreserve | ⟨hactive, hruntime⟩ | hcharge := hexhausted
    · exact (planningAllowanceWatts_le_afterReserve hinputs).trans hreserve.le
    · exact (planningAllowanceWatts_le_runtime hmetadata hactive).trans hruntime.le
    · rw [planningAllowanceWatts, if_pos hcharge]
      simp only [budgetInputsValid, Bool.and_eq_true, decide_eq_true_eq] at hinputs
      exact hinputs.1.1.1.2
  rw [max_eq_left (sub_nonpos.mpr hfixed)] at hauto
  exact le_antisymm hauto hnonneg

end PowerManager

end kilowatts
