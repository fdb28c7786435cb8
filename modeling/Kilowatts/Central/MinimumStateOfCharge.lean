import Kilowatts.Central.BatterySetup
import Kilowatts.Central.BudgetContract
import Kilowatts.Library.DeferredCopy
import Kilowatts.Library.Run

namespace kilowatts

namespace Central

/-- What every operand keeps, a chain keeps. -/
theorem andAlso_keeps {Kept : PowerManager → Prop} {result : PowerManager × Bool}
    {next : PowerManager → PowerManager × Bool} (hresult : Kept result.1)
    (hnext : ∀ manager, Kept manager → Kept (next manager).1) : Kept (andAlso result next).1 := by
  unfold andAlso
  split
  · exact hnext _ hresult
  · exact hresult

end Central

namespace PowerManager

variable (manager : PowerManager) (value : Rat)

/-- The inputs of a budget do not touch the battery; the next lemmas go through the others. -/
theorem setPowerBudgetWatts_batteryConfiguration :
    (manager.setPowerBudgetWatts value).1.batteryConfiguration = manager.batteryConfiguration := by
  unfold setPowerBudgetWatts
  split <;> rfl

theorem setPowerReserveWatts_batteryConfiguration :
    (manager.setPowerReserveWatts value).1.batteryConfiguration = manager.batteryConfiguration := by
  unfold setPowerReserveWatts
  split <;> rfl

theorem setFixedPowerWatts_batteryConfiguration :
    (manager.setFixedPowerWatts value).1.batteryConfiguration = manager.batteryConfiguration := by
  unfold setFixedPowerWatts
  split <;> rfl

theorem setAutoPowerWatts_batteryConfiguration :
    (manager.setAutoPowerWatts value).1.batteryConfiguration = manager.batteryConfiguration := by
  unfold setAutoPowerWatts
  split <;> rfl

theorem setRemainingRequiredRuntimeHours_batteryConfiguration :
    (manager.setRemainingRequiredRuntimeHours value).1.batteryConfiguration = manager.batteryConfiguration := by
  unfold setRemainingRequiredRuntimeHours
  split <;> rfl

theorem updatePowerBudget_batteryConfiguration :
    manager.updatePowerBudget.1.batteryConfiguration = manager.batteryConfiguration := by
  unfold updatePowerBudget
  split
  · rfl
  · split
    · rfl
    · split
      · rfl
      · split <;> rfl

end PowerManager

namespace CentralState

open Central

variable {state : CentralState} {clock : CycleClock}

/-- A planning cycle uses the minimum and does not change it. -/
theorem firstBudgetUpdate_batteryConfiguration :
    (state.firstBudgetUpdate clock).1.batteryConfiguration = state.batteryMonitor.batteryConfiguration := by
  let Kept (manager : PowerManager) : Prop :=
    manager.batteryConfiguration = state.batteryMonitor.batteryConfiguration
  have hchain : Kept (state.firstBudgetUpdate clock).1 := by
    refine andAlso_keeps
      (andAlso_keeps (andAlso_keeps (andAlso_keeps (andAlso_keeps (andAlso_keeps rfl ?_) ?_) ?_) ?_) ?_) ?_
    · exact fun manager hkept => (manager.setPowerBudgetWatts_batteryConfiguration _).trans hkept
    · exact fun manager hkept => (manager.setPowerReserveWatts_batteryConfiguration _).trans hkept
    · exact fun manager hkept => (manager.setFixedPowerWatts_batteryConfiguration _).trans hkept
    · exact fun manager hkept => (manager.setAutoPowerWatts_batteryConfiguration _).trans hkept
    · exact fun manager hkept => (manager.setRemainingRequiredRuntimeHours_batteryConfiguration _).trans hkept
    · exact fun manager hkept => manager.updatePowerBudget_batteryConfiguration.trans hkept
  exact hchain

/-- A cycle keeps the battery configuration. -/
theorem secondBudgetUpdate_batteryConfiguration :
    (state.secondBudgetUpdate clock).1.batteryConfiguration = state.batteryMonitor.batteryConfiguration := by
  unfold secondBudgetUpdate
  split
  · let Kept (manager : PowerManager) : Prop :=
      manager.batteryConfiguration = state.batteryMonitor.batteryConfiguration
    have hentered : Kept ((state.firstBudgetUpdate clock).1.setAutoPowerWatts (state.autoPass clock).P_auto).1 :=
      (PowerManager.setAutoPowerWatts_batteryConfiguration _ _).trans firstBudgetUpdate_batteryConfiguration
    exact andAlso_keeps hentered fun manager hkept => manager.updatePowerBudget_batteryConfiguration.trans hkept
  · exact firstBudgetUpdate_batteryConfiguration

/-- The budget of a cycle is valid once its first update succeeds. -/
theorem budgetValid_eq : (state.planningSnapshot clock).budgetValid = (state.firstBudgetUpdate clock).2 := by
  change (state.secondBudgetUpdate clock).2 = _
  cases hfirst : (state.firstBudgetUpdate clock).2 with
  | false => rw [secondBudgetUpdate, if_neg (by simp [hfirst]), hfirst]
  | true => rw [state.secondBudgetUpdate_of_success clock hfirst]

/-- With a positive minimum, nothing is given to AUTO loads while the state of charge is
unknown or no higher than it. -/
theorem selected_power_eq_zero (hminimum : 0 < state.batteryMonitor.batteryConfiguration.minimumStateOfChargePercent)
    (hcharge : state.batteryMonitor.isStateOfChargeValid = false ∨ state.batteryMonitor.stateOfChargePercent ≤
      state.batteryMonitor.batteryConfiguration.minimumStateOfChargePercent) :
    ((state.selectedAutoLoads clock).map (ratingOf state.plannedRegistry)).sum = 0 := by
  by_cases hfirst : (state.firstBudgetUpdate clock).2 = true
  · obtain ⟨hprepared, hfirstEq⟩ := state.firstBudgetUpdate_of_success clock hfirst
    obtain ⟨hinputs, hrequired, hmetadata, -, hresult⟩ := PowerManager.updatePowerBudget_of_success hprepared
    have hvalid : state.batteryMonitor.isStateOfChargeValid = true := by
      refine hrequired ?_
      rw [PowerManager.stateOfChargeRequired, Bool.or_eq_true, decide_eq_true_eq]
      exact .inl hminimum
    have hlow := hcharge.resolve_left (by simp [hvalid])
    have hle := state.autoPass_P_auto_le clock hfirst
    rw [hfirstEq, hresult] at hle
    rw [← state.autoPass_P_auto_eq clock hfirst]
    refine PowerManager.auto_eq_zero_of_exhausted hinputs hmetadata hle (state.autoPass_P_auto_nonneg clock hfirst) ?_
    refine .inr (.inr ?_)
    rw [PowerManager.stateOfChargeExhausted, Bool.and_eq_true, decide_eq_true_eq]
    exact ⟨hvalid, hlow⟩
  · have hselected : state.selectedAutoLoads clock = [] := if_neg hfirst
    rw [hselected, List.map_nil, List.sum_nil]

end CentralState

/-- What happens at Central, one section under `stateMutex` at a time. A command that is
refused, or that does not get the mutex, is no event. -/
inductive SetupEvent where
  | configureBatterySensor (answers : SetupAnswers) (sensor : SensorConfiguration) (battery : BatterySetupRequest)
  | configurePowerPlanning (answers : SetupAnswers) (request : PowerPlanningRequest)
  | consoleConfigureIna219 (answers : SetupAnswers) (request : SensorConfiguration)
  | consoleConfigureBatterySetup (answers : SetupAnswers) (request : BatterySetupRequest)
  | enableSimulation (answers : MonitorAnswers)
  | disableSimulation (answers : MonitorAnswers)
  | applyAgain (answers : MonitorAnswers)
  | setSimulationValues (electrical : Option (Rat × Rat)) (stateOfChargePercent : Option Rat)
  | acquireMeasurements (hardware : Option PowerMeasurements) (deltaSeconds : Rat)
  | planningCycle (globals : CentralState) (clock : CycleClock)
  | reboot (readable : Bool) (answers : MonitorAnswers)

namespace MonitoredCentral

/-- One section under `stateMutex`, or a boot. -/
def step (central : MonitoredCentral) : SetupEvent → MonitoredCentral
  | .configureBatterySensor answers sensor battery => central.configureBatterySensor answers sensor battery
  | .configurePowerPlanning answers request => central.configurePowerPlanning answers request
  | .consoleConfigureIna219 answers request => central.consoleConfigureIna219 answers request
  | .consoleConfigureBatterySetup answers request => central.consoleConfigureBatterySetup answers request
  | .enableSimulation answers => central.enableSimulation answers
  | .disableSimulation answers => central.disableSimulation answers
  | .applyAgain answers => central.applyAgain answers
  | .setSimulationValues electrical stateOfChargePercent =>
    central.setSimulationValues electrical stateOfChargePercent
  | .acquireMeasurements hardware deltaSeconds => central.acquireMeasurements hardware deltaSeconds
  | .planningCycle globals clock => central.runOptimizationCycle globals clock
  | .reboot readable answers => runApp readable answers central.centralConfigurationStore.flash

/-- The event applies the stored battery configuration, and there is a source of measurements. -/
def applies (central : MonitoredCentral) : SetupEvent → Bool
  | .configureBatterySensor answers sensor battery =>
    (battery.combinedWith sensor).isValidBatterySensor && answers.flash.succeeds &&
      (battery.combinedWith sensor).hasSource central.batteryMonitor.simulationEnabled
  | .configurePowerPlanning answers request =>
    let battery := central.configuration.batterySensor
    request.plan.isValidPowerPlanning && answers.flash.succeeds &&
      (battery.ina219Configured || battery.batteryMetadataConfigured) &&
      battery.hasSource central.batteryMonitor.simulationEnabled
  | .consoleConfigureIna219 answers request =>
    let battery := request.storedIn central.configuration.batterySensor
    battery.isValidBatterySensor && answers.flash.succeeds && !central.batteryMonitor.simulationEnabled &&
      battery.hasSource central.batteryMonitor.simulationEnabled
  | .consoleConfigureBatterySetup answers request =>
    let battery := request.storedIn central.configuration.batterySensor
    battery.isValidBatterySensor && answers.flash.succeeds &&
      battery.hasSource central.batteryMonitor.simulationEnabled
  | .enableSimulation _ => central.configuration.batterySensor.batteryMetadataConfigured
  | .disableSimulation _ => central.configuration.batterySensor.hasSource false
  | .applyAgain _ => central.configuration.batterySensor.hasSource central.batteryMonitor.simulationEnabled
  | .setSimulationValues .. | .acquireMeasurements .. | .planningCycle .. => false
  | .reboot readable _ =>
    (CentralConfiguration.loadPersisted readable
      central.centralConfigurationStore.flash).batterySensor.hasSource false

/-- The minimum in use when the event does not apply the battery configuration. A reboot
constructs the battery monitor, with zero. -/
def minimumKept (central : MonitoredCentral) : SetupEvent → Rat
  | .reboot .. => 0
  | _ => central.minimumInUse

/-- After a section, the configuration is valid, and the minimum in use is the one of the plan
if the battery configuration was applied, and `kept` otherwise. -/
structure AppliesMinimum (applied : Bool) (kept : Rat) (after : MonitoredCentral) : Prop where
  valid : after.configuration.isValid = true
  minimum : after.minimumInUse = if applied then after.configuration.powerPlanning.minimumToApply else kept

section Sections

variable {central : MonitoredCentral}

/-- A section that ends with an application, if one is attempted. -/
theorem appliesMinimum_attempt (central : MonitoredCentral) (hvalid : central.configuration.isValid = true)
    (attempted : Bool) {applied : Bool} {battery : BatterySensorConfiguration}
    (hbattery : attempted = true → battery.isValidBatterySensor = true)
    (happlied : applied = (attempted && battery.hasSource central.batteryMonitor.simulationEnabled))
    (answers : MonitorAnswers) (restore : Bool) :
    AppliesMinimum applied central.minimumInUse
      (if attempted then (central.applyBatteryConfiguration answers battery restore).1 else central) := by
  subst happlied
  cases attempted with
  | false => exact ⟨hvalid, rfl⟩
  | true =>
    have hplanning : central.configuration.powerPlanning.isValidPowerPlanning = true :=
      (Bool.and_eq_true_iff.mp hvalid).2
    have hsame := applyBatteryConfiguration_configuration central answers battery restore
    exact ⟨hsame ▸ hvalid, hsame ▸ applyBatteryConfiguration_minimumInUse (hbattery rfl) hplanning restore⟩

/-- Needs a valid configuration, as do the other commands: what was valid in memory stays valid. -/
theorem configureBatterySensor_appliesMinimum (hvalid : central.configuration.isValid = true)
    (answers : SetupAnswers) (sensor : SensorConfiguration) (battery : BatterySetupRequest) :
    AppliesMinimum (central.applies (.configureBatterySensor answers sensor battery)) central.minimumInUse
      (central.configureBatterySensor answers sensor battery) := by
  unfold configureBatterySensor
  cases hbattery : (battery.combinedWith sensor).isValidBatterySensor with
  | false =>
    simp only [applies, hbattery, Bool.false_and]
    exact ⟨hvalid, rfl⟩
  | true =>
    obtain ⟨-, hstored⟩ := CentralConfiguration.storeBatterySensor_eq answers.flash hvalid
      (battery.combinedWith sensor)
    have hkept := CentralConfiguration.storeBatterySensor_isValid answers.flash hvalid
      (battery.combinedWith sensor)
    rw [applies, ← hstored]
    simp only [hbattery, Bool.not_true, Bool.false_eq_true, if_false]
    exact appliesMinimum_attempt { central with centralConfigurationStore := _ } hkept _ (fun _ => hbattery) rfl
      answers.monitor _

/-- The plan is stored first, and applied only if that succeeded. -/
theorem configurePowerPlanning_appliesMinimum (hvalid : central.configuration.isValid = true)
    (answers : SetupAnswers) (request : PowerPlanningRequest) :
    AppliesMinimum (central.applies (.configurePowerPlanning answers request)) central.minimumInUse
      (central.configurePowerPlanning answers request) := by
  unfold configurePowerPlanning
  cases hplanning : request.plan.isValidPowerPlanning with
  | false =>
    simp only [applies, hplanning, Bool.false_and]
    exact ⟨hvalid, rfl⟩
  | true =>
    obtain ⟨hmemory, hstored⟩ := CentralConfiguration.storePowerPlanning_eq answers.flash hvalid request.plan
    have hkept := CentralConfiguration.storePowerPlanning_isValid answers.flash hvalid request.plan
    have hbattery : (CentralConfiguration.storePowerPlanning answers.flash request.plan
        central.centralConfigurationStore).1.memory.batterySensor = central.configuration.batterySensor := by
      rw [hmemory, if_pos hplanning]
      rfl
    simp only [applies, ← hstored, ← hbattery, Bool.not_true, Bool.false_eq_true, if_false]
    exact appliesMinimum_attempt { central with centralConfigurationStore := _ } hkept _
      (fun _ => (Bool.and_eq_true_iff.mp hkept).1) rfl answers.monitor true

theorem consoleConfigureIna219_appliesMinimum (hvalid : central.configuration.isValid = true)
    (answers : SetupAnswers) (request : SensorConfiguration) :
    AppliesMinimum (central.applies (.consoleConfigureIna219 answers request)) central.minimumInUse
      (central.consoleConfigureIna219 answers request) := by
  obtain ⟨-, hstored⟩ := CentralConfiguration.storeBatterySensor_eq answers.flash hvalid
    (request.storedIn central.configuration.batterySensor)
  have hkept := CentralConfiguration.storeBatterySensor_isValid answers.flash hvalid
    (request.storedIn central.configuration.batterySensor)
  rw [applies, ← hstored]
  refine appliesMinimum_attempt { central with centralConfigurationStore := _ } hkept _ ?_ rfl
    answers.monitor true
  intro hattempted
  have hsensor := (Bool.and_eq_true_iff.mp hattempted).1
  rw [hstored] at hsensor
  exact (Bool.and_eq_true_iff.mp hsensor).1

theorem consoleConfigureBatterySetup_appliesMinimum (hvalid : central.configuration.isValid = true)
    (answers : SetupAnswers) (request : BatterySetupRequest) :
    AppliesMinimum (central.applies (.consoleConfigureBatterySetup answers request)) central.minimumInUse
      (central.consoleConfigureBatterySetup answers request) := by
  obtain ⟨-, hstored⟩ := CentralConfiguration.storeBatterySensor_eq answers.flash hvalid
    (request.storedIn central.configuration.batterySensor)
  have hkept := CentralConfiguration.storeBatterySensor_isValid answers.flash hvalid
    (request.storedIn central.configuration.batterySensor)
  simp only [applies]
  rw [← hstored, ← BatterySensorConfiguration.and_hasSource, ← Bool.and_assoc]
  refine appliesMinimum_attempt { central with centralConfigurationStore := _ } hkept _ ?_ rfl
    answers.monitor _
  intro hattempted
  have hsensor := (Bool.and_eq_true_iff.mp hattempted).1
  rw [hstored] at hsensor
  exact (Bool.and_eq_true_iff.mp hsensor).1

/-- A simulation is a source, so the minimum always arrives. -/
theorem enableSimulation_appliesMinimum (hvalid : central.configuration.isValid = true) (answers : MonitorAnswers) :
    AppliesMinimum (central.applies (.enableSimulation answers)) central.minimumInUse
      (central.enableSimulation answers) :=
  appliesMinimum_attempt { central with batteryMonitor := central.batteryMonitor.enableSimulation true } hvalid _
    (fun _ => (Bool.and_eq_true_iff.mp hvalid).1) (Bool.and_true _).symm answers true

/-- Leaving the simulation applies the configuration of the INA219, if there is one. -/
theorem disableSimulation_appliesMinimum (hvalid : central.configuration.isValid = true) (answers : MonitorAnswers) :
    AppliesMinimum (central.applies (.disableSimulation answers)) central.minimumInUse
      (central.disableSimulation answers) := by
  have hattempt := appliesMinimum_attempt
    { central with batteryMonitor := central.batteryMonitor.enableSimulation false } hvalid
    central.configuration.batterySensor.ina219Configured (fun _ => (Bool.and_eq_true_iff.mp hvalid).1)
    (central.configuration.batterySensor.and_hasSource false).symm answers true
  unfold disableSimulation
  dsimp only
  split
  · next hmissing =>
    rw [if_neg (by simpa [configuration] using hmissing)] at hattempt
    exact hattempt
  · next hconfigured =>
    rw [if_pos (by simpa [configuration] using hconfigured)] at hattempt
    exact hattempt

/-- What a boot finds in the flash is applied if it has an INA219 that can be used. -/
theorem runApp_appliesMinimum (readable : Bool) (answers : MonitorAnswers) (flash : CentralConfiguration) :
    AppliesMinimum ((CentralConfiguration.loadPersisted readable flash).batterySensor.hasSource false) 0
      (runApp readable answers flash) := by
  have hvalid := CentralConfiguration.loadPersisted_isValid readable flash
  generalize hloaded : CentralConfiguration.loadPersisted readable flash = loaded at hvalid
  have hsource : loaded.batterySensor.hasSource false =
      ((loaded.batterySensor.ina219Configured || loaded.batterySensor.batteryMetadataConfigured) &&
        loaded.batterySensor.hasSource false) := by
    rw [← loaded.batterySensor.and_hasSource false]
    cases loaded.batterySensor.ina219Configured <;> simp
  have hattempt := appliesMinimum_attempt ⟨⟨loaded, flash⟩, .constructed, ⟨0, 0, false⟩⟩ hvalid _
    (fun _ => (Bool.and_eq_true_iff.mp hvalid).1) hsource answers true
  unfold runApp applyPersistedBatterySensorConfiguration
  rw [hloaded]
  dsimp only
  split
  · next hmissing =>
    rw [if_neg (by simpa [configuration] using hmissing)] at hattempt
    exact hattempt
  · next hconfigured =>
    rw [if_pos (by simpa [configuration, Bool.or_eq_true, imp_iff_not_or] using hconfigured)] at hattempt
    exact hattempt

/-- The sections that write neither the configuration nor the battery configuration. -/
theorem appliesMinimum_of_kept (hvalid : central.configuration.isValid = true) {after : MonitoredCentral}
    (hconfiguration : after.configuration = central.configuration)
    (hbattery : after.batteryMonitor.batteryConfiguration = central.batteryMonitor.batteryConfiguration) :
    AppliesMinimum false central.minimumInUse after :=
  ⟨hconfiguration ▸ hvalid, congrArg BatteryConfiguration.minimumStateOfChargePercent hbattery⟩

/-- Values do not apply a configuration. -/
theorem setSimulationValues_kept (central : MonitoredCentral) (electrical : Option (Rat × Rat))
    (stateOfChargePercent : Option Rat) :
    (central.setSimulationValues electrical stateOfChargePercent).configuration = central.configuration ∧
      (central.setSimulationValues electrical stateOfChargePercent).batteryMonitor.batteryConfiguration =
        central.batteryMonitor.batteryConfiguration := by
  have hset := BatteryMonitor.setSimulatedValues_batteryConfiguration central.batteryMonitor electrical
    stateOfChargePercent
  unfold setSimulationValues
  split
  · exact ⟨rfl, rfl⟩
  · refine ⟨rfl, ?_⟩
    dsimp only
    split
    · exact (BatteryMonitor.updateMeasurements_batteryConfiguration _ none).trans hset
    · exact hset

/-- Neither do readings. -/
theorem acquireMeasurements_kept (central : MonitoredCentral) (hardware : Option PowerMeasurements)
    (deltaSeconds : Rat) :
    (central.acquireMeasurements hardware deltaSeconds).configuration = central.configuration ∧
      (central.acquireMeasurements hardware deltaSeconds).batteryMonitor.batteryConfiguration =
        central.batteryMonitor.batteryConfiguration := by
  have hupdated := BatteryMonitor.updateMeasurements_batteryConfiguration central.batteryMonitor hardware
  unfold acquireMeasurements
  dsimp only
  split
  · refine ⟨rfl, ?_⟩
    dsimp only
    split
    · exact (BatteryMonitor.updateStateOfCharge_batteryConfiguration _ deltaSeconds).trans hupdated
    · exact hupdated
  · exact ⟨rfl, rfl⟩

/-- What any section under `stateMutex` does with the minimum in use. -/
theorem step_appliesMinimum (hvalid : central.configuration.isValid = true) (event : SetupEvent) :
    AppliesMinimum (central.applies event) (central.minimumKept event) (central.step event) := by
  cases event with
  | configureBatterySensor answers sensor battery =>
    exact configureBatterySensor_appliesMinimum hvalid answers sensor battery
  | configurePowerPlanning answers request => exact configurePowerPlanning_appliesMinimum hvalid answers request
  | consoleConfigureIna219 answers request => exact consoleConfigureIna219_appliesMinimum hvalid answers request
  | consoleConfigureBatterySetup answers request =>
    exact consoleConfigureBatterySetup_appliesMinimum hvalid answers request
  | enableSimulation answers => exact enableSimulation_appliesMinimum hvalid answers
  | disableSimulation answers => exact disableSimulation_appliesMinimum hvalid answers
  | applyAgain answers =>
    exact appliesMinimum_attempt central hvalid true (fun _ => (Bool.and_eq_true_iff.mp hvalid).1)
      (Bool.true_and _).symm answers true
  | setSimulationValues electrical stateOfChargePercent =>
    obtain ⟨hconfiguration, hbattery⟩ := central.setSimulationValues_kept electrical stateOfChargePercent
    exact appliesMinimum_of_kept hvalid hconfiguration hbattery
  | acquireMeasurements hardware deltaSeconds =>
    obtain ⟨hconfiguration, hbattery⟩ := central.acquireMeasurements_kept hardware deltaSeconds
    exact appliesMinimum_of_kept hvalid hconfiguration hbattery
  | planningCycle globals clock =>
    exact appliesMinimum_of_kept hvalid rfl CentralState.secondBudgetUpdate_batteryConfiguration
  | reboot readable answers => exact runApp_appliesMinimum readable answers central.centralConfigurationStore.flash

end Sections

end MonitoredCentral

namespace MinimumStateOfCharge

/-- Central, and the minimum of an earlier plan that the one of the plan in memory has not
replaced yet. -/
structure History where
  central : MonitoredCentral
  superseded : Option Rat

namespace History

/-- Before the first boot. -/
def off (flash : CentralConfiguration) : History where
  central := ⟨⟨.constructed, flash⟩, .constructed, ⟨0, 0, false⟩⟩
  superseded := none

/-- What an event changes: the minimum that is superseded, and the one of the plan. A reboot
constructs the battery monitor, so it starts from a minimum of zero. -/
def carried (before : History) : SetupEvent → Option Rat × Rat
  | .reboot .. => (none, 0)
  | _ => (before.superseded, before.central.configuration.powerPlanning.minimumToApply)

/-- The state with the history of the changes that wait to be applied. -/
def next (before : History) (event : SetupEvent) : History where
  central := before.central.step event
  superseded := supersededAfter (before.carried event).1 (before.carried event).2
    (before.central.step event).configuration.powerPlanning.minimumToApply (before.central.applies event)

end History

section Steps

variable (before : History) (event : SetupEvent) (after : History)

/-- What is asked of one step: a cycle with a valid budget uses the minimum of the plan, and
with a positive one gives nothing to AUTO loads without a state of charge above it. -/
structure EnforcedStep : Prop where
  next : after = before.next event
  minimum : ∀ globals clock, event = .planningCycle globals clock →
    let state := before.central.cycleState globals
    state.configuration.powerPlanning.configured = true → (state.planningSnapshot clock).budgetValid = true →
    state.batteryMonitor.batteryConfiguration.minimumStateOfChargePercent =
      state.configuration.powerPlanning.minimumStateOfChargePercent
  no_auto_power : ∀ globals clock, event = .planningCycle globals clock →
    let state := before.central.cycleState globals
    let minimum := state.configuration.powerPlanning.minimumStateOfChargePercent
    state.configuration.powerPlanning.configured = true → 0 < minimum →
    (state.batteryMonitor.isStateOfChargeValid = false ∨ state.batteryMonitor.stateOfChargePercent ≤ minimum) →
    ((state.selectedAutoLoads clock).map (Central.ratingOf state.plannedRegistry)).sum = 0

/-- The minimum of the plan waits for no application when a cycle computes a valid budget. -/
structure AppliedStep : Prop where
  next : after = before.next event
  applied : ∀ globals clock, event = .planningCycle globals clock →
    before.central.configuration.powerPlanning.configured = true →
    ((before.central.cycleState globals).planningSnapshot clock).budgetValid = true → before.superseded = none

end Steps

/-- The minimum in use is the one of the plan in memory, or the one that it supersedes. -/
structure Tracked (history : History) : Prop where
  valid : history.central.configuration.isValid = true
  copy : DeferredCopy history.superseded history.central.configuration.powerPlanning.minimumToApply
    history.central.minimumInUse

/-- A Central that is off waits for nothing. -/
theorem tracked_off (flash : CentralConfiguration) : Tracked (.off flash) := ⟨rfl, .renewed 0⟩

theorem Tracked.carried {before : History} (htracked : Tracked before) (event : SetupEvent) :
    DeferredCopy (before.carried event).1 (before.carried event).2 (before.central.minimumKept event) := by
  cases event with
  | reboot readable answers => exact .renewed 0
  | _ => exact htracked.copy

/-- The monitor has the minimum that was applied last, at every moment. -/
theorem Tracked.next {before : History} (htracked : Tracked before) (event : SetupEvent) :
    Tracked (before.next event) := by
  obtain ⟨hvalid, hminimum⟩ := MonitoredCentral.step_appliesMinimum htracked.valid event
  refine ⟨hvalid, ?_⟩
  rw [show (before.next event).central.minimumInUse = _ from hminimum]
  exact (htracked.carried event).change _ _

/-- While a plan is configured, the minimum in use is its own just if it superseded no other. -/
theorem Tracked.minimum_iff {history : History} (htracked : Tracked history)
    (hconfigured : history.central.configuration.powerPlanning.configured = true) :
    history.central.minimumInUse = history.central.configuration.powerPlanning.minimumStateOfChargePercent ↔
      history.superseded = none := by
  have hminimum : history.central.configuration.powerPlanning.minimumToApply =
      history.central.configuration.powerPlanning.minimumStateOfChargePercent := if_pos hconfigured
  rw [← hminimum]
  exact htracked.copy.eq_iff

/-- One step uses the configured minimum exactly if no change waits. -/
theorem enforcedStep_iff {before : History} (htracked : Tracked before) (event : SetupEvent) (after : History) :
    EnforcedStep before event after ↔ AppliedStep before event after := by
  constructor
  · intro hstep
    refine ⟨hstep.next, ?_⟩
    intro globals clock hcycle hconfigured hvalid
    exact (htracked.minimum_iff hconfigured).mp (hstep.minimum globals clock hcycle hconfigured hvalid)
  · intro hstep
    have hminimum : ∀ globals clock, event = .planningCycle globals clock →
        before.central.configuration.powerPlanning.configured = true →
        ((before.central.cycleState globals).planningSnapshot clock).budgetValid = true →
        before.central.minimumInUse = before.central.configuration.powerPlanning.minimumStateOfChargePercent := by
      intro globals clock hcycle hconfigured hvalid
      exact (htracked.minimum_iff hconfigured).mpr (hstep.applied globals clock hcycle hconfigured hvalid)
    refine ⟨hstep.next, hminimum, ?_⟩
    intro globals clock hcycle state minimum hconfigured hpositive hcharge
    cases hvalid : (state.planningSnapshot clock).budgetValid with
    | false =>
      have hselected : state.selectedAutoLoads clock = [] :=
        if_neg (by rw [← CentralState.budgetValid_eq, hvalid]; exact Bool.false_ne_true)
      rw [hselected, List.map_nil, List.sum_nil]
    | true =>
      have hsame : state.batteryMonitor.batteryConfiguration.minimumStateOfChargePercent = minimum :=
        hminimum globals clock hcycle hconfigured hvalid
      rw [← hsame] at hpositive hcharge
      exact CentralState.selected_power_eq_zero hpositive hcharge

/-- The configured minimum is enforced in a run just if no cycle computes a valid budget while the minimum
of its plan waits to be applied. The run starts with Central off and any configuration in its flash. -/
theorem minimum_state_of_charge_enforced (flash : CentralConfiguration) (events : List SetupEvent) (last : History) :
    Run EnforcedStep (.off flash) events last ↔ Run AppliedStep (.off flash) events last := by
  refine Run.congr (fun before event after htracked (hstep : EnforcedStep before event after) => ?_)
    (fun before event after htracked => enforcedStep_iff htracked event after) (tracked_off flash)
  rw [hstep.next]
  exact htracked.next event

/-- The flash and the sensor answer; nothing was persisted about the state of charge. -/
def answering : SetupAnswers := ⟨.succeeding, ⟨true, none⟩⟩

/-- A plan with a minimum of 20 % is configured before the battery is. -/
def planFirst : List SetupEvent :=
  [.reboot true answering.monitor, .configurePowerPlanning answering ⟨200, 20, 20, 0⟩]

/-- A plan with a minimum of 20 % is tested with simulation only, and Central restarts. -/
def simulationOnly : List SetupEvent :=
  [.reboot true answering.monitor, .enableSimulation answering.monitor, .applyAgain answering.monitor,
    .consoleConfigureBatterySetup answering ⟨10, 80, 12⟩, .configurePowerPlanning answering ⟨200, 20, 20, 0⟩,
    .applyAgain answering.monitor, .reboot true answering.monitor]

/-- From an empty flash, the next cycle gives power to AUTO loads although the state of charge is unknown. -/
theorem minimum_state_of_charge_not_enforced :
    (¬∃ last, Run EnforcedStep (.off .constructed)
      (planFirst ++ [.planningCycle CentralState.threeLoadPlant CentralState.noonClock]) last) ∧
    ¬∃ last, Run EnforcedStep (.off .constructed)
      (simulationOnly ++ [.planningCycle CentralState.threeLoadPlant CentralState.noonClock]) last := by
  refine ⟨?_, ?_⟩
  · rintro ⟨last, hrun⟩
    have hstep := hrun.step_of_snoc fun _ _ _ hstep => hstep.next
    have hpower := hstep.no_auto_power _ _ rfl (by decide +kernel) (by decide +kernel) (.inl (by decide +kernel))
    exact absurd hpower (by decide +kernel)
  · rintro ⟨last, hrun⟩
    have hstep := hrun.step_of_snoc fun _ _ _ hstep => hstep.next
    have hpower := hstep.no_auto_power _ _ rfl (by decide +kernel) (by decide +kernel) (.inl (by decide +kernel))
    exact absurd hpower (by decide +kernel)

end MinimumStateOfCharge

end kilowatts
