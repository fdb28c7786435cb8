import Kilowatts.Central.MinimumStateOfCharge
import Kilowatts.Central.RejectedConfigurations

namespace kilowatts

namespace BatterySensorConfiguration

variable (battery : BatterySensorConfiguration)

/-- Applying the configuration sets the state of charge anew: it has battery metadata, and a
source of measurements that answers. -/
def reloadsStateOfCharge (simulating hardwareReady : Bool) : Bool :=
  battery.batteryMetadataConfigured && battery.hasSource simulating && (simulating || hardwareReady)

/-- The state of charge that is then taken: the persisted one, or the initial one. -/
def reloadedStateOfCharge (persisted : Option Rat) : Rat :=
  (persisted.filter PowerManager.isValidPercent).getD battery.initialStateOfChargePercent

end BatterySensorConfiguration

namespace BatteryMonitor

variable (monitor : BatteryMonitor)

/-- Needs a clock and a battery that is accepted; the sensor decides the rest. -/
theorem initializeMonitor_succeeds (hardwareReady : Bool) {bus : BusConfiguration} (sensor : SensorConfiguration)
    {battery : BatteryConfiguration} (hclock : bus.clockSpeedHz ≠ 0) (hbattery : acceptsBattery battery = true) :
    (initializeMonitor hardwareReady monitor bus sensor battery).2 =
      ((monitor.simulationEnabled || acceptsSensor sensor) && (monitor.simulationEnabled || hardwareReady)) := by
  have hchecks : (bus.clockSpeedHz == 0 || !acceptsBattery battery) = false := by simp [hclock, hbattery]
  rw [initializeMonitor, hchecks, if_neg Bool.false_ne_true]
  cases monitor.simulationEnabled with
  | true => rfl
  | false =>
    cases acceptsSensor sensor with
    | false => rfl
    | true => cases hardwareReady <;> rfl

/-- Setting the monitor up keeps the state of charge. -/
theorem initializeMonitor_stateOfCharge (hardwareReady : Bool) (bus : BusConfiguration) (sensor : SensorConfiguration)
    (battery : BatteryConfiguration) :
    let after := (initializeMonitor hardwareReady monitor bus sensor battery).1
    after.stateOfChargePercent = monitor.stateOfChargePercent ∧
      after.isStateOfChargeValid = monitor.isStateOfChargeValid ∧
      after.simulationEnabled = monitor.simulationEnabled := by
  unfold initializeMonitor
  split
  · exact ⟨rfl, rfl, rfl⟩
  · split
    · exact ⟨rfl, rfl, rfl⟩
    · dsimp only
      split
      · exact ⟨rfl, rfl, rfl⟩
      · split <;> exact ⟨rfl, rfl, rfl⟩

/-- With a valid start the state of charge is set, to the persisted value if there is one. -/
theorem initializeStateOfCharge_of_valid {starting : Rat} (hstarting : PowerManager.isValidPercent starting = true)
    (persisted : Option Rat) :
    let after := (initializeStateOfCharge persisted starting true monitor).1
    after.stateOfChargePercent = (persisted.filter PowerManager.isValidPercent).getD starting ∧
      after.isStateOfChargeValid = true ∧ after.simulationEnabled = monitor.simulationEnabled := by
  simp only [initializeStateOfCharge, hstarting, Bool.not_true, Bool.false_eq_true, if_false, if_true]
  cases hpersisted : persisted.filter PowerManager.isValidPercent with
  | none => simp [PowerManager.isStateOfChargeValid, hstarting]
  | some value =>
    have hvalue := (Option.filter_eq_some_iff.mp hpersisted).2
    simp [PowerManager.isStateOfChargeValid, hvalue]

end BatteryMonitor

namespace MonitoredCentral

variable {central : MonitoredCentral} {answers : MonitorAnswers} {battery : BatterySensorConfiguration}

/-- What an application of a valid configuration makes of the state of charge. -/
structure ReloadsStateOfCharge (before : BatteryMonitor) (battery : BatterySensorConfiguration)
    (answers : MonitorAnswers) (after : BatteryMonitor) : Prop where
  percent : after.stateOfChargePercent =
    if battery.reloadsStateOfCharge before.simulationEnabled answers.hardwareReady then
      battery.reloadedStateOfCharge answers.persistedStateOfCharge
    else before.stateOfChargePercent
  valid : after.isStateOfChargeValid =
    (before.isStateOfChargeValid || battery.reloadsStateOfCharge before.simulationEnabled answers.hardwareReady)
  simulation : after.simulationEnabled = before.simulationEnabled

/-- A stored battery has a valid initial state of charge. -/
theorem initialStateOfCharge_isValidPercent (hbattery : battery.isValidBatterySensor = true)
    (hmetadata : battery.batteryMetadataConfigured = true) :
    PowerManager.isValidPercent battery.initialStateOfChargePercent = true := by
  simp only [BatterySensorConfiguration.isValidBatterySensor, hmetadata, Bool.not_true, Bool.false_or,
    Bool.and_eq_true] at hbattery
  exact hbattery.2.1.2

/-- Needs a valid battery and a valid plan; then only metadata and source decide whether the estimate is
set anew. -/
theorem applyBatteryConfiguration_stateOfCharge (answers : MonitorAnswers)
    (hbattery : battery.isValidBatterySensor = true)
    (hplanning : central.configuration.powerPlanning.isValidPowerPlanning = true) :
    ReloadsStateOfCharge central.batteryMonitor battery answers
      (central.applyBatteryConfiguration answers battery true).1.batteryMonitor := by
  have haccepts := acceptsBattery_batteryConfiguration hbattery (minimumToApply_isValidPercent hplanning)
  by_cases hsource : (!central.batteryMonitor.simulationEnabled && !battery.ina219Configured) = true
  · have hnone : battery.hasSource central.batteryMonitor.simulationEnabled = false := by
      simp only [Bool.and_eq_true, Bool.not_eq_true'] at hsource
      simp [BatterySensorConfiguration.hasSource, hsource]
    simp only [applyBatteryConfiguration, hbattery, hsource, Bool.not_true, Bool.false_eq_true, if_false, if_true]
    exact ⟨by simp [BatterySensorConfiguration.reloadsStateOfCharge, hnone],
      by simp [BatterySensorConfiguration.reloadsStateOfCharge, hnone], rfl⟩
  · obtain ⟨hpercent, hvalid, hsimulation⟩ := central.batteryMonitor.initializeMonitor_stateOfCharge
      answers.hardwareReady I2C_BUS battery.sensorConfiguration
      (battery.batteryConfiguration central.configuration.powerPlanning.minimumToApply)
    have hsucceeds := central.batteryMonitor.initializeMonitor_succeeds answers.hardwareReady
      battery.sensorConfiguration (by decide : I2C_BUS.clockSpeedHz ≠ 0) haccepts
    rw [← hasSource_eq hbattery hsource] at hsucceeds
    have hreloads : battery.reloadsStateOfCharge central.batteryMonitor.simulationEnabled answers.hardwareReady =
        (battery.batteryMetadataConfigured && _) :=
      (Bool.and_assoc _ _ _).trans (congrArg (battery.batteryMetadataConfigured && ·) hsucceeds.symm)
    simp only [applyBatteryConfiguration, hbattery, if_neg hsource, Bool.not_true, Bool.false_eq_true, if_false]
    generalize central.batteryMonitor.initializeMonitor answers.hardwareReady I2C_BUS battery.sensorConfiguration
      (battery.batteryConfiguration central.configuration.powerPlanning.minimumToApply) = result at *
    obtain ⟨monitor, initialized⟩ := result
    cases initialized with
    | false =>
      rw [Bool.and_false] at hreloads
      exact ⟨by simpa [hreloads] using hpercent, by simpa [hreloads] using hvalid, hsimulation⟩
    | true =>
      rw [Bool.and_true] at hreloads
      cases hmetadata : battery.batteryMetadataConfigured with
      | false =>
        rw [hmetadata] at hreloads
        exact ⟨by simpa [hreloads] using hpercent, by simpa [hreloads] using hvalid, hsimulation⟩
      | true =>
        rw [hmetadata] at hreloads
        obtain ⟨hreloaded, hreloadedValid, hkept⟩ := monitor.initializeStateOfCharge_of_valid
          (initialStateOfCharge_isValidPercent hbattery hmetadata) answers.persistedStateOfCharge
        refine ⟨?_, ?_, hkept.trans hsimulation⟩
        · rw [if_pos hreloads]
          exact hreloaded
        · rw [hreloads, Bool.or_true]
          exact hreloadedValid

end MonitoredCentral

/-- A power-planning command, with the entry point that it comes in by. -/
inductive PlanCommand where
  | mqtt (request : PowerPlanningCommandRequest)
  | console (request : PowerPlanningCommandRequest)
deriving DecidableEq

namespace PlanCommand

/-- Both entry points have `consoleConfigurePowerPlanningValidated` for a handler. -/
def setup : PlanCommand → SetupCommand
  | .mqtt request => .consoleConfigurePowerPlanningValidated request
  | .console request => .consoleConfigurePowerPlanningValidated request

def request : PlanCommand → PowerPlanningCommandRequest
  | .mqtt request => request
  | .console request => request

end PlanCommand

namespace SensedCentral

variable (answers : SetupCommandAnswers) (central : SensedCentral)

/-- `CONFIGURE_POWER_PLANNING` itself hands the battery and the minimum of its plan to the monitor. -/
def takesPlan : Bool :=
  let battery := central.configuration.batterySensor
  (battery.ina219Configured || battery.batteryMetadataConfigured) &&
    battery.hasSource central.batteryMonitor.simulationEnabled

/-- What `CONFIGURE_POWER_PLANNING` itself sets the state of charge to, if it does. -/
def planReloads : Option Rat :=
  let battery := central.configuration.batterySensor
  if battery.reloadsStateOfCharge central.batteryMonitor.simulationEnabled answers.setup.monitor.hardwareReady then
    some (battery.reloadedStateOfCharge answers.setup.monitor.persistedStateOfCharge)
  else none

/-- While simulating, the validated command applies the battery configuration once more. -/
def appliesPlanAgain : Bool := central.batteryMonitor.simulationEnabled && answers.takenAgain

/-- Once accepted, the validated command hands the battery and the minimum of its plan to the
monitor. -/
def takesValidatedPlan : Bool := central.takesPlan || central.appliesPlanAgain answers

/-- What the application in an accepted validated command sets the state of charge to, if it does.
The second application reads the flash anew. -/
def validatedPlanReloads : Option Rat :=
  let battery := central.configuration.batterySensor
  if battery.reloadsStateOfCharge central.batteryMonitor.simulationEnabled answers.setup.monitor.hardwareReady then
    some (battery.reloadedStateOfCharge (if central.appliesPlanAgain answers
      then answers.monitorAgain.persistedStateOfCharge else answers.setup.monitor.persistedStateOfCharge))
  else none

end SensedCentral

/-- What an accepted plan makes of Central: `applied` tells whether the monitor took over the
battery and the minimum, and `reloaded` is the state of charge that it set anew. -/
structure PlanTaken (central : SensedCentral) (plan : PowerPlanningConfiguration) (applied : Bool)
    (reloaded : Option Rat) (after : SensedCentral) : Prop where
  configuration : after.configuration = { central.configuration with powerPlanning := plan }
  reference : after.runtimeTargetReference = central.runtimeTargetReference
  battery : after.batteryMonitor.batteryConfiguration =
    if applied then central.configuration.batterySensor.batteryConfiguration plan.minimumToApply
    else central.batteryMonitor.batteryConfiguration
  percent : after.batteryMonitor.stateOfChargePercent = reloaded.getD central.batteryMonitor.stateOfChargePercent
  valid : after.batteryMonitor.isStateOfChargeValid =
    (central.batteryMonitor.isStateOfChargeValid || reloaded.isSome)
  simulation : after.batteryMonitor.simulationEnabled = central.batteryMonitor.simulationEnabled

namespace SensedCentral

/-- Applying a battery does not restart the countdown. -/
theorem applyBattery_runtimeTargetReference (answers : MonitorAnswers) (battery : BatterySensorConfiguration)
    (restore : Bool) (central : SensedCentral) :
    (central.applyBattery answers battery restore).1.runtimeTargetReference = central.runtimeTargetReference := by
  change (central.toMonitoredCentral.applyBatteryConfiguration answers battery restore).1.runtimeTargetReference = _
  unfold MonitoredCentral.applyBatteryConfiguration
  split
  · rfl
  · split
    · rfl
    · dsimp only
      split
      · rfl
      · split <;> rfl

end SensedCentral

namespace PlanTaken

variable {central after : SensedCentral} {plan : PowerPlanningConfiguration} {applied : Bool} {reloaded : Option Rat}

/-- The configuration of the battery is applied on top. -/
theorem apply (htaken : PlanTaken central plan applied reloaded after) (hvalid : after.configuration.isValid = true)
    (answers : MonitorAnswers) :
    PlanTaken central plan
      (applied || central.configuration.batterySensor.hasSource central.batteryMonitor.simulationEnabled)
      (if central.configuration.batterySensor.reloadsStateOfCharge central.batteryMonitor.simulationEnabled
          answers.hardwareReady then
        some (central.configuration.batterySensor.reloadedStateOfCharge answers.persistedStateOfCharge)
      else reloaded)
      (after.applyBattery answers after.configuration.batterySensor true).1 := by
  have hbattery : after.configuration.batterySensor = central.configuration.batterySensor := by
    rw [htaken.configuration]
  have hplanning : after.configuration.powerPlanning = plan := by rw [htaken.configuration]
  obtain ⟨hbatteryValid, hplanningValid⟩ := Bool.and_eq_true_iff.mp hvalid
  have hcharge := MonitoredCentral.applyBatteryConfiguration_stateOfCharge answers hbatteryValid
    hplanningValid
  have hmonitor := MonitoredCentral.applyBatteryConfiguration_battery answers hbatteryValid
    hplanningValid true
  refine ⟨?_, ?_, ?_, ?_, ?_, ?_⟩
  · exact (SensedCentral.applyBattery_configuration _ _ _ _).trans htaken.configuration
  · exact (SensedCentral.applyBattery_runtimeTargetReference _ _ _ _).trans htaken.reference
  · refine hmonitor.trans ?_
    rw [hbattery, hplanning, htaken.simulation, htaken.battery]
    cases applied with
    | false => rfl
    | true => simp
  · refine hcharge.percent.trans ?_
    rw [hbattery, htaken.simulation, htaken.percent]
    split <;> rfl
  · refine hcharge.valid.trans ?_
    rw [hbattery, htaken.simulation, htaken.valid, Bool.or_assoc]
    congr 1
    split
    · next hreloads => rw [hreloads, Bool.or_true, Option.isSome_some]
    · next hreloads => rw [Bool.not_eq_true] at hreloads; rw [hreloads, Bool.or_false]
  · exact hcharge.simulation.trans htaken.simulation

theorem invalidateReading (htaken : PlanTaken central plan applied reloaded after) :
    PlanTaken central plan applied reloaded after.invalidateReading :=
  ⟨htaken.configuration, htaken.reference, htaken.battery, htaken.percent, htaken.valid, htaken.simulation⟩

end PlanTaken

namespace SensedCentral

variable {answers : SetupCommandAnswers} {central : SensedCentral}

/-- An accepted command has persisted its plan, which makes the configuration valid. -/
theorem configurePowerPlanningCommand_accepted {nodeMacAddress : MacAddress}
    {request : Option PowerPlanningCommandRequest}
    (haccepted : (central.configurePowerPlanningCommand answers nodeMacAddress request).2.accepted = true) :
    ∃ plan : PowerPlanningRequest, request.bind PowerPlanningCommandRequest.exact = some plan ∧
      plan.plan.isValidPowerPlanning = true ∧
      let stored := central.withStore (CentralConfiguration.storePowerPlanning answers.setup.flash plan.plan
        central.centralConfigurationStore).1
      stored.configuration = { central.configuration with powerPlanning := plan.plan } ∧
      stored.configuration.isValid = true ∧
      (central.configurePowerPlanningCommand answers nodeMacAddress request).1 =
        if stored.configuration.batterySensor.ina219Configured ||
            stored.configuration.batterySensor.batteryMetadataConfigured then
          (stored.applyBattery answers.setup.monitor stored.configuration.batterySensor true).1.invalidateReading
        else stored := by
  unfold configurePowerPlanningCommand at haccepted ⊢
  cases request with
  | none => exact absurd haccepted Bool.false_ne_true
  | some request =>
    by_cases hmac : nodeMacAddress = answers.localMac
    · cases hexact : request.exact with
      | none => simp [hmac, hexact, refuse] at haccepted
      | some plan =>
        cases hvalid : plan.plan.isValidPowerPlanning with
        | false => simp [hmac, hexact, hvalid, refuse] at haccepted
        | true =>
          cases htaken : answers.stateTaken with
          | false => simp [hmac, hexact, hvalid, htaken, refuse] at haccepted
          | true =>
            obtain ⟨hmemory, hstored⟩ := CentralConfiguration.storePowerPlanning_of_valid answers.setup.flash
              central.centralConfigurationStore hvalid
            cases hresult : (CentralConfiguration.storePowerPlanning answers.setup.flash plan.plan
              central.centralConfigurationStore).2 with
            | false => simp [hmac, hexact, hvalid, htaken, hresult, refuse] at haccepted
            | true =>
              have hpersisted := (Bool.and_eq_true_iff.mp (hstored.symm.trans hresult)).1
              refine ⟨plan, hexact, hvalid, hmemory, ?_, ?_⟩
              · exact (congrArg CentralConfiguration.isValid hmemory).trans hpersisted
              · simp [hmac, hexact, hvalid, hresult, complete]
    · simp [hmac, refuse] at haccepted

/-- What an accepted plan leaves behind, without the check of the runtime in front of it. -/
theorem configurePowerPlanningCommand_taken {nodeMacAddress : MacAddress}
    {request : Option PowerPlanningCommandRequest}
    (haccepted : (central.configurePowerPlanningCommand answers nodeMacAddress request).2.accepted = true) :
    ∃ plan : PowerPlanningRequest, request.bind PowerPlanningCommandRequest.exact = some plan ∧
      plan.plan.isValidPowerPlanning = true ∧
      (central.configurePowerPlanningCommand answers nodeMacAddress request).1.configuration.isValid = true ∧
      PlanTaken central plan.plan central.takesPlan (central.planReloads answers)
        (central.configurePowerPlanningCommand answers nodeMacAddress request).1 := by
  obtain ⟨plan, hrequest, hplanning, hconfiguration, hvalid, hafter⟩ := configurePowerPlanningCommand_accepted haccepted
  refine ⟨plan, hrequest, hplanning, ?_, ?_⟩
  · rw [hafter]
    split
    · rw [invalidateReading_configuration, applyBattery_configuration]
      exact hvalid
    · exact hvalid
  · have hstored : PlanTaken central plan.plan false none (central.withStore
        (CentralConfiguration.storePowerPlanning answers.setup.flash plan.plan
          central.centralConfigurationStore).1) :=
      ⟨hconfiguration, rfl, rfl, rfl, (Bool.or_false _).symm, rfl⟩
    have happly := (hstored.apply hvalid answers.setup.monitor).invalidateReading
    rw [hafter]
    have hbattery : (central.withStore (CentralConfiguration.storePowerPlanning answers.setup.flash plan.plan
        central.centralConfigurationStore).1).configuration.batterySensor = central.configuration.batterySensor := by
      rw [hconfiguration]
    rw [hbattery] at happly ⊢
    split
    · next hattempted =>
      simpa [takesPlan, planReloads, hattempted] using happly
    · next hattempted =>
      simp only [Bool.or_eq_true, not_or, Bool.not_eq_true] at hattempted
      simpa [takesPlan, planReloads, hattempted, BatterySensorConfiguration.reloadsStateOfCharge] using hstored

/-- The console command behind its check: the command itself, and an application on top while simulating. -/
theorem consoleConfigurePowerPlanningValidated_accepted {request : PowerPlanningCommandRequest}
    (haccepted : (central.consoleConfigurePowerPlanningValidated answers request).2.accepted = true) :
    central.runtimeCheck request = none ∧
      let outcome := central.configurePowerPlanningCommand answers answers.localMac (some request)
      outcome.2.accepted = true ∧ (central.consoleConfigurePowerPlanningValidated answers request).1 =
        if outcome.1.batteryMonitor.simulationEnabled && answers.takenAgain then
          (outcome.1.applyBattery answers.monitorAgain outcome.1.configuration.batterySensor true).1
        else outcome.1 := by
  unfold consoleConfigurePowerPlanningValidated at haccepted ⊢
  cases hcheck : central.runtimeCheck request with
  | some reason =>
    rw [hcheck] at haccepted
    exact absurd haccepted Bool.false_ne_true
  | none =>
    rw [hcheck] at haccepted
    dsimp only at haccepted ⊢
    cases hcommand : (central.configurePowerPlanningCommand answers answers.localMac (some request)).2.accepted with
    | false => simp [hcommand] at haccepted
    | true =>
      refine ⟨rfl, rfl, ?_⟩
      cases (central.configurePowerPlanningCommand answers answers.localMac
        (some request)).1.batteryMonitor.simulationEnabled with
      | false => rfl
      | true => cases answers.takenAgain <;> rfl

/-- What an accepted plan leaves behind at both entry points, with the second application in a
simulation. -/
theorem consoleConfigurePowerPlanningValidated_taken {request : PowerPlanningCommandRequest}
    (haccepted : (central.consoleConfigurePowerPlanningValidated answers request).2.accepted = true) :
    ∃ plan, request.exact = some plan ∧ plan.plan.isValidPowerPlanning = true ∧
      PlanTaken central plan.plan (central.takesValidatedPlan answers) (central.validatedPlanReloads answers)
        (central.consoleConfigurePowerPlanningValidated answers request).1 := by
  obtain ⟨-, hcommand, hafter⟩ := consoleConfigurePowerPlanningValidated_accepted haccepted
  obtain ⟨plan, hrequest, hplanning, hvalid, htaken⟩ := configurePowerPlanningCommand_taken hcommand
  refine ⟨plan, hrequest, hplanning, ?_⟩
  have happly := htaken.apply hvalid answers.monitorAgain
  rw [hafter, htaken.simulation]
  split
  · next hagain =>
    obtain ⟨hsimulating, htakenAgain⟩ := Bool.and_eq_true_iff.mp hagain
    simp only [takesValidatedPlan, validatedPlanReloads, takesPlan, planReloads, appliesPlanAgain,
      BatterySensorConfiguration.reloadsStateOfCharge, BatterySensorConfiguration.hasSource, hsimulating,
      htakenAgain, Bool.true_or, Bool.and_true, Bool.or_true, if_true] at happly ⊢
    cases hmetadata : central.configuration.batterySensor.batteryMetadataConfigured with
    | false => simpa [hmetadata] using happly
    | true => simpa [hmetadata] using happly
  · next hagain => simpa [takesValidatedPlan, validatedPlanReloads, planReloads, appliesPlanAgain, hagain] using htaken

/-- Both entry points run the same handler. -/
theorem handleSetup_planCommand (command : PlanCommand) :
    central.handleSetup answers command.setup =
      central.consoleConfigurePowerPlanningValidated answers command.request := by
  cases command <;> rfl

end SensedCentral

namespace PowerManager

variable {manager : PowerManager}

/-- The four refusals of the update, the other way round. -/
theorem updatePowerBudget_success_iff : manager.updatePowerBudget.2 = true ↔
    manager.budgetInputsValid = true ∧
      (manager.stateOfChargeRequired = true → manager.isStateOfChargeValid = true) ∧
      (manager.runtimeBudgetActive = true → manager.batteryMetadataUsable = true) ∧
      (manager.runtimeBudgetActive = true → manager.runtimeAllowanceFinite = true) := by
  constructor
  · intro hsuccess
    obtain ⟨hinputs, hcharge, hmetadata, hfinite, -⟩ := updatePowerBudget_of_success hsuccess
    exact ⟨hinputs, hcharge, hmetadata, hfinite⟩
  · rintro ⟨hinputs, hcharge, hmetadata, hfinite⟩
    exact updatePowerBudget_success hinputs hcharge hmetadata hfinite

end PowerManager

/-- The remaining hours are never negative. -/
theorem computeRemainingRequiredRuntimeHours_nonneg (reference : RuntimeTargetReference) (hours : Rat)
    (currentTimeValid : Bool) (epochSeconds : Int) :
    0 ≤ (computeRemainingRequiredRuntimeHours reference hours currentTimeValid epochSeconds).1 := by
  unfold computeRemainingRequiredRuntimeHours
  split
  · exact le_refl 0
  · next hpositive =>
    split
    · exact (lt_of_not_ge hpositive).le
    · have hclamped : ∀ remaining : Rat, 0 ≤ if 0 < remaining then remaining else 0 := by
        intro remaining
        split
        · next hremaining => exact hremaining.le
        · exact le_refl 0
      exact hclamped _

/-- Time remains only of a positive target. -/
theorem hours_pos_of_remaining {reference : RuntimeTargetReference} {hours : Rat} {currentTimeValid : Bool}
    {epochSeconds : Int}
    (hremaining : 0 < (computeRemainingRequiredRuntimeHours reference hours currentTimeValid epochSeconds).1) :
    0 < hours := by
  by_contra hnot
  rw [computeRemainingRequiredRuntimeHours, if_pos (not_lt.mp hnot)] at hremaining
  exact lt_irrefl _ hremaining

namespace CentralState

open Central

variable {state : CentralState} {clock : CycleClock}

/-- Without a refusal in front of it, the update is that of the prepared monitor. -/
theorem firstBudgetUpdate_of_ready
    (hready : (state.configuration.powerPlanning.configured && state.runtimeInputsReady) = true)
    (hinputs : (state.preparedMonitor clock).budgetInputsValid = true) :
    state.firstBudgetUpdate clock = (state.preparedMonitor clock).updatePowerBudget := by
  have hhours : 0 ≤ (state.remainingRequiredRuntime clock).1 := computeRemainingRequiredRuntimeHours_nonneg _ _ _ _
  simp only [PowerManager.budgetInputsValid, preparedMonitor, PowerManager.prepared, Bool.and_eq_true] at hinputs
  obtain ⟨⟨⟨⟨⟨hbudget, hreserve⟩, hfixed⟩, -⟩, -⟩, -⟩ := hinputs
  have hnext : ∀ before next, andAlso (before, true) next = next before := fun _ _ => rfl
  rw [firstBudgetUpdate, hready, hnext, PowerManager.setPowerBudgetWatts, if_pos (of_decide_eq_true hbudget), hnext,
    PowerManager.setPowerReserveWatts, if_pos (of_decide_eq_true hreserve), hnext,
    PowerManager.setFixedPowerWatts, if_pos (of_decide_eq_true hfixed), hnext,
    PowerManager.setAutoPowerWatts, if_pos (le_refl 0), hnext, PowerManager.setRemainingRequiredRuntimeHours,
    if_pos hhours, hnext]
  rfl

/-- A cycle has a valid budget just if the plan is ready and the update succeeds. -/
theorem firstBudgetUpdate_success_iff : (state.firstBudgetUpdate clock).2 = true ↔
    (state.configuration.powerPlanning.configured && state.runtimeInputsReady) = true ∧
      (state.preparedMonitor clock).updatePowerBudget.2 = true := by
  constructor
  · intro hsuccess
    refine ⟨?_, (state.firstBudgetUpdate_of_success clock hsuccess).1⟩
    by_contra hnot
    rw [Bool.not_eq_true] at hnot
    simp [firstBudgetUpdate, andAlso, hnot] at hsuccess
  · rintro ⟨hready, hupdate⟩
    rw [firstBudgetUpdate_of_ready hready (PowerManager.updatePowerBudget_success_iff.mp hupdate).1]
    exact hupdate

end CentralState

namespace PlanTaken

variable {central after : SensedCentral} {plan : PowerPlanningRequest} {applied : Bool} {reloaded : Option Rat}

/-- What a cycle after an accepted plan needs of the monitor. -/
theorem budgetValid_iff (htaken : PlanTaken central plan.plan applied reloaded after)
    (hplanning : plan.plan.isValidPowerPlanning = true) {globals : CentralState} {clock : CycleClock}
    (hfixed : 0 ≤ (central.cycleState globals).fixedPowerWatts clock) :
    let monitor := after.batteryMonitor
    let remaining := (computeRemainingRequiredRuntimeHours central.runtimeTargetReference
      plan.requiredRuntimeHours clock.currentTimeValid clock.epochSeconds).1
    ((after.cycleState globals).planningSnapshot clock).budgetValid = true ↔
      (0 < plan.requiredRuntimeHours → central.configuration.batterySensor.batteryMetadataConfigured = true ∧
        monitor.isStateOfChargeValid = true) ∧
      PowerManager.isValidPercent monitor.batteryConfiguration.minimumStateOfChargePercent = true ∧
      (0 < monitor.batteryConfiguration.minimumStateOfChargePercent ∨ 0 < remaining →
        monitor.isStateOfChargeValid = true) ∧
      (0 < remaining → monitor.batteryMetadataUsable = true) ∧
      (0 < remaining → (PowerManager.roundedRuntimeAllowanceWatts monitor.batteryConfiguration
        monitor.stateOfChargePercent remaining).isSome = true) := by
  intro monitor remaining
  have hremaining : ((after.cycleState globals).remainingRequiredRuntime clock).1 = remaining := by
    change (computeRemainingRequiredRuntimeHours after.runtimeTargetReference
      after.configuration.powerPlanning.requiredRuntimeHours clock.currentTimeValid clock.epochSeconds).1 = _
    rw [htaken.reference, htaken.configuration]
    rfl
  simp only [PowerPlanningConfiguration.isValidPowerPlanning, PowerPlanningRequest.plan, Bool.not_true, Bool.false_or,
    Bool.and_eq_true] at hplanning
  obtain ⟨⟨⟨⟨hbudget, hreserve⟩, hwithin⟩, -⟩, -⟩ := hplanning
  have hinputs : ((after.cycleState globals).preparedMonitor clock).budgetInputsValid =
      PowerManager.isValidPercent monitor.batteryConfiguration.minimumStateOfChargePercent := by
    have hunfolded : ((after.cycleState globals).preparedMonitor clock).budgetInputsValid =
        (0 < after.configuration.powerPlanning.P_budget && 0 ≤ after.configuration.powerPlanning.P_reserve &&
          0 ≤ (central.cycleState globals).fixedPowerWatts clock && 0 ≤ (0 : Rat) &&
          after.configuration.powerPlanning.P_reserve ≤ after.configuration.powerPlanning.P_budget &&
          PowerManager.isValidPercent monitor.batteryConfiguration.minimumStateOfChargePercent) := rfl
    rw [hunfolded, htaken.configuration]
    simp [PowerPlanningRequest.plan, hbudget, hreserve, hwithin, hfixed]
  have hready : (after.configuration.powerPlanning.configured && (after.cycleState globals).runtimeInputsReady) =
      (!(0 < plan.requiredRuntimeHours) || (central.configuration.batterySensor.batteryMetadataConfigured &&
        monitor.isStateOfChargeValid)) := by
    have hunfolded : (after.cycleState globals).runtimeInputsReady =
        (!(0 < after.configuration.powerPlanning.requiredRuntimeHours) ||
          (after.configuration.batterySensor.batteryMetadataConfigured && monitor.isStateOfChargeValid)) := rfl
    rw [hunfolded, htaken.configuration]
    rfl
  rw [CentralState.budgetValid_eq, CentralState.firstBudgetUpdate_success_iff,
    PowerManager.updatePowerBudget_success_iff, hinputs]
  refine and_congr ?_ (and_congr_right fun _ => and_congr ?_ (and_congr ?_ ?_))
  · rw [show ((after.cycleState globals).configuration.powerPlanning.configured &&
      (after.cycleState globals).runtimeInputsReady) = _ from hready]
    simp [imp_iff_not_or]
  · rw [PowerManager.stateOfChargeRequired, Bool.or_eq_true, decide_eq_true_eq, PowerManager.runtimeBudgetActive,
      decide_eq_true_eq, ← hremaining]
    rfl
  · rw [PowerManager.runtimeBudgetActive, decide_eq_true_eq, ← hremaining]
    rfl
  · rw [PowerManager.runtimeBudgetActive, decide_eq_true_eq, ← hremaining]
    rfl

end PlanTaken

namespace PlanChange

open SensedCentral

/-- What the command would set the state of charge to is what it is. -/
def KeepsEstimate (answers : SetupCommandAnswers) (central : SensedCentral) : Prop :=
  ∀ reloaded, central.validatedPlanReloads answers = some reloaded →
    reloaded = central.batteryMonitor.stateOfChargePercent

/-- A plan keeps the estimate exactly if the command sets no state of charge anew, or sets what it was.
Needs only that the command is accepted: it may come in by either entry point, and the estimate need not be
valid. -/
theorem plan_change_keeps_estimate (answers : SetupCommandAnswers) (central : SensedCentral) (command : PlanCommand)
    (haccepted : (central.handleSetup answers command.setup).2.accepted = true) :
    (central.handleSetup answers command.setup).1.batteryMonitor.stateOfChargePercent =
      central.batteryMonitor.stateOfChargePercent ↔ KeepsEstimate answers central := by
  rw [handleSetup_planCommand] at haccepted ⊢
  obtain ⟨plan, -, -, htaken⟩ := consoleConfigurePowerPlanningValidated_taken haccepted
  rw [htaken.percent, KeepsEstimate]
  cases central.validatedPlanReloads answers with
  | none => simp
  | some reloaded => simp

/-- Everything answers, and `persisted` is the state of charge that the flash holds. -/
def answering (persisted : Option Rat) : SetupCommandAnswers where
  localMac := Vector.replicate 6 2
  stateTaken := true
  setup := ⟨.succeeding, ⟨true, persisted⟩⟩
  takenAgain := true
  monitorAgain := ⟨true, persisted⟩

/-- The plan of 200 W with 20 W in reserve, a minimum of 20 % and 4 hours. -/
def fourHours : PowerPlanningCommandRequest := ⟨.finite 200, .finite 20, .finite 20, .finite 4⟩

/-- A simulated battery of 300 Ah at 15 V, with its state of charge set to 100 %. -/
def fullBattery : SensedCentral :=
  let central := (RejectedConfigurations.booted.handleSetup (answering (some 70))
    (.consoleConfigureBatterySetup ⟨.finite 300, .finite 100, .finite 15⟩)).1
  { central with toMonitoredCentral :=
      (central.toMonitoredCentral.enableSimulation ⟨true, some 70⟩).setSimulationValues (some (15, 1)) (some 100) }

/-- Nothing is persisted, and the initial value is the estimate. -/
theorem plan_change_keeps_estimate_fullBattery :
    (fullBattery.handleSetup (answering none) (PlanCommand.mqtt fourHours).setup
      ).1.batteryMonitor.stateOfChargePercent = 100 := by
  refine (plan_change_keeps_estimate (answering none) fullBattery (.mqtt fourHours) (by decide +kernel)).mpr ?_
  intro reloaded hreloads
  have hinitial : fullBattery.validatedPlanReloads (answering none) = some 100 := by decide +kernel
  exact (Option.some.inj (hreloads.symm.trans hinitial)).trans (by decide +kernel)

/-- From either entry point, the plan brings back the 70 % that were persisted before. -/
theorem plan_change_moves_estimate :
    fullBattery.batteryMonitor.isStateOfChargeValid = true ∧ fullBattery.batteryMonitor.stateOfChargePercent = 100 ∧
      ∀ command ∈ [PlanCommand.mqtt fourHours, .console fourHours],
        (fullBattery.handleSetup (answering (some 70)) command.setup).2.accepted = true ∧
          (fullBattery.handleSetup (answering (some 70)) command.setup).1.batteryMonitor.stateOfChargePercent = 70 := by
  decide +kernel

/-- A runtime passes the check of the console with battery metadata and a known state of charge only. -/
theorem runtimeCheck_of_none {central : SensedCentral} {request : PowerPlanningCommandRequest}
    {plan : PowerPlanningRequest} (hcheck : central.runtimeCheck request = none) (hexact : request.exact = some plan)
    (hruntime : 0 < plan.requiredRuntimeHours) :
    (central.configuration.batterySensor.batteryMetadataConfigured = true ∧
      0 < central.configuration.batterySensor.batteryCapacityAmpHours ∧
      0 < central.configuration.batterySensor.nominalVoltageVolts) ∧
      central.batteryMonitor.isStateOfChargeValid = true := by
  have hhours : request.requiredRuntimeHours.exact = some plan.requiredRuntimeHours := by
    simp only [PowerPlanningCommandRequest.exact, Option.bind_eq_bind, Option.bind_eq_some_iff] at hexact
    obtain ⟨P_budget, -, P_reserve, -, minimum, -, hours, hhours, hplan⟩ := hexact
    obtain rfl := Option.some.inj hplan
    exact hhours
  simp only [runtimeCheck, hhours, if_neg (not_le.mpr hruntime)] at hcheck
  split at hcheck
  · cases hcheck
  · next hbattery =>
    split at hcheck
    · cases hcheck
    · next hcharge => exact ⟨by simpa [and_assoc] using hbattery, by simpa using hcharge⟩

/-- If the command hands its plan to the monitor, the state of charge must be known, or set by
it, for a positive minimum. If it does not, the monitor must know the battery itself while the
runtime of the plan has not passed. In both cases the allowance of the runtime that is left must
not overflow. -/
def KeepsBudgetValid (answers : SetupCommandAnswers) (central : SensedCentral) (clock : CycleClock)
    (request : PowerPlanningCommandRequest) : Prop :=
  ∀ plan, request.exact = some plan →
    let remaining := (computeRemainingRequiredRuntimeHours central.runtimeTargetReference plan.requiredRuntimeHours
      clock.currentTimeValid clock.epochSeconds).1
    let stateOfChargePercent :=
      (central.validatedPlanReloads answers).getD central.batteryMonitor.stateOfChargePercent
    if central.takesValidatedPlan answers then
      (0 < plan.minimumStateOfChargePercent →
        central.batteryMonitor.isStateOfChargeValid = true ∨ (central.validatedPlanReloads answers).isSome = true) ∧
        (0 < remaining → (PowerManager.roundedRuntimeAllowanceWatts
          (central.configuration.batterySensor.batteryConfiguration plan.minimumStateOfChargePercent)
          stateOfChargePercent remaining).isSome = true)
    else
      0 < remaining →
        central.batteryMonitor.batteryMetadataUsable = true ∧
          (PowerManager.roundedRuntimeAllowanceWatts central.batteryMonitor.batteryConfiguration
            stateOfChargePercent remaining).isSome = true

/-- After the command the next cycle has a valid budget exactly if `KeepsBudgetValid` holds of the state
before. Needs a cycle with a valid budget before, and that the command is accepted. -/
theorem accepted_plan_keeps_budget_valid (answers : SetupCommandAnswers) (central : SensedCentral)
    (globals : CentralState) (clock : CycleClock) (request : PowerPlanningCommandRequest)
    (hbudget : ((central.cycleState globals).planningSnapshot clock).budgetValid = true)
    (haccepted : (central.consoleConfigurePowerPlanningValidated answers request).2.accepted = true) :
    (((central.consoleConfigurePowerPlanningValidated answers request).1.cycleState globals).planningSnapshot
      clock).budgetValid = true ↔ KeepsBudgetValid answers central clock request := by
  obtain ⟨plan, hexact, hplanning, htaken⟩ := consoleConfigurePowerPlanningValidated_taken haccepted
  obtain ⟨hcheck, -⟩ := consoleConfigurePowerPlanningValidated_accepted haccepted
  have hruntime := runtimeCheck_of_none hcheck hexact
  rw [CentralState.budgetValid_eq, CentralState.firstBudgetUpdate_success_iff,
    PowerManager.updatePowerBudget_success_iff] at hbudget
  obtain ⟨-, hinputs, hcharge, -⟩ := hbudget
  simp only [PowerManager.budgetInputsValid, Bool.and_eq_true] at hinputs
  obtain ⟨⟨⟨⟨-, hfixed⟩, -⟩, -⟩, hminimum⟩ := hinputs
  have hknown : 0 < central.batteryMonitor.batteryConfiguration.minimumStateOfChargePercent →
      central.batteryMonitor.isStateOfChargeValid = true := by
    intro hpositive
    refine hcharge ?_
    rw [PowerManager.stateOfChargeRequired, Bool.or_eq_true, decide_eq_true_eq]
    exact .inl hpositive
  have hready : 0 < plan.requiredRuntimeHours →
      central.configuration.batterySensor.batteryMetadataConfigured = true ∧
        (central.batteryMonitor.isStateOfChargeValid || (central.validatedPlanReloads answers).isSome) = true :=
    fun hhours => ⟨(hruntime hhours).1.1, by rw [(hruntime hhours).2, Bool.true_or]⟩
  refine (htaken.budgetValid_iff hplanning (of_decide_eq_true hfixed)).trans ?_
  simp only [KeepsBudgetValid, hexact, Option.some.injEq, forall_eq']
  rw [htaken.valid, htaken.percent, PowerManager.batteryMetadataUsable, htaken.battery]
  by_cases happlied : central.takesValidatedPlan answers = true
  · rw [if_pos happlied, if_pos happlied]
    have hpercent : PowerManager.isValidPercent plan.plan.minimumToApply = true :=
      MonitoredCentral.minimumToApply_isValidPercent hplanning
    constructor
    · rintro ⟨-, -, hneeded, -, hfinite⟩
      exact ⟨fun hpositive => Bool.or_eq_true_iff.mp (hneeded (.inl hpositive)), hfinite⟩
    · rintro ⟨hkeeps, hfinite⟩
      refine ⟨hready, hpercent, ?_, ?_, hfinite⟩
      · rintro (hpositive | hremaining)
        · exact Bool.or_eq_true_iff.mpr (hkeeps hpositive)
        · exact (hready (hours_pos_of_remaining hremaining)).2
      · intro hremaining
        obtain ⟨hmetadata, hcapacity, hvoltage⟩ := (hruntime (hours_pos_of_remaining hremaining)).1
        simp [BatterySensorConfiguration.batteryConfiguration, hmetadata, hcapacity, hvoltage]
  · rw [if_neg happlied, if_neg happlied]
    constructor
    · rintro ⟨-, -, -, husable, hfinite⟩ hremaining
      exact ⟨husable hremaining, hfinite hremaining⟩
    · intro hkeeps
      refine ⟨hready, hminimum, ?_, fun hremaining => (hkeeps hremaining).1, fun hremaining => (hkeeps hremaining).2⟩
      rintro (hpositive | hremaining)
      · rw [hknown hpositive, Bool.true_or]
      · exact (hready (hours_pos_of_remaining hremaining)).2

/-- A plan of 200 W with a minimum and a runtime of zero works without a state of charge. -/
def withoutMinimum : PowerPlanningCommandRequest := ⟨.finite 200, .finite 20, .finite 0, .finite 0⟩

/-- An INA219 is configured for 3 A with `0.1F` of shunt resistance, the battery is not. -/
def sensorOnly : SensedCentral :=
  let central := (RejectedConfigurations.booted.handleSetup (answering none)
    (.consoleConfigureIna219 ⟨.finite (13421773 / 2 ^ 27), .finite 3, .finite (13421773 / 2 ^ 26)⟩)).1
  (central.handleSetup (answering none) (.consoleConfigurePowerPlanningValidated withoutMinimum)).1

/-- A simulated state of charge outlives the simulation, and the battery is configured after it. -/
def afterSimulation : SensedCentral :=
  let simulated := ((RejectedConfigurations.booted.toMonitoredCentral.enableSimulation
    ⟨true, none⟩).setSimulationValues none (some 80)).disableSimulation ⟨true, none⟩
  let central := ({ RejectedConfigurations.booted with toMonitoredCentral := simulated }.handleSetup (answering none)
    (.consoleConfigureBatterySetup ⟨.finite 300, .finite 100, .finite 15⟩)).1
  (central.handleSetup (answering none) (.consoleConfigurePowerPlanningValidated withoutMinimum)).1

/-- The same plan again leaves the budget valid. -/
theorem accepted_plan_keeps_budget_valid_fullBattery :
    ((((fullBattery.consoleConfigurePowerPlanningValidated (answering none) fourHours
      ).1.consoleConfigurePowerPlanningValidated (answering none) fourHours).1.cycleState
      CentralState.threeLoadPlant).planningSnapshot CentralState.noonClock).budgetValid = true := by
  refine (accepted_plan_keeps_budget_valid (answering none)
    (fullBattery.consoleConfigurePowerPlanningValidated (answering none) fourHours).1 CentralState.threeLoadPlant
    CentralState.noonClock fourHours (by decide +kernel) (by decide +kernel)).mpr ?_
  intro plan hexact
  obtain rfl := Option.some.inj hexact
  rw [if_pos (by decide +kernel)]
  exact ⟨fun _ => .inl (by decide +kernel), by decide +kernel⟩

/-- The command is accepted after a cycle with a valid budget, and the cycle after it has none. -/
def Spoils (central : SensedCentral) (request : PowerPlanningCommandRequest) : Prop :=
  ((central.cycleState CentralState.threeLoadPlant).planningSnapshot CentralState.noonClock).budgetValid = true ∧
    (central.consoleConfigurePowerPlanningValidated (answering none) request).2.accepted = true ∧
    (((central.consoleConfigurePowerPlanningValidated (answering none) request).1.cycleState
      CentralState.threeLoadPlant).planningSnapshot CentralState.noonClock).budgetValid = false

/-- A minimum of 20 % that no state of charge can be compared with, and a runtime for a battery
that the monitor was never told of. -/
theorem accepted_plan_spoils_budget :
    Spoils sensorOnly ⟨.finite 200, .finite 20, .finite 20, .finite 0⟩ ∧ Spoils afterSimulation fourHours := by
  unfold Spoils
  decide +kernel

end PlanChange

end kilowatts
