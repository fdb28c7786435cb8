import Kilowatts.Central.PlanChange

namespace kilowatts

/-- What can be asked of the simulation. -/
inductive SimulationCommandAction where
  | UNKNOWN
  | ENABLE
  | DISABLE
  | SET_VALUES
deriving DecidableEq

/-- Values need not be finite. -/
structure SimulationCommandRequest where
  action : SimulationCommandAction
  hasElectricalMeasurements : Bool
  batteryVoltageVolts : CFloat
  batteryCurrentAmps : CFloat
  hasStateOfChargePercent : Bool
  stateOfChargePercent : CFloat
deriving DecidableEq

/-- What a simulation command finds out while it runs. -/
structure SimulationAnswers where
  stateTaken : Bool
  monitor : MonitorAnswers
  nowMilliseconds : UInt32
deriving DecidableEq

/-- The exact result of a product that stays finite as a `float`. -/
def CFloat.inRange (value : Rat) : Bool := |value| < 2 ^ 128 - 2 ^ 103

namespace BatteryMonitor

/-- `setSimulatedMeasurements` for any two numbers. A product that is not finite is noticed
after the values are stored. -/
def simulateMeasurements (voltage current : CFloat) (monitor : BatteryMonitor) : BatteryMonitor × Bool :=
  match voltage.exact, current.exact with
  | some voltage, some current =>
    let (monitor, set) := monitor.setSimulatedMeasurements voltage current
    (monitor, set && CFloat.inRange (voltage * current))
  | _, _ => (monitor, false)

/-- What is not finite is refused. -/
def simulateStateOfChargePercent (stateOfChargePercent : CFloat) (monitor : BatteryMonitor) : BatteryMonitor × Bool :=
  match stateOfChargePercent.exact with
  | some percent => monitor.setSimulatedStateOfChargePercent percent
  | none => (monitor, false)

end BatteryMonitor

namespace SensedCentral

/-- Central with another state of its monitor. -/
def withMonitor (monitor : BatteryMonitor) (central : SensedCentral) : SensedCentral :=
  { central with batteryMonitor := monitor }

/-- `commandResult(ok, ok, ...)`. -/
def answer (ok : Bool) (done failed : String) (central : SensedCentral) : SensedCentral × CommandResult :=
  (central, ⟨ok, ok, if ok then done else failed⟩)

/-- The source is switched before it is known whether the other one can be used. -/
def switchSource (simulated : Bool) (central : SensedCentral) : SensedCentral :=
  (central.withMonitor (central.batteryMonitor.enableSimulation simulated)).invalidateReading

/-- The source is switched before the battery is applied, and it stays switched if that fails. -/
def enableSimulationCommand (answers : SimulationAnswers) (central : SensedCentral) : SensedCentral × CommandResult :=
  if !answers.stateTaken then central.refuse "state is busy"
  else
    let central := central.switchSource true
    let battery := central.configuration.batterySensor
    let (central, ok) :=
      if battery.batteryMetadataConfigured then central.applyBattery answers.monitor battery true else (central, true)
    central.answer ok "simulation input enabled" "simulation could not start"

/-- The source is switched before it is known whether there is an INA219. -/
def disableSimulationCommand (answers : SimulationAnswers) (central : SensedCentral) : SensedCentral × CommandResult :=
  if !answers.stateTaken then central.refuse "state is busy"
  else
    let central := central.switchSource false
    let battery := central.configuration.batterySensor
    let (central, ok) :=
      if !battery.ina219Configured then (central, false) else central.applyBattery answers.monitor battery true
    central.answer ok "INA219 input selected" "INA219 is not configured or not detected"

/-- The values of one `SET_VALUES` request, as far as they are accepted. -/
def applySimulationValues (request : SimulationCommandRequest) (monitor : BatteryMonitor) : BatteryMonitor × Bool :=
  let (monitor, ok) :=
    if request.hasElectricalMeasurements then
      monitor.simulateMeasurements request.batteryVoltageVolts request.batteryCurrentAmps
    else (monitor, true)
  let (monitor, ok) :=
    if ok && request.hasStateOfChargePercent then
      monitor.simulateStateOfChargePercent request.stateOfChargePercent
    else (monitor, ok)
  if ok && request.hasElectricalMeasurements then monitor.updateMeasurements none else (monitor, ok)

/-- The electrical values are stored before the state of charge is looked at. -/
def setSimulationValuesCommand (answers : SimulationAnswers) (request : SimulationCommandRequest)
    (central : SensedCentral) : SensedCentral × CommandResult :=
  if !request.hasElectricalMeasurements && !request.hasStateOfChargePercent then
    central.refuse "simulation values required"
  else if !answers.stateTaken then central.refuse "state is busy"
  else if !central.batteryMonitor.simulationEnabled then
    central.refuse "enable simulation before setting values"
  else
    let (monitor, ok) := applySimulationValues request central.batteryMonitor
    let central := central.withMonitor monitor
    let central :=
      if ok && request.hasElectricalMeasurements then
        { central with
          latestBatteryMeasurements := monitor.measurements
          batteryReadingValid := true
          batteryReadingMilliseconds := answers.nowMilliseconds }
      else central
    central.answer ok "simulation values applied" "invalid simulation values"

def handleSimulationCommand (answers : SimulationAnswers) (request : SimulationCommandRequest)
    (central : SensedCentral) : SensedCentral × CommandResult :=
  match request.action with
  | .ENABLE => central.enableSimulationCommand answers
  | .DISABLE => central.disableSimulationCommand answers
  | .SET_VALUES => central.setSimulationValuesCommand answers request
  | .UNKNOWN => central.refuse "unsupported simulation command"

end SensedCentral

/-- Where Central takes its measurements from, and what it holds of them. -/
structure Sensing where
  simulationEnabled : Bool
  initialized : Bool
  measurementSource : MeasurementSource
  measurements : PowerMeasurements
  filteredMeasurements : PowerMeasurements
  hasFilteredMeasurement : Bool
  simulatedMeasurements : PowerMeasurements
  stateOfChargePercent : Rat
  stateOfChargeSource : StateOfChargeSource
  stateOfChargeInitialized : Bool
  batteryReadingValid : Bool
deriving DecidableEq

namespace SensedCentral

/-- What a rejected command must leave as it is: source, measurements, estimate and their validity. -/
def sensing (central : SensedCentral) : Sensing where
  simulationEnabled := central.batteryMonitor.simulationEnabled
  initialized := central.batteryMonitor.initialized
  measurementSource := central.batteryMonitor.measurementSource
  measurements := central.batteryMonitor.measurements
  filteredMeasurements := central.batteryMonitor.filteredMeasurements
  hasFilteredMeasurement := central.batteryMonitor.hasFilteredMeasurement
  simulatedMeasurements := central.batteryMonitor.simulatedMeasurements
  stateOfChargePercent := central.batteryMonitor.stateOfChargePercent
  stateOfChargeSource := central.batteryMonitor.stateOfChargeSource
  stateOfChargeInitialized := central.batteryMonitor.stateOfChargeInitialized
  batteryReadingValid := central.batteryReadingValid

/-- The source is selected already, and nothing was measured since. -/
def isFreshlySwitched (simulated : Bool) (central : SensedCentral) : Bool :=
  central.batteryMonitor.simulationEnabled == simulated && central.batteryMonitor.initialized == simulated &&
    central.batteryMonitor.measurementSource == .NONE &&
    central.batteryMonitor.measurements == BatteryMonitor.noMeasurements &&
    central.batteryMonitor.filteredMeasurements == BatteryMonitor.noMeasurements &&
    !central.batteryMonitor.hasFilteredMeasurement && !central.batteryReadingValid

/-- Switching stores nothing. -/
@[simp] theorem switchSource_configuration (simulated : Bool) (central : SensedCentral) :
    (central.switchSource simulated).configuration = central.configuration := rfl

/-- Switching changes nothing just if the source is selected already and nothing was measured since. -/
theorem switchSource_sensing (simulated : Bool) (central : SensedCentral) :
    (central.switchSource simulated).sensing = central.sensing ↔ central.isFreshlySwitched simulated = true := by
  simp only [switchSource, withMonitor, invalidateReading, BatteryMonitor.enableSimulation, sensing,
    isFreshlySwitched, Sensing.mk.injEq, Bool.and_eq_true, beq_iff_eq, Bool.not_eq_true']
  constructor
  · rintro ⟨hsimulation, hinitialized, hsource, hmeasured, hfiltered, hfilter, -, -, -, -, hreading⟩
    exact ⟨⟨⟨⟨⟨⟨hsimulation.symm, hinitialized.symm⟩, hsource.symm⟩, hmeasured.symm⟩, hfiltered.symm⟩,
      hfilter.symm⟩, hreading.symm⟩
  · rintro ⟨⟨⟨⟨⟨⟨hsimulation, hinitialized⟩, hsource⟩, hmeasured⟩, hfiltered⟩, hfilter⟩, hreading⟩
    exact ⟨hsimulation.symm, hinitialized.symm, hsource.symm, hmeasured.symm, hfiltered.symm, hfilter.symm, trivial,
      trivial, trivial, trivial, hreading.symm⟩

end SensedCentral

namespace MonitoredCentral

variable {central : MonitoredCentral} {answers : MonitorAnswers} {battery : BatterySensorConfiguration}

/-- Every check passes on the way through `applyBatteryConfiguration`. -/
def canApply (answers : MonitorAnswers) (battery : BatterySensorConfiguration) (central : MonitoredCentral) : Bool :=
  let simulating := central.batteryMonitor.simulationEnabled
  battery.isValidBatterySensor &&
    BatteryMonitor.acceptsBattery
      (battery.batteryConfiguration central.configuration.powerPlanning.minimumToApply) &&
    battery.hasSource simulating && (simulating || answers.hardwareReady)

theorem initializeMonitor_refuses (monitor : BatteryMonitor) (hardwareReady : Bool) (bus : BusConfiguration)
    (sensor : SensorConfiguration) {batteryConfiguration : BatteryConfiguration}
    (hrefused : BatteryMonitor.acceptsBattery batteryConfiguration = false) :
    monitor.initializeMonitor hardwareReady bus sensor batteryConfiguration = (monitor, false) := by
  rw [BatteryMonitor.initializeMonitor, if_pos (by simp [hrefused])]

theorem initializeStateOfCharge_succeeds (monitor : BatteryMonitor) {starting : Rat}
    (hstarting : PowerManager.isValidPercent starting = true) (persisted : Option Rat) (restore : Bool) :
    (monitor.initializeStateOfCharge persisted starting restore).2 = true := by
  simp only [BatteryMonitor.initializeStateOfCharge, hstarting, Bool.not_true, Bool.false_eq_true, if_false]
  split <;> rfl

/-- Whether it succeeds, the inputs tell. -/
theorem applyBatteryConfiguration_succeeds (restore : Bool) :
    (central.applyBatteryConfiguration answers battery restore).2 = central.canApply answers battery := by
  cases hbattery : battery.isValidBatterySensor with
  | false => simp [applyBatteryConfiguration, canApply, hbattery]
  | true =>
    by_cases hsource : (!central.batteryMonitor.simulationEnabled && !battery.ina219Configured) = true
    · simp only [applyBatteryConfiguration, hbattery, hsource, Bool.not_true, Bool.false_eq_true, if_false, if_true]
      simp only [Bool.and_eq_true, Bool.not_eq_true'] at hsource
      simp [canApply, BatterySensorConfiguration.hasSource, hsource]
    · simp only [applyBatteryConfiguration, canApply, hbattery, if_neg hsource, Bool.not_true, Bool.false_eq_true,
        if_false, Bool.true_and, hasSource_eq hbattery hsource]
      cases haccepts : BatteryMonitor.acceptsBattery
        (battery.batteryConfiguration central.configuration.powerPlanning.minimumToApply) with
      | false =>
        rw [initializeMonitor_refuses _ _ _ _ haccepts]
        rfl
      | true =>
        have hsucceeds := central.batteryMonitor.initializeMonitor_succeeds answers.hardwareReady
          battery.sensorConfiguration (by decide : I2C_BUS.clockSpeedHz ≠ 0) haccepts
        rw [Bool.true_and, ← hsucceeds]
        split
        · next hfailed => simpa using hfailed.symm
        · next hinitialized =>
          have hinitialized := (Bool.not_eq_false _).mp (by simpa using hinitialized)
          rw [hinitialized]
          split
          · rfl
          · next hmetadata =>
            have hmetadata : battery.batteryMetadataConfigured = true := by simpa using hmetadata
            exact initializeStateOfCharge_succeeds _ (initialStateOfCharge_isValidPercent hbattery hmetadata) _ _

end MonitoredCentral

namespace BatteryMonitor

variable {monitor : BatteryMonitor}

/-- A monitor that could not be set up, and that had nothing measured before, has taken over
at most its configuration. -/
theorem initializeMonitor_of_failed {hardwareReady : Bool} {bus : BusConfiguration} {sensor : SensorConfiguration}
    {battery : BatteryConfiguration} (hfailed : (monitor.initializeMonitor hardwareReady bus sensor battery).2 = false)
    (hmeasured : monitor.measurements = noMeasurements) (hfiltered : monitor.filteredMeasurements = noMeasurements)
    (hfilter : monitor.hasFilteredMeasurement = false) (hsource : monitor.measurementSource = .NONE) :
    ∃ busConfiguration sensorConfiguration batteryConfiguration,
      (monitor.initializeMonitor hardwareReady bus sensor battery).1 =
        { monitor with
          busConfiguration := busConfiguration
          sensorConfiguration := sensorConfiguration
          batteryConfiguration := batteryConfiguration } := by
  unfold initializeMonitor at hfailed ⊢
  split
  · exact ⟨_, _, _, rfl⟩
  · next hchecks =>
    rw [if_neg hchecks] at hfailed
    split
    · exact ⟨_, _, _, rfl⟩
    · next hreadable =>
      rw [if_neg hreadable] at hfailed
      dsimp only at hfailed ⊢
      split
      · next hsimulation => simp [hsimulation] at hfailed
      · next hsimulation =>
        split
        · refine ⟨bus, sensor, battery, ?_⟩
          rw [← hmeasured, hsource.symm, ← hfilter]
          simp [hmeasured, hfiltered]
        · next hready => simp [hsimulation, hready] at hfailed

end BatteryMonitor

namespace MonitoredCentral

variable {central : MonitoredCentral} {answers : MonitorAnswers} {battery : BatterySensorConfiguration}

theorem applyBatteryConfiguration_of_failed {restore : Bool}
    (hfailed : (central.applyBatteryConfiguration answers battery restore).2 = false)
    (hmeasured : central.batteryMonitor.measurements = BatteryMonitor.noMeasurements)
    (hfiltered : central.batteryMonitor.filteredMeasurements = BatteryMonitor.noMeasurements)
    (hfilter : central.batteryMonitor.hasFilteredMeasurement = false)
    (hsource : central.batteryMonitor.measurementSource = .NONE) :
    ∃ busConfiguration sensorConfiguration batteryConfiguration,
      (central.applyBatteryConfiguration answers battery restore).1.batteryMonitor =
        { central.batteryMonitor with
          busConfiguration := busConfiguration
          sensorConfiguration := sensorConfiguration
          batteryConfiguration := batteryConfiguration } := by
  unfold applyBatteryConfiguration at hfailed ⊢
  split
  · exact ⟨_, _, _, rfl⟩
  · next hbattery =>
    rw [if_neg hbattery] at hfailed
    have hbattery : battery.isValidBatterySensor = true := by simpa using hbattery
    split
    · exact ⟨_, _, _, rfl⟩
    · next hselected =>
      rw [if_neg hselected] at hfailed
      dsimp only at hfailed ⊢
      split
      · next hinitialized =>
        exact BatteryMonitor.initializeMonitor_of_failed (by simpa using hinitialized) hmeasured hfiltered hfilter
          hsource
      · next hinitialized =>
        -- with the monitor set up, only an invalid initial state of charge could fail
        rw [if_neg hinitialized] at hfailed
        split at hfailed
        · cases hfailed
        · next hmetadata =>
          have hmetadata : battery.batteryMetadataConfigured = true := by simpa using hmetadata
          have hinitial := initialStateOfCharge_isValidPercent hbattery hmetadata
          exact absurd ((initializeStateOfCharge_succeeds _ hinitial _ _).symm.trans hfailed) Bool.noConfusion

end MonitoredCentral

namespace SensedCentral

variable {central : SensedCentral} {answers : MonitorAnswers} {battery : BatterySensorConfiguration}

/-- A source that cannot be used after the switch leaves what the switch made. -/
theorem switchSource_applyBattery_sensing {simulated : Bool}
    (hfailed : ((central.switchSource simulated).applyBattery answers battery true).2 = false) :
    ((central.switchSource simulated).applyBattery answers battery true).1.sensing =
      (central.switchSource simulated).sensing := by
  have hfailed : ((central.switchSource simulated).toMonitoredCentral.applyBatteryConfiguration answers battery
      true).2 = false := hfailed
  obtain ⟨bus, sensor, batteryConfiguration, hmonitor⟩ :=
    MonitoredCentral.applyBatteryConfiguration_of_failed hfailed rfl rfl rfl rfl
  simp only [sensing, applyBattery, hmonitor]

theorem applyBattery_succeeds (restore : Bool) :
    (central.applyBattery answers battery restore).2 = central.canApply answers battery :=
  MonitoredCentral.applyBatteryConfiguration_succeeds restore

/-- A switch of the source leaves everything just if the source can be used, or is selected already. -/
theorem switchSource_keeps_iff (simulated : Bool) {done failed : String}
    {result : SensedCentral × Bool} (hsensing : result.2 = false → result.1.sensing =
      (central.switchSource simulated).sensing) :
    ((result.1.answer result.2 done failed).2.accepted = false →
      (result.1.answer result.2 done failed).1.sensing = central.sensing) ↔
        result.2 = true ∨ central.isFreshlySwitched simulated = true := by
  rw [← switchSource_sensing]
  change (result.2 = false → result.1.sensing = central.sensing) ↔ _
  cases hresult : result.2 with
  | true => simp
  | false => simp [hsensing hresult]

end SensedCentral

namespace SimulationCommands

open SensedCentral

/-- A command that is not accepted leaves the input source and everything measured or simulated as it was. -/
def KeepsSensing (central : SensedCentral) (outcome : SensedCentral × CommandResult) : Prop :=
  outcome.2.accepted = false → outcome.1.sensing = central.sensing

/-- The source that the command selects can be used. -/
def canSelect (answers : SimulationAnswers) (central : SensedCentral) (simulated : Bool) : Bool :=
  let battery := central.configuration.batterySensor
  if simulated then
    !battery.batteryMetadataConfigured || (central.switchSource true).canApply answers.monitor battery
  else battery.ina219Configured && (central.switchSource false).canApply answers.monitor battery

/-- The condition for ENABLE. -/
theorem enableSimulationCommand_keeps (answers : SimulationAnswers) (central : SensedCentral) :
    KeepsSensing central (central.enableSimulationCommand answers) ↔
      (answers.stateTaken = true → canSelect answers central true = true ∨ central.isFreshlySwitched true = true) := by
  unfold enableSimulationCommand KeepsSensing
  cases answers.stateTaken with
  | false => simp [refuse]
  | true =>
    simp only [Bool.not_true, Bool.false_eq_true, if_false, true_imp_iff]
    refine (switchSource_keeps_iff true ?_).trans (or_congr_left ?_)
    · split
      · exact switchSource_applyBattery_sensing
      · exact fun _ => rfl
    · change _ ↔ (!central.configuration.batterySensor.batteryMetadataConfigured || _) = true
      split
      · next hmetadata =>
        rw [switchSource_configuration] at hmetadata
        rw [applyBattery_succeeds, hmetadata]
        rfl
      · next hmetadata =>
        rw [switchSource_configuration] at hmetadata
        simp [hmetadata]

/-- The condition for DISABLE. -/
theorem disableSimulationCommand_keeps (answers : SimulationAnswers) (central : SensedCentral) :
    KeepsSensing central (central.disableSimulationCommand answers) ↔
      (answers.stateTaken = true →
        canSelect answers central false = true ∨ central.isFreshlySwitched false = true) := by
  unfold disableSimulationCommand KeepsSensing
  cases answers.stateTaken with
  | false => simp [refuse]
  | true =>
    simp only [Bool.not_true, Bool.false_eq_true, if_false, true_imp_iff]
    refine (switchSource_keeps_iff false ?_).trans (or_congr_left ?_)
    · split
      · exact fun _ => rfl
      · exact switchSource_applyBattery_sensing
    · change _ ↔ (central.configuration.batterySensor.ina219Configured && _) = true
      split
      · next hsensor =>
        rw [switchSource_configuration, Bool.not_eq_true'] at hsensor
        simp [hsensor]
      · next hsensor =>
        rw [switchSource_configuration, Bool.not_eq_true', Bool.not_eq_false] at hsensor
        rw [applyBattery_succeeds, hsensor]
        rfl

/-- The state of charge of the request, if it is one that the monitor takes. -/
def givenStateOfCharge (request : SimulationCommandRequest) : Option Rat :=
  request.stateOfChargePercent.exact.filter PowerManager.isValidPercent

/-- The monitor holds the state of charge as one that was simulated. -/
def holdsSimulated (percent : Rat) (central : SensedCentral) : Bool :=
  central.batteryMonitor.stateOfChargePercent == percent &&
    central.batteryMonitor.stateOfChargeSource == .SIMULATED && central.batteryMonitor.stateOfChargeInitialized

/-- A voltage and a current that the monitor stores are followed by nothing that can fail (the
power is finite, and the state of charge of the request is valid), or they are stored already. -/
def KeepsSimulated (request : SimulationCommandRequest) (central : SensedCentral) : Prop :=
  ∀ voltage current, request.batteryVoltageVolts.exact = some voltage →
    request.batteryCurrentAmps.exact = some current → 0 < voltage →
      (CFloat.inRange (voltage * current) = true ∧
        (request.hasStateOfChargePercent = true → (givenStateOfCharge request).isSome = true) ∧
        central.batteryMonitor.initialized = true) ∨
      (central.batteryMonitor.simulatedMeasurements = ⟨voltage, current, voltage * current⟩ ∧
        (CFloat.inRange (voltage * current) = true → request.hasStateOfChargePercent = true →
          ∀ percent, givenStateOfCharge request = some percent → holdsSimulated percent central = true))

section Values

variable {request : SimulationCommandRequest} {central : SensedCentral} {monitor : BatteryMonitor}

/-- Needs the simulation and a positive voltage. -/
theorem simulateMeasurements_of_given {voltage current : Rat} (hsimulation : monitor.simulationEnabled = true)
    (hvoltage : request.batteryVoltageVolts.exact = some voltage)
    (hcurrent : request.batteryCurrentAmps.exact = some current) (hpositive : 0 < voltage) :
    monitor.simulateMeasurements request.batteryVoltageVolts request.batteryCurrentAmps =
      ({ monitor with simulatedMeasurements := ⟨voltage, current, voltage * current⟩ },
        CFloat.inRange (voltage * current)) := by
  simp [BatteryMonitor.simulateMeasurements, BatteryMonitor.setSimulatedMeasurements, hvoltage, hcurrent, hsimulation,
    not_le.mpr hpositive]

/-- Anything else leaves the monitor as it was. -/
theorem simulateMeasurements_of_refused
    (hrefused : ∀ voltage current, request.batteryVoltageVolts.exact = some voltage →
      request.batteryCurrentAmps.exact = some current → ¬0 < voltage) :
    monitor.simulateMeasurements request.batteryVoltageVolts request.batteryCurrentAmps = (monitor, false) := by
  unfold BatteryMonitor.simulateMeasurements
  split
  · next voltage current hvoltage hcurrent =>
    simp [BatteryMonitor.setSimulatedMeasurements, not_lt.mp (hrefused voltage current hvoltage hcurrent)]
  · rfl

theorem simulateStateOfChargePercent_of_given {percent : Rat} (hsimulation : monitor.simulationEnabled = true)
    (hgiven : givenStateOfCharge request = some percent) :
    monitor.simulateStateOfChargePercent request.stateOfChargePercent =
      ({ monitor with
          stateOfChargePercent := percent
          stateOfChargeSource := .SIMULATED
          stateOfChargeInitialized := true }, true) := by
  obtain ⟨hexact, hvalid⟩ := Option.filter_eq_some_iff.mp hgiven
  simp [BatteryMonitor.simulateStateOfChargePercent, BatteryMonitor.setSimulatedStateOfChargePercent, hexact,
    hsimulation, hvalid]

theorem simulateStateOfChargePercent_of_refused (hrefused : givenStateOfCharge request = none) :
    monitor.simulateStateOfChargePercent request.stateOfChargePercent = (monitor, false) := by
  unfold BatteryMonitor.simulateStateOfChargePercent
  split
  · next percent hexact =>
    have hinvalid : ¬PowerManager.isValidPercent percent = true := by
      simpa [givenStateOfCharge, hexact, Option.filter_eq_none_iff] using hrefused
    simp [BatteryMonitor.setSimulatedStateOfChargePercent, hinvalid]
  · rfl

/-- Only a request that is refused tells something: what it stored before must be there already. -/
theorem setSimulationValuesCommand_keeps_iff (answers : SimulationAnswers) :
    KeepsSensing central (central.setSimulationValuesCommand answers request) ↔
      (answers.stateTaken = true → central.batteryMonitor.simulationEnabled = true →
        (request.hasElectricalMeasurements || request.hasStateOfChargePercent) = true →
        (applySimulationValues request central.batteryMonitor).2 = false →
          (central.withMonitor (applySimulationValues request central.batteryMonitor).1).sensing =
            central.sensing) := by
  unfold setSimulationValuesCommand KeepsSensing
  split
  · next hnone =>
    simp only [Bool.and_eq_true, Bool.not_eq_true'] at hnone
    simp [refuse, hnone]
  · next hsome =>
    have hsome : (request.hasElectricalMeasurements || request.hasStateOfChargePercent) = true := by
      simpa [or_iff_not_imp_left] using hsome
    split
    · next htaken => simp_all [refuse]
    · next htaken =>
      split
      · next hsimulation => simp_all [refuse]
      · next hsimulation =>
        cases hok : (applySimulationValues request central.batteryMonitor).2 with
        | true => simp [hok, answer]
        | false => simp_all [answer]

end Values

section Outcomes

variable {request : SimulationCommandRequest} {central : SensedCentral} {monitor : BatteryMonitor}

theorem applySimulationValues_of_charge (hsimulation : central.batteryMonitor.simulationEnabled = true)
    (helectrical : request.hasElectricalMeasurements = false) (hcharge : request.hasStateOfChargePercent = true)
    (hfailed : (applySimulationValues request central.batteryMonitor).2 = false) :
    (applySimulationValues request central.batteryMonitor).1 = central.batteryMonitor := by
  simp only [applySimulationValues, helectrical, hcharge, Bool.and_self, Bool.and_false, Bool.false_eq_true, if_false,
    if_true] at hfailed ⊢
  cases hgiven : givenStateOfCharge request with
  | none => rw [simulateStateOfChargePercent_of_refused hgiven]
  | some percent =>
    rw [simulateStateOfChargePercent_of_given hsimulation hgiven] at hfailed
    cases hfailed

theorem applySimulationValues_of_refused (helectrical : request.hasElectricalMeasurements = true)
    (hrefused : ∀ voltage current, request.batteryVoltageVolts.exact = some voltage →
      request.batteryCurrentAmps.exact = some current → ¬0 < voltage) :
    applySimulationValues request central.batteryMonitor = (central.batteryMonitor, false) := by
  simp [applySimulationValues, helectrical, simulateMeasurements_of_refused hrefused]

theorem sensing_of_simulated (measurements : PowerMeasurements) :
    (central.withMonitor { central.batteryMonitor with simulatedMeasurements := measurements }).sensing =
      central.sensing ↔ central.batteryMonitor.simulatedMeasurements = measurements := by
  simp only [sensing, withMonitor, Sensing.mk.injEq, true_and, and_true]
  exact eq_comm

theorem sensing_of_charged (measurements : PowerMeasurements) (percent : Rat) :
    (central.withMonitor { central.batteryMonitor with
      simulatedMeasurements := measurements
      stateOfChargePercent := percent
      stateOfChargeSource := .SIMULATED
      stateOfChargeInitialized := true }).sensing = central.sensing ↔
      central.batteryMonitor.simulatedMeasurements = measurements ∧ holdsSimulated percent central = true := by
  simp only [sensing, withMonitor, Sensing.mk.injEq, true_and, and_true, holdsSimulated, Bool.and_eq_true, beq_iff_eq]
  constructor
  · rintro ⟨hmeasurements, hpercent, hsource, hinitialized⟩
    exact ⟨hmeasurements.symm, ⟨hpercent.symm, hsource.symm⟩, hinitialized.symm⟩
  · rintro ⟨hmeasurements, ⟨hpercent, hsource⟩, hinitialized⟩
    exact ⟨hmeasurements.symm, hpercent.symm, hsource.symm, hinitialized.symm⟩

/-- Simulated values with a positive voltage can be read back once the monitor is initialized. -/
theorem updateMeasurements_succeeds (hsimulation : monitor.simulationEnabled = true)
    (hpositive : 0 < monitor.simulatedMeasurements.voltageVolts) :
    (monitor.updateMeasurements none).2 = monitor.initialized := by
  cases hinitialized : monitor.initialized with
  | false => simp [BatteryMonitor.updateMeasurements, hinitialized]
  | true =>
    simp [BatteryMonitor.updateMeasurements, BatteryMonitor.readSimulatedMeasurements, hinitialized, hsimulation,
      not_le.mpr hpositive]

/-- A monitor that is not initialized reads nothing. -/
theorem updateMeasurements_of_uninitialized (hinitialized : monitor.initialized = false) :
    monitor.updateMeasurements none = (monitor, false) := by
  simp [BatteryMonitor.updateMeasurements, hinitialized]

/-- Reading the values back fails without a trace, if it does. -/
theorem updated_keeps_iff (central : SensedCentral) (monitor : BatteryMonitor)
    (hsimulation : monitor.simulationEnabled = true) (hpositive : 0 < monitor.simulatedMeasurements.voltageVolts) :
    ((monitor.updateMeasurements none).2 = false →
      (central.withMonitor (monitor.updateMeasurements none).1).sensing = central.sensing) ↔
      monitor.initialized = true ∨ (central.withMonitor monitor).sensing = central.sensing := by
  rw [updateMeasurements_succeeds hsimulation hpositive]
  cases hinitialized : monitor.initialized with
  | true => simp
  | false => simp [updateMeasurements_of_uninitialized hinitialized]

/-- The voltage and the current are stored. What follows can fail in three places. -/
theorem applySimulationValues_of_given (hsimulation : central.batteryMonitor.simulationEnabled = true)
    (helectrical : request.hasElectricalMeasurements = true) {voltage current : Rat}
    (hvoltage : request.batteryVoltageVolts.exact = some voltage)
    (hcurrent : request.batteryCurrentAmps.exact = some current) (hpositive : 0 < voltage) :
    ((applySimulationValues request central.batteryMonitor).2 = false →
      (central.withMonitor (applySimulationValues request central.batteryMonitor).1).sensing = central.sensing) ↔
      (CFloat.inRange (voltage * current) = true ∧
        (request.hasStateOfChargePercent = true → (givenStateOfCharge request).isSome = true) ∧
        central.batteryMonitor.initialized = true) ∨
      (central.batteryMonitor.simulatedMeasurements = ⟨voltage, current, voltage * current⟩ ∧
        (CFloat.inRange (voltage * current) = true → request.hasStateOfChargePercent = true →
          ∀ percent, givenStateOfCharge request = some percent → holdsSimulated percent central = true)) := by
  unfold applySimulationValues
  rw [simulateMeasurements_of_given hsimulation hvoltage hcurrent hpositive]
  simp only [helectrical, if_true, Bool.and_true]
  cases hrange : CFloat.inRange (voltage * current) with
  | false => simp [sensing_of_simulated]
  | true =>
    cases hcharge : request.hasStateOfChargePercent with
    | false =>
      have hkeeps := updated_keeps_iff central { central.batteryMonitor with
        simulatedMeasurements := ⟨voltage, current, voltage * current⟩ } hsimulation hpositive
      simpa [sensing_of_simulated] using hkeeps
    | true =>
      cases hgiven : givenStateOfCharge request with
      | none => simp [simulateStateOfChargePercent_of_refused hgiven, sensing_of_simulated]
      | some percent =>
        have hkeeps := updated_keeps_iff central { central.batteryMonitor with
          simulatedMeasurements := ⟨voltage, current, voltage * current⟩
          stateOfChargePercent := percent
          stateOfChargeSource := .SIMULATED
          stateOfChargeInitialized := true } hsimulation hpositive
        rw [sensing_of_charged] at hkeeps
        simpa [simulateStateOfChargePercent_of_given, hsimulation, hgiven] using hkeeps

end Outcomes

/-- The condition for SET_VALUES, for any values. -/
theorem setSimulationValuesCommand_keeps (answers : SimulationAnswers) (request : SimulationCommandRequest)
    (central : SensedCentral) :
    KeepsSensing central (central.setSimulationValuesCommand answers request) ↔
      (answers.stateTaken = true → central.batteryMonitor.simulationEnabled = true →
        request.hasElectricalMeasurements = true → KeepsSimulated request central) := by
  rw [setSimulationValuesCommand_keeps_iff]
  refine forall_congr' fun htaken => forall_congr' fun hsimulation => ?_
  cases helectrical : request.hasElectricalMeasurements with
  | false =>
    refine ⟨fun _ hfalse => absurd hfalse Bool.false_ne_true, fun _ hcharge hfailed => ?_⟩
    rw [applySimulationValues_of_charge hsimulation helectrical hcharge hfailed]
    rfl
  | true =>
    simp only [Bool.true_or, true_imp_iff]
    by_cases hgiven : ∃ voltage current, request.batteryVoltageVolts.exact = some voltage ∧
        request.batteryCurrentAmps.exact = some current ∧ 0 < voltage
    · obtain ⟨voltage, current, hvoltage, hcurrent, hpositive⟩ := hgiven
      rw [applySimulationValues_of_given hsimulation helectrical hvoltage hcurrent hpositive]
      simp [KeepsSimulated, hvoltage, hcurrent, hpositive]
    · have hrefused : ∀ voltage current, request.batteryVoltageVolts.exact = some voltage →
          request.batteryCurrentAmps.exact = some current → ¬0 < voltage :=
        fun voltage current hvoltage hcurrent hpositive => hgiven ⟨voltage, current, hvoltage, hcurrent, hpositive⟩
      rw [applySimulationValues_of_refused helectrical hrefused]
      refine ⟨fun _ voltage current hvoltage hcurrent hpositive => ?_, fun _ _ => rfl⟩
      exact absurd hpositive (hrefused voltage current hvoltage hcurrent)

/-- The exact condition, for each action. -/
def RejectsUnchanged (answers : SimulationAnswers) (request : SimulationCommandRequest) (central : SensedCentral) :
    Prop :=
  match request.action with
  | .ENABLE =>
    answers.stateTaken = true → canSelect answers central true = true ∨ central.isFreshlySwitched true = true
  | .DISABLE =>
    answers.stateTaken = true → canSelect answers central false = true ∨ central.isFreshlySwitched false = true
  | .SET_VALUES =>
    answers.stateTaken = true → central.batteryMonitor.simulationEnabled = true →
      request.hasElectricalMeasurements = true → KeepsSimulated request central
  | .UNKNOWN => True

/-- A command that is rejected leaves the input source and the measurements as they were exactly if
`RejectsUnchanged` holds, which has one case for each action. Nothing is assumed about the state or the
request. -/
theorem rejected_simulation_command_keeps (answers : SimulationAnswers) (request : SimulationCommandRequest)
    (central : SensedCentral) :
    KeepsSensing central (central.handleSimulationCommand answers request) ↔
      RejectsUnchanged answers request central := by
  unfold handleSimulationCommand RejectsUnchanged
  cases request.action with
  | UNKNOWN => exact ⟨fun _ => trivial, fun _ _ => rfl⟩
  | ENABLE => exact enableSimulationCommand_keeps answers central
  | DISABLE => exact disableSimulationCommand_keeps answers central
  | SET_VALUES => exact setSimulationValuesCommand_keeps answers request central

/-- With a valid configuration, a simulation can always be selected. -/
theorem canSelect_simulation (answers : SimulationAnswers) {central : SensedCentral}
    (hvalid : central.configuration.isValid = true) : canSelect answers central true = true := by
  obtain ⟨hbattery, hplanning⟩ := Bool.and_eq_true_iff.mp hvalid
  have haccepts := MonitoredCentral.acceptsBattery_batteryConfiguration hbattery
    (MonitoredCentral.minimumToApply_isValidPercent hplanning)
  have hsimulating : (central.switchSource true).batteryMonitor.simulationEnabled = true := rfl
  simp [canSelect, MonitoredCentral.canApply, hsimulating, hbattery, haccepts, BatterySensorConfiguration.hasSource]

/-- The request answers at once, with an INA219 that could be read. -/
def answering : SimulationAnswers := ⟨true, ⟨true, some 70⟩, 5000⟩

/-- Simulation is left although there is no INA219, and a voltage is taken over together with a
state of charge of 150 %. -/
theorem rejected_simulation_command_changes :
    ¬KeepsSensing PlanChange.fullBattery (PlanChange.fullBattery.handleSimulationCommand answering
      ⟨.DISABLE, false, .finite 0, .finite 0, false, .finite 0⟩) ∧
      ¬KeepsSensing PlanChange.fullBattery (PlanChange.fullBattery.handleSimulationCommand answering
        ⟨.SET_VALUES, true, .finite 24, .finite 2, true, .finite 150⟩) := by
  unfold KeepsSensing
  decide +kernel

end SimulationCommands

end kilowatts
