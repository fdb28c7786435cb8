import Kilowatts.BatteryManager.PowerManager
import Kilowatts.Library.BinaryFloat

namespace kilowatts

/-- Where the latest measurements come from. -/
inductive MeasurementSource where
  | NONE
  | HARDWARE
  | SIMULATED
deriving DecidableEq

/-- The pins, the port and the clock of the I2C bus that the INA219 is on. -/
structure BusConfiguration where
  sdaPin : UInt8
  sclPin : UInt8
  port : UInt8
  clockSpeedHz : UInt32
deriving DecidableEq

/-- The shunt of the INA219 and how strongly its readings are smoothed. -/
structure SensorConfiguration where
  shuntResistanceOhms : Rat
  maximumExpectedCurrentAmps : Rat
  emaAlpha : Rat
deriving DecidableEq

/-- The battery monitor with the members that set it up and that choose and filter its
measurements. `setCalibration` is never called, so the calibration changes nothing. -/
structure BatteryMonitor extends PowerManager where
  busConfiguration : BusConfiguration
  sensorConfiguration : SensorConfiguration
  filteredMeasurements : PowerMeasurements
  simulatedMeasurements : PowerMeasurements
  hasFilteredMeasurement : Bool
  measurementSource : MeasurementSource
  initialized : Bool
  simulationEnabled : Bool
deriving DecidableEq

/-- What the hardware and the flash answer while the monitor is set up: whether
`initializeBus` and `initializeSensor` succeed, and the state of charge that was persisted. -/
structure MonitorAnswers where
  hardwareReady : Bool
  persistedStateOfCharge : Option Rat
deriving DecidableEq

namespace BatteryMonitor

/-- `0.320F`, which lies a little below 0.32. -/
def MAXIMUM_SHUNT_VOLTAGE_VOLTS : Rat := 10737418 / 2 ^ 25

example : BinaryFormat.binary32.nearest (320 / 1000) = some MAXIMUM_SHUNT_VOLTAGE_VOLTS := by decide +kernel

/-- What the monitor shows before it has measured anything. -/
def noMeasurements : PowerMeasurements := ⟨0, 0, 0⟩

/-- The constructor. -/
def constructed : BatteryMonitor where
  busConfiguration := ⟨0, 0, 0, 0⟩
  sensorConfiguration := ⟨0, 0, 1⟩
  batteryConfiguration := ⟨0, 0, 0⟩
  measurements := noMeasurements
  filteredMeasurements := noMeasurements
  simulatedMeasurements := noMeasurements
  hasFilteredMeasurement := false
  measurementSource := .NONE
  stateOfChargePercent := 0
  stateOfChargeSource := .UNKNOWN
  stateOfChargeInitialized := false
  powerBudget := ⟨0, 0, 0, 0, 0, 0, 0, 0, 0, false, true⟩
  remainingRequiredRuntimeHours := 0
  initialized := false
  simulationEnabled := false

/-- The product as a `float`, `none` if it is infinite. -/
def maximumExpectedShuntVoltage (sensorConfiguration : SensorConfiguration) : Option Rat :=
  BinaryFormat.binary32.nearest
    (sensorConfiguration.shuntResistanceOhms * sensorConfiguration.maximumExpectedCurrentAmps)

/-- The comparison is made after rounding: `0.1F` times `3.2F` is one unit above the limit. -/
def withinShuntRange (sensorConfiguration : SensorConfiguration) : Bool :=
  (maximumExpectedShuntVoltage sensorConfiguration).any (· ≤ MAXIMUM_SHUNT_VOLTAGE_VOLTS)

/-- The INA219 settings that `initialize` lets pass when the sensor is to be read. -/
def acceptsSensor (sensorConfiguration : SensorConfiguration) : Bool :=
  0 < sensorConfiguration.shuntResistanceOhms && 0 < sensorConfiguration.maximumExpectedCurrentAmps &&
    0 < sensorConfiguration.emaAlpha && sensorConfiguration.emaAlpha ≤ 1 && withinShuntRange sensorConfiguration

/-- The check of the battery in `initialize`. Voltage and capacity are given together or not at all. -/
def acceptsBattery (batteryConfiguration : BatteryConfiguration) : Bool :=
  let batteryMetadataProvided :=
    batteryConfiguration.nameplateVoltageVolts != 0 || batteryConfiguration.capacityAmpHours != 0
  PowerManager.isValidPercent batteryConfiguration.minimumStateOfChargePercent &&
    (!batteryMetadataProvided ||
      0 < batteryConfiguration.nameplateVoltageVolts && 0 < batteryConfiguration.capacityAmpHours)

/-- `PowerManager::initialize`. The configuration is kept even if the sensor does not answer. -/
def initializeMonitor (hardwareReady : Bool) (monitor : BatteryMonitor) (busConfiguration : BusConfiguration)
    (sensorConfiguration : SensorConfiguration) (batteryConfiguration : BatteryConfiguration) :
    BatteryMonitor × Bool :=
  if busConfiguration.clockSpeedHz == 0 || !acceptsBattery batteryConfiguration then (monitor, false)
  else if !monitor.simulationEnabled && !acceptsSensor sensorConfiguration then (monitor, false)
  else
    let configured : BatteryMonitor := { monitor with
      busConfiguration
      sensorConfiguration
      batteryConfiguration
      measurements := noMeasurements
      filteredMeasurements := noMeasurements
      hasFilteredMeasurement := false
      measurementSource := .NONE }
    if monitor.simulationEnabled then ({ configured with initialized := true }, true)
    else if !hardwareReady then (configured, false)
    else ({ configured with initialized := true }, true)

/-- A change of the source drops the measurements. Without the simulation, the monitor has to be
initialized anew. -/
def enableSimulation (enabled : Bool) (monitor : BatteryMonitor) : BatteryMonitor :=
  { monitor with
    simulationEnabled := enabled
    hasFilteredMeasurement := false
    measurementSource := .NONE
    measurements := noMeasurements
    filteredMeasurements := noMeasurements
    initialized := enabled }

/-- Only a simulation takes values, and only with a positive voltage. -/
def setSimulatedMeasurements (voltage current : Rat) (monitor : BatteryMonitor) : BatteryMonitor × Bool :=
  if !monitor.simulationEnabled || voltage ≤ 0 then (monitor, false)
  else ({ monitor with simulatedMeasurements := ⟨voltage, current, voltage * current⟩ }, true)

/-- Only a simulation takes a state of charge that is set by hand. -/
def setSimulatedStateOfChargePercent (stateOfChargePercent : Rat) (monitor : BatteryMonitor) :
    BatteryMonitor × Bool :=
  if !monitor.simulationEnabled || !PowerManager.isValidPercent stateOfChargePercent then (monitor, false)
  else
    ({ monitor with
        stateOfChargePercent
        stateOfChargeSource := .SIMULATED
        stateOfChargeInitialized := true }, true)

/-- The values of one request, the state of charge only if the others are accepted. -/
def setSimulatedValues (electrical : Option (Rat × Rat)) (stateOfChargePercent : Option Rat)
    (monitor : BatteryMonitor) : BatteryMonitor × Bool :=
  let result := match electrical with
    | none => (monitor, true)
    | some (voltage, current) => monitor.setSimulatedMeasurements voltage current
  match stateOfChargePercent with
  | none => result
  | some percent => if result.2 then result.1.setSimulatedStateOfChargePercent percent else result

/-- Without a positive voltage, nothing has been simulated yet. -/
def readSimulatedMeasurements (monitor : BatteryMonitor) : Option PowerMeasurements :=
  if monitor.simulatedMeasurements.voltageVolts ≤ 0 then none else some monitor.simulatedMeasurements

/-- The power is that of the smoothed voltage and current, not smoothed itself. -/
def applyExponentialMovingAverage (previous current : PowerMeasurements) (alpha : Rat) : PowerMeasurements :=
  let a := max 0 (min alpha 1)
  let voltageVolts := a * current.voltageVolts + (1 - a) * previous.voltageVolts
  let currentAmps := a * current.currentAmps + (1 - a) * previous.currentAmps
  ⟨voltageVolts, currentAmps, voltageVolts * currentAmps⟩

/-- A raw reading goes through the filter into the measurements and the budget. -/
def recordMeasurements (raw : PowerMeasurements) (source : MeasurementSource) (monitor : BatteryMonitor) :
    BatteryMonitor :=
  let calibrated : PowerMeasurements := ⟨raw.voltageVolts, raw.currentAmps, raw.voltageVolts * raw.currentAmps⟩
  let filtered :=
    if monitor.hasFilteredMeasurement then
      applyExponentialMovingAverage monitor.filteredMeasurements calibrated monitor.sensorConfiguration.emaAlpha
    else calibrated
  { monitor with
    measurementSource := source
    filteredMeasurements := filtered
    hasFilteredMeasurement := true
    measurements := filtered
    powerBudget := { monitor.powerBudget with
      batteryVoltageVolts := filtered.voltageVolts
      batteryCurrentAmps := filtered.currentAmps
      P_measured := filtered.powerWatts } }

/-- `hardware` is what `readHardwareMeasurements` reads, if it can. -/
def updateMeasurements (hardware : Option PowerMeasurements) (monitor : BatteryMonitor) : BatteryMonitor × Bool :=
  if !monitor.initialized then (monitor, false)
  else if monitor.simulationEnabled then
    match monitor.readSimulatedMeasurements with
    | none => (monitor, false)
    | some raw => (monitor.recordMeasurements raw .SIMULATED, true)
  else
    match hardware with
    | none => ({ monitor with measurementSource := .NONE }, false)
    | some raw => (monitor.recordMeasurements raw .HARDWARE, true)

/-- The persisted value is preferred if it may be restored and is valid. -/
def initializeStateOfCharge (persistedStateOfCharge : Option Rat) (starting : Rat) (restorePersistedState : Bool)
    (monitor : BatteryMonitor) : BatteryMonitor × Bool :=
  if !PowerManager.isValidPercent starting then (monitor, false)
  else
    match if restorePersistedState then persistedStateOfCharge.filter PowerManager.isValidPercent else none with
    | some persisted =>
      ({ monitor with
          stateOfChargePercent := persisted
          stateOfChargeSource := .PERSISTED
          stateOfChargeInitialized := true }, true)
    | none =>
      ({ monitor with
          stateOfChargePercent := starting
          stateOfChargeSource := .INITIAL
          stateOfChargeInitialized := true }, true)

/-- The state of charge stays between 0 and 100 %. -/
def clampStateOfCharge (value : Rat) : Rat := max 0 (min value 100)

/-- Coulomb counting over `deltaTimeSeconds`. It needs a known start and a known capacity. -/
def updateStateOfCharge (deltaTimeSeconds : Rat) (monitor : BatteryMonitor) : BatteryMonitor × Bool :=
  if !monitor.stateOfChargeInitialized || deltaTimeSeconds ≤ 0 ||
      monitor.batteryConfiguration.capacityAmpHours ≤ 0 then
    (monitor, false)
  else
    let change := monitor.measurements.currentAmps * deltaTimeSeconds * 100 /
      (3600 * monitor.batteryConfiguration.capacityAmpHours)
    ({ monitor with
        stateOfChargePercent := clampStateOfCharge (monitor.stateOfChargePercent - change)
        stateOfChargeSource := .COULOMB_COUNTING }, true)

variable (monitor : BatteryMonitor)

/-- The battery configuration is replaced if its checks pass, whatever the sensor answers. -/
theorem initializeMonitor_batteryConfiguration {hardwareReady : Bool} {bus : BusConfiguration}
    {sensor : SensorConfiguration} {battery : BatteryConfiguration} (hclock : bus.clockSpeedHz ≠ 0)
    (hbattery : acceptsBattery battery = true) :
    (initializeMonitor hardwareReady monitor bus sensor battery).1.batteryConfiguration =
      if monitor.simulationEnabled || acceptsSensor sensor then battery else monitor.batteryConfiguration := by
  have hchecks : (bus.clockSpeedHz == 0 || !acceptsBattery battery) = false := by simp [hclock, hbattery]
  rw [initializeMonitor, hchecks, if_neg Bool.false_ne_true]
  cases hsimulation : monitor.simulationEnabled with
  | true => rfl
  | false =>
    cases hsensor : acceptsSensor sensor with
    | false => rfl
    | true => cases hardwareReady <;> rfl

/-- No operation but an initialization touches what the budget knows of the battery; the next lemmas go
through the others. -/
theorem initializeStateOfCharge_batteryConfiguration (persisted : Option Rat) (starting : Rat) (restore : Bool) :
    (initializeStateOfCharge persisted starting restore monitor).1.batteryConfiguration =
      monitor.batteryConfiguration := by
  unfold initializeStateOfCharge
  split
  · rfl
  · split <;> rfl

theorem setSimulatedMeasurements_batteryConfiguration (voltage current : Rat) :
    (setSimulatedMeasurements voltage current monitor).1.batteryConfiguration = monitor.batteryConfiguration := by
  unfold setSimulatedMeasurements
  split <;> rfl

theorem setSimulatedStateOfChargePercent_batteryConfiguration (stateOfChargePercent : Rat) :
    (setSimulatedStateOfChargePercent stateOfChargePercent monitor).1.batteryConfiguration =
      monitor.batteryConfiguration := by
  unfold setSimulatedStateOfChargePercent
  split <;> rfl

theorem setSimulatedValues_batteryConfiguration (electrical : Option (Rat × Rat))
    (stateOfChargePercent : Option Rat) :
    (setSimulatedValues electrical stateOfChargePercent monitor).1.batteryConfiguration =
      monitor.batteryConfiguration := by
  unfold setSimulatedValues
  generalize hresult : (match electrical with
    | none => (monitor, true)
    | some (voltage, current) => monitor.setSimulatedMeasurements voltage current) = result
  have hkept : result.1.batteryConfiguration = monitor.batteryConfiguration := by
    subst hresult
    cases electrical with
    | none => rfl
    | some values => exact setSimulatedMeasurements_batteryConfiguration monitor values.1 values.2
  cases stateOfChargePercent with
  | none => exact hkept
  | some percent =>
    dsimp only
    split
    · exact (setSimulatedStateOfChargePercent_batteryConfiguration _ percent).trans hkept
    · exact hkept

theorem updateMeasurements_batteryConfiguration (hardware : Option PowerMeasurements) :
    (updateMeasurements hardware monitor).1.batteryConfiguration = monitor.batteryConfiguration := by
  unfold updateMeasurements
  split
  · rfl
  · split
    · split <;> rfl
    · split <;> rfl

theorem updateStateOfCharge_batteryConfiguration (deltaTimeSeconds : Rat) :
    (updateStateOfCharge deltaTimeSeconds monitor).1.batteryConfiguration = monitor.batteryConfiguration := by
  unfold updateStateOfCharge
  split <;> rfl

end BatteryMonitor

end kilowatts
