import Kilowatts.BatteryManager.BatteryMonitor
import Kilowatts.Central.PlanningCycle
import Kilowatts.Library.FlashBacked

namespace kilowatts

namespace BatterySensorConfiguration

variable (configuration : BatterySensorConfiguration)

/-- What the store takes. It does not ask for the product of shunt and current that `initialize` asks
for. -/
def isValidBatterySensor : Bool :=
  (!configuration.ina219Configured ||
    0 < configuration.shuntResistanceOhms && 0 < configuration.maximumExpectedCurrentAmps &&
      0 < configuration.emaAlpha && configuration.emaAlpha ≤ 1) &&
  (!configuration.batteryMetadataConfigured ||
    0 < configuration.batteryCapacityAmpHours &&
      PowerManager.isValidPercent configuration.initialStateOfChargePercent && 0 < configuration.nominalVoltageVolts)

/-- What the monitor is told of the sensor. -/
def sensorConfiguration : SensorConfiguration where
  shuntResistanceOhms := configuration.shuntResistanceOhms
  maximumExpectedCurrentAmps := configuration.maximumExpectedCurrentAmps
  emaAlpha := configuration.emaAlpha

/-- What the monitor is told of the battery: zeros without metadata, and the minimum of the plan. -/
def batteryConfiguration (minimumStateOfChargePercent : Rat) : BatteryConfiguration where
  nameplateVoltageVolts := if configuration.batteryMetadataConfigured then configuration.nominalVoltageVolts else 0
  capacityAmpHours := if configuration.batteryMetadataConfigured then configuration.batteryCapacityAmpHours else 0
  minimumStateOfChargePercent

/-- There is a source of measurements: simulation, or an INA219 whose expected shunt
voltage the sensor can measure. -/
def hasSource (simulating : Bool) : Bool :=
  simulating || configuration.ina219Configured && BatteryMonitor.withinShuntRange configuration.sensorConfiguration

/-- A source implies that one is configured or simulated. -/
theorem and_hasSource (simulating : Bool) :
    ((simulating || configuration.ina219Configured) && configuration.hasSource simulating) =
      configuration.hasSource simulating := by
  unfold hasSource
  cases simulating with
  | true => rfl
  | false => cases configuration.ina219Configured <;> rfl

end BatterySensorConfiguration

namespace PowerPlanningConfiguration

variable (planning : PowerPlanningConfiguration)

/-- A plan that is not configured is valid. -/
def isValidPowerPlanning : Bool :=
  !planning.configured ||
    0 < planning.P_budget && 0 ≤ planning.P_reserve && planning.P_reserve ≤ planning.P_budget &&
      PowerManager.isValidPercent planning.minimumStateOfChargePercent && 0 ≤ planning.requiredRuntimeHours

/-- The minimum that `applyBatteryConfiguration` hands to the battery monitor. -/
def minimumToApply : Rat := if planning.configured then planning.minimumStateOfChargePercent else 0

end PowerPlanningConfiguration

namespace CentralConfiguration

/-- Both parts of a configuration are checked before it is written and after it is read. -/
def isValid (configuration : CentralConfiguration) : Bool :=
  configuration.batterySensor.isValidBatterySensor && configuration.powerPlanning.isValidPowerPlanning

/-- The constructor of the store. -/
def constructed : CentralConfiguration where
  batterySensor := ⟨false, false, 0, 0, 1 / 5, 0, 0, 0⟩
  powerPlanning := ⟨false, 0, 0, 0, 0⟩

/-- Memory changes before the flash does. -/
def setBatterySensor (batterySensor : BatterySensorConfiguration) (store : FlashBacked CentralConfiguration) :
    FlashBacked CentralConfiguration × Bool :=
  if !batterySensor.isValidBatterySensor then (store, false)
  else ({ store with memory.batterySensor := batterySensor }, true)

/-- The same for the plan. -/
def setPowerPlanning (powerPlanning : PowerPlanningConfiguration) (store : FlashBacked CentralConfiguration) :
    FlashBacked CentralConfiguration × Bool :=
  if !powerPlanning.isValidPowerPlanning then (store, false)
  else ({ store with memory.powerPlanning := powerPlanning }, true)

/-- An invalid configuration is never written. -/
def persist (answers : FlashAnswers) (store : FlashBacked CentralConfiguration) :
    FlashBacked CentralConfiguration × Bool :=
  if !store.memory.isValid then (store, false) else store.persist answers

/-- `setBatterySensor(configuration) && persist()`. -/
def storeBatterySensor (answers : FlashAnswers) (batterySensor : BatterySensorConfiguration)
    (store : FlashBacked CentralConfiguration) : FlashBacked CentralConfiguration × Bool :=
  let (store, set) := setBatterySensor batterySensor store
  if set then persist answers store else (store, false)

/-- `setPowerPlanning(configuration) && persist()`. -/
def storePowerPlanning (answers : FlashAnswers) (powerPlanning : PowerPlanningConfiguration)
    (store : FlashBacked CentralConfiguration) : FlashBacked CentralConfiguration × Bool :=
  let (store, set) := setPowerPlanning powerPlanning store
  if set then persist answers store else (store, false)

/-- A flash that was never written holds the constructed configuration. -/
def loadPersisted (readable : Bool) (flash : CentralConfiguration) : CentralConfiguration :=
  if readable && flash.isValid then flash else constructed

variable (answers : FlashAnswers) {store : FlashBacked CentralConfiguration}

/-- What cannot be read, or is invalid, becomes the configuration of a new Central. -/
theorem loadPersisted_isValid (readable : Bool) (flash : CentralConfiguration) :
    (loadPersisted readable flash).isValid = true := by
  unfold loadPersisted
  split
  · next hflash => exact (Bool.and_eq_true_iff.mp hflash).2
  · rfl

/-- The valid part stays in memory even if it could not be written. -/
theorem storeBatterySensor_eq (hvalid : store.memory.isValid = true) (batterySensor : BatterySensorConfiguration) :
    (storeBatterySensor answers batterySensor store).1.memory =
        (if batterySensor.isValidBatterySensor then { store.memory with batterySensor } else store.memory) ∧
      (storeBatterySensor answers batterySensor store).2 =
        (batterySensor.isValidBatterySensor && answers.succeeds) := by
  cases hsensor : batterySensor.isValidBatterySensor with
  | false => simp [storeBatterySensor, setBatterySensor, hsensor]
  | true =>
    have hplanning : store.memory.powerPlanning.isValidPowerPlanning = true := (Bool.and_eq_true_iff.mp hvalid).2
    have hstored : ({ store.memory with batterySensor } : CentralConfiguration).isValid = true := by
      rw [isValid, hsensor, hplanning, Bool.and_self]
    simp [storeBatterySensor, setBatterySensor, persist, hsensor, hstored, FlashBacked.persist]

/-- So does a valid plan. -/
theorem storePowerPlanning_eq (hvalid : store.memory.isValid = true) (powerPlanning : PowerPlanningConfiguration) :
    (storePowerPlanning answers powerPlanning store).1.memory =
        (if powerPlanning.isValidPowerPlanning then { store.memory with powerPlanning } else store.memory) ∧
      (storePowerPlanning answers powerPlanning store).2 =
        (powerPlanning.isValidPowerPlanning && answers.succeeds) := by
  cases hplanning : powerPlanning.isValidPowerPlanning with
  | false => simp [storePowerPlanning, setPowerPlanning, hplanning]
  | true =>
    have hsensor : store.memory.batterySensor.isValidBatterySensor = true := (Bool.and_eq_true_iff.mp hvalid).1
    have hstored : ({ store.memory with powerPlanning } : CentralConfiguration).isValid = true := by
      rw [isValid, hsensor, hplanning, Bool.and_self]
    simp [storePowerPlanning, setPowerPlanning, persist, hplanning, hstored, FlashBacked.persist]

theorem storeBatterySensor_isValid (hvalid : store.memory.isValid = true)
    (batterySensor : BatterySensorConfiguration) :
    (storeBatterySensor answers batterySensor store).1.memory.isValid = true := by
  rw [(storeBatterySensor_eq answers hvalid batterySensor).1]
  split
  · next hsensor => rw [isValid, hsensor, (Bool.and_eq_true_iff.mp hvalid).2, Bool.and_self]
  · exact hvalid

theorem storePowerPlanning_isValid (hvalid : store.memory.isValid = true)
    (powerPlanning : PowerPlanningConfiguration) :
    (storePowerPlanning answers powerPlanning store).1.memory.isValid = true := by
  rw [(storePowerPlanning_eq answers hvalid powerPlanning).1]
  split
  · next hplanning => rw [isValid, hplanning, (Bool.and_eq_true_iff.mp hvalid).1, Bool.and_self]
  · exact hvalid

end CentralConfiguration

/-- What the flash and the battery monitor answer to one command. -/
structure SetupAnswers where
  flash : FlashAnswers
  monitor : MonitorAnswers
deriving DecidableEq

/-- What `battery setup` asks for. -/
structure BatterySetupRequest where
  batteryCapacityAmpHours : Rat
  initialStateOfChargePercent : Rat
  nominalVoltageVolts : Rat
deriving DecidableEq

/-- What a power planning command asks for, with all numbers finite. -/
structure PowerPlanningRequest where
  P_budget : Rat
  P_reserve : Rat
  minimumStateOfChargePercent : Rat
  requiredRuntimeHours : Rat
deriving DecidableEq

namespace SensorConfiguration

/-- The stored configuration after an INA219 setup. -/
def storedIn (request : SensorConfiguration) (previous : BatterySensorConfiguration) : BatterySensorConfiguration :=
  { previous with
    ina219Configured := true
    shuntResistanceOhms := request.shuntResistanceOhms
    maximumExpectedCurrentAmps := request.maximumExpectedCurrentAmps
    emaAlpha := request.emaAlpha }

end SensorConfiguration

namespace BatterySetupRequest

/-- The stored configuration after a battery setup. -/
def storedIn (request : BatterySetupRequest) (previous : BatterySensorConfiguration) : BatterySensorConfiguration :=
  { previous with
    batteryMetadataConfigured := true
    batteryCapacityAmpHours := request.batteryCapacityAmpHours
    initialStateOfChargePercent := request.initialStateOfChargePercent
    nominalVoltageVolts := request.nominalVoltageVolts }

/-- The configuration of `CONFIGURE_BATTERY_SENSOR`. -/
def combinedWith (request : BatterySetupRequest) (sensor : SensorConfiguration) : BatterySensorConfiguration where
  ina219Configured := true
  batteryMetadataConfigured := true
  shuntResistanceOhms := sensor.shuntResistanceOhms
  maximumExpectedCurrentAmps := sensor.maximumExpectedCurrentAmps
  emaAlpha := sensor.emaAlpha
  batteryCapacityAmpHours := request.batteryCapacityAmpHours
  initialStateOfChargePercent := request.initialStateOfChargePercent
  nominalVoltageVolts := request.nominalVoltageVolts

end BatterySetupRequest

/-- The plan as it is stored. -/
def PowerPlanningRequest.plan (request : PowerPlanningRequest) : PowerPlanningConfiguration where
  configured := true
  P_budget := request.P_budget
  P_reserve := request.P_reserve
  minimumStateOfChargePercent := request.minimumStateOfChargePercent
  requiredRuntimeHours := request.requiredRuntimeHours

/-- The globals of Central that the setup of its battery is about. `flash` of the store
is what is persisted. -/
structure MonitoredCentral where
  centralConfigurationStore : FlashBacked CentralConfiguration
  batteryMonitor : BatteryMonitor
  runtimeTargetReference : RuntimeTargetReference
deriving DecidableEq

namespace MonitoredCentral

/-- The bus that Central always uses. -/
def I2C_BUS : BusConfiguration := ⟨21, 22, 0, 400000⟩

/-- The configuration in memory is the one in force. -/
def configuration (central : MonitoredCentral) : CentralConfiguration := central.centralConfigurationStore.memory

/-- The minimum that `updatePowerBudget` uses. -/
def minimumInUse (central : MonitoredCentral) : Rat :=
  central.batteryMonitor.batteryConfiguration.minimumStateOfChargePercent

/-- `minimumToApply` is copied to the monitor just if the battery is valid and there is a source for
it. -/
def applyBatteryConfiguration (answers : MonitorAnswers) (configuration : BatterySensorConfiguration)
    (restorePersistedStateOfCharge : Bool) (central : MonitoredCentral) : MonitoredCentral × Bool :=
  if !configuration.isValidBatterySensor then (central, false)
  else if !central.batteryMonitor.simulationEnabled && !configuration.ina219Configured then (central, false)
  else
    let minimumStateOfChargePercent := central.configuration.powerPlanning.minimumToApply
    let (monitor, initialized) := central.batteryMonitor.initializeMonitor answers.hardwareReady I2C_BUS
      configuration.sensorConfiguration (configuration.batteryConfiguration minimumStateOfChargePercent)
    if !initialized then ({ central with batteryMonitor := monitor }, false)
    else if !configuration.batteryMetadataConfigured then ({ central with batteryMonitor := monitor }, true)
    else
      let (monitor, restored) := monitor.initializeStateOfCharge answers.persistedStateOfCharge
        configuration.initialStateOfChargePercent restorePersistedStateOfCharge
      ({ central with batteryMonitor := monitor }, restored)

/-- `CONFIGURE_BATTERY_SENSOR`, under `stateMutex`. -/
def configureBatterySensor (answers : SetupAnswers) (sensor : SensorConfiguration) (battery : BatterySetupRequest)
    (central : MonitoredCentral) : MonitoredCentral :=
  let configuration := battery.combinedWith sensor
  if !configuration.isValidBatterySensor then central
  else
    let previous := central.configuration.batterySensor
    let (store, stored) :=
      CentralConfiguration.storeBatterySensor answers.flash configuration central.centralConfigurationStore
    let central := { central with centralConfigurationStore := store }
    if stored then
      (central.applyBatteryConfiguration answers.monitor configuration previous.batteryMetadataConfigured).1
    else central

/-- `CONFIGURE_POWER_PLANNING`, under `stateMutex`. -/
def configurePowerPlanning (answers : SetupAnswers) (request : PowerPlanningRequest) (central : MonitoredCentral) :
    MonitoredCentral :=
  if !request.plan.isValidPowerPlanning then central
  else
    let (store, stored) :=
      CentralConfiguration.storePowerPlanning answers.flash request.plan central.centralConfigurationStore
    let central := { central with centralConfigurationStore := store }
    let battery := central.configuration.batterySensor
    if stored && (battery.ina219Configured || battery.batteryMetadataConfigured) then
      (central.applyBatteryConfiguration answers.monitor battery true).1
    else central

/-- While simulating, the INA219 is stored but not applied. -/
def consoleConfigureIna219 (answers : SetupAnswers) (request : SensorConfiguration) (central : MonitoredCentral) :
    MonitoredCentral :=
  let configuration := request.storedIn central.configuration.batterySensor
  let (store, stored) :=
    CentralConfiguration.storeBatterySensor answers.flash configuration central.centralConfigurationStore
  let central := { central with centralConfigurationStore := store }
  if stored && !central.batteryMonitor.simulationEnabled then
    (central.applyBatteryConfiguration answers.monitor configuration true).1
  else central

/-- The battery is stored first. It is applied just if there is a simulation or an INA219. -/
def consoleConfigureBatterySetup (answers : SetupAnswers) (request : BatterySetupRequest)
    (central : MonitoredCentral) : MonitoredCentral :=
  let previous := central.configuration.batterySensor
  let configuration := request.storedIn previous
  let (store, stored) :=
    CentralConfiguration.storeBatterySensor answers.flash configuration central.centralConfigurationStore
  let central := { central with centralConfigurationStore := store }
  if stored && (central.batteryMonitor.simulationEnabled || configuration.ina219Configured) then
    (central.applyBatteryConfiguration answers.monitor configuration previous.batteryMetadataConfigured).1
  else central

/-- `SimulationCommandAction::ENABLE`, under `stateMutex`. -/
def enableSimulation (answers : MonitorAnswers) (central : MonitoredCentral) : MonitoredCentral :=
  let central := { central with batteryMonitor := central.batteryMonitor.enableSimulation true }
  let battery := central.configuration.batterySensor
  if battery.batteryMetadataConfigured then (central.applyBatteryConfiguration answers battery true).1 else central

/-- `SimulationCommandAction::DISABLE`, under `stateMutex`. -/
def disableSimulation (answers : MonitorAnswers) (central : MonitoredCentral) : MonitoredCentral :=
  let central := { central with batteryMonitor := central.batteryMonitor.enableSimulation false }
  let battery := central.configuration.batterySensor
  if !battery.ina219Configured then central else (central.applyBatteryConfiguration answers battery true).1

/-- `SimulationCommandAction::SET_VALUES`, under `stateMutex`. -/
def setSimulationValues (electrical : Option (Rat × Rat)) (stateOfChargePercent : Option Rat)
    (central : MonitoredCentral) : MonitoredCentral :=
  if !central.batteryMonitor.simulationEnabled then central
  else
    let (monitor, ok) := central.batteryMonitor.setSimulatedValues electrical stateOfChargePercent
    let monitor := if ok && electrical.isSome then (monitor.updateMeasurements none).1 else monitor
    { central with batteryMonitor := monitor }

/-- The section under `stateMutex` that ends `consoleSensorModeConfigured` and
`consoleConfigurePowerPlanningValidated` while a simulation is active. -/
def applyAgain (answers : MonitorAnswers) (central : MonitoredCentral) : MonitoredCentral :=
  (central.applyBatteryConfiguration answers central.configuration.batterySensor true).1

/-- One turn of `sensorAcquisitionTask`, under `stateMutex`. -/
def acquireMeasurements (hardware : Option PowerMeasurements) (deltaSeconds : Rat) (central : MonitoredCentral) :
    MonitoredCentral :=
  let monitor := central.batteryMonitor
  if monitor.simulationEnabled || monitor.initialized then
    let (monitor, read) := monitor.updateMeasurements hardware
    { central with
      batteryMonitor := if read && monitor.isStateOfChargeValid then (monitor.updateStateOfCharge deltaSeconds).1
        else monitor }
  else central

/-- Without INA219 and without metadata, a boot applies nothing, so the minimum stays 0. -/
def applyPersistedBatterySensorConfiguration (answers : MonitorAnswers) (central : MonitoredCentral) :
    MonitoredCentral :=
  let battery := central.configuration.batterySensor
  if !battery.ina219Configured && !battery.batteryMetadataConfigured then central
  else (central.applyBatteryConfiguration answers battery true).1

/-- `CentralApplication::runApp` as far as the battery goes, from what the flash holds. -/
def runApp (readable : Bool) (answers : MonitorAnswers) (flash : CentralConfiguration) : MonitoredCentral :=
  applyPersistedBatterySensorConfiguration answers
    { centralConfigurationStore := ⟨CentralConfiguration.loadPersisted readable flash, flash⟩
      batteryMonitor := .constructed
      runtimeTargetReference := ⟨0, 0, false⟩ }

/-- What a planning cycle finds, where `globals` holds the registry, the stores and the
rest that the setup is not about. -/
def cycleState (globals : CentralState) (central : MonitoredCentral) : CentralState :=
  { globals with
    batteryMonitor := central.batteryMonitor.toPowerManager
    configuration := central.configuration
    runtimeTargetReference := central.runtimeTargetReference }

/-- The cycle of the planning model with this battery monitor. -/
def runOptimizationCycle (globals : CentralState) (clock : CycleClock) (central : MonitoredCentral) :
    MonitoredCentral :=
  let result := (central.cycleState globals).runOptimizationCycle clock
  { central with
    batteryMonitor := { central.batteryMonitor with toPowerManager := result.state.batteryMonitor }
    runtimeTargetReference := result.state.runtimeTargetReference }

variable {central : MonitoredCentral} {answers : MonitorAnswers} {battery : BatterySensorConfiguration}

/-- Applying a configuration does not store it. -/
theorem applyBatteryConfiguration_configuration (central : MonitoredCentral) (answers : MonitorAnswers)
    (battery : BatterySensorConfiguration) (restore : Bool) :
    (central.applyBatteryConfiguration answers battery restore).1.configuration = central.configuration := by
  unfold applyBatteryConfiguration
  split
  · rfl
  · split
    · rfl
    · dsimp only
      split
      · rfl
      · split <;> rfl

/-- A valid plan has a minimum that the monitor accepts, and so has no plan. -/
theorem minimumToApply_isValidPercent {planning : PowerPlanningConfiguration}
    (hplanning : planning.isValidPowerPlanning = true) :
    PowerManager.isValidPercent planning.minimumToApply = true := by
  unfold PowerPlanningConfiguration.minimumToApply
  cases hconfigured : planning.configured with
  | false => rfl
  | true =>
    simp only [PowerPlanningConfiguration.isValidPowerPlanning, hconfigured, Bool.not_true, Bool.false_or,
      Bool.and_eq_true] at hplanning
    exact hplanning.1.2

/-- The checks of the store imply those of the monitor for the battery. -/
theorem acceptsBattery_batteryConfiguration (hbattery : battery.isValidBatterySensor = true) {minimum : Rat}
    (hminimum : PowerManager.isValidPercent minimum = true) :
    BatteryMonitor.acceptsBattery (battery.batteryConfiguration minimum) = true := by
  cases hmetadata : battery.batteryMetadataConfigured with
  | false =>
    simp [BatteryMonitor.acceptsBattery, BatterySensorConfiguration.batteryConfiguration, hmetadata, hminimum]
  | true =>
    simp only [BatterySensorConfiguration.isValidBatterySensor, hmetadata, Bool.not_true, Bool.false_or,
      Bool.and_eq_true] at hbattery
    obtain ⟨⟨hcapacity, -⟩, hvoltage⟩ := hbattery.2
    simp only [BatteryMonitor.acceptsBattery, BatterySensorConfiguration.batteryConfiguration, hmetadata, hminimum,
      if_true, hcapacity, hvoltage, Bool.and_self, Bool.or_true]

/-- For the sensor they leave the product of shunt and current to be checked. -/
theorem acceptsSensor_sensorConfiguration (hbattery : battery.isValidBatterySensor = true)
    (hina219 : battery.ina219Configured = true) :
    BatteryMonitor.acceptsSensor battery.sensorConfiguration = battery.hasSource false := by
  simp only [BatterySensorConfiguration.isValidBatterySensor, hina219, Bool.not_true, Bool.false_or,
    Bool.and_eq_true, decide_eq_true_eq] at hbattery
  obtain ⟨⟨⟨⟨hshunt, hcurrent⟩, halpha⟩, hone⟩, -⟩ := hbattery
  have hunfolded : BatteryMonitor.acceptsSensor battery.sensorConfiguration =
      (0 < battery.shuntResistanceOhms && 0 < battery.maximumExpectedCurrentAmps && 0 < battery.emaAlpha &&
        battery.emaAlpha ≤ 1 && BatteryMonitor.withinShuntRange battery.sensorConfiguration) := rfl
  rw [hunfolded]
  simp [BatterySensorConfiguration.hasSource, hina219, hshunt, hcurrent, halpha, hone]

/-- Where the monitor may be set up at all, the INA219 settings that it lets pass are those of a source. -/
theorem hasSource_eq (hbattery : battery.isValidBatterySensor = true) {simulating : Bool}
    (hsource : ¬(!simulating && !battery.ina219Configured) = true) :
    battery.hasSource simulating = (simulating || BatteryMonitor.acceptsSensor battery.sensorConfiguration) := by
  cases simulating with
  | true => rfl
  | false =>
    have hina219 : battery.ina219Configured = true := by simpa using hsource
    rw [Bool.false_or, acceptsSensor_sensorConfiguration hbattery hina219]

/-- Once the source is given, the battery configuration is the one that the monitor was set up with. -/
theorem applyBatteryConfiguration_batteryConfiguration (hbattery : battery.isValidBatterySensor = true)
    (hsource : ¬(!central.batteryMonitor.simulationEnabled && !battery.ina219Configured) = true) (restore : Bool) :
    (central.applyBatteryConfiguration answers battery restore).1.batteryMonitor.batteryConfiguration =
      (central.batteryMonitor.initializeMonitor answers.hardwareReady I2C_BUS battery.sensorConfiguration
        (battery.batteryConfiguration
          central.configuration.powerPlanning.minimumToApply)).1.batteryConfiguration := by
  simp only [applyBatteryConfiguration, hbattery, if_neg hsource, Bool.not_true, Bool.false_eq_true, if_false]
  split
  · rfl
  · split
    · rfl
    · exact BatteryMonitor.initializeStateOfCharge_batteryConfiguration _ _ _ _

/-- With a valid configuration and a valid plan, only a missing source keeps the monitor from
taking over the battery and the minimum of the plan. -/
theorem applyBatteryConfiguration_battery (answers : MonitorAnswers) (hbattery : battery.isValidBatterySensor = true)
    (hplanning : central.configuration.powerPlanning.isValidPowerPlanning = true) (restore : Bool) :
    (central.applyBatteryConfiguration answers battery restore).1.batteryMonitor.batteryConfiguration =
      if battery.hasSource central.batteryMonitor.simulationEnabled then
        battery.batteryConfiguration central.configuration.powerPlanning.minimumToApply
      else central.batteryMonitor.batteryConfiguration := by
  by_cases hsource : (!central.batteryMonitor.simulationEnabled && !battery.ina219Configured) = true
  · simp only [applyBatteryConfiguration, hbattery, hsource, Bool.not_true, Bool.false_eq_true, if_false, if_true]
    simp only [Bool.and_eq_true, Bool.not_eq_true'] at hsource
    simp [BatterySensorConfiguration.hasSource, hsource]
  · have haccepts := acceptsBattery_batteryConfiguration hbattery (minimumToApply_isValidPercent hplanning)
    rw [applyBatteryConfiguration_batteryConfiguration hbattery hsource,
      BatteryMonitor.initializeMonitor_batteryConfiguration _ (by decide) haccepts, hasSource_eq hbattery hsource]

/-- Needs a valid battery and a valid plan. Then only the source decides whether the minimum arrives. -/
theorem applyBatteryConfiguration_minimumInUse (hbattery : battery.isValidBatterySensor = true)
    (hplanning : central.configuration.powerPlanning.isValidPowerPlanning = true) (restore : Bool) :
    (central.applyBatteryConfiguration answers battery restore).1.minimumInUse =
      if battery.hasSource central.batteryMonitor.simulationEnabled then
        central.configuration.powerPlanning.minimumToApply
      else central.minimumInUse := by
  rw [minimumInUse, applyBatteryConfiguration_battery answers hbattery hplanning]
  split <;> rfl

end MonitoredCentral

end kilowatts
