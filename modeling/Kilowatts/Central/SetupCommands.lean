import Kilowatts.Central.BatterySetup
import Kilowatts.NodeManager.SystemCommandModel

namespace kilowatts

/-- The exact value of a number that `std::isfinite` accepts. -/
def CFloat.exact : CFloat → Option Rat
  | .finite value => some value
  | .nonFinite => none

/-- Numbers as they come in, which need not be finite. -/
structure PowerPlanningCommandRequest where
  P_budget : CFloat
  P_reserve : CFloat
  minimumStateOfChargePercent : CFloat
  requiredRuntimeHours : CFloat
deriving DecidableEq

/-- The same for the INA219. -/
structure Ina219SetupCommandRequest where
  shuntResistanceOhms : CFloat
  maximumExpectedCurrentAmps : CFloat
  emaAlpha : CFloat
deriving DecidableEq

/-- The same for the battery. -/
structure BatterySetupCommandRequest where
  batteryCapacityAmpHours : CFloat
  initialStateOfChargePercent : CFloat
  nominalVoltageVolts : CFloat
deriving DecidableEq

/-- The request, if all its numbers are finite. The validity checks refuse any other. -/
def PowerPlanningCommandRequest.exact (request : PowerPlanningCommandRequest) : Option PowerPlanningRequest := do
  let P_budget ← request.P_budget.exact
  let P_reserve ← request.P_reserve.exact
  let minimumStateOfChargePercent ← request.minimumStateOfChargePercent.exact
  let requiredRuntimeHours ← request.requiredRuntimeHours.exact
  return ⟨P_budget, P_reserve, minimumStateOfChargePercent, requiredRuntimeHours⟩

/-- The numbers, if all of them are finite. -/
def Ina219SetupCommandRequest.exact (request : Ina219SetupCommandRequest) : Option SensorConfiguration := do
  let shuntResistanceOhms ← request.shuntResistanceOhms.exact
  let maximumExpectedCurrentAmps ← request.maximumExpectedCurrentAmps.exact
  let emaAlpha ← request.emaAlpha.exact
  return ⟨shuntResistanceOhms, maximumExpectedCurrentAmps, emaAlpha⟩

def BatterySetupCommandRequest.exact (request : BatterySetupCommandRequest) : Option BatterySetupRequest := do
  let batteryCapacityAmpHours ← request.batteryCapacityAmpHours.exact
  let initialStateOfChargePercent ← request.initialStateOfChargePercent.exact
  let nominalVoltageVolts ← request.nominalVoltageVolts.exact
  return ⟨batteryCapacityAmpHours, initialStateOfChargePercent, nominalVoltageVolts⟩

/-- What a command finds out while it runs. `takenAgain` and `monitorAgain` belong to the
second section under `stateMutex` of `consoleConfigurePowerPlanningValidated`. -/
structure SetupCommandAnswers where
  localMac : MacAddress
  stateTaken : Bool
  setup : SetupAnswers
  takenAgain : Bool
  monitorAgain : MonitorAnswers
deriving DecidableEq

/-- Central with the last reading of its battery, which its commands invalidate. -/
structure SensedCentral extends MonitoredCentral where
  latestBatteryMeasurements : PowerMeasurements
  batteryReadingValid : Bool
  batteryReadingMilliseconds : UInt32
deriving DecidableEq

namespace SensedCentral

/-- Nothing has changed, and the caller is told why. -/
def refuse (reason : String) (central : SensedCentral) : SensedCentral × CommandResult :=
  (central, ⟨false, false, reason⟩)

/-- The command is accepted and done. -/
def complete (reason : String) (central : SensedCentral) : SensedCentral × CommandResult :=
  (central, ⟨true, true, reason⟩)

/-- `applyBatteryConfiguration`, and whether the monitor is ready. -/
def applyBattery (answers : MonitorAnswers) (configuration : BatterySensorConfiguration)
    (restorePersistedStateOfCharge : Bool) (central : SensedCentral) : SensedCentral × Bool :=
  let (monitored, ready) := central.toMonitoredCentral.applyBatteryConfiguration answers configuration
    restorePersistedStateOfCharge
  ({ central with toMonitoredCentral := monitored }, ready)

/-- The last reading counts no longer. -/
def invalidateReading (central : SensedCentral) : SensedCentral := { central with batteryReadingValid := false }

/-- Central with another configuration in memory and flash. -/
def withStore (store : FlashBacked CentralConfiguration) (central : SensedCentral) : SensedCentral :=
  { central with centralConfigurationStore := store }

/-- `handleConfigCommand`, `CONFIGURE_BATTERY_SENSOR`. No request stands for
`hasBatterySensorConfiguration` being false. -/
def configureBatterySensorCommand (answers : SetupCommandAnswers) (nodeMacAddress : MacAddress)
    (request : Option (Ina219SetupCommandRequest × BatterySetupCommandRequest)) (central : SensedCentral) :
    SensedCentral × CommandResult :=
  match request with
  | none => central.refuse "battery sensor configuration targets Central only"
  | some (sensor, battery) =>
    if nodeMacAddress ≠ answers.localMac then central.refuse "battery sensor configuration targets Central only"
    else if !answers.stateTaken then central.refuse "state is busy"
    else
      match sensor.exact, battery.exact with
      | some sensor, some battery =>
        let configuration := battery.combinedWith sensor
        if !configuration.isValidBatterySensor then central.refuse "invalid battery monitor configuration"
        else
          let previous := central.configuration.batterySensor
          let (store, stored) := CentralConfiguration.storeBatterySensor answers.setup.flash configuration
            central.centralConfigurationStore
          let central := central.withStore store
          if !stored then central.refuse "could not persist battery monitor configuration"
          else
            let (central, monitorReady) :=
              central.applyBattery answers.setup.monitor configuration previous.batteryMetadataConfigured
            central.invalidateReading.complete (if monitorReady then "battery monitor configured"
              else "configuration saved; INA219 is not currently responding")
      | _, _ => central.refuse "invalid battery monitor configuration"

/-- `handleConfigCommand`, `CONFIGURE_POWER_PLANNING`. No request stands for
`hasPowerPlanningConfiguration` being false. -/
def configurePowerPlanningCommand (answers : SetupCommandAnswers) (nodeMacAddress : MacAddress)
    (request : Option PowerPlanningCommandRequest) (central : SensedCentral) : SensedCentral × CommandResult :=
  match request with
  | none => central.refuse "power planning configuration targets Central only"
  | some request =>
    if nodeMacAddress ≠ answers.localMac then central.refuse "power planning configuration targets Central only"
    else
      match request.exact with
      | none => central.refuse "invalid power planning configuration"
      | some request =>
        if !request.plan.isValidPowerPlanning then central.refuse "invalid power planning configuration"
        else if !answers.stateTaken then central.refuse "state is busy"
        else
          let (store, stored) := CentralConfiguration.storePowerPlanning answers.setup.flash request.plan
            central.centralConfigurationStore
          let central := central.withStore store
          if !stored then central.refuse "could not persist power planning configuration"
          else
            let battery := central.configuration.batterySensor
            let central :=
              if battery.ina219Configured || battery.batteryMetadataConfigured then
                (central.applyBattery answers.setup.monitor battery true).1.invalidateReading
              else central
            central.complete "power planning configured"

/-- The command with its lock, its checks and its answers. -/
def consoleConfigureIna219Command (answers : SetupCommandAnswers) (request : Ina219SetupCommandRequest)
    (central : SensedCentral) : SensedCentral × CommandResult :=
  if !answers.stateTaken then central.refuse "state is busy"
  else
    match request.exact with
    | none => central.refuse "could not save INA219 setup"
    | some request =>
      let configuration := request.storedIn central.configuration.batterySensor
      let (store, stored) := CentralConfiguration.storeBatterySensor answers.setup.flash configuration
        central.centralConfigurationStore
      let central := central.withStore store
      if !stored then central.refuse "could not save INA219 setup"
      else if central.batteryMonitor.simulationEnabled then
        central.complete "INA219 setup saved; simulation remains active"
      else
        let (central, sensorReady) := central.applyBattery answers.setup.monitor configuration true
        central.invalidateReading.complete (if sensorReady then "INA219 setup saved; sensor detected"
          else "INA219 setup saved; sensor not detected")

/-- The same for the battery. -/
def consoleConfigureBatterySetupCommand (answers : SetupCommandAnswers) (request : BatterySetupCommandRequest)
    (central : SensedCentral) : SensedCentral × CommandResult :=
  if !answers.stateTaken then central.refuse "state is busy"
  else
    match request.exact with
    | none => central.refuse "could not save battery setup"
    | some request =>
      let previous := central.configuration.batterySensor
      let configuration := request.storedIn previous
      let (store, stored) := CentralConfiguration.storeBatterySensor answers.setup.flash configuration
        central.centralConfigurationStore
      let central := central.withStore store
      if !stored then central.refuse "could not save battery setup"
      else
        let canApply := central.batteryMonitor.simulationEnabled || configuration.ina219Configured
        let central :=
          if canApply then
            (central.applyBattery answers.setup.monitor configuration
              previous.batteryMetadataConfigured).1.invalidateReading
          else central
        central.complete "battery setup saved"

/-- The checks of `consoleConfigurePowerPlanningValidated` in front of the command, which
refuses a runtime that is not finite itself. Some infinite ones are refused here already,
with one of these texts. -/
def runtimeCheck (request : PowerPlanningCommandRequest) (central : SensedCentral) : Option String :=
  let battery := central.configuration.batterySensor
  match request.requiredRuntimeHours.exact with
  | none => none
  | some hours =>
    if hours ≤ 0 then none
    else if !battery.batteryMetadataConfigured || battery.batteryCapacityAmpHours ≤ 0 ||
        battery.nominalVoltageVolts ≤ 0 then
      some "runtime requires battery setup (capacity and voltage); existing power plan was not changed"
    else if !central.batteryMonitor.isStateOfChargeValid then
      some "runtime requires a valid battery state of charge; existing power plan was not changed"
    else none

/-- The plan of the console and of MQTT: the runtime is checked first, and in a simulation the battery
is applied a second time under a second lock. -/
def consoleConfigurePowerPlanningValidated (answers : SetupCommandAnswers) (request : PowerPlanningCommandRequest)
    (central : SensedCentral) : SensedCentral × CommandResult :=
  match central.runtimeCheck request with
  | some reason => central.refuse reason
  | none =>
    let (central, result) := central.configurePowerPlanningCommand answers answers.localMac (some request)
    if !result.accepted || !central.batteryMonitor.simulationEnabled then (central, result)
    else if !answers.takenAgain then (central, result)
    else ((central.applyBattery answers.monitorAgain central.configuration.batterySensor true).1, result)

end SensedCentral

/-- The commands that configure the battery and the plan. A plan that comes in over MQTT or on the
console is `consoleConfigurePowerPlanningValidated`, which runs `CONFIGURE_POWER_PLANNING` inside.
The battery is configured on the console. -/
inductive SetupCommand where
  | configureBatterySensor (nodeMacAddress : MacAddress)
      (request : Option (Ina219SetupCommandRequest × BatterySetupCommandRequest))
  | configurePowerPlanning (nodeMacAddress : MacAddress) (request : Option PowerPlanningCommandRequest)
  | consoleConfigureIna219 (request : Ina219SetupCommandRequest)
  | consoleConfigureBatterySetup (request : BatterySetupCommandRequest)
  | consoleConfigurePowerPlanningValidated (request : PowerPlanningCommandRequest)
deriving DecidableEq

namespace SensedCentral

/-- The command as it is dispatched. -/
def handleSetup (answers : SetupCommandAnswers) (central : SensedCentral) :
    SetupCommand → SensedCentral × CommandResult
  | .configureBatterySensor nodeMacAddress request =>
    central.configureBatterySensorCommand answers nodeMacAddress request
  | .configurePowerPlanning nodeMacAddress request =>
    central.configurePowerPlanningCommand answers nodeMacAddress request
  | .consoleConfigureIna219 request => central.consoleConfigureIna219Command answers request
  | .consoleConfigureBatterySetup request => central.consoleConfigureBatterySetupCommand answers request
  | .consoleConfigurePowerPlanningValidated request => central.consoleConfigurePowerPlanningValidated answers request

/-- The plan that a power-planning command hands to the store, if it comes that far. -/
def attemptedPlan (answers : SetupCommandAnswers) (nodeMacAddress : MacAddress)
    (request : Option PowerPlanningCommandRequest) : Option PowerPlanningConfiguration :=
  if nodeMacAddress = answers.localMac && answers.stateTaken then
    ((request.bind PowerPlanningCommandRequest.exact).map PowerPlanningRequest.plan).filter
      PowerPlanningConfiguration.isValidPowerPlanning
  else none

/-- The battery configuration that a command hands to the store, if it comes that far. -/
def attemptedBattery (answers : SetupCommandAnswers) (configuration : Option BatterySensorConfiguration) :
    Option BatterySensorConfiguration :=
  if answers.stateTaken then configuration.filter BatterySensorConfiguration.isValidBatterySensor else none

/-- The configuration that a command puts into memory in front of `persist`, unless it is
refused before: the state is busy, its target is another Node, or a check fails. -/
def attempted (answers : SetupCommandAnswers) (central : SensedCentral) : SetupCommand → Option CentralConfiguration
  | .configureBatterySensor nodeMacAddress request =>
    if nodeMacAddress = answers.localMac then
      (attemptedBattery answers (do
        let (sensor, battery) ← request
        return (← battery.exact).combinedWith (← sensor.exact))).map
          ({ central.configuration with batterySensor := · })
    else none
  | .configurePowerPlanning nodeMacAddress request =>
    (attemptedPlan answers nodeMacAddress request).map ({ central.configuration with powerPlanning := · })
  | .consoleConfigureIna219 request =>
    (attemptedBattery answers (request.exact.map (·.storedIn central.configuration.batterySensor))).map
      ({ central.configuration with batterySensor := · })
  | .consoleConfigureBatterySetup request =>
    (attemptedBattery answers (request.exact.map (·.storedIn central.configuration.batterySensor))).map
      ({ central.configuration with batterySensor := · })
  | .consoleConfigurePowerPlanningValidated request =>
    match central.runtimeCheck request with
    | some _ => none
    | none =>
      (attemptedPlan answers answers.localMac (some request)).map ({ central.configuration with powerPlanning := · })

end SensedCentral

end kilowatts
