import Kilowatts.BatteryManager.PowerManager
import Kilowatts.BestFirstSearch
import Kilowatts.LoadManager.LoadConfigurationStore
import Kilowatts.LoadManager.LoadFilter
import Kilowatts.NodeManager.CentralNodeRegistry
import Kilowatts.NodeManager.NodeCommissioningRegistry
import Kilowatts.RelayManager.RelayCommandDispatcher

namespace kilowatts

/-- The part of the stored configuration that the monitor is told of. -/
structure BatterySensorConfiguration where
  ina219Configured : Bool
  batteryMetadataConfigured : Bool
  shuntResistanceOhms : Rat
  maximumExpectedCurrentAmps : Rat
  emaAlpha : Rat
  batteryCapacityAmpHours : Rat
  initialStateOfChargePercent : Rat
  nominalVoltageVolts : Rat
deriving DecidableEq

/-- The plan that is stored. -/
structure PowerPlanningConfiguration where
  configured : Bool
  P_budget : Rat
  P_reserve : Rat
  minimumStateOfChargePercent : Rat
  requiredRuntimeHours : Rat
deriving DecidableEq

/-- Both parts together. -/
structure CentralConfiguration where
  batterySensor : BatterySensorConfiguration
  powerPlanning : PowerPlanningConfiguration
deriving DecidableEq

/-- The three globals of the runtime countdown. -/
structure RuntimeTargetReference where
  hours : Rat
  epochSeconds : Int
  valid : Bool
deriving DecidableEq

/-- The remaining hours, and the reference after the call. -/
def computeRemainingRequiredRuntimeHours (reference : RuntimeTargetReference) (configuredRequiredRuntimeHours : Rat)
    (currentTimeValid : Bool) (nowEpochSeconds : Int) : Rat × RuntimeTargetReference :=
  if configuredRequiredRuntimeHours ≤ 0 then (0, reference)
  else if !currentTimeValid then (configuredRequiredRuntimeHours, reference)
  else
    let reference :=
      if !reference.valid || reference.hours != configuredRequiredRuntimeHours then
        ⟨configuredRequiredRuntimeHours, nowEpochSeconds, true⟩
      else reference
    let elapsedHours : Rat := (nowEpochSeconds - reference.epochSeconds : Int) / 3600
    let remainingHours := configuredRequiredRuntimeHours - elapsedHours
    (if 0 < remainingHours then remainingHours else 0, reference)

/-- What a cycle shows of its plan. -/
structure PlanningSnapshot where
  budgetValid : Bool
  budget : PowerBudget
  fixedOnCount : Nat
  fixedOffCount : Nat
  automaticCandidateCount : Nat
  automaticSelectedCount : Nat
deriving DecidableEq

/-- The globals of Central that a planning cycle reads or writes, all of them
under `stateMutex`. A `Load*` into the registry is the id of its load: ids are
unique there, and no cycle adds, moves or removes a load. -/
structure CentralState where
  registry : CentralNodeRegistry
  commissioningRegistry : NodeCommissioningRegistry
  centralLoadConfigurationStore : LoadConfigurationStore
  batteryMonitor : PowerManager
  configuration : CentralConfiguration
  runtimeTargetReference : RuntimeTargetReference
  latestPlanningSnapshot : PlanningSnapshot
  lastOptimizationEpochSeconds : Int

/-- What the clocks answer during one cycle. The wall clock is read once for the
countdown and once more for the time stamp of the cycle. -/
structure CycleClock where
  nowMilliseconds : UInt32
  currentTimeValid : Bool
  epochSeconds : Int
  currentTimeProvider : List Load.Id → Load.Id → CurrentTimeProvider
  finishedTimeValid : Bool
  finishedEpochSeconds : Int

namespace Central

/-- `BestFirstRejectionReason::NONE`. -/
def BEST_FIRST_NONE : UInt8 := 0

/-- `BestFirstRejectionReason::POWER_BUDGET_EXCEEDED`. -/
def BEST_FIRST_POWER_BUDGET_EXCEEDED : UInt8 := 2

def NODE_REPORT_TIMEOUT_MILLISECONDS : UInt32 := 10000

/-- Central is always online. The age of a report is a difference of 32 bits. -/
def isNodeOnline (planningNode : PlanningNode) (nowMilliseconds : UInt32) : Bool :=
  planningNode.isCentralNode ||
    nowMilliseconds - planningNode.lastSeenMilliseconds ≤ NODE_REPORT_TIMEOUT_MILLISECONDS

/-- What a pointer of the filter points to. -/
def deref (registry : CentralNodeRegistry) (pointer : Load.Id) : Option Load :=
  registry.findLoad pointer.macAddress pointer.relayPin

/-- An update through a pointer; it does nothing if the load is gone. -/
def updateAt (registry : CentralNodeRegistry) (pointer : Load.Id) (update : LoadUpdate) : CentralNodeRegistry :=
  registry.updateLoad pointer.macAddress pointer.relayPin update

/-- What the overrides make of a load. -/
def storedSettingsUpdate (store : LoadConfigurationStore) : LoadUpdate where
  apply := fun load => (store.applyToLoad load).1
  id_apply := store.applyToLoad_id

/-- Why a load was not selected. -/
def rejectionReasonUpdate (reason : UInt8) : LoadUpdate where
  apply := fun load => load.setLastBestFirstRejectionReason reason
  id_apply := fun _ => rfl

/-- Load by load, as the source goes through the registry. -/
def applyStoredLoadSettings (store : LoadConfigurationStore) (registry : CentralNodeRegistry) :
    CentralNodeRegistry :=
  (registry.loads.map Load.id).foldl (fun registry pointer => updateAt registry pointer (storedSettingsUpdate store))
    registry

/-- The Nodes whose loads take part in the cycle. -/
def isPlanned (commissioningRegistry : NodeCommissioningRegistry) (nowMilliseconds : UInt32)
    (planningNode : PlanningNode) : Bool :=
  planningNode.isCentralNode || (isNodeOnline planningNode nowMilliseconds &&
    commissioningRegistry.isCommissionedSmartNode planningNode.getMacAddress)

/-- Only Central and the Nodes that are online and commissioned are planned. -/
def buildLoadFilter (registry : CentralNodeRegistry) (commissioningRegistry : NodeCommissioningRegistry)
    (nowMilliseconds : UInt32) : LoadFilter Load.Id :=
  registry.planningNodes.foldl (fun filter planningNode =>
    if !isPlanned commissioningRegistry nowMilliseconds planningNode then filter
    else planningNode.node.loads.foldl (fun filter load => (filter.addLoad load.id load).1) filter) .reset

/-- What the loads take that are ON whatever the plan. -/
def sumFixedOnPowerWatts (registry : CentralNodeRegistry) (filter : LoadFilter Load.Id) : Rat :=
  filter.fixedOnLoads.foldl (fun total pointer =>
    match deref registry pointer with
    | none => total
    | some load => total + load.powerRatingWatts) 0

/-- A load with a fixed mode has not been rejected. -/
def resetFixedRejectionReasons (filter : LoadFilter Load.Id) (registry : CentralNodeRegistry) :
    CentralNodeRegistry :=
  filter.fixedOffLoads.foldl (fun registry pointer => updateAt registry pointer (rejectionReasonUpdate BEST_FIRST_NONE))
    (filter.fixedOnLoads.foldl
      (fun registry pointer => updateAt registry pointer (rejectionReasonUpdate BEST_FIRST_NONE)) registry)

/-- Without a valid budget all candidates have the same reason. -/
def recordAutoRejectionReason (filter : LoadFilter Load.Id) (reason : UInt8) (registry : CentralNodeRegistry) :
    CentralNodeRegistry :=
  filter.autoCandidateLoads.foldl (fun registry pointer => updateAt registry pointer (rejectionReasonUpdate reason))
    registry

/-- Compared field by field. -/
def schedulesEqual (first second : AutoSchedule) : Bool :=
  first.enabled = second.enabled && first.startHour = second.startHour && first.startMinute = second.startMinute

/-- The mode that stands for the result of the search. -/
def requestedAutoMode (requestedOn : Bool) : LoadMode := if requestedOn then .AUTO_ON else .AUTO_OFF

/-- `updateAutoRuntimeState` as far as the load is concerned. -/
def autoRuntimeUpdate (requestedOn : Bool) : LoadUpdate where
  apply := fun load => if !load.isAuto then load else load.setMode (requestedAutoMode requestedOn)
  id_apply := by
    intro load
    split
    · rfl
    · exact load.setMode_id _

/-- The override that keeps the result of the search. -/
def runtimeEntry (load : Load) (requestedOn : Bool) : ConfigurationEntry where
  macAddress := load.getMacAddress
  relayPin := load.getRelayPin
  priority := load.priority
  mode := requestedAutoMode requestedOn
  schedule := load.schedule

/-- `updateAutoRuntimeState` as far as the override store is concerned. The flag
is its result, whether the stored entry or the mode of the load changes. -/
def storeAutoRuntimeState (store : LoadConfigurationStore) (load : Load) (requestedOn : Bool) :
    LoadConfigurationStore × Bool :=
  if !load.isAuto then (store, false)
  else
    let entry := runtimeEntry load requestedOn
    let changed := match store.findConfiguration load.getMacAddress load.getRelayPin with
      | none => true
      | some previous => previous.priority != entry.priority || previous.mode != entry.mode ||
          !schedulesEqual previous.schedule entry.schedule || load.mode != entry.mode
    ((store.setConfiguration entry).1, changed)

/-- The locals of the two loops over the AUTO candidates. -/
structure AutoPass where
  registry : CentralNodeRegistry
  store : LoadConfigurationStore
  autoRuntimeStateChanged : Bool
  P_auto : Rat
  automaticSelectedCount : Nat

/-- The loop body of the valid-budget branch. -/
def planAutoLoad (selectedAutoLoads : List Load.Id) (pass : AutoPass) (pointer : Load.Id) : AutoPass :=
  match deref pass.registry pointer with
  | none => pass
  | some load =>
    let selected := selectedAutoLoads.contains pointer
    let reason := if selected then BEST_FIRST_NONE else BEST_FIRST_POWER_BUDGET_EXCEEDED
    let (store, changed) :=
      storeAutoRuntimeState pass.store (load.setLastBestFirstRejectionReason reason) selected
    { registry := updateAt (updateAt pass.registry pointer (rejectionReasonUpdate reason)) pointer
        (autoRuntimeUpdate selected)
      store
      autoRuntimeStateChanged := changed || pass.autoRuntimeStateChanged
      P_auto := if selected then pass.P_auto + load.powerRatingWatts else pass.P_auto
      automaticSelectedCount := if selected then pass.automaticSelectedCount + 1 else pass.automaticSelectedCount }

/-- The loop body of the branch without a valid budget. -/
def switchOffAutoLoad (pass : AutoPass) (pointer : Load.Id) : AutoPass :=
  match deref pass.registry pointer with
  | none => pass
  | some load =>
    let (store, changed) := storeAutoRuntimeState pass.store load false
    { pass with
      registry := updateAt pass.registry pointer (autoRuntimeUpdate false)
      store
      autoRuntimeStateChanged := changed || pass.autoRuntimeStateChanged }

/-- All planned loads, OFF commands first. -/
def buildRelayTargets (registry : CentralNodeRegistry) (filter : LoadFilter Load.Id) : List RelayTarget :=
  RelayCommandDispatcher.buildDispatchOrder
    ((filter.fixedOffLoads ++ filter.autoCandidateLoads ++ filter.fixedOnLoads).filterMap fun pointer =>
      (deref registry pointer).map RelayTarget.ofLoad)

/-- One operand of the `&&` chain: it runs only if the operands before it succeeded. -/
def andAlso (result : PowerManager × Bool) (next : PowerManager → PowerManager × Bool) : PowerManager × Bool :=
  if result.2 then next result.1 else result

end Central

namespace CentralState

open Central

variable (state : CentralState) (clock : CycleClock)

/-- The registry after the stored overrides were applied. -/
def plannedRegistry : CentralNodeRegistry :=
  applyStoredLoadSettings state.centralLoadConfigurationStore state.registry

/-- The filter of this cycle. -/
def loadFilter : LoadFilter Load.Id :=
  buildLoadFilter state.plannedRegistry state.commissioningRegistry clock.nowMilliseconds

/-- The registry that the search works on. -/
def preparedRegistry : CentralNodeRegistry :=
  resetFixedRejectionReasons (state.loadFilter clock) state.plannedRegistry

/-- The power that the plan cannot refuse. -/
def fixedPowerWatts : Rat := sumFixedOnPowerWatts (state.preparedRegistry clock) (state.loadFilter clock)

/-- The hours that are left, and the reference they are counted from. -/
def remainingRequiredRuntime : Rat × RuntimeTargetReference :=
  computeRemainingRequiredRuntimeHours state.runtimeTargetReference
    state.configuration.powerPlanning.requiredRuntimeHours clock.currentTimeValid clock.epochSeconds

/-- A runtime needs the battery and its state of charge. -/
def runtimeInputsReady : Bool :=
  !(0 < state.configuration.powerPlanning.requiredRuntimeHours) ||
    (state.configuration.batterySensor.batteryMetadataConfigured && state.batteryMonitor.isStateOfChargeValid)

/-- The first `updatePowerBudget` of the cycle behind its guards. -/
def firstBudgetUpdate : PowerManager × Bool :=
  let planning := state.configuration.powerPlanning
  let result := (state.batteryMonitor, planning.configured && state.runtimeInputsReady)
  let result := andAlso result (·.setPowerBudgetWatts planning.P_budget)
  let result := andAlso result (·.setPowerReserveWatts planning.P_reserve)
  let result := andAlso result (·.setFixedPowerWatts (state.fixedPowerWatts clock))
  let result := andAlso result (·.setAutoPowerWatts 0)
  let result := andAlso result (·.setRemainingRequiredRuntimeHours (state.remainingRequiredRuntime clock).1)
  andAlso result (·.updatePowerBudget)

/-- The search of the cycle. It reads the loads before any AUTO mode changes. -/
def search : BestFirstSearch Load.Id where
  availablePowerWatts := (state.firstBudgetUpdate clock).1.powerBudget.P_auto_available
  automaticLoads := (state.loadFilter clock).autoCandidateLoads
  currentTimeProvider := clock.currentTimeProvider
  deref := deref (state.preparedRegistry clock)

/-- Without a valid budget nothing is selected. -/
def selectedAutoLoads : List Load.Id :=
  if (state.firstBudgetUpdate clock).2 then (state.search clock).getBestCombination else []

/-- The loop over the AUTO loads begins with no power spent. -/
def autoPassStart (registry : CentralNodeRegistry) : AutoPass :=
  ⟨registry, state.centralLoadConfigurationStore, false, 0, 0⟩

/-- The loop over the AUTO candidates in the branch that is taken. -/
def autoPass : AutoPass :=
  if (state.firstBudgetUpdate clock).2 then
    (state.loadFilter clock).autoCandidateLoads.foldl (planAutoLoad (state.selectedAutoLoads clock))
      (state.autoPassStart (state.preparedRegistry clock))
  else
    (state.loadFilter clock).autoCandidateLoads.foldl switchOffAutoLoad
      (state.autoPassStart (recordAutoRejectionReason (state.loadFilter clock) BEST_FIRST_POWER_BUDGET_EXCEEDED
        (state.preparedRegistry clock)))

/-- The second `updatePowerBudget`, reached in the valid-budget branch only. -/
def secondBudgetUpdate : PowerManager × Bool :=
  if (state.firstBudgetUpdate clock).2 then
    andAlso ((state.firstBudgetUpdate clock).1.setAutoPowerWatts (state.autoPass clock).P_auto) (·.updatePowerBudget)
  else state.firstBudgetUpdate clock

/-- The second update counts the AUTO power in; if it fails, the first one is shown. -/
def planningSnapshot : PlanningSnapshot where
  budgetValid := (state.secondBudgetUpdate clock).2
  budget :=
    if (state.secondBudgetUpdate clock).2 then (state.secondBudgetUpdate clock).1.powerBudget
    else if (state.firstBudgetUpdate clock).2 then (state.firstBudgetUpdate clock).1.powerBudget
    else .zero
  fixedOnCount := (state.loadFilter clock).fixedOnLoads.length
  fixedOffCount := (state.loadFilter clock).fixedOffLoads.length
  automaticCandidateCount := (state.loadFilter clock).autoCandidateLoads.length
  automaticSelectedCount := (state.autoPass clock).automaticSelectedCount

/-- What a cycle leaves behind. `persistRequested` tells whether it calls
`persist` on the override store. -/
structure CycleResult where
  state : CentralState
  selectedAutoLoads : List Load.Id
  dispatchOrder : List RelayTarget
  persistRequested : Bool

/-- The part of a cycle that runs under `stateMutex`, once the lock is taken. -/
def runOptimizationCycle : CycleResult where
  state := { state with
    registry := (state.autoPass clock).registry
    centralLoadConfigurationStore := (state.autoPass clock).store
    batteryMonitor := (state.secondBudgetUpdate clock).1
    runtimeTargetReference := (state.remainingRequiredRuntime clock).2
    latestPlanningSnapshot := state.planningSnapshot clock
    lastOptimizationEpochSeconds :=
      if clock.finishedTimeValid then clock.finishedEpochSeconds else state.lastOptimizationEpochSeconds }
  selectedAutoLoads := state.selectedAutoLoads clock
  dispatchOrder := buildRelayTargets (state.autoPass clock).registry (state.loadFilter clock)
  persistRequested := (state.autoPass clock).autoRuntimeStateChanged

end CentralState

end kilowatts
