import Kilowatts.Central.SetupCommands

namespace kilowatts

namespace CentralConfiguration

variable (answers : FlashAnswers) (store : FlashBacked CentralConfiguration)

/-- Writing to the flash does not change the memory. -/
theorem persist_memory : (persist answers store).1.memory = store.memory := by
  unfold persist
  split <;> rfl

/-- A store succeeds if the configuration is valid and the flash takes all of it. -/
theorem persist_succeeds : (persist answers store).2 = (store.memory.isValid && answers.succeeds) := by
  unfold persist
  cases store.memory.isValid <;> rfl

/-- A valid battery configuration is in memory whether it could be persisted or not. -/
theorem storeBatterySensor_of_valid {batterySensor : BatterySensorConfiguration}
    (hsensor : batterySensor.isValidBatterySensor = true) :
    (storeBatterySensor answers batterySensor store).1.memory = { store.memory with batterySensor } ∧
      (storeBatterySensor answers batterySensor store).2 =
        (({ store.memory with batterySensor } : CentralConfiguration).isValid && answers.succeeds) := by
  simp only [storeBatterySensor, setBatterySensor, hsensor, Bool.not_true, Bool.false_eq_true, if_false, if_true]
  exact ⟨persist_memory _ _, persist_succeeds _ _⟩

/-- A valid plan stays in memory even if it could not be written. -/
theorem storePowerPlanning_of_valid {powerPlanning : PowerPlanningConfiguration}
    (hplanning : powerPlanning.isValidPowerPlanning = true) :
    (storePowerPlanning answers powerPlanning store).1.memory = { store.memory with powerPlanning } ∧
      (storePowerPlanning answers powerPlanning store).2 =
        (({ store.memory with powerPlanning } : CentralConfiguration).isValid && answers.succeeds) := by
  simp only [storePowerPlanning, setPowerPlanning, hplanning, Bool.not_true, Bool.false_eq_true, if_false, if_true]
  exact ⟨persist_memory _ _, persist_succeeds _ _⟩

/-- An invalid one is not even tried. -/
theorem storeBatterySensor_of_invalid {batterySensor : BatterySensorConfiguration}
    (hsensor : batterySensor.isValidBatterySensor = false) :
    storeBatterySensor answers batterySensor store = (store, false) := by
  simp [storeBatterySensor, setBatterySensor, hsensor]

end CentralConfiguration

namespace SensedCentral

variable {answers : SetupCommandAnswers} {central : SensedCentral}

/-- What a command does to the configuration: nothing if it is refused before the store, and
otherwise it is accepted just if the configuration that it puts into memory is persisted. -/
def Stores (answers : SetupCommandAnswers) (central : SensedCentral) (attempt : Option CentralConfiguration)
    (outcome : SensedCentral × CommandResult) : Prop :=
  match attempt with
  | none => outcome.1 = central ∧ outcome.2.accepted = false
  | some changed =>
    outcome.1.configuration = changed ∧
      outcome.2.accepted = (changed.isValid && answers.setup.flash.succeeds)

/-- A refusal stores nothing. -/
theorem stores_refuse (reason : String) : Stores answers central none (central.refuse reason) := ⟨rfl, rfl⟩

/-- Applying does not store. -/
@[simp] theorem applyBattery_configuration (monitor : MonitorAnswers) (battery : BatterySensorConfiguration)
    (restore : Bool) (central : SensedCentral) :
    (central.applyBattery monitor battery restore).1.configuration = central.configuration :=
  central.toMonitoredCentral.applyBatteryConfiguration_configuration monitor battery restore

@[simp] theorem invalidateReading_configuration (central : SensedCentral) :
    central.invalidateReading.configuration = central.configuration := rfl

@[simp] theorem withStore_self (central : SensedCentral) :
    central.withStore central.centralConfigurationStore = central := rfl

/-- An accepted command may go on, as long as it keeps the configuration. -/
theorem Stores.continue {attempt : Option CentralConfiguration} {outcome : SensedCentral × CommandResult}
    (hstores : Stores answers central attempt outcome) (haccepted : outcome.2.accepted = true)
    {after : SensedCentral} (hafter : after.configuration = outcome.1.configuration) :
    Stores answers central attempt (after, outcome.2) := by
  cases attempt with
  | none => exact absurd (hstores.2.symm.trans haccepted) Bool.false_ne_true
  | some changed => exact ⟨hafter.trans hstores.1, hstores.2⟩

/-- A handler that stores a configuration, refuses if that failed, and else goes on without
touching the configuration again. -/
theorem stores_of_store {changed : CentralConfiguration} {result : FlashBacked CentralConfiguration × Bool}
    {reason : String} {after : SensedCentral × CommandResult} (hmemory : result.1.memory = changed)
    (hstored : result.2 = (changed.isValid && answers.setup.flash.succeeds))
    (hafter : after.1.configuration = result.1.memory) (haccepted : after.2.accepted = true) :
    Stores answers central (some changed)
      (if !result.2 then (central.withStore result.1).refuse reason else after) := by
  cases hresult : result.2 with
  | false => exact ⟨hmemory, hresult.symm.trans hstored⟩
  | true => exact ⟨hafter.trans hmemory, haccepted.trans (hresult.symm.trans hstored)⟩

section Handlers

variable (answers central)

/-- What the bare plan command puts in memory, and when it tells of success. -/
theorem configurePowerPlanningCommand_stores (nodeMacAddress : MacAddress)
    (request : Option PowerPlanningCommandRequest) :
    Stores answers central
      ((attemptedPlan answers nodeMacAddress request).map ({ central.configuration with powerPlanning := · }))
      (central.configurePowerPlanningCommand answers nodeMacAddress request) := by
  unfold configurePowerPlanningCommand attemptedPlan
  cases request with
  | none => simpa using stores_refuse _
  | some request =>
    by_cases hmac : nodeMacAddress = answers.localMac
    · cases hexact : request.exact with
      | none => simpa [hexact, hmac] using stores_refuse _
      | some plan =>
        cases hvalid : plan.plan.isValidPowerPlanning with
        | false => simpa [hmac, hexact, hvalid, Option.filter] using stores_refuse _
        | true =>
          cases htaken : answers.stateTaken with
          | false => simpa [hmac, hexact, hvalid, htaken] using stores_refuse _
          | true =>
            obtain ⟨hmemory, hstored⟩ := CentralConfiguration.storePowerPlanning_of_valid answers.setup.flash
              central.centralConfigurationStore hvalid
            simp only [hmac, hexact, hvalid, Option.bind_some, Option.map_some, Option.filter_some, decide_true,
              Bool.and_self, if_true, ne_eq, not_true_eq_false, if_false, Bool.not_true, Bool.false_eq_true]
            refine stores_of_store hmemory hstored ?_ rfl
            dsimp only [complete]
            split
            · rw [invalidateReading_configuration, applyBattery_configuration]
              rfl
            · rfl
    · simpa [hmac] using stores_refuse _

theorem configureBatterySensorCommand_stores (nodeMacAddress : MacAddress)
    (request : Option (Ina219SetupCommandRequest × BatterySetupCommandRequest)) :
    Stores answers central (attempted answers central (.configureBatterySensor nodeMacAddress request))
      (central.configureBatterySensorCommand answers nodeMacAddress request) := by
  unfold configureBatterySensorCommand attempted attemptedBattery
  cases request with
  | none => simpa using stores_refuse _
  | some request =>
    obtain ⟨sensor, battery⟩ := request
    by_cases hmac : nodeMacAddress = answers.localMac
    · cases htaken : answers.stateTaken with
      | false => simpa [hmac, htaken] using stores_refuse _
      | true =>
        cases hsensor : sensor.exact with
        | none => simpa [hmac, htaken, hsensor] using stores_refuse _
        | some sensor =>
          cases hbattery : battery.exact with
          | none => simpa [hmac, htaken, hsensor, hbattery] using stores_refuse _
          | some battery =>
            cases hvalid : (battery.combinedWith sensor).isValidBatterySensor with
            | false => simpa [hmac, htaken, hsensor, hbattery, hvalid, Option.filter] using stores_refuse _
            | true =>
              obtain ⟨hmemory, hstored⟩ := CentralConfiguration.storeBatterySensor_of_valid answers.setup.flash
                central.centralConfigurationStore hvalid
              simp only [hmac, hsensor, hbattery, hvalid, Option.bind_eq_bind, Option.bind_some,
                Option.pure_def, Option.map_some, Option.filter_some, if_true, ne_eq, not_true_eq_false, if_false,
                Bool.not_true, Bool.false_eq_true]
              exact stores_of_store hmemory hstored
                ((invalidateReading_configuration _).trans (applyBattery_configuration _ _ _ _)) rfl
    · simpa [hmac] using stores_refuse _

theorem consoleConfigureIna219Command_stores (request : Ina219SetupCommandRequest) :
    Stores answers central (attempted answers central (.consoleConfigureIna219 request))
      (central.consoleConfigureIna219Command answers request) := by
  unfold consoleConfigureIna219Command attempted attemptedBattery
  cases htaken : answers.stateTaken with
  | false => simpa [htaken] using stores_refuse _
  | true =>
    cases hexact : request.exact with
    | none => simpa [htaken, hexact] using stores_refuse _
    | some sensor =>
      cases hvalid : (sensor.storedIn central.configuration.batterySensor).isValidBatterySensor with
      | false =>
        have hrefused := CentralConfiguration.storeBatterySensor_of_invalid answers.setup.flash
          central.centralConfigurationStore hvalid
        simpa [htaken, hexact, hvalid, hrefused, Option.filter] using stores_refuse _
      | true =>
        obtain ⟨hmemory, hstored⟩ := CentralConfiguration.storeBatterySensor_of_valid answers.setup.flash
          central.centralConfigurationStore hvalid
        simp only [hexact, hvalid, Option.map_some, Option.filter_some, if_true, Bool.not_true, Bool.false_eq_true,
          if_false]
        refine stores_of_store hmemory hstored ?_ ?_
        · split
          · rfl
          · exact (invalidateReading_configuration _).trans (applyBattery_configuration _ _ _ _)
        · split <;> rfl

theorem consoleConfigureBatterySetupCommand_stores (request : BatterySetupCommandRequest) :
    Stores answers central (attempted answers central (.consoleConfigureBatterySetup request))
      (central.consoleConfigureBatterySetupCommand answers request) := by
  unfold consoleConfigureBatterySetupCommand attempted attemptedBattery
  cases htaken : answers.stateTaken with
  | false => simpa [htaken] using stores_refuse _
  | true =>
    cases hexact : request.exact with
    | none => simpa [htaken, hexact] using stores_refuse _
    | some battery =>
      cases hvalid : (battery.storedIn central.configuration.batterySensor).isValidBatterySensor with
      | false =>
        have hrefused := CentralConfiguration.storeBatterySensor_of_invalid answers.setup.flash
          central.centralConfigurationStore hvalid
        simpa [htaken, hexact, hvalid, hrefused, Option.filter] using stores_refuse _
      | true =>
        obtain ⟨hmemory, hstored⟩ := CentralConfiguration.storeBatterySensor_of_valid answers.setup.flash
          central.centralConfigurationStore hvalid
        simp only [hexact, hvalid, Option.map_some, Option.filter_some, if_true, Bool.not_true, Bool.false_eq_true,
          if_false]
        refine stores_of_store hmemory hstored ?_ rfl
        dsimp only [complete]
        split
        · rw [invalidateReading_configuration, applyBattery_configuration]
          rfl
        · rfl

theorem consoleConfigurePowerPlanningValidated_stores (request : PowerPlanningCommandRequest) :
    Stores answers central (attempted answers central (.consoleConfigurePowerPlanningValidated request))
      (central.consoleConfigurePowerPlanningValidated answers request) := by
  dsimp only [consoleConfigurePowerPlanningValidated, attempted]
  cases hcheck : central.runtimeCheck request with
  | some reason => exact stores_refuse reason
  | none =>
    have hstores := configurePowerPlanningCommand_stores answers central
      answers.localMac (some request)
    dsimp only
    split
    · exact hstores
    · next haccepted =>
      simp only [Bool.or_eq_true, Bool.not_eq_true', not_or, Bool.not_eq_false] at haccepted
      split
      · exact hstores
      · exact hstores.continue haccepted.1 (applyBattery_configuration _ _ _ _)

/-- One case for each command. -/
theorem handleSetup_stores (command : SetupCommand) :
    Stores answers central (attempted answers central command) (central.handleSetup answers command) := by
  cases command with
  | configureBatterySensor nodeMacAddress request =>
    exact configureBatterySensorCommand_stores answers central nodeMacAddress request
  | configurePowerPlanning nodeMacAddress request =>
    exact configurePowerPlanningCommand_stores answers central nodeMacAddress request
  | consoleConfigureIna219 request => exact consoleConfigureIna219Command_stores answers central request
  | consoleConfigureBatterySetup request => exact consoleConfigureBatterySetupCommand_stores answers central request
  | consoleConfigurePowerPlanningValidated request =>
    exact consoleConfigurePowerPlanningValidated_stores answers central request

end Handlers

/-- With a valid configuration in memory, what a command puts there is valid too. -/
theorem attempted_isValid (hvalid : central.configuration.isValid = true) {command : SetupCommand}
    {changed : CentralConfiguration} (hattempted : attempted answers central command = some changed) :
    changed.isValid = true := by
  obtain ⟨hsensor, hplanning⟩ := Bool.and_eq_true_iff.mp hvalid
  have hbattery : ∀ configuration : Option BatterySensorConfiguration,
      (attemptedBattery answers configuration).map ({ central.configuration with batterySensor := · }) =
        some changed → changed.isValid = true := by
    intro configuration hmap
    obtain ⟨battery, hattempt, rfl⟩ := Option.map_eq_some_iff.mp hmap
    unfold attemptedBattery at hattempt
    split at hattempt
    · exact Bool.and_eq_true_iff.mpr ⟨(Option.filter_eq_some_iff.mp hattempt).2, hplanning⟩
    · cases hattempt
  have hplan : ∀ nodeMacAddress request,
      (attemptedPlan answers nodeMacAddress request).map ({ central.configuration with powerPlanning := · }) =
        some changed → changed.isValid = true := by
    intro nodeMacAddress request hmap
    obtain ⟨plan, hattempt, rfl⟩ := Option.map_eq_some_iff.mp hmap
    unfold attemptedPlan at hattempt
    split at hattempt
    · exact Bool.and_eq_true_iff.mpr ⟨hsensor, (Option.filter_eq_some_iff.mp hattempt).2⟩
    · cases hattempt
  cases command with
  | configureBatterySensor nodeMacAddress request =>
    dsimp only [attempted] at hattempted
    split at hattempted
    · exact hbattery _ hattempted
    · cases hattempted
  | configurePowerPlanning nodeMacAddress request => exact hplan _ _ hattempted
  | consoleConfigureIna219 request => exact hbattery _ hattempted
  | consoleConfigureBatterySetup request => exact hbattery _ hattempted
  | consoleConfigurePowerPlanningValidated request =>
    dsimp only [attempted] at hattempted
    split at hattempted
    · cases hattempted
    · exact hplan _ _ hattempted

end SensedCentral

namespace RejectedConfigurations

open SensedCentral

/-- A command that is not accepted leaves the configuration in memory as it was, and with it
what the next planning cycle plans with. -/
def LeavesConfiguration (central : SensedCentral) (outcome : SensedCentral × CommandResult) : Prop :=
  outcome.2.accepted = false →
    outcome.1.configuration = central.configuration ∧
      ∀ globals, (outcome.1.cycleState globals).configuration = (central.cycleState globals).configuration

/-- What the command puts into memory can be persisted, or is in force already. -/
def PersistedOrInForce (answers : SetupCommandAnswers) (central : SensedCentral) (command : SetupCommand) : Prop :=
  ∀ changed, attempted answers central command = some changed →
    (changed.isValid && answers.setup.flash.succeeds) = true ∨ changed = central.configuration

/-- A command that is rejected leaves the configuration as it was exactly if what it put into memory could
be persisted or was in force already. Nothing is assumed about the state: the condition says itself what
must have been written. -/
theorem rejected_configuration_leaves (answers : SetupCommandAnswers) (central : SensedCentral)
    (command : SetupCommand) :
    LeavesConfiguration central (central.handleSetup answers command) ↔
      PersistedOrInForce answers central command := by
  have hstores := handleSetup_stores answers central command
  unfold PersistedOrInForce
  cases hattempted : attempted answers central command with
  | none =>
    rw [hattempted] at hstores
    constructor
    · intro _ changed hchanged
      cases hchanged
    · intro _ _
      rw [hstores.1]
      exact ⟨rfl, fun _ => rfl⟩
  | some changed =>
    rw [hattempted] at hstores
    obtain ⟨hconfiguration, haccepted⟩ := hstores
    constructor
    · intro hleaves _ hchanged
      obtain rfl := Option.some.inj hchanged
      cases hpersisted : changed.isValid && answers.setup.flash.succeeds with
      | true => exact .inl rfl
      | false => exact .inr (hconfiguration.symm.trans (hleaves (haccepted.trans hpersisted)).1)
    · intro hcondition hrejected
      obtain hpersisted | hsame := hcondition changed rfl
      · exact absurd (haccepted.symm.trans hrejected) (by simp [hpersisted])
      · have hkept := hconfiguration.trans hsame
        exact ⟨hkept, fun _ => hkept⟩

/-- Central after a boot from an empty flash, with an INA219 that answers. -/
def booted : SensedCentral where
  toMonitoredCentral := MonitoredCentral.runApp true ⟨true, none⟩ .constructed
  latestBatteryMeasurements := BatteryMonitor.noMeasurements
  batteryReadingValid := false
  batteryReadingMilliseconds := 0

/-- A command that gets `stateMutex`, with a flash that has no room for the new value. -/
def fullFlash : SetupCommandAnswers where
  localMac := #v[2, 0, 0, 0, 0, 1]
  stateTaken := true
  setup := ⟨⟨true, false, false, false⟩, ⟨true, none⟩⟩
  takenAgain := true
  monitorAgain := ⟨true, none⟩

/-- The plan that could not be stored is the plan of the next cycle. -/
theorem rejected_configuration_not_left :
    ¬LeavesConfiguration booted (booted.handleSetup fullFlash
      (.configurePowerPlanning fullFlash.localMac (some ⟨.finite 200, .finite 20, .finite 20, .finite 0⟩))) := by
  intro hleaves
  have hkept := (hleaves (by decide +kernel)).1
  exact absurd hkept (by decide +kernel)

end RejectedConfigurations

end kilowatts
