import Kilowatts.Central.SetupCommands
import Kilowatts.Library.KeyedWrites
import Kilowatts.NodeManager.PersistedIdentity

namespace kilowatts

/-- `std::isfinite(value)` and a check of the value. -/
def CFloat.finiteAnd (check : Rat → Bool) (bits : UInt32) : Bool := (CFloat.ofBits bits).exact.any check

/-- For a finite number, the check of the code is the check of its exact value. -/
@[simp]
theorem CFloat.finiteAnd_of_exact {bits : UInt32} {value : Rat} (hexact : (CFloat.ofBits bits).exact = some value)
    (check : Rat → Bool) : CFloat.finiteAnd check bits = check value := by
  rw [finiteAnd, hexact, Option.any_some]

/-! The store of Central as it lies in the flash. Its numbers are the bits of floats. -/

namespace CentralConfigurationStore

/-- The floats are kept as their bits, as the flash keeps them. -/
structure BatterySensorConfiguration where
  ina219Configured : Bool
  batteryMetadataConfigured : Bool
  shuntResistanceOhms : UInt32
  maximumExpectedCurrentAmps : UInt32
  emaAlpha : UInt32
  batteryCapacityAmpHours : UInt32
  initialStateOfChargePercent : UInt32
  nominalVoltageVolts : UInt32
deriving DecidableEq

/-- The plan, in bits as well. -/
structure PowerPlanningConfiguration where
  configured : Bool
  P_budget : UInt32
  P_reserve : UInt32
  minimumStateOfChargePercent : UInt32
  requiredRuntimeHours : UInt32
deriving DecidableEq

structure Configuration where
  batterySensor : BatterySensorConfiguration
  powerPlanning : PowerPlanningConfiguration
deriving DecidableEq

/-- The version that is written. -/
def SAVED_VERSION : UInt8 := 8

/-- The version that can still be read. -/
def PREVIOUS_SAVED_VERSION : UInt8 := 7

def INA219_CONFIGURED_FLAG : UInt8 := 0x01

def BATTERY_METADATA_CONFIGURED_FLAG : UInt8 := 0x02

/-- The blob of the flash, field by field. -/
structure PersistedConfiguration where
  batteryConfigurationFlags : UInt8
  shuntResistanceOhms : UInt32
  maximumExpectedCurrentAmps : UInt32
  emaAlpha : UInt32
  batteryCapacityAmpHours : UInt32
  initialStateOfChargePercent : UInt32
  nominalVoltageVolts : UInt32
  powerPlanningConfigured : UInt8
  P_budget : UInt32
  P_reserve : UInt32
  minimumStateOfChargePercent : UInt32
  requiredRuntimeHours : UInt32
deriving DecidableEq

/-- The two keys of the namespace. A blob of another size counts as none. -/
structure Nvs where
  version : Option UInt8
  data : Option PersistedConfiguration
deriving DecidableEq

open CFloat (finiteAnd)

/-- The same checks as for exact numbers; what is not finite fails them. -/
def isValidBatterySensor (configuration : BatterySensorConfiguration) : Bool :=
  (!configuration.ina219Configured ||
    finiteAnd (0 < ·) configuration.shuntResistanceOhms &&
      finiteAnd (0 < ·) configuration.maximumExpectedCurrentAmps &&
      finiteAnd (fun emaAlpha => 0 < emaAlpha && emaAlpha ≤ 1) configuration.emaAlpha) &&
  (!configuration.batteryMetadataConfigured ||
    finiteAnd (0 < ·) configuration.batteryCapacityAmpHours &&
      finiteAnd PowerManager.isValidPercent configuration.initialStateOfChargePercent &&
      finiteAnd (0 < ·) configuration.nominalVoltageVolts)

/-- A plan that is not configured is valid whatever its numbers are. -/
def isValidPowerPlanning (configuration : PowerPlanningConfiguration) : Bool :=
  !configuration.configured ||
    finiteAnd (0 < ·) configuration.P_budget && finiteAnd (0 ≤ ·) configuration.P_reserve &&
      finiteAnd (fun P_budget => finiteAnd (· ≤ P_budget) configuration.P_reserve) configuration.P_budget &&
      finiteAnd PowerManager.isValidPercent configuration.minimumStateOfChargePercent &&
      finiteAnd (0 ≤ ·) configuration.requiredRuntimeHours

/-- What is checked before the blob is written and after it is read. -/
def Configuration.isValid (configuration : Configuration) : Bool :=
  isValidBatterySensor configuration.batterySensor && isValidPowerPlanning configuration.powerPlanning

/-- Whether the sensor and the battery are configured. The previous version had one flag
for both. -/
def configuredFlags (version batteryConfigurationFlags : UInt8) : Bool × Bool :=
  if version = PREVIOUS_SAVED_VERSION then
    let oldCombinedConfiguration := batteryConfigurationFlags != 0
    (oldCombinedConfiguration, oldCombinedConfiguration)
  else
    (batteryConfigurationFlags &&& INA219_CONFIGURED_FLAG != 0,
      batteryConfigurationFlags &&& BATTERY_METADATA_CONFIGURED_FLAG != 0)

/-- The configuration that `loadPersisted` checks and then takes. -/
def PersistedConfiguration.restored (version : UInt8) (saved : PersistedConfiguration) : Configuration where
  batterySensor :=
    { ina219Configured := (configuredFlags version saved.batteryConfigurationFlags).1
      batteryMetadataConfigured := (configuredFlags version saved.batteryConfigurationFlags).2
      shuntResistanceOhms := saved.shuntResistanceOhms
      maximumExpectedCurrentAmps := saved.maximumExpectedCurrentAmps
      emaAlpha := saved.emaAlpha
      batteryCapacityAmpHours := saved.batteryCapacityAmpHours
      initialStateOfChargePercent := saved.initialStateOfChargePercent
      nominalVoltageVolts := saved.nominalVoltageVolts }
  powerPlanning :=
    { configured := saved.powerPlanningConfigured != 0
      P_budget := saved.P_budget
      P_reserve := saved.P_reserve
      minimumStateOfChargePercent := saved.minimumStateOfChargePercent
      requiredRuntimeHours := saved.requiredRuntimeHours }

/-- What a boot takes from the flash. -/
def loadPersisted (nvs : Nvs) : Option Configuration := do
  let version ← nvs.version
  guard (version = SAVED_VERSION ∨ version = PREVIOUS_SAVED_VERSION)
  let saved ← nvs.data
  guard (saved.restored version).isValid
  return saved.restored version

/-- Two flags share one byte. -/
def savedFlags (ina219Configured batteryMetadataConfigured : Bool) : UInt8 :=
  (if ina219Configured then INA219_CONFIGURED_FLAG else 0) |||
    (if batteryMetadataConfigured then BATTERY_METADATA_CONFIGURED_FLAG else 0)

/-- The blob that `persist` writes. -/
def Configuration.saved (configuration : Configuration) : PersistedConfiguration where
  batteryConfigurationFlags :=
    savedFlags configuration.batterySensor.ina219Configured configuration.batterySensor.batteryMetadataConfigured
  shuntResistanceOhms := configuration.batterySensor.shuntResistanceOhms
  maximumExpectedCurrentAmps := configuration.batterySensor.maximumExpectedCurrentAmps
  emaAlpha := configuration.batterySensor.emaAlpha
  batteryCapacityAmpHours := configuration.batterySensor.batteryCapacityAmpHours
  initialStateOfChargePercent := configuration.batterySensor.initialStateOfChargePercent
  nominalVoltageVolts := configuration.batterySensor.nominalVoltageVolts
  powerPlanningConfigured := if configuration.powerPlanning.configured then 1 else 0
  P_budget := configuration.powerPlanning.P_budget
  P_reserve := configuration.powerPlanning.P_reserve
  minimumStateOfChargePercent := configuration.powerPlanning.minimumStateOfChargePercent
  requiredRuntimeHours := configuration.powerPlanning.requiredRuntimeHours

/-- The calls up to the commit. Each can be the last one that succeeds. -/
def writes (configuration : Configuration) : List (Nvs → Nvs) :=
  -- `nvs_open` writes nothing
  [id, fun nvs => { nvs with version := some SAVED_VERSION },
    fun nvs => { nvs with data := some configuration.saved }]

/-- The first `done` of the calls to the flash succeed. -/
def persist (done : Nat) (configuration : Configuration) (nvs : Nvs) : Nvs × Bool :=
  if !configuration.isValid then (nvs, false)
  else KeyedWrites.store (writes configuration ++ [id]) done nvs

/-! What is written is read back. -/

/-- The flags of the current version survive. -/
theorem configuredFlags_savedFlags (ina219Configured batteryMetadataConfigured : Bool) :
    configuredFlags SAVED_VERSION (savedFlags ina219Configured batteryMetadataConfigured) =
      (ina219Configured, batteryMetadataConfigured) := by
  cases ina219Configured <;> cases batteryMetadataConfigured <;> decide

/-- Every field survives the blob. -/
theorem restored_saved (configuration : Configuration) :
    configuration.saved.restored SAVED_VERSION = configuration := by
  have hplanned : ((if configuration.powerPlanning.configured then 1 else 0 : UInt8) != 0) =
      configuration.powerPlanning.configured := by
    cases configuration.powerPlanning.configured <;> rfl
  simp only [PersistedConfiguration.restored, Configuration.saved, configuredFlags_savedFlags, hplanned]

/-- A version without a blob tells nothing. -/
@[simp]
theorem loadPersisted_no_data (version : Option UInt8) : loadPersisted ⟨version, none⟩ = none := by
  cases version <;> simp [loadPersisted]

/-- A blob of a version that is not known is not read. -/
theorem loadPersisted_unknown {version : Option UInt8} (hcurrent : version ≠ some SAVED_VERSION)
    (hprevious : version ≠ some PREVIOUS_SAVED_VERSION) (data : Option PersistedConfiguration) :
    loadPersisted ⟨version, data⟩ = none := by
  cases version with
  | none => rfl
  | some version =>
    rw [Ne, Option.some_inj] at hcurrent hprevious
    simp [loadPersisted, hcurrent, hprevious, guard]

/-- A blob that is read is only used if it is valid. -/
theorem loadPersisted_known {version : UInt8} (hversion : version = SAVED_VERSION ∨ version = PREVIOUS_SAVED_VERSION)
    (saved : PersistedConfiguration) :
    loadPersisted ⟨some version, some saved⟩ =
      if (saved.restored version).isValid then some (saved.restored version) else none := by
  cases hvalid : (saved.restored version).isValid <;> simp [loadPersisted, hversion, hvalid, guard]

/-- After all calls, a boot finds what was stored. It needs a valid configuration. -/
theorem loadPersisted_written {configuration : Configuration} (hvalid : configuration.isValid = true) (nvs : Nvs) :
    loadPersisted (KeyedWrites.after (writes configuration ++ [id]) (writes configuration ++ [id]).length nvs) =
      some configuration := by
  change loadPersisted ⟨some SAVED_VERSION, some configuration.saved⟩ = _
  rw [loadPersisted_known (.inl rfl), restored_saved, if_pos hvalid]

/-! Which of the prefixes of the writes a boot cannot tell from the content before them. -/

/-- The flash holds the configuration, as one of the two versions. -/
def Holds (configuration : Configuration) (nvs : Nvs) : Prop :=
  ∃ version saved, nvs = ⟨some version, some saved⟩ ∧
    (version = SAVED_VERSION ∨ version = PREVIOUS_SAVED_VERSION) ∧ saved.restored version = configuration

/-- The data mean the same under the current version as under the version that is there. -/
def ReadsAlike (nvs : Nvs) : Prop :=
  nvs.version = some SAVED_VERSION ∨
    ∀ saved, nvs.data = some saved →
      (saved.restored SAVED_VERSION).isValid = false ∨
        nvs.version = some PREVIOUS_SAVED_VERSION ∧
          configuredFlags PREVIOUS_SAVED_VERSION saved.batteryConfigurationFlags =
            configuredFlags SAVED_VERSION saved.batteryConfigurationFlags

/-- A boot finds a valid configuration just if the flash holds it. -/
theorem loadPersisted_eq_some {configuration : Configuration} (hvalid : configuration.isValid = true) (nvs : Nvs) :
    loadPersisted nvs = some configuration ↔ Holds configuration nvs := by
  constructor
  · intro hload
    obtain ⟨version, data⟩ := nvs
    cases data with
    | none => simp at hload
    | some saved =>
      by_cases hknown : version = some SAVED_VERSION ∨ version = some PREVIOUS_SAVED_VERSION
      · obtain ⟨version, rfl, hversion⟩ : ∃ known, version = some known ∧
            (known = SAVED_VERSION ∨ known = PREVIOUS_SAVED_VERSION) := by
          rcases hknown with rfl | rfl
          · exact ⟨_, rfl, .inl rfl⟩
          · exact ⟨_, rfl, .inr rfl⟩
        rw [loadPersisted_known hversion, Option.ite_none_right_eq_some, Option.some_inj] at hload
        exact ⟨version, saved, rfl, hversion, hload.2⟩
      · rw [not_or] at hknown
        rw [loadPersisted_unknown hknown.1 hknown.2] at hload
        cases hload
  · rintro ⟨version, saved, rfl, hversion, rfl⟩
    rw [loadPersisted_known hversion, if_pos hvalid]

/-- The combined flag of the previous version asks for every check that the current version asks for. -/
theorem restored_isValid_of_previous {saved : PersistedConfiguration}
    (hvalid : (saved.restored PREVIOUS_SAVED_VERSION).isValid = true) :
    (saved.restored SAVED_VERSION).isValid = true := by
  simp only [Configuration.isValid, Bool.and_eq_true] at hvalid ⊢
  refine ⟨?_, hvalid.2⟩
  by_cases hflags : saved.batteryConfigurationFlags = 0
  · simp [isValidBatterySensor, PersistedConfiguration.restored, configuredFlags, hflags, SAVED_VERSION,
      PREVIOUS_SAVED_VERSION]
  · have hchecked := hvalid.1
    simp only [isValidBatterySensor, PersistedConfiguration.restored, configuredFlags, if_true, bne_iff_ne.mpr hflags,
      Bool.not_true, Bool.false_or, Bool.and_eq_true] at hchecked
    simp [isValidBatterySensor, PersistedConfiguration.restored, hchecked]

/-- Two versions differ only in how they read the flags. -/
theorem restored_eq_iff (saved : PersistedConfiguration) (version version' : UInt8) :
    saved.restored version = saved.restored version' ↔
      configuredFlags version saved.batteryConfigurationFlags =
        configuredFlags version' saved.batteryConfigurationFlags := by
  simp [PersistedConfiguration.restored, Prod.ext_iff]

/-- A blob means the same under both versions if its flags do, or if it is never used. -/
theorem loadPersisted_previous_eq_current (saved : PersistedConfiguration) :
    loadPersisted ⟨some SAVED_VERSION, some saved⟩ = loadPersisted ⟨some PREVIOUS_SAVED_VERSION, some saved⟩ ↔
      (saved.restored SAVED_VERSION).isValid = false ∨
        configuredFlags PREVIOUS_SAVED_VERSION saved.batteryConfigurationFlags =
          configuredFlags SAVED_VERSION saved.batteryConfigurationFlags := by
  rw [loadPersisted_known (.inl rfl), loadPersisted_known (.inr rfl), ← restored_eq_iff]
  cases hcurrent : (saved.restored SAVED_VERSION).isValid with
  | false =>
    have hprevious : (saved.restored PREVIOUS_SAVED_VERSION).isValid ≠ true := by
      intro hvalid
      rw [restored_isValid_of_previous hvalid] at hcurrent
      cases hcurrent
    simp [hprevious]
  | true =>
    constructor
    · intro halike
      rw [if_pos rfl, eq_comm, Option.ite_none_right_eq_some, Option.some_inj] at halike
      exact .inr halike.2
    · rintro (hinvalid | halike)
      · cases hinvalid
      · rw [halike, hcurrent]

theorem loadPersisted_version_written (nvs : Nvs) :
    loadPersisted { nvs with version := some SAVED_VERSION } = loadPersisted nvs ↔ ReadsAlike nvs := by
  obtain ⟨version, data⟩ := nvs
  cases data with
  | none => simp [ReadsAlike]
  | some saved =>
    by_cases hcurrent : version = some SAVED_VERSION
    · simp [ReadsAlike, hcurrent]
    by_cases hprevious : version = some PREVIOUS_SAVED_VERSION
    · subst hprevious
      rw [loadPersisted_previous_eq_current]
      simp [ReadsAlike, SAVED_VERSION, PREVIOUS_SAVED_VERSION]
    · simp [ReadsAlike, hcurrent, hprevious, loadPersisted_known (.inl rfl), loadPersisted_unknown]

/-- A failure harms nothing before the version is written, and later only if the new version
does not change what the old data mean, or if there is nothing new in the data. -/
def Harmless (done : Nat) (configuration : Configuration) (nvs : Nvs) : Prop :=
  configuration.isValid = true → (done = 2 → ReadsAlike nvs) ∧ (done = 3 → Holds configuration nvs)

/-- One store, however far its calls come and whatever was there before. -/
theorem allOrNothing_persist (done : Nat) (configuration : Configuration) (nvs : Nvs) :
    KeyedWrites.AllOrNothing loadPersisted configuration nvs (persist done configuration nvs) ↔
      Harmless done configuration nvs := by
  cases hvalid : configuration.isValid with
  | false => simp [persist, Harmless, hvalid]
  | true =>
    have hwritten := loadPersisted_written hvalid nvs
    simp only [persist, Harmless, hvalid, Bool.not_true, Bool.false_eq_true, if_false, true_implies]
    rw [KeyedWrites.allOrNothing_committed hwritten, loadPersisted_eq_some hvalid, ← loadPersisted_version_written]
    refine and_congr ?_ Iff.rfl
    match done with
    | 0 | 1 => simp [writes]
    | 2 => simp [writes]
    | done + 3 => simp [writes]

/-! The configuration with exact numbers. -/

/-- The numbers that the bits stand for, if all of them are finite. -/
def BatterySensorConfiguration.exact (configuration : BatterySensorConfiguration) :
    Option kilowatts.BatterySensorConfiguration := do
  let shuntResistanceOhms ← (CFloat.ofBits configuration.shuntResistanceOhms).exact
  let maximumExpectedCurrentAmps ← (CFloat.ofBits configuration.maximumExpectedCurrentAmps).exact
  let emaAlpha ← (CFloat.ofBits configuration.emaAlpha).exact
  let batteryCapacityAmpHours ← (CFloat.ofBits configuration.batteryCapacityAmpHours).exact
  let initialStateOfChargePercent ← (CFloat.ofBits configuration.initialStateOfChargePercent).exact
  let nominalVoltageVolts ← (CFloat.ofBits configuration.nominalVoltageVolts).exact
  return ⟨configuration.ina219Configured, configuration.batteryMetadataConfigured, shuntResistanceOhms,
    maximumExpectedCurrentAmps, emaAlpha, batteryCapacityAmpHours, initialStateOfChargePercent, nominalVoltageVolts⟩

def PowerPlanningConfiguration.exact (configuration : PowerPlanningConfiguration) :
    Option kilowatts.PowerPlanningConfiguration := do
  let P_budget ← (CFloat.ofBits configuration.P_budget).exact
  let P_reserve ← (CFloat.ofBits configuration.P_reserve).exact
  let minimumStateOfChargePercent ← (CFloat.ofBits configuration.minimumStateOfChargePercent).exact
  let requiredRuntimeHours ← (CFloat.ofBits configuration.requiredRuntimeHours).exact
  return ⟨configuration.configured, P_budget, P_reserve, minimumStateOfChargePercent, requiredRuntimeHours⟩

def Configuration.exact (configuration : Configuration) : Option CentralConfiguration := do
  let batterySensor ← configuration.batterySensor.exact
  let powerPlanning ← configuration.powerPlanning.exact
  return ⟨batterySensor, powerPlanning⟩

theorem isValidBatterySensor_of_exact {configuration : BatterySensorConfiguration}
    {exact : kilowatts.BatterySensorConfiguration} (hexact : configuration.exact = some exact) :
    isValidBatterySensor configuration = exact.isValidBatterySensor := by
  simp only [BatterySensorConfiguration.exact, bind, pure, Option.bind_eq_some_iff, Option.some_inj] at hexact
  obtain ⟨_, hshunt, _, hcurrent, _, halpha, _, hcapacity, _, hinitial, _, hvoltage, rfl⟩ := hexact
  simp [isValidBatterySensor, kilowatts.BatterySensorConfiguration.isValidBatterySensor,
    CFloat.finiteAnd_of_exact hshunt, CFloat.finiteAnd_of_exact hcurrent, CFloat.finiteAnd_of_exact halpha,
    CFloat.finiteAnd_of_exact hcapacity, CFloat.finiteAnd_of_exact hinitial, CFloat.finiteAnd_of_exact hvoltage,
    Bool.and_assoc]

theorem isValidPowerPlanning_of_exact {configuration : PowerPlanningConfiguration}
    {exact : kilowatts.PowerPlanningConfiguration} (hexact : configuration.exact = some exact) :
    isValidPowerPlanning configuration = exact.isValidPowerPlanning := by
  simp only [PowerPlanningConfiguration.exact, bind, pure, Option.bind_eq_some_iff, Option.some_inj] at hexact
  obtain ⟨_, hbudget, _, hreserve, _, hminimum, _, hruntime, rfl⟩ := hexact
  simp [isValidPowerPlanning, kilowatts.PowerPlanningConfiguration.isValidPowerPlanning,
    CFloat.finiteAnd_of_exact hbudget, CFloat.finiteAnd_of_exact hreserve, CFloat.finiteAnd_of_exact hminimum,
    CFloat.finiteAnd_of_exact hruntime]

/-- Where all numbers are finite, the two models check the same. -/
theorem isValid_of_exact {configuration : Configuration} {exact : CentralConfiguration}
    (hexact : configuration.exact = some exact) : configuration.isValid = exact.isValid := by
  simp only [Configuration.exact, bind, pure, Option.bind_eq_some_iff, Option.some_inj] at hexact
  obtain ⟨_, hsensor, _, hplanning, rfl⟩ := hexact
  rw [Configuration.isValid, CentralConfiguration.isValid, isValidBatterySensor_of_exact hsensor,
    isValidPowerPlanning_of_exact hplanning]

/-- A store that succeeds leaves what the store of the exact configuration leaves. -/
theorem persist_exact {configuration : Configuration} {store : FlashBacked CentralConfiguration}
    (hexact : configuration.exact = some store.memory) {done : Nat} {nvs : Nvs}
    (hpersisted : (persist done configuration nvs).2 = true) :
    (loadPersisted (persist done configuration nvs).1).bind Configuration.exact =
      some (CentralConfiguration.loadPersisted true (CentralConfiguration.persist .succeeding store).1.flash) := by
  have hvalid : configuration.isValid = true := by
    by_contra hinvalid
    rw [Bool.not_eq_true] at hinvalid
    simp [persist, hinvalid] at hpersisted
  have hdone : (writes configuration ++ [id]).length ≤ done := by
    simpa [persist, hvalid, KeyedWrites.store] using hpersisted
  have hload : loadPersisted (persist done configuration nvs).1 = some configuration := by
    simp only [persist, hvalid, Bool.not_true, Bool.false_eq_true, if_false, KeyedWrites.store]
    rw [KeyedWrites.after_of_length_le hdone, loadPersisted_written hvalid]
  rw [isValid_of_exact hexact] at hvalid
  have hflash : (CentralConfiguration.persist .succeeding store).1.flash = store.memory := by
    simp [CentralConfiguration.persist, hvalid, FlashBacked.persist, FlashAnswers.succeeding, FlashAnswers.writes]
  rw [hload, Option.bind_some, hexact, hflash]
  simp [CentralConfiguration.loadPersisted, hvalid]

/-- What the previous version left: a sensor with its battery, under one flag. -/
def previousNvs : Nvs where
  version := some PREVIOUS_SAVED_VERSION
  data := some ⟨0x01, 0x3DCCCCCD, 0x40000000, 0x3E4CCCCD, 0x42C80000, 0x42A00000, 0x41400000, 0, 0, 0, 0, 0⟩

/-- The same with a power planning. -/
def plannedConfiguration : Configuration where
  batterySensor := ⟨true, true, 0x3DCCCCCD, 0x40000000, 0x3E4CCCCD, 0x42C80000, 0x42A00000, 0x41400000⟩
  powerPlanning := ⟨true, 0x43480000, 0x41A00000, 0x41F00000, 0x40C00000⟩

end CentralConfigurationStore

/-- A Node with a name of four letters, as its flash holds it. -/
def NodeIdentityStore.namedNvs : NodeIdentityStore.Nvs := ⟨some 1, some 4, some [112, 117, 109, 112]⟩

/-- `persist` of either store is all or nothing exactly if the call that fails harms nothing. Nothing is
assumed about what memory and flash hold before. -/
theorem persist_all_or_nothing_iff (done : Nat) (configuration : CentralConfigurationStore.Configuration)
    (nvs : CentralConfigurationStore.Nvs) (identity : NodeIdentityStore.Held) (identityNvs : NodeIdentityStore.Nvs) :
    (KeyedWrites.AllOrNothing CentralConfigurationStore.loadPersisted configuration nvs
        (CentralConfigurationStore.persist done configuration nvs) ↔
      CentralConfigurationStore.Harmless done configuration nvs) ∧
    (KeyedWrites.AllOrNothing NodeIdentityStore.loadNvs identity.toNodeIdentityStore identityNvs
        (NodeIdentityStore.persistNvs done identity.toNodeIdentityStore identityNvs) ↔
      NodeIdentityStore.Harmless done identity.toNodeIdentityStore identityNvs) :=
  ⟨CentralConfigurationStore.allOrNothing_persist done configuration nvs,
    NodeIdentityStore.allOrNothing_persistNvs done identity identityNvs⟩

/-- When the last write fails, Central loses its battery and a Node its commission. -/
theorem persist_not_all_or_nothing :
    ¬KeyedWrites.AllOrNothing CentralConfigurationStore.loadPersisted CentralConfigurationStore.plannedConfiguration
        CentralConfigurationStore.previousNvs
        (CentralConfigurationStore.persist 2 CentralConfigurationStore.plannedConfiguration
          CentralConfigurationStore.previousNvs) ∧
      ¬KeyedWrites.AllOrNothing NodeIdentityStore.loadNvs .applyDecommission NodeIdentityStore.namedNvs
        (NodeIdentityStore.persistNvs 3 .applyDecommission NodeIdentityStore.namedNvs) := by
  decide +kernel

end kilowatts
