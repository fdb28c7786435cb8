import Kilowatts.Library.KeyedList
import Kilowatts.LoadManager.Load

namespace kilowatts

/-- One load's stored user configuration. -/
structure ConfigurationEntry where
  macAddress : MacAddress
  relayPin : UInt8
  priority : UInt16
  mode : LoadMode
  schedule : AutoSchedule
deriving DecidableEq

/-- What a user can override of a load. -/
@[ext]
structure LoadSettings where
  priority : UInt16
  mode : LoadMode
  schedule : AutoSchedule
deriving DecidableEq

def ConfigurationEntry.settings (entry : ConfigurationEntry) : LoadSettings :=
  ⟨entry.priority, entry.mode, entry.schedule⟩

def Load.settings (load : Load) : LoadSettings := ⟨load.priority, load.mode, load.schedule⟩

def Load.withSettings (settings : LoadSettings) (load : Load) : Load :=
  { load with priority := settings.priority, mode := settings.mode, schedule := settings.schedule }

namespace LoadSettings

def isFixed (settings : LoadSettings) : Bool := settings.mode = .FIXED_ON || settings.mode = .FIXED_OFF

def isAuto (settings : LoadSettings) : Bool := settings.mode = .AUTO_ON || settings.mode = .AUTO_OFF

theorem isFixed_iff {settings : LoadSettings} :
    settings.isFixed = true ↔ settings.mode = .FIXED_ON ∨ settings.mode = .FIXED_OFF := by
  simp [isFixed]

theorem isAuto_iff {settings : LoadSettings} :
    settings.isAuto = true ↔ settings.mode = .AUTO_ON ∨ settings.mode = .AUTO_OFF := by
  simp [isAuto]

/-- No load is FIXED and AUTO. -/
theorem isFixed_of_isAuto {settings : LoadSettings} (hauto : settings.isAuto = true) : settings.isFixed = false := by
  obtain hmode | hmode := isAuto_iff.mp hauto
  · simp [isFixed, hmode]
  · simp [isFixed, hmode]

/-- A mode that is declared, and no schedule for a load that is not AUTO. -/
structure WellFormed (settings : LoadSettings) : Prop where
  mode : settings.mode.isDeclared = true
  schedule : settings.isAuto = false → settings.schedule = .none

theorem WellFormed.isFixed {settings : LoadSettings} (hwellFormed : settings.WellFormed)
    (hauto : settings.isAuto = false) : settings.isFixed = true := by
  have hdeclared := hwellFormed.mode
  cases hmode : settings.mode with
  | FIXED_ON => simp [LoadSettings.isFixed, hmode]
  | FIXED_OFF => simp [LoadSettings.isFixed, hmode]
  | AUTO_ON => simp [LoadSettings.isAuto, hmode] at hauto
  | AUTO_OFF => simp [LoadSettings.isAuto, hmode] at hauto
  | undeclared byte hbyte =>
    rw [hmode] at hdeclared
    cases hdeclared

/-- The same class, FIXED or AUTO, the same priority and the same schedule. Whether the
load is ON is not compared. -/
structure Agree (first second : LoadSettings) : Prop where
  isFixed : first.isFixed = second.isFixed
  isAuto : first.isAuto = second.isAuto
  priority : first.priority = second.priority
  schedule : first.schedule = second.schedule

instance (first second : LoadSettings) : Decidable (first.Agree second) :=
  decidable_of_iff (first.isFixed = second.isFixed ∧ first.isAuto = second.isAuto ∧
      first.priority = second.priority ∧ first.schedule = second.schedule)
    ⟨fun ⟨hfixed, hauto, hpriority, hschedule⟩ => ⟨hfixed, hauto, hpriority, hschedule⟩,
      fun ⟨hfixed, hauto, hpriority, hschedule⟩ => ⟨hfixed, hauto, hpriority, hschedule⟩⟩

theorem Agree.refl (settings : LoadSettings) : settings.Agree settings := ⟨rfl, rfl, rfl, rfl⟩

theorem Agree.trans {first second third : LoadSettings} (hfirst : first.Agree second) (hsecond : second.Agree third) :
    first.Agree third :=
  ⟨hfirst.isFixed.trans hsecond.isFixed, hfirst.isAuto.trans hsecond.isAuto, hfirst.priority.trans hsecond.priority,
    hfirst.schedule.trans hsecond.schedule⟩

end LoadSettings

/-- The entry has the class and the priority of the settings, and for an AUTO load also
their schedule. -/
structure ConfigurationEntry.AgreesWith (entry : ConfigurationEntry) (settings : LoadSettings) : Prop where
  isFixed : entry.settings.isFixed = settings.isFixed
  isAuto : entry.settings.isAuto = settings.isAuto
  priority : entry.priority = settings.priority
  schedule : settings.isAuto = true → entry.schedule = settings.schedule

instance (entry : ConfigurationEntry) (settings : LoadSettings) : Decidable (entry.AgreesWith settings) :=
  decidable_of_iff (entry.settings.isFixed = settings.isFixed ∧ entry.settings.isAuto = settings.isAuto ∧
      entry.priority = settings.priority ∧ (settings.isAuto = true → entry.schedule = settings.schedule))
    ⟨fun ⟨hfixed, hauto, hpriority, hschedule⟩ => ⟨hfixed, hauto, hpriority, hschedule⟩,
      fun ⟨hfixed, hauto, hpriority, hschedule⟩ => ⟨hfixed, hauto, hpriority, hschedule⟩⟩

/-- The user overrides of Central, in the order they are stored. -/
structure LoadConfigurationStore where
  entries : List ConfigurationEntry
deriving DecidableEq

namespace LoadConfigurationStore

/-- Entries are found by the address and pin of their load. -/
def entryId (entry : ConfigurationEntry) : Load.Id := ⟨entry.macAddress, entry.relayPin⟩

def findConfiguration (store : LoadConfigurationStore) (macAddress : MacAddress) (relayPin : UInt8) :
    Option ConfigurationEntry :=
  KeyedList.lookup entryId store.entries ⟨macAddress, relayPin⟩

def setConfiguration (store : LoadConfigurationStore) (entry : ConfigurationEntry) :
    LoadConfigurationStore × Bool :=
  if !entry.schedule.isValidSchedule then (store, false)
  else if (store.findConfiguration entry.macAddress entry.relayPin).isSome then
    ({ entries := KeyedList.update entryId (entryId entry) (fun _ => entry) store.entries }, true)
  else ({ entries := store.entries ++ [entry] }, true)

def removeConfiguration (store : LoadConfigurationStore) (macAddress : MacAddress) (relayPin : UInt8) :
    LoadConfigurationStore × Bool :=
  ({ entries := KeyedList.remove entryId ⟨macAddress, relayPin⟩ store.entries },
   (store.findConfiguration macAddress relayPin).isSome)

/-- Applies the stored priority, mode and schedule to the matching load. -/
def applyToLoad (store : LoadConfigurationStore) (load : Load) : Load × Bool :=
  match store.findConfiguration load.getMacAddress load.getRelayPin with
  | none => (load, false)
  | some entry => ((((load.setPriority entry.priority).setMode entry.mode).setSchedule entry.schedule).1, true)

/-- No load has two entries. -/
def Distinct (store : LoadConfigurationStore) : Prop := (store.entries.map entryId).Nodup

theorem setConfiguration_eq (store : LoadConfigurationStore) (entry : ConfigurationEntry) :
    store.setConfiguration entry =
      (if entry.schedule.isValidSchedule then (⟨KeyedList.put entryId entry store.entries⟩, true)
        else (store, false)) := by
  cases hvalid : entry.schedule.isValidSchedule with
  | false => simp [setConfiguration, hvalid]
  | true =>
    have hlookup : KeyedList.lookup entryId store.entries (entryId entry) =
        store.findConfiguration entry.macAddress entry.relayPin := rfl
    by_cases hfind : (store.findConfiguration entry.macAddress entry.relayPin).isSome
    · simp [setConfiguration, KeyedList.put, hvalid, hlookup, hfind]
    · simp [setConfiguration, KeyedList.put, hvalid, hlookup, hfind]

/-- An accepted entry is found for its load, and no other load is affected. -/
theorem setConfiguration_findConfiguration {store : LoadConfigurationStore} {entry : ConfigurationEntry}
    (hvalid : entry.schedule.isValidSchedule = true) (id : Load.Id) :
    (store.setConfiguration entry).1.findConfiguration id.macAddress id.relayPin =
      if id = entryId entry then some entry else store.findConfiguration id.macAddress id.relayPin := by
  rw [setConfiguration_eq, if_pos hvalid]
  exact KeyedList.lookup_put entry store.entries id

theorem setConfiguration_eq_self_iff {store : LoadConfigurationStore} {entry : ConfigurationEntry}
    (hvalid : entry.schedule.isValidSchedule = true) :
    (store.setConfiguration entry).1 = store ↔
      store.findConfiguration entry.macAddress entry.relayPin = some entry := by
  rw [setConfiguration_eq, if_pos hvalid, findConfiguration,
    show (⟨entry.macAddress, entry.relayPin⟩ : Load.Id) = entryId entry from rfl, ← KeyedList.put_eq_self_iff]
  constructor
  · intro hsame
    exact congrArg entries hsame
  · intro hsame
    rw [hsame]

/-- Every entry has a schedule that `setConfiguration` accepts. -/
def Valid (store : LoadConfigurationStore) : Prop := ∀ entry ∈ store.entries, entry.schedule.isValidSchedule = true

theorem Valid.findConfiguration {store : LoadConfigurationStore} (hvalid : store.Valid) {macAddress : MacAddress}
    {relayPin : UInt8} {entry : ConfigurationEntry} (hfind : store.findConfiguration macAddress relayPin = some entry) :
    entry.schedule.isValidSchedule = true :=
  hvalid entry (KeyedList.mem_of_lookup hfind)

theorem Valid.setConfiguration {store : LoadConfigurationStore} (hvalid : store.Valid) (entry : ConfigurationEntry) :
    (store.setConfiguration entry).1.Valid := by
  rw [setConfiguration_eq]
  split
  · rename_i haccepted
    intro other hother
    obtain hold | rfl := KeyedList.mem_put hother
    · exact hvalid other hold
    · exact haccepted
  · exact hvalid

theorem Valid.removeConfiguration {store : LoadConfigurationStore} (hvalid : store.Valid) (macAddress : MacAddress)
    (relayPin : UInt8) : (store.removeConfiguration macAddress relayPin).1.Valid :=
  fun entry hentry => hvalid entry ((KeyedList.remove_sublist _ _).mem hentry)

theorem Distinct.setConfiguration {store : LoadConfigurationStore} (hdistinct : store.Distinct)
    (entry : ConfigurationEntry) : (store.setConfiguration entry).1.Distinct := by
  rw [setConfiguration_eq]
  split
  · exact KeyedList.nodup_put hdistinct entry
  · exact hdistinct

theorem Distinct.removeConfiguration {store : LoadConfigurationStore} (hdistinct : store.Distinct)
    (macAddress : MacAddress) (relayPin : UInt8) : (store.removeConfiguration macAddress relayPin).1.Distinct :=
  ((KeyedList.remove_sublist _ _).map entryId).nodup hdistinct

/-- A removed entry is gone, and no other load is affected. -/
theorem removeConfiguration_findConfiguration {store : LoadConfigurationStore} (hdistinct : store.Distinct)
    (removed id : Load.Id) :
    (store.removeConfiguration removed.macAddress removed.relayPin).1.findConfiguration id.macAddress id.relayPin =
      if id = removed then none else store.findConfiguration id.macAddress id.relayPin :=
  KeyedList.lookup_remove hdistinct removed id

/-- Only the entry of the removed load can go. -/
theorem removeConfiguration_findConfiguration_of_ne {removed id : Load.Id} (hother : id ≠ removed)
    (store : LoadConfigurationStore) :
    (store.removeConfiguration removed.macAddress removed.relayPin).1.findConfiguration id.macAddress id.relayPin =
      store.findConfiguration id.macAddress id.relayPin :=
  KeyedList.lookup_remove_of_ne hother store.entries

/-- What a stored entry makes of its load. A fixed mode drops the schedule, and a
mode that is not declared keeps the one of the load. -/
theorem applyToLoad_eq {store : LoadConfigurationStore} {load : Load} {entry : ConfigurationEntry}
    (hfind : store.findConfiguration load.getMacAddress load.getRelayPin = some entry) :
    (store.applyToLoad load).1 = load.withSettings { entry.settings with
      schedule :=
        if entry.mode = .FIXED_ON ∨ entry.mode = .FIXED_OFF then .none
        else if (entry.mode = .AUTO_ON ∨ entry.mode = .AUTO_OFF) ∧ entry.schedule.isValidSchedule then entry.schedule
        else load.schedule } := by
  simp only [applyToLoad, hfind]
  rw [Load.setSchedule_eq, Load.setMode_eq]
  cases hmode : entry.mode with
  | FIXED_ON => simp [Load.isAuto, Load.withSettings, Load.setPriority, ConfigurationEntry.settings, hmode]
  | FIXED_OFF => simp [Load.isAuto, Load.withSettings, Load.setPriority, ConfigurationEntry.settings, hmode]
  | AUTO_ON =>
    cases hvalid : entry.schedule.isValidSchedule <;>
      simp [Load.isAuto, Load.withSettings, Load.setPriority, ConfigurationEntry.settings, hmode]
  | AUTO_OFF =>
    cases hvalid : entry.schedule.isValidSchedule <;>
      simp [Load.isAuto, Load.withSettings, Load.setPriority, ConfigurationEntry.settings, hmode]
  | undeclared byte hbyte =>
    simp [Load.isAuto, Load.withSettings, Load.setPriority, ConfigurationEntry.settings, hmode]

theorem applyToLoad_of_none {store : LoadConfigurationStore} {load : Load}
    (hfind : store.findConfiguration load.getMacAddress load.getRelayPin = none) : (store.applyToLoad load).1 = load := by
  rw [applyToLoad, hfind]

/-- The settings of a load that has an entry with an accepted schedule. -/
theorem applyToLoad_settings {store : LoadConfigurationStore} {load : Load} {entry : ConfigurationEntry}
    (hfind : store.findConfiguration load.getMacAddress load.getRelayPin = some entry)
    (hvalid : entry.schedule.isValidSchedule = true) :
    (store.applyToLoad load).1.settings = { entry.settings with
      schedule :=
        if entry.settings.isFixed then .none
        else if entry.settings.isAuto then entry.schedule
        else load.schedule } := by
  rw [applyToLoad_eq hfind]
  simp only [LoadSettings.isFixed_iff, LoadSettings.isAuto_iff, hvalid, and_true]
  rfl

/-- A load takes the settings of its entry as far as the entry agrees with them. -/
theorem applyToLoad_agree_iff {store : LoadConfigurationStore} {load : Load} {entry : ConfigurationEntry}
    {settings : LoadSettings}
    (hfind : store.findConfiguration load.getMacAddress load.getRelayPin = some entry)
    (hvalid : entry.schedule.isValidSchedule = true) (hwellFormed : settings.WellFormed) :
    (store.applyToLoad load).1.settings.Agree settings ↔ entry.AgreesWith settings := by
  rw [applyToLoad_settings hfind hvalid]
  constructor
  · intro hagree
    refine ⟨hagree.isFixed, hagree.isAuto, hagree.priority, fun hauto => ?_⟩
    have hentry : entry.settings.isAuto = true := hagree.isAuto.trans hauto
    have hschedule := hagree.schedule
    simpa only [hentry, LoadSettings.isFixed_of_isAuto hentry, Bool.false_eq_true, if_false, if_true] using hschedule
  · intro hagrees
    refine ⟨hagrees.isFixed, hagrees.isAuto, hagrees.priority, ?_⟩
    dsimp only
    cases hauto : settings.isAuto with
    | true =>
      have hentry : entry.settings.isAuto = true := hagrees.isAuto.trans hauto
      rw [LoadSettings.isFixed_of_isAuto hentry, hentry, ← hagrees.schedule hauto]
      rfl
    | false => rw [hagrees.isFixed, hwellFormed.isFixed hauto, hwellFormed.schedule hauto, if_pos rfl]

@[simp] theorem applyToLoad_id (store : LoadConfigurationStore) (load : Load) :
    (store.applyToLoad load).1.id = load.id := by
  simp only [applyToLoad]
  split <;> simp [Load.setPriority]

/-- Overrides hold no rating. -/
@[simp] theorem applyToLoad_powerRatingWatts (store : LoadConfigurationStore) (load : Load) :
    (store.applyToLoad load).1.powerRatingWatts = load.powerRatingWatts := by
  simp only [applyToLoad]
  split
  · rfl
  · rw [Load.setSchedule_eq]
    split <;> simp [Load.setMode_eq, Load.setPriority]

end LoadConfigurationStore

end kilowatts
