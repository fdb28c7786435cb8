import Kilowatts.Library.KeyedWrites
import Kilowatts.Library.PackedRecords
import Kilowatts.LoadManager.LoadConfigurationStore

namespace kilowatts.LoadConfigurationStore

structure PersistedEntryRecord where
  macAddress : MacAddress
  relayPin : UInt8
  priority : UInt16
  mode : UInt8
  scheduleEnabled : UInt8
  scheduleStartHour : UInt8
  scheduleStartMinute : UInt8
  scheduleEndHour : UInt8
  scheduleEndMinute : UInt8
deriving DecidableEq

/-- A record of the first version, whose schedule has no end. -/
structure LegacyPersistedEntryRecord where
  macAddress : MacAddress
  relayPin : UInt8
  priority : UInt16
  mode : UInt8
  scheduleEnabled : UInt8
  scheduleHour : UInt8
  scheduleMinute : UInt8
deriving DecidableEq

open PackedLayout

namespace PersistedEntryRecord

def fields : PersistedEntryRecord ≃
    MacAddress × UInt8 × UInt16 × UInt8 × UInt8 × UInt8 × UInt8 × UInt8 × UInt8 where
  toFun record := (record.macAddress, record.relayPin, record.priority, record.mode, record.scheduleEnabled,
    record.scheduleStartHour, record.scheduleStartMinute, record.scheduleEndHour, record.scheduleEndMinute)
  invFun := fun (macAddress, relayPin, priority, mode, enabled, startHour, startMinute, endHour, endMinute) =>
    ⟨macAddress, relayPin, priority, mode, enabled, startHour, startMinute, endHour, endMinute⟩
  left_inv _ := rfl
  right_inv _ := rfl

/-- The fields lie in this order, without padding. -/
def layout : PackedLayout PersistedEntryRecord :=
  .named fields ((array 6).pair (uint8.pair (uint16.pair (uint8.pair (uint8.pair (uint8.pair (uint8.pair
    (uint8.pair uint8))))))))

theorem layout_size : layout.size = 15 := rfl

def ofEntry (entry : ConfigurationEntry) : PersistedEntryRecord where
  macAddress := entry.macAddress
  relayPin := entry.relayPin
  priority := entry.priority
  mode := entry.mode.toByte
  scheduleEnabled := if entry.schedule.enabled then 1 else 0
  scheduleStartHour := entry.schedule.startHour
  scheduleStartMinute := entry.schedule.startMinute
  scheduleEndHour := entry.schedule.endHour
  scheduleEndMinute := entry.schedule.endMinute

def entry (record : PersistedEntryRecord) : ConfigurationEntry where
  macAddress := record.macAddress
  relayPin := record.relayPin
  priority := record.priority
  mode := .ofByte record.mode
  schedule := .make (record.scheduleEnabled != 0) record.scheduleStartHour record.scheduleStartMinute
    record.scheduleEndHour record.scheduleEndMinute

theorem entry_ofEntry (entry : ConfigurationEntry) : (ofEntry entry).entry = entry := by
  have henabled : ((if entry.schedule.enabled then 1 else 0 : UInt8) != 0) = entry.schedule.enabled := by
    cases entry.schedule.enabled
    · rfl
    · rfl
  rw [PersistedEntryRecord.entry, ofEntry, henabled, AutoSchedule.make_self, LoadMode.ofByte_toByte]

end PersistedEntryRecord

namespace LegacyPersistedEntryRecord

def fields : LegacyPersistedEntryRecord ≃ MacAddress × UInt8 × UInt16 × UInt8 × UInt8 × UInt8 × UInt8 where
  toFun record := (record.macAddress, record.relayPin, record.priority, record.mode, record.scheduleEnabled,
    record.scheduleHour, record.scheduleMinute)
  invFun := fun (macAddress, relayPin, priority, mode, enabled, hour, minute) =>
    ⟨macAddress, relayPin, priority, mode, enabled, hour, minute⟩
  left_inv _ := rfl
  right_inv _ := rfl

def layout : PackedLayout LegacyPersistedEntryRecord :=
  .named fields ((array 6).pair (uint8.pair (uint16.pair (uint8.pair (uint8.pair (uint8.pair uint8))))))

theorem layout_size : layout.size = 13 := rfl

/-- The priority and the mode stay, and the schedule is disabled. -/
def entry (record : LegacyPersistedEntryRecord) : ConfigurationEntry where
  macAddress := record.macAddress
  relayPin := record.relayPin
  priority := record.priority
  mode := .ofByte record.mode
  schedule := .none

end LegacyPersistedEntryRecord

/-- The blobs under the keys `entries_v2` and `entries`. -/
structure Nvs where
  entries : Option (List UInt8)
  legacyEntries : Option (List UInt8)
deriving DecidableEq

/-- The records of a blob that is there, is not empty and holds whole records. -/
def readRecords {α : Type} (layout : PackedLayout α) (blob : Option (List UInt8)) : Option (List α) :=
  (blob.filter fun bytes => 0 < bytes.length).bind layout.records

/-- Memory is only replaced when every record is accepted. -/
def loadPersisted (nvs : Nvs) (store : LoadConfigurationStore) : LoadConfigurationStore × Bool :=
  match readRecords PersistedEntryRecord.layout nvs.entries with
  | some records =>
    let restored := records.map PersistedEntryRecord.entry
    if restored.all (·.schedule.isValidSchedule) then (⟨restored⟩, true) else (store, false)
  | none =>
    match readRecords LegacyPersistedEntryRecord.layout nvs.legacyEntries with
    | some records => (⟨records.map LegacyPersistedEntryRecord.entry⟩, true)
    | none => (store, false)

/-- The blob that `persist` writes. -/
def blob (store : LoadConfigurationStore) : List UInt8 :=
  PersistedEntryRecord.layout.pack (store.entries.map PersistedEntryRecord.ofEntry)

def writes (store : LoadConfigurationStore) : List (Nvs → Nvs) :=
  -- `nvs_open` writes nothing
  [id, fun nvs => { nvs with entries := some store.blob }]

/-- The first `done` of the calls to the flash succeed. -/
def persist (done : Nat) (store : LoadConfigurationStore) (nvs : Nvs) : Nvs × Bool :=
  KeyedWrites.store (writes store ++ [id]) done nvs

section RoundTrip

variable {α : Type} {layout : PackedLayout α}

theorem readRecords_pack (hsize : 0 < layout.size) {values : List α} (hvalues : values ≠ []) :
    readRecords layout (some (layout.pack values)) = some values := by
  have hlength : 0 < (layout.pack values).length := by
    rw [layout.length_pack]
    exact Nat.mul_pos (List.length_pos_of_ne_nil hvalues) hsize
  rw [readRecords, Option.filter_some_pos (by simpa using hlength)]
  exact layout.records_pack hsize values

theorem persist_of_persisted {store : LoadConfigurationStore} {done : Nat} {nvs : Nvs}
    (hpersisted : (persist done store nvs).2 = true) :
    (persist done store nvs).1 = { nvs with entries := some store.blob } := by
  have hdone : (writes store ++ [id]).length ≤ done := by
    simpa [persist, KeyedWrites.store] using hpersisted
  rw [persist, KeyedWrites.store, KeyedWrites.after_of_length_le hdone]
  rfl

/-- The entries of a store that has some are read back. -/
theorem loadPersisted_blob {store : LoadConfigurationStore} (hvalid : store.Valid) (hentries : store.entries ≠ [])
    (legacyEntries : Option (List UInt8)) (fresh : LoadConfigurationStore) :
    loadPersisted ⟨some store.blob, legacyEntries⟩ fresh = (store, true) := by
  have hrecords : readRecords PersistedEntryRecord.layout (some store.blob) =
      some (store.entries.map PersistedEntryRecord.ofEntry) :=
    readRecords_pack (by decide) (by simpa using hentries)
  have hrestored : (store.entries.map PersistedEntryRecord.ofEntry).map PersistedEntryRecord.entry = store.entries := by
    rw [List.map_map]
    exact (List.map_congr_left fun entry _ => PersistedEntryRecord.entry_ofEntry entry).trans (List.map_id _)
  rw [loadPersisted, hrecords]
  simp only [hrestored]
  exact if_pos (List.all_eq_true.mpr hvalid)

/-- Without entries, the records of the first version are read. -/
theorem loadPersisted_empty (legacyEntries : Option (List UInt8)) (fresh : LoadConfigurationStore) :
    loadPersisted ⟨some (blob ⟨[]⟩), legacyEntries⟩ fresh =
      match readRecords LegacyPersistedEntryRecord.layout legacyEntries with
      | some records => (⟨records.map LegacyPersistedEntryRecord.entry⟩, true)
      | none => (fresh, false) := rfl

theorem readRecords_ne_nil {blob : Option (List UInt8)} {records : List α} (hsize : 0 < layout.size)
    (hread : readRecords layout blob = some records) : records ≠ [] := by
  obtain ⟨bytes, hbytes, hrecords⟩ := Option.bind_eq_some_iff.mp hread
  obtain ⟨-, hlength⟩ := Option.filter_eq_some_iff.mp hbytes
  rintro rfl
  rw [(layout.records_eq_some_iff hsize).mp hrecords] at hlength
  simp at hlength

end RoundTrip

/-- What was persisted is read back into a new store exactly if it has entries, or no records of the first
version can be read. Needs a valid store and that `persist` succeeds. -/
theorem persist_round_trip_iff {store : LoadConfigurationStore} (hvalid : store.Valid) {done : Nat} {nvs : Nvs}
    (hpersisted : (persist done store nvs).2 = true) :
    (loadPersisted (persist done store nvs).1 ⟨[]⟩).1 = store ↔
      (store.entries = [] → readRecords LegacyPersistedEntryRecord.layout nvs.legacyEntries = none) := by
  rw [persist_of_persisted hpersisted]
  by_cases hentries : store.entries = []
  · obtain ⟨entries⟩ := store
    obtain rfl : entries = [] := hentries
    rw [loadPersisted_empty]
    cases hread : readRecords LegacyPersistedEntryRecord.layout nvs.legacyEntries with
    | none => simp
    | some records =>
      have hrecords := readRecords_ne_nil (by decide) hread
      simp [hrecords]
  · rw [loadPersisted_blob hvalid hentries]
    simp [hentries]

section Stores

/-- An AUTO pump with a window in the morning. -/
def pumpStore : LoadConfigurationStore :=
  ⟨[⟨Vector.replicate 6 2, 4, 5, .AUTO_ON, .make true 6 30 8 0⟩]⟩

/-- A record of the first version, for the same pump. -/
def legacyPump : Nvs where
  entries := none
  legacyEntries := some (LegacyPersistedEntryRecord.layout.pack [⟨Vector.replicate 6 2, 4, 7, 1, 0, 0, 0⟩])

theorem persist_round_trip_iff_pump : (loadPersisted (persist 3 pumpStore legacyPump).1 ⟨[]⟩).1 = pumpStore := by
  have hvalid : pumpStore.Valid := by
    intro entry hentry
    obtain rfl := List.mem_singleton.mp hentry
    rfl
  exact (persist_round_trip_iff hvalid rfl).mpr fun hentries => absurd hentries (List.cons_ne_nil _ _)

/-- Once the last entry is removed, the next boot finds the records of the first version. -/
theorem removed_entries_replaced :
    (persist 3 (pumpStore.removeConfiguration (Vector.replicate 6 2) 4).1 legacyPump).2 = true ∧
      (loadPersisted (persist 3 (pumpStore.removeConfiguration (Vector.replicate 6 2) 4).1 legacyPump).1 ⟨[]⟩).1 ≠
        (pumpStore.removeConfiguration (Vector.replicate 6 2) 4).1 := by
  decide +kernel

end Stores

end kilowatts.LoadConfigurationStore
