import Kilowatts.Library.KeyedWrites
import Kilowatts.Library.PackedRecords
import Kilowatts.NodeManager.HardwareAgreement

namespace kilowatts.PersistedLoads

open PackedLayout HardwareConfigurationFailureReason

/-! The configurations of `NodeLoadHardwareStore` as they lie in memory and in the flash.
Their ratings are the bits of floats. -/

structure Configuration where
  name : CharBuffer 16
  relayPin : UInt8
  relayActiveHigh : Bool
  powerRatingWatts : UInt32
  powerType : LoadPowerType
  mode : LoadMode
  priority : UInt16
  schedule : AutoSchedule
deriving DecidableEq

/-- The configuration with the number that its bits stand for. -/
def Configuration.value (configuration : Configuration) : LoadConfiguration where
  name := configuration.name
  relayPin := configuration.relayPin
  relayActiveHigh := configuration.relayActiveHigh
  powerRatingWatts := .ofBits configuration.powerRatingWatts
  powerType := configuration.powerType
  mode := configuration.mode
  priority := configuration.priority
  schedule := configuration.schedule

/-- The last byte of the name is set to zero. -/
def Configuration.terminated (configuration : Configuration) : Configuration :=
  { configuration with name := configuration.name.set 15 0 }

def SCHEMA_VERSION : UInt8 := 5

structure PersistedLoadConfiguration where
  name : CharBuffer 16
  relayPin : UInt8
  relayActiveHigh : UInt8
  powerRatingWatts : UInt32
  powerType : UInt8
  mode : UInt8
  priority : UInt16
  scheduleEnabled : UInt8
  scheduleStartHour : UInt8
  scheduleStartMinute : UInt8
  scheduleEndHour : UInt8
  scheduleEndMinute : UInt8
deriving DecidableEq

namespace PersistedLoadConfiguration

def fields : PersistedLoadConfiguration ≃
    CharBuffer 16 × UInt8 × UInt8 × UInt32 × UInt8 × UInt8 × UInt16 × UInt8 × UInt8 × UInt8 × UInt8 × UInt8 where
  toFun record := (record.name, record.relayPin, record.relayActiveHigh, record.powerRatingWatts, record.powerType,
    record.mode, record.priority, record.scheduleEnabled, record.scheduleStartHour, record.scheduleStartMinute,
    record.scheduleEndHour, record.scheduleEndMinute)
  invFun := fun (name, relayPin, relayActiveHigh, powerRatingWatts, powerType, mode, priority, enabled, startHour,
      startMinute, endHour, endMinute) =>
    ⟨name, relayPin, relayActiveHigh, powerRatingWatts, powerType, mode, priority, enabled, startHour, startMinute,
      endHour, endMinute⟩
  left_inv _ := rfl
  right_inv _ := rfl

/-- The fields lie in this order, without padding. -/
def layout : PackedLayout PersistedLoadConfiguration :=
  .named fields ((array 16).pair (uint8.pair (uint8.pair (uint32.pair (uint8.pair (uint8.pair (uint16.pair
    (uint8.pair (uint8.pair (uint8.pair (uint8.pair uint8)))))))))))

theorem layout_size : layout.size = 31 := rfl

end PersistedLoadConfiguration

def fromPersisted (value : PersistedLoadConfiguration) : Configuration where
  name := value.name.set 15 0
  relayPin := value.relayPin
  relayActiveHigh := value.relayActiveHigh != 0
  powerRatingWatts := value.powerRatingWatts
  powerType := .ofByte value.powerType
  mode := .ofByte value.mode
  priority := value.priority
  schedule := .make (value.scheduleEnabled != 0) value.scheduleStartHour value.scheduleStartMinute
    value.scheduleEndHour value.scheduleEndMinute

def toPersisted (value : Configuration) : PersistedLoadConfiguration where
  name := value.name.set 15 0
  relayPin := value.relayPin
  relayActiveHigh := if value.relayActiveHigh then 1 else 0
  powerRatingWatts := value.powerRatingWatts
  powerType := value.powerType.toByte
  mode := value.mode.toByte
  priority := value.priority
  scheduleEnabled := if value.schedule.enabled then 1 else 0
  scheduleStartHour := value.schedule.startHour
  scheduleStartMinute := value.schedule.startMinute
  scheduleEndHour := value.schedule.endHour
  scheduleEndMinute := value.schedule.endMinute

/-- The two keys of the namespace. -/
structure Nvs where
  schema : Option UInt8
  loads : Option (List UInt8)
deriving DecidableEq

/-- `isValidNewConfiguration` of the validator. It is made anew for every record, so it
holds no configurations. -/
def isValid (configuration : Configuration) : Bool :=
  NodeLoadHardwareStore.empty.isValidNewConfiguration configuration.value = NONE

/-- Memory is only replaced when every record is accepted. Without a blob there are no
configurations. -/
def loadPersisted (nvs : Nvs) (memory : List Configuration) : List Configuration × Bool :=
  if nvs.schema ≠ some SCHEMA_VERSION then (memory, false)
  else
    match nvs.loads with
    | none => ([], true)
    | some blob =>
      match PersistedLoadConfiguration.layout.records blob with
      | none => (memory, false)
      | some records =>
        if NodeLoadHardwareStore.MAX_CONFIGURED_LOADS < records.length then (memory, false)
        else
          let restored := records.map fromPersisted
          if restored.all isValid then (restored, true) else (memory, false)

/-- The blob that `persist` writes. -/
def blob (configurations : List Configuration) : List UInt8 :=
  PersistedLoadConfiguration.layout.pack (configurations.map toPersisted)

def writes (configurations : List Configuration) : List (Nvs → Nvs) :=
  -- `nvs_open` writes nothing
  [id, fun nvs => { nvs with schema := some SCHEMA_VERSION },
    fun nvs => { nvs with loads := if configurations.isEmpty then none else some (blob configurations) }]

/-- The first `done` of the calls to the flash succeed. -/
def persist (done : Nat) (configurations : List Configuration) (nvs : Nvs) : Nvs × Bool :=
  KeyedWrites.store (writes configurations ++ [id]) done nvs

/-- The configurations that the records of a blob stand for. -/
def decoded (blob : List UInt8) : List Configuration :=
  (PersistedLoadConfiguration.layout.unpack (blob.length / PersistedLoadConfiguration.layout.size) blob).map
    fromPersisted

/-- The blob holds whole records, not too many, each of which is valid for itself. -/
structure Readable (blob : List UInt8) : Prop where
  size : blob.length % PersistedLoadConfiguration.layout.size = 0
  capacity : (decoded blob).length ≤ NodeLoadHardwareStore.MAX_CONFIGURED_LOADS
  valid : ∀ configuration ∈ decoded blob,
    NodeLoadHardwareStore.empty.isValidNewConfiguration configuration.value = NONE

def PinsDistinct (blob : List UInt8) : Prop := ((decoded blob).map Configuration.relayPin).Nodup

section Decoding

variable {nvs : Nvs} {bytes : List UInt8}

theorem loadPersisted_readable (hschema : nvs.schema = some SCHEMA_VERSION) (hloads : nvs.loads = some bytes)
    (hreadable : Readable bytes) (memory : List Configuration) :
    loadPersisted nvs memory = (decoded bytes, true) := by
  have hrecords : PersistedLoadConfiguration.layout.records bytes =
      some (PersistedLoadConfiguration.layout.unpack (bytes.length / PersistedLoadConfiguration.layout.size) bytes) :=
    if_pos hreadable.size
  have hcapacity := hreadable.capacity
  rw [decoded, List.length_map] at hcapacity
  have hvalid : (decoded bytes).all isValid = true :=
    List.all_eq_true.mpr fun configuration hmem => decide_eq_true (hreadable.valid configuration hmem)
  rw [decoded] at hvalid
  simp only [loadPersisted, hschema, hloads, hrecords, ne_eq, not_true, if_false, if_neg (Nat.not_lt.mpr hcapacity),
    hvalid, if_true]
  rfl

theorem readable_of_loaded (hloads : nvs.loads = some bytes) {memory : List Configuration}
    (hloaded : (loadPersisted nvs memory).2 = true) : Readable bytes := by
  unfold loadPersisted at hloaded
  rw [hloads] at hloaded
  split at hloaded
  · cases hloaded
  dsimp only at hloaded
  cases hrecords : PersistedLoadConfiguration.layout.records bytes with
  | none =>
    rw [hrecords] at hloaded
    cases hloaded
  | some records =>
    rw [hrecords] at hloaded
    dsimp only at hloaded
    split at hloaded
    · cases hloaded
    rename_i hcapacity
    split at hloaded
    · rename_i hvalid
      have hsize : bytes.length % PersistedLoadConfiguration.layout.size = 0 := by
        by_contra hsize
        rw [PackedLayout.records_eq_none_iff.mpr hsize] at hrecords
        cases hrecords
      have hdecoded : decoded bytes = records.map fromPersisted := by
        rw [PackedLayout.records, if_pos hsize] at hrecords
        rw [decoded, Option.some.inj hrecords]
      refine ⟨hsize, ?_, fun configuration hmem => ?_⟩
      · rw [hdecoded, List.length_map]
        exact Nat.not_lt.mp hcapacity
      · rw [hdecoded] at hmem
        exact of_decide_eq_true (List.all_eq_true.mp hvalid configuration hmem)
    · cases hloaded

theorem loadPersisted_failed {memory : List Configuration} (hfailed : (loadPersisted nvs memory).2 = false) :
    (loadPersisted nvs memory).1 = memory := by
  revert hfailed
  unfold loadPersisted
  split
  · exact fun _ => rfl
  split
  · nofun
  split
  · exact fun _ => rfl
  split
  · exact fun _ => rfl
  dsimp only
  split
  · nofun
  · exact fun _ => rfl

end Decoding

section RoundTrip

theorem fromPersisted_toPersisted (configuration : Configuration) :
    fromPersisted (toPersisted configuration) = configuration.terminated := by
  have hflag : ∀ flag : Bool, ((if flag then 1 else 0 : UInt8) != 0) = flag := by
    intro flag
    cases flag
    · rfl
    · rfl
  have hname : (configuration.name.set 15 0).set 15 0 = configuration.name.set 15 0 := Vector.set_set ..
  simp only [fromPersisted, toPersisted, hflag, hname, AutoSchedule.make_self, LoadMode.ofByte_toByte,
    LoadPowerType.ofByte_toByte, Configuration.terminated]

variable {configurations : List Configuration}

theorem decoded_blob (configurations : List Configuration) :
    decoded (blob configurations) = configurations.map Configuration.terminated := by
  have hrecords := PersistedLoadConfiguration.layout.unpack_pack (configurations.map toPersisted) []
  rw [List.append_nil] at hrecords
  have hcount : (blob configurations).length / PersistedLoadConfiguration.layout.size =
      (configurations.map toPersisted).length := by
    rw [blob, PackedLayout.length_pack]
    exact Nat.mul_div_cancel _ (by decide)
  rw [decoded, hcount, blob, hrecords, List.map_map]
  exact List.map_congr_left fun configuration _ => fromPersisted_toPersisted configuration

theorem Configuration.terminated_text {configuration : Configuration} (hname : configuration.name.boundedLength < 16) :
    configuration.terminated.name.text = configuration.name.text :=
  CharBuffer.set_zero_text (by decide) (Nat.lt_succ_iff.mp hname)

/-- A name that fits is not changed. -/
theorem Configuration.terminated_self {configuration : Configuration} (hname : configuration.name[15] = 0) :
    configuration.terminated = configuration := by
  have hset : configuration.name.set 15 0 = configuration.name := by
    rw [← hname]
    exact Vector.set_getElem_self _
  rw [terminated, hset]

theorem Configuration.terminated_isWellFormed {configuration : Configuration}
    (hwellFormed : configuration.value.isWellFormed = true) : configuration.terminated.value.isWellFormed = true := by
  have hwellFormed' := hwellFormed
  simp only [LoadConfiguration.isWellFormed, Bool.and_eq_true, decide_eq_true_eq] at hwellFormed'
  have hname : configuration.name.boundedLength < 16 := hwellFormed'.1.1.1.1.2
  have hlength : configuration.terminated.value.name.boundedLength = configuration.value.name.boundedLength := by
    exact congrArg List.length (terminated_text hname)
  rw [LoadConfiguration.isWellFormed, hlength]
  exact hwellFormed

/-- What a sound store writes is readable. -/
theorem readable_blob {store : NodeLoadHardwareStore} (hloadable : store.isLoadable = true)
    (hvalues : configurations.map Configuration.value = store.configurations) : Readable (blob configurations) := by
  obtain ⟨hcapacity, hvalid⟩ := NodeLoadHardwareStore.isLoadable_iff.mp hloadable
  rw [← hvalues, List.length_map] at hcapacity
  refine ⟨?_, ?_, fun configuration hmem => ?_⟩
  · rw [blob, PackedLayout.length_pack]
    exact Nat.mul_mod_left _ _
  · rw [decoded_blob, List.length_map]
    exact hcapacity
  · rw [decoded_blob] at hmem
    obtain ⟨stored, hstored, rfl⟩ := List.mem_map.mp hmem
    obtain ⟨hwellFormed, hrating⟩ := hvalid stored.value (hvalues ▸ List.mem_map_of_mem hstored)
    rw [NodeLoadHardwareStore.isValidNewConfiguration_eq_none_iff]
    exact ⟨Configuration.terminated_isWellFormed hwellFormed, hrating, by decide, rfl⟩

theorem persist_of_persisted {done : Nat} {nvs : Nvs} (hpersisted : (persist done configurations nvs).2 = true) :
    (persist done configurations nvs).1 =
      ⟨some SCHEMA_VERSION, if configurations.isEmpty then none else some (blob configurations)⟩ := by
  have hdone : (writes configurations ++ [id]).length ≤ done := by
    simpa [persist, KeyedWrites.store] using hpersisted
  rw [persist, KeyedWrites.store, KeyedWrites.after_of_length_le hdone]
  rfl

/-- The configurations of a sound store are read back. -/
theorem loadPersisted_persist {store : NodeLoadHardwareStore} (hloadable : store.isLoadable = true)
    (hvalues : configurations.map Configuration.value = store.configurations) {done : Nat} {nvs : Nvs}
    (hpersisted : (persist done configurations nvs).2 = true) (memory : List Configuration) :
    loadPersisted (persist done configurations nvs).1 memory =
      (configurations.map Configuration.terminated, true) := by
  rw [persist_of_persisted hpersisted]
  cases configurations with
  | nil => rfl
  | cons first rest =>
    rw [← decoded_blob]
    exact loadPersisted_readable rfl rfl (readable_blob hloadable hvalues) memory

end RoundTrip

section Runs

open NodeHardware

theorem isLoadable_afterEvent {before : NodeHardware} (hbefore : before.store.memory.isLoadable = true)
    (event : HardwareEvent) : (before.afterEvent event).store.memory.isLoadable = true := by
  cases event with
  | configureNewLoad answers value =>
    obtain ⟨-, hconfigurable, -, hconfigured⟩ | ⟨-, -, hsame, -⟩ := configureNewLoad_cases answers before value
    · exact hconfigured.isLoadable hconfigurable hbefore
    · exact hsame.memory ▸ hbefore
  | removeLoad answers relayPin =>
    obtain ⟨-, -, -, hremoved⟩ | ⟨-, -, hsame, -⟩ := removeLoad_cases answers before relayPin
    · exact hremoved.isLoadable hbefore
    · exact hsame.memory ▸ hbefore
  | clearAllConfigurations written flash =>
    obtain hsame | ⟨hmemory, -⟩ := clearAllConfigurations_cases written flash before
    · exact hsame.memory ▸ hbefore
    · rw [NodeHardware.afterEvent, hmemory]
      rfl
  | applyPersistedConfigurations answers =>
    rw [NodeHardware.afterEvent, applyPersistedConfigurations, applyAll_store]
    exact hbefore

theorem isLoadable_of_run {start last : NodeHardware} {events : List HardwareEvent}
    (hstart : start.store.memory = .empty) (hrun : Run EventStep start events last) :
    last.store.memory.isLoadable = true := by
  have hinvariant : ∀ before event after, before.store.memory.isLoadable = true → EventStep before event after →
      after.store.memory.isLoadable = true := by
    intro before event after hbefore hstep
    rw [EventStep] at hstep
    exact hstep ▸ isLoadable_afterEvent hbefore event
  refine hrun.invariant hinvariant ?_
  rw [hstart]
  rfl

/-- Two records on one pin are the only fault that a boot does not notice. A refused blob
changes nothing, and what a store wrote is read back, up to the last byte of a name that no
zero ends before. -/
theorem loads_accepted_iff (memory : List Configuration) :
    (∀ {nvs : Nvs} {bytes : List UInt8}, nvs.schema = some SCHEMA_VERSION → nvs.loads = some bytes →
      (((loadPersisted nvs memory).2 = true ↔ Readable bytes ∧ PinsDistinct bytes) ↔
        (Readable bytes → PinsDistinct bytes))) ∧
    (∀ nvs, (loadPersisted nvs memory).2 = false → (loadPersisted nvs memory).1 = memory) ∧
    ∀ {start last : NodeHardware} {events : List HardwareEvent} {configurations : List Configuration} {done : Nat}
      {nvs : Nvs}, start.store.memory = .empty → Run EventStep start events last →
      configurations.map Configuration.value = last.store.memory.configurations →
      (persist done configurations nvs).2 = true →
      loadPersisted (persist done configurations nvs).1 memory =
        (configurations.map Configuration.terminated, true) ∧
      (∀ configuration ∈ configurations, configuration.terminated.name.text = configuration.name.text) ∧
      ((∀ configuration ∈ configurations, configuration.name[15] = 0) →
        configurations.map Configuration.terminated = configurations) := by
  refine ⟨?_, fun nvs => loadPersisted_failed, ?_⟩
  · intro nvs bytes hschema hloads
    have hloaded : (loadPersisted nvs memory).2 = true ↔ Readable bytes := by
      refine ⟨readable_of_loaded hloads, fun hreadable => ?_⟩
      rw [loadPersisted_readable hschema hloads hreadable]
    rw [hloaded]
    exact iff_self_and
  · intro start last events configurations done nvs hstart hrun hvalues hpersisted
    have hloadable := isLoadable_of_run hstart hrun
    refine ⟨loadPersisted_persist hloadable hvalues hpersisted memory, fun configuration hmem => ?_, fun hnames => ?_⟩
    · obtain ⟨-, hvalid⟩ := NodeLoadHardwareStore.isLoadable_iff.mp hloadable
      have hwellFormed := (hvalid configuration.value (hvalues ▸ List.mem_map_of_mem hmem)).1
      simp only [LoadConfiguration.isWellFormed, Bool.and_eq_true, decide_eq_true_eq] at hwellFormed
      exact Configuration.terminated_text hwellFormed.1.1.1.1.2
    · exact (List.map_congr_left fun configuration hmem => Configuration.terminated_self (hnames configuration hmem)).trans
        (List.map_id _)

end Runs

section Fans

/-- A fan of 40 watts. -/
def fan (relayPin : UInt8) : Configuration where
  name := CharBuffer.zero.print [70]
  relayPin := relayPin
  relayActiveHigh := LoadConfiguration.zero.relayActiveHigh
  powerRatingWatts := 0x42200000
  powerType := LoadConfiguration.zero.powerType
  mode := LoadConfiguration.zero.mode
  priority := LoadConfiguration.zero.priority
  schedule := LoadConfiguration.zero.schedule

/-- A flash whose second record has the pin of the first one. -/
def duplicatePins : Nvs := ⟨some SCHEMA_VERSION, some (blob [fan 4, fan 4])⟩

theorem loads_accepted_iff_fans :
    loadPersisted (persist 4 [fan 4, fan 5] ⟨none, none⟩).1 [] = ([fan 4, fan 5], true) ∧
      (loadPersisted ⟨some SCHEMA_VERSION, some [1, 2, 3]⟩ [fan 4]).1 = [fan 4] := by
  have hnext : ∀ before event, NodeHardware.EventStep before event (before.afterEvent event) := fun _ _ => rfl
  have hrun := Run.of_foldl hnext [.configureNewLoad .succeeding (NodeHardware.fan 4),
    .configureNewLoad .succeeding (NodeHardware.fan 5)] NodeHardware.newHardware
  have hpersisted : (persist 4 [fan 4, fan 5] ⟨none, none⟩).2 = true := rfl
  obtain ⟨hloaded, -, hnames⟩ := (loads_accepted_iff []).2.2 rfl hrun (by decide +kernel) hpersisted
  refine ⟨?_, (loads_accepted_iff [fan 4]).2.1 _ (by decide +kernel)⟩
  rw [hloaded]
  exact Prod.ext (hnames (by decide +kernel)) rfl

/-- Two fans on one pin come back from the flash. -/
theorem duplicate_pins_accepted :
    (loadPersisted duplicatePins []).2 = true ∧ ¬ PinsDistinct (blob [fan 4, fan 4]) := by
  refine ⟨by decide +kernel, ?_⟩
  rw [PinsDistinct, decoded_blob]
  decide

end Fans

end kilowatts.PersistedLoads
