import Kilowatts.Library.CharBuffer
import Kilowatts.Library.KeyedWrites
import Kilowatts.Library.PackedRecords
import Kilowatts.Library.Run
import Kilowatts.NodeManager.CommissioningRegistry

namespace kilowatts

namespace NodeRole

/-- `static_cast<NodeRole>`. -/
def ofByte (byte : UInt8) : NodeRole :=
  if hbyte : 1 < byte then .undeclared byte hbyte
  else if byte = 0 then .CENTRAL
  else .SMART

/-- The number of a role. -/
def toByte : NodeRole → UInt8
  | .CENTRAL => 0
  | .SMART => 1
  | .undeclared byte _ => byte

@[simp]
theorem ofByte_toByte (role : NodeRole) : ofByte role.toByte = role := by
  cases role with
  | undeclared byte hbyte => simp [ofByte, toByte, hbyte]
  | _ => rfl

end NodeRole

namespace PersistedCommissioning

open CommissioningRegistry PackedLayout

/-- The version that is written with the records. -/
def CURRENT_SCHEMA_VERSION : UInt8 := 2

/-- A record as it lies in the blob, with its arrays of characters. -/
structure PersistedCommissioningRecord where
  macAddress : MacAddress
  role : UInt8
  lifecycleState : UInt8
  friendlyName : CharBuffer FRIENDLY_NAME_BUFFER_SIZE
  firmwareVersion : CharBuffer FIRMWARE_VERSION_BUFFER_SIZE
  chipModel : CharBuffer CHIP_MODEL_BUFFER_SIZE
  relayCapabilityCount : UInt8
  relayPins : Vector UInt8 MAX_RELAY_GPIO_CAPABILITIES
deriving DecidableEq

namespace PersistedCommissioningRecord

/-- The fields of a record, in the order of the struct. -/
def fields : PersistedCommissioningRecord ≃
    MacAddress × UInt8 × UInt8 × CharBuffer FRIENDLY_NAME_BUFFER_SIZE × CharBuffer FIRMWARE_VERSION_BUFFER_SIZE ×
      CharBuffer CHIP_MODEL_BUFFER_SIZE × UInt8 × Vector UInt8 MAX_RELAY_GPIO_CAPABILITIES where
  toFun record := (record.macAddress, record.role, record.lifecycleState, record.friendlyName, record.firmwareVersion,
    record.chipModel, record.relayCapabilityCount, record.relayPins)
  invFun := fun (macAddress, role, lifecycleState, friendlyName, firmwareVersion, chipModel, relayCapabilityCount,
      relayPins) =>
    ⟨macAddress, role, lifecycleState, friendlyName, firmwareVersion, chipModel, relayCapabilityCount, relayPins⟩
  left_inv _ := rfl
  right_inv _ := rfl

/-- The fields lie in this order, without padding. -/
def layout : PackedLayout PersistedCommissioningRecord :=
  .named fields ((array 6).pair (uint8.pair (uint8.pair ((array FRIENDLY_NAME_BUFFER_SIZE).pair
    ((array FIRMWARE_VERSION_BUFFER_SIZE).pair ((array CHIP_MODEL_BUFFER_SIZE).pair
      (uint8.pair (array MAX_RELAY_GPIO_CAPABILITIES))))))))

/-- The packed struct has 75 bytes. -/
theorem layout_size : layout.size = 75 := rfl

/-- The record, with its arrays read as texts. -/
def read (record : PersistedCommissioningRecord) : CommissioningRegistry.PersistedCommissioningRecord where
  macAddress := record.macAddress
  role := .ofByte record.role
  lifecycleState := record.lifecycleState
  friendlyName := record.friendlyName.text
  firmwareVersion := record.firmwareVersion.text
  chipModel := record.chipModel.text
  relayCapabilityCount := record.relayCapabilityCount
  relayPins := record.relayPins

/-- The texts are copied into arrays of zeros. -/
def write (persisted : CommissioningRegistry.PersistedCommissioningRecord) : PersistedCommissioningRecord where
  macAddress := persisted.macAddress
  role := persisted.role.toByte
  lifecycleState := persisted.lifecycleState
  friendlyName := CharBuffer.zero.print persisted.friendlyName
  firmwareVersion := CharBuffer.zero.print persisted.firmwareVersion
  chipModel := CharBuffer.zero.print persisted.chipModel
  relayCapabilityCount := persisted.relayCapabilityCount
  relayPins := persisted.relayPins

end PersistedCommissioningRecord

/-- The two keys of the namespace. -/
structure Nvs where
  schema : Option UInt8
  records : Option (List UInt8)
deriving DecidableEq

/-- Memory is only replaced when every record is accepted. -/
def loadPersisted (nvs : Nvs) (registry : CommissioningRegistry) : CommissioningRegistry × Bool :=
  if nvs.schema ≠ some CURRENT_SCHEMA_VERSION then (registry, false)
  else
    match nvs.records with
    | none => (registry, false)
    | some blob =>
      if blob.length = 0 then (registry, false)
      else
        match PersistedCommissioningRecord.layout.records blob with
        | none => (registry, false)
        | some records =>
          match (records.map PersistedCommissioningRecord.read).mapM restore with
          | none => (registry, false)
          | some restored => (⟨restored⟩, true)

/-- The blob that `persist` writes. -/
def blob (registry : CommissioningRegistry) : List UInt8 :=
  PersistedCommissioningRecord.layout.pack (registry.persist.map PersistedCommissioningRecord.write)

/-- The steps of `persist`, each of which may fail. -/
def writes (registry : CommissioningRegistry) : List (Nvs → Nvs) :=
  -- `nvs_open` writes nothing
  [id, fun nvs => { nvs with schema := some CURRENT_SCHEMA_VERSION },
    fun nvs => { nvs with records := some (blob registry) }]

/-- The first `done` of the calls to the flash succeed. -/
def persist (done : Nat) (registry : CommissioningRegistry) (nvs : Nvs) : Nvs × Bool :=
  KeyedWrites.store (writes registry ++ [id]) done nvs

/-- The record waits for nothing, and what is only known at run time is forgotten. -/
def settled (entry : CommissioningEntry) : CommissioningEntry :=
  { entry with
    pendingFriendlyName := []
    pendingCommandId := 0
    discoveredAtMilliseconds := 0
    syncState := .SYNCED
    diagnostics := .zero }

section Texts

/-- A text that an array of this size can hold. -/
structure FitsIn (size : Nat) (text : List UInt8) : Prop where
  ends : 0 ∉ text
  length_lt : text.length < size

variable {size : Nat} {text : List UInt8}

/-- The empty text fits into every array. -/
theorem FitsIn.nil (hsize : 0 < size) : FitsIn size [] := ⟨List.not_mem_nil, hsize⟩

/-- A copied text fits. Needs that the text holds no zero. -/
theorem fitsIn_copyTruncated (hsize : 0 < size) (hends : 0 ∉ text) : FitsIn size (copyTruncated size text) := by
  refine ⟨fun hzero => hends (List.mem_of_mem_take hzero), ?_⟩
  rw [copyTruncated, List.length_take]
  omega

/-- A text that fits is copied whole. -/
theorem FitsIn.copyTruncated (hfits : FitsIn size text) : copyTruncated size text = text :=
  List.take_of_length_le (Nat.le_sub_one_of_lt hfits.length_lt)

/-- A text that fits is read back from a cleared array. -/
theorem FitsIn.print_text (hfits : FitsIn size text) : ((CharBuffer.zero : CharBuffer size).print text).text = text := by
  have hsize := hfits.length_lt
  rw [CharBuffer.print_text (by omega) hfits.ends]
  exact List.take_of_length_le (Nat.le_sub_one_of_lt hfits.length_lt)

end Texts

/-- What the arrays of a record can hold. No pin stands behind the used ones. -/
structure InBounds (entry : CommissioningEntry) : Prop where
  friendlyName : FitsIn FRIENDLY_NAME_BUFFER_SIZE entry.friendlyName
  pendingFriendlyName : FitsIn FRIENDLY_NAME_BUFFER_SIZE entry.pendingFriendlyName
  firmwareVersion : FitsIn FIRMWARE_VERSION_BUFFER_SIZE entry.firmwareVersion
  chipModel : FitsIn CHIP_MODEL_BUFFER_SIZE entry.chipModel
  capabilities : entry.relayCapabilityCount.toNat ≤ MAX_RELAY_GPIO_CAPABILITIES
  unused : ∀ i : Fin MAX_RELAY_GPIO_CAPABILITIES, entry.relayCapabilityCount.toNat ≤ i.val → entry.relayPins[i] = 0

/-- The texts that are handed over are C strings. -/
def EndsTexts : Operation → Prop
  | .recordDiscovered _ identity => 0 ∉ identity.firmwareVersion ∧ 0 ∉ identity.chipModel
  | .registerSelf _ friendlyName identity =>
    0 ∉ friendlyName ∧ 0 ∉ identity.firmwareVersion ∧ 0 ∉ identity.chipModel
  | .requestCommissioning _ friendlyName _ => 0 ∉ friendlyName
  | _ => True

/-- The public calls that change a registry. -/
inductive Call where
  | operation (operation : Operation)
  | loadPersisted (nvs : Nvs)

/-- The registry after a call. -/
def afterCall (registry : CommissioningRegistry) : Call → CommissioningRegistry
  | .operation operation => (registry.perform operation).1
  | .loadPersisted nvs => (loadPersisted nvs registry).1

/-- A call whose texts end where C texts do. -/
def CallStep (before : CommissioningRegistry) (call : Call) (after : CommissioningRegistry) : Prop :=
  (∀ operation, call = .operation operation → EndsTexts operation) ∧ after = afterCall before call

section Bounds

variable {identity : ReportedIdentity} {entry : CommissioningEntry}

/-- Needs that the reported texts hold no zero. -/
theorem InBounds.refresh (hentry : InBounds entry) (hfirmware : 0 ∉ identity.firmwareVersion)
    (hchip : 0 ∉ identity.chipModel) : InBounds (entry.refresh identity) where
  friendlyName := hentry.friendlyName
  pendingFriendlyName := hentry.pendingFriendlyName
  firmwareVersion := fitsIn_copyTruncated (by decide) hfirmware
  chipModel := fitsIn_copyTruncated (by decide) hchip
  capabilities := by
    have hcount := Nat.min_le_right identity.relayCapabilityCount MAX_RELAY_GPIO_CAPABILITIES
    rw [CommissioningEntry.refresh, UInt8.toNat_ofNat_of_lt' (hcount.trans_lt (by decide))]
    exact hcount
  unused i hunused := by
    have hcount := Nat.min_le_right identity.relayCapabilityCount MAX_RELAY_GPIO_CAPABILITIES
    rw [CommissioningEntry.refresh, UInt8.toNat_ofNat_of_lt' (hcount.trans_lt (by decide))] at hunused
    have hbehind : ¬ i.val < min identity.relayCapabilityCount MAX_RELAY_GPIO_CAPABILITIES := Nat.not_lt.mpr hunused
    exact (Vector.getElem_ofFn _).trans (if_neg hbehind)

/-- A new record is in bounds. Needs that its name fits and its texts hold no zero. -/
theorem inBounds_make {friendlyName : List UInt8} (hname : FitsIn FRIENDLY_NAME_BUFFER_SIZE friendlyName)
    (hfirmware : 0 ∉ identity.firmwareVersion) (hchip : 0 ∉ identity.chipModel) (macAddress : MacAddress)
    (lifecycleState : NodeLifecycleState) :
    InBounds (.make macAddress lifecycleState friendlyName identity) := by
  refine InBounds.refresh ⟨hname, .nil (by decide), .nil (by decide), .nil (by decide), Nat.zero_le _, ?_⟩ hfirmware hchip
  intro i _
  exact Vector.getElem_replicate _

/-- Every step of a record keeps it in bounds. -/
theorem InBounds.recordStep {before after : Option CommissioningEntry} {operation : Operation} {returned : Bool}
    (hstep : RecordStep before ⟨operation, returned⟩ after) (hends : EndsTexts operation)
    (hbefore : ∀ entry, before = some entry → InBounds entry) : ∀ entry, after = some entry → InBounds entry := by
  intro entry hentry
  cases hstep with
  | rejected => exact hbefore entry hentry
  | discovered macAddress identity =>
    cases hentry
    exact inBounds_make (.nil (by decide)) hends.1 hends.2 macAddress _
  | rediscovered old macAddress identity =>
    cases hentry
    have hold := hbefore old rfl
    unfold CommissioningEntry.rediscover
    split
    · exact InBounds.refresh { hold with } hends.1 hends.2
    · exact hold.refresh hends.1 hends.2
  | measured old macAddress diagnostics =>
    cases hentry
    exact { hbefore old rfl with }
  | registered macAddress friendlyName identity =>
    cases hentry
    exact inBounds_make (fitsIn_copyTruncated (by decide) hends.1) hends.2.1 hends.2.2 macAddress _
  | requested old macAddress friendlyName commandId =>
    cases hentry
    exact { hbefore old rfl with pendingFriendlyName := fitsIn_copyTruncated (by decide) hends }
  | confirmed old macAddress commandId success resultingState =>
    cases hentry
    have hold := hbefore old rfl
    cases success with
    | true =>
      exact { hold with
        friendlyName := fitsIn_copyTruncated (by decide) hold.pendingFriendlyName.ends
        pendingFriendlyName := .nil (by decide) }
    | false => exact { hold with pendingFriendlyName := .nil (by decide) }
  | decommissioned old macAddress =>
    cases hentry
    exact { hbefore old rfl with friendlyName := .nil (by decide), pendingFriendlyName := .nil (by decide) }

end Bounds

section Decoding

variable {nvs : Nvs} {bytes : List UInt8}

/-- The records of a blob. -/
def decoded (blob : List UInt8) : List PersistedCommissioningRecord :=
  PersistedCommissioningRecord.layout.unpack (blob.length / PersistedCommissioningRecord.layout.size) blob

/-- A boot takes the record on. -/
def isAdmissible (record : PersistedCommissioningRecord) : Bool :=
  isPersistedState (.ofByte record.lifecycleState) && record.relayCapabilityCount.toNat ≤ MAX_RELAY_GPIO_CAPABILITIES

/-- A record is refused if and only if it is not admissible. -/
theorem restore_read_eq_none_iff {record : PersistedCommissioningRecord} :
    restore record.read = none ↔ isAdmissible record = false := by
  unfold restore isAdmissible
  dsimp only
  split
  · rename_i hstate
    rw [Bool.not_eq_true'] at hstate
    exact iff_of_true rfl (Bool.and_eq_false_iff.mpr (.inl hstate))
  rename_i hstate
  split
  · rename_i hcount
    exact iff_of_true rfl (Bool.and_eq_false_iff.mpr (.inr (decide_eq_false (Nat.not_le.mpr hcount))))
  · rename_i hcount
    rw [Bool.not_eq_true', Bool.not_eq_false] at hstate
    exact iff_of_false (Option.some_ne_none _) (by simpa using ⟨hstate, Nat.not_lt.mp hcount⟩)

/-- One refused record refuses all of them. -/
theorem mapM_restore_eq_none {records : List CommissioningRegistry.PersistedCommissioningRecord}
    {record : CommissioningRegistry.PersistedCommissioningRecord} (hmem : record ∈ records)
    (hrefused : restore record = none) : records.mapM restore = none := by
  induction records with
  | nil => cases hmem
  | cons first rest ih =>
    rw [List.mapM_cons]
    obtain rfl | hrest := List.mem_cons.mp hmem
    · rw [hrefused]
      rfl
    · rw [ih hrest]
      cases restore first with
      | none => rfl
      | some entry => rfl

/-- Content that is no list of admissible records leaves the registry as it was. -/
theorem loadPersisted_refused (hrecords : nvs.records = some bytes)
    (hrefused : bytes.length = 0 ∨ bytes.length % PersistedCommissioningRecord.layout.size ≠ 0 ∨
      ∃ record ∈ decoded bytes, isAdmissible record = false) (registry : CommissioningRegistry) :
    loadPersisted nvs registry = (registry, false) := by
  unfold loadPersisted
  rw [hrecords]
  split
  · rfl
  dsimp only
  split
  · rfl
  rename_i hempty
  obtain hlength | hsize | ⟨record, hmem, hadmissible⟩ := hrefused
  · exact absurd hlength hempty
  · rw [PackedLayout.records_eq_none_iff.mpr hsize]
  · cases hread : PersistedCommissioningRecord.layout.records bytes with
    | none => rfl
    | some records =>
      have hdecoded : decoded bytes = records := by
        rw [PackedLayout.records] at hread
        split at hread
        · exact Option.some.inj hread
        · cases hread
      have hnone := mapM_restore_eq_none (List.mem_map_of_mem (hdecoded ▸ hmem))
        (restore_read_eq_none_iff.mpr hadmissible)
      simp only [hnone]

/-- What a boot restores fits its arrays. -/
theorem inBounds_of_restore {record : PersistedCommissioningRecord} {entry : CommissioningEntry}
    (hrestored : restore record.read = some entry) : InBounds entry := by
  unfold restore at hrestored
  dsimp only at hrestored
  split at hrestored
  · cases hrestored
  split at hrestored
  · cases hrestored
  obtain rfl := Option.some.inj hrestored
  exact inBounds_make (fitsIn_copyTruncated (by decide) record.friendlyName.zero_notMem_text)
    record.firmwareVersion.zero_notMem_text record.chipModel.zero_notMem_text _ _

/-- Restored records are in bounds. -/
theorem inBounds_of_mapM {records : List PersistedCommissioningRecord} {restored : List CommissioningEntry}
    (hrestored : (records.map PersistedCommissioningRecord.read).mapM restore = some restored) :
    ∀ entry ∈ restored, InBounds entry := by
  induction records generalizing restored with
  | nil =>
    cases hrestored
    exact List.forall_mem_nil _
  | cons first rest ih =>
    rw [List.map_cons, List.mapM_cons] at hrestored
    obtain ⟨head, hhead, htail⟩ := Option.bind_eq_some_iff.mp hrestored
    obtain ⟨tail, hmapped, hlist⟩ := Option.bind_eq_some_iff.mp htail
    cases hlist
    exact List.forall_mem_cons.mpr ⟨inBounds_of_restore hhead, ih hmapped⟩

/-- A load keeps the registry in bounds, whatever the flash holds. -/
theorem loadPersisted_inBounds {registry : CommissioningRegistry} (hbefore : ∀ entry ∈ registry.entries, InBounds entry)
    (nvs : Nvs) : ∀ entry ∈ (loadPersisted nvs registry).1.entries, InBounds entry := by
  unfold loadPersisted
  split
  · exact hbefore
  split
  · exact hbefore
  split
  · exact hbefore
  split
  · exact hbefore
  split
  · exact hbefore
  · rename_i hrestored
    exact inBounds_of_mapM hrestored

end Decoding

/-- Every reachable registry is in bounds. -/
theorem inBounds_of_run {registry : CommissioningRegistry} {calls : List Call}
    (hrun : Run CallStep .make calls registry) : ∀ entry ∈ registry.entries, InBounds entry := by
  have hinvariant : ∀ before call after, (∀ entry ∈ CommissioningRegistry.entries before, InBounds entry) →
      CallStep before call after → ∀ entry ∈ after.entries, InBounds entry := by
    rintro before call after hbefore ⟨hends, rfl⟩
    cases call with
    | loadPersisted nvs => exact loadPersisted_inBounds hbefore nvs
    | operation operation =>
      obtain ⟨record, hrecord, hacts⟩ := actsAt_perform before operation
      have hfound : ∀ entry, before.findByMac operation.macAddress = some entry → InBounds entry :=
        fun entry hfound => hbefore entry (KeyedList.mem_of_lookup hfound)
      intro entry hentry
      obtain hold | hnew := hacts.entries entry hentry
      · exact hbefore entry hold
      · exact InBounds.recordStep hrecord (hends operation rfl) hfound entry hnew
  exact hrun.invariant hinvariant (List.forall_mem_nil _)

section RoundTrip

variable {registry : CommissioningRegistry} {entry : CommissioningEntry}

/-- `persist` of one record. -/
def stored (entry : CommissioningEntry) : CommissioningRegistry.PersistedCommissioningRecord :=
  ⟨entry.macAddress, entry.role, entry.lifecycleState.toByte, entry.friendlyName, entry.firmwareVersion,
    entry.chipModel, entry.relayCapabilityCount, entry.relayPins⟩

/-- A record in bounds is read back from the blob. -/
theorem read_write_stored (hentry : InBounds entry) :
    (PersistedCommissioningRecord.write (stored entry)).read = stored entry := by
  simp only [PersistedCommissioningRecord.write, PersistedCommissioningRecord.read, stored, NodeRole.ofByte_toByte,
    hentry.friendlyName.print_text, hentry.firmwareVersion.print_text, hentry.chipModel.print_text]

/-- The pins beyond the count are zero anyway. Needs a record in bounds. -/
theorem relayPins_restored (hentry : InBounds entry) :
    (Vector.ofFn fun i : Fin MAX_RELAY_GPIO_CAPABILITIES =>
      if i.val < min entry.relayCapabilityCount.toNat MAX_RELAY_GPIO_CAPABILITIES then
        entry.relayPins.toList[i.val]?.getD 0 else 0) = entry.relayPins := by
  rw [Nat.min_eq_left hentry.capabilities]
  apply Vector.ext
  intro i hi
  rw [Vector.getElem_ofFn]
  split
  · simp [hi]
  · rename_i hunused
    exact (hentry.unused ⟨i, hi⟩ (Nat.not_lt.mp hunused)).symm

/-- A stored record is restored without what it waited for. -/
theorem restore_stored (hentry : InBounds entry) (hstate : isPersistedState entry.lifecycleState = true) :
    restore (stored entry) = some (settled entry) := by
  have hcapabilities := hentry.capabilities
  have hcount : UInt8.ofNat (min entry.relayCapabilityCount.toNat MAX_RELAY_GPIO_CAPABILITIES) =
      entry.relayCapabilityCount := by
    rw [Nat.min_eq_left hcapabilities, UInt8.ofNat_toNat]
  have hadmitted : restore (stored entry) = some
      { settled entry with
        lifecycleState := .ofByte entry.lifecycleState.toByte
        friendlyName := copyTruncated FRIENDLY_NAME_BUFFER_SIZE entry.friendlyName
        firmwareVersion := copyTruncated FIRMWARE_VERSION_BUFFER_SIZE entry.firmwareVersion
        chipModel := copyTruncated CHIP_MODEL_BUFFER_SIZE entry.chipModel
        relayCapabilityCount := UInt8.ofNat (min entry.relayCapabilityCount.toNat MAX_RELAY_GPIO_CAPABILITIES)
        relayPins := Vector.ofFn fun i =>
          if i.val < min entry.relayCapabilityCount.toNat MAX_RELAY_GPIO_CAPABILITIES then
            entry.relayPins.toList[i.val]?.getD 0 else 0 } := by
    refine (if_neg ?_).trans (if_neg (Nat.not_lt.mpr hcapabilities))
    rw [stored, NodeLifecycleState.ofByte_toByte, hstate]
    decide
  rw [hadmitted, NodeLifecycleState.ofByte_toByte, hcount, relayPins_restored hentry,
    hentry.friendlyName.copyTruncated, hentry.firmwareVersion.copyTruncated, hentry.chipModel.copyTruncated]
  rfl

/-- Stored records are restored as they settle. Needs that they are in bounds and in a persisted
state. -/
theorem mapM_restore_stored {entries : List CommissioningEntry} (hentries : ∀ entry ∈ entries, InBounds entry)
    (hstates : ∀ entry ∈ entries, isPersistedState entry.lifecycleState = true) :
    (entries.map stored).mapM restore = some (entries.map settled) := by
  induction entries with
  | nil => rfl
  | cons first rest ih =>
    obtain ⟨hfirst, hrest⟩ := List.forall_mem_cons.mp hentries
    obtain ⟨hstate, hothers⟩ := List.forall_mem_cons.mp hstates
    rw [List.map_cons, List.mapM_cons, restore_stored hfirst hstate, ih hrest hothers]
    rfl

/-- When `persist` succeeds, the flash holds the version and the blob. -/
theorem persist_of_persisted {done : Nat} {nvs : Nvs} (hpersisted : (persist done registry nvs).2 = true) :
    (persist done registry nvs).1 = ⟨some CURRENT_SCHEMA_VERSION, some (blob registry)⟩ := by
  have hdone : (writes registry ++ [id]).length ≤ done := by
    simpa [persist, KeyedWrites.store] using hpersisted
  rw [persist, KeyedWrites.store, KeyedWrites.after_of_length_le hdone]
  rfl

/-- The blob of a registry is restored. Needs at least one record that is persisted. -/
theorem loadPersisted_blob (hentries : ∀ entry ∈ registry.entries, InBounds entry)
    (hpersisted : ∃ entry ∈ registry.entries, isPersistedState entry.lifecycleState = true)
    (other : CommissioningRegistry) :
    loadPersisted ⟨some CURRENT_SCHEMA_VERSION, some (blob registry)⟩ other =
      (⟨(registry.entries.filter fun entry => isPersistedState entry.lifecycleState).map settled⟩, true) := by
  have hlength : (blob registry).length ≠ 0 := by
    obtain ⟨entry, hmem, hstate⟩ := hpersisted
    rw [blob, PackedLayout.length_pack, List.length_map]
    have hstored : stored entry ∈ registry.persist := List.mem_map_of_mem (List.mem_filter.mpr ⟨hmem, hstate⟩)
    exact Nat.mul_ne_zero (List.length_pos_of_mem hstored).ne' (by decide)
  have hrecords : PersistedCommissioningRecord.layout.records (blob registry) =
      some (registry.persist.map PersistedCommissioningRecord.write) := PackedLayout.records_pack (by decide) _
  have hread : (registry.persist.map PersistedCommissioningRecord.write).map PersistedCommissioningRecord.read =
      registry.persist := by
    rw [List.map_map, CommissioningRegistry.persist, List.map_map]
    exact List.map_congr_left fun entry hmem => read_write_stored (hentries entry (List.mem_of_mem_filter hmem))
  have hrestored : registry.persist.mapM restore =
      some ((registry.entries.filter fun entry => isPersistedState entry.lifecycleState).map settled) :=
    mapM_restore_stored (fun entry hmem => hentries entry (List.mem_of_mem_filter hmem))
      fun entry hmem => (List.mem_filter.mp hmem).2
  simp only [loadPersisted, ne_eq, not_true, if_false, hlength, hrecords, hread, hrestored]

end RoundTrip

/-- A boot restores the records that are persisted, as they were but settled, and leaves memory alone when
the blob is damaged. The first half needs a reachable registry with a record to persist, and that `persist`
succeeds. -/
theorem commissioning_restored :
    (∀ {registry : CommissioningRegistry} {calls : List Call} {done : Nat} {nvs : Nvs},
      Run CallStep .make calls registry →
      (∃ entry ∈ registry.entries, isPersistedState entry.lifecycleState = true) →
      (persist done registry nvs).2 = true → ∀ other,
      loadPersisted (persist done registry nvs).1 other =
        (⟨(registry.entries.filter fun entry => isPersistedState entry.lifecycleState).map settled⟩, true)) ∧
    ∀ {nvs : Nvs} {bytes : List UInt8}, nvs.records = some bytes →
      (bytes.length = 0 ∨ bytes.length % PersistedCommissioningRecord.layout.size ≠ 0 ∨
        ∃ record ∈ decoded bytes, isAdmissible record = false) →
      ∀ registry, loadPersisted nvs registry = (registry, false) := by
  refine ⟨?_, fun hrecords hrefused registry => loadPersisted_refused hrecords hrefused registry⟩
  intro registry calls done nvs hrun hstates hpersisted other
  rw [persist_of_persisted hpersisted]
  exact loadPersisted_blob (inBounds_of_run hrun) hstates other

section Pump

/-- Central itself, a pump that is commissioned with a name, and a lamp that is only discovered. -/
def pumpCalls : List Call :=
  [.operation (.registerSelf (Vector.replicate 6 1) [67] ⟨.CENTRAL, [49], [69], [4, 5], 2, 10⟩),
    .operation (.recordDiscovered (Vector.replicate 6 7) ⟨.SMART, [49], [69], [12], 1, 20⟩),
    .operation (.requestCommissioning (Vector.replicate 6 7) [112, 117, 109, 112] 9),
    .operation (.applyCommissionResult (Vector.replicate 6 7) 9 true .COMMISSIONED),
    .operation (.recordDiscovered (Vector.replicate 6 8) ⟨.SMART, [49], [69], [], 0, 30⟩)]

/-- The registry after the calls of the example. -/
def pumpRegistry : CommissioningRegistry := pumpCalls.foldl afterCall .make

theorem commissioning_restored_pump :
    (loadPersisted (persist 4 pumpRegistry ⟨none, none⟩).1 .make).1.entries.map (·.friendlyName) =
        [[67], [112, 117, 109, 112]] ∧
      loadPersisted ⟨some CURRENT_SCHEMA_VERSION, some [1, 2, 3]⟩ pumpRegistry = (pumpRegistry, false) := by
  have hends : ∀ call ∈ pumpCalls, ∀ operation, call = .operation operation → EndsTexts operation := by
    simp [pumpCalls, EndsTexts]
  have hstep : ∀ call ∈ pumpCalls, ∀ before, CallStep before call (afterCall before call) :=
    fun call hcall _ => ⟨hends call hcall, rfl⟩
  have hrun : Run CallStep .make pumpCalls pumpRegistry := Run.of_foldl_mem hstep CommissioningRegistry.make
  refine ⟨?_, commissioning_restored.2 rfl (.inr (.inl (by decide))) _⟩
  rw [commissioning_restored.1 hrun (by decide +kernel) rfl]
  rfl

end Pump

end PersistedCommissioning

end kilowatts
