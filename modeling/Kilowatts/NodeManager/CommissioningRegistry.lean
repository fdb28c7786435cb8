import Kilowatts.NodeManager.NodeCommissioningRegistry

namespace kilowatts

namespace NodeLifecycleState

/-- `static_cast<NodeLifecycleState>`. -/
def ofByte (byte : UInt8) : NodeLifecycleState :=
  if hbyte : 6 < byte then .undeclared byte hbyte
  else if byte = 0 then .FACTORY
  else if byte = 1 then .UNCOMMISSIONED
  else if byte = 2 then .DISCOVERED
  else if byte = 3 then .CONFIGURING
  else if byte = 4 then .COMMISSIONED
  else if byte = 5 then .OPERATIONAL
  else .DECOMMISSIONED

/-- The number of a state. -/
def toByte : NodeLifecycleState → UInt8
  | .FACTORY => 0
  | .UNCOMMISSIONED => 1
  | .DISCOVERED => 2
  | .CONFIGURING => 3
  | .COMMISSIONED => 4
  | .OPERATIONAL => 5
  | .DECOMMISSIONED => 6
  | .undeclared byte _ => byte

/-- The byte names a state. -/
def isDeclared : NodeLifecycleState → Bool
  | .undeclared _ _ => false
  | _ => true

/-- The number of a state is read back as the state. -/
@[simp]
theorem ofByte_toByte (state : NodeLifecycleState) : ofByte state.toByte = state := by
  cases state with
  | undeclared byte hbyte => simp [ofByte, toByte, hbyte]
  | _ => rfl

end NodeLifecycleState

/-- Whether the Node has confirmed what Central has asked for. -/
inductive SyncState where
  | SYNCED
  | PENDING
  | FAILED
deriving DecidableEq

/-- The buffer of a name, with the zero behind. -/
def FRIENDLY_NAME_BUFFER_SIZE : Nat := 20

def FIRMWARE_VERSION_BUFFER_SIZE : Nat := 12

def CHIP_MODEL_BUFFER_SIZE : Nat := 16

/-- The pins that a record has room for. -/
def MAX_RELAY_GPIO_CAPABILITIES : Nat := 18

/-- What a C string of any length leaves in a buffer, without the final zero. -/
def copyTruncated (destinationSize : Nat) (source : List UInt8) : List UInt8 := source.take (destinationSize - 1)

/-- Readings of one Node. The temperature stands as the bits of its float. -/
structure Diagnostics where
  freeHeapBytes : UInt32
  minFreeHeapBytes : UInt32
  flashSizeBytes : UInt32
  psramSizeBytes : UInt32
  siliconRevision : UInt16
  cpuCores : UInt8
  resetReason : List UInt8
  cpuFrequencyMhz : UInt32
  temperatureAvailable : Bool
  temperatureCelsius : UInt32
deriving DecidableEq

/-- The diagnostics of a Node that has not sent any. -/
def Diagnostics.zero : Diagnostics := ⟨0, 0, 0, 0, 0, 0, [], 0, false, 0⟩

/-- A record with all its fields. Names are texts without their final zero. -/
structure CommissioningEntry extends CommissioningRecord where
  friendlyName : List UInt8
  pendingFriendlyName : List UInt8
  pendingCommandId : UInt32
  firmwareVersion : List UInt8
  chipModel : List UInt8
  relayCapabilityCount : UInt8
  relayPins : Vector UInt8 MAX_RELAY_GPIO_CAPABILITIES
  discoveredAtMilliseconds : UInt32
  syncState : SyncState
  diagnostics : Diagnostics
deriving DecidableEq

/-- What a Node says of itself. A null `relayPins` is an empty list. -/
structure ReportedIdentity where
  role : NodeRole
  firmwareVersion : List UInt8
  chipModel : List UInt8
  relayPins : List UInt8
  relayCapabilityCount : Nat
  nowMilliseconds : UInt32
deriving DecidableEq

namespace CommissioningEntry

/-- `copyCapabilities`, with the versions and the time that are refreshed beside it. -/
def refresh (identity : ReportedIdentity) (entry : CommissioningEntry) : CommissioningEntry :=
  let relayCapabilityCount := min identity.relayCapabilityCount MAX_RELAY_GPIO_CAPABILITIES
  { entry with
    firmwareVersion := copyTruncated FIRMWARE_VERSION_BUFFER_SIZE identity.firmwareVersion
    chipModel := copyTruncated CHIP_MODEL_BUFFER_SIZE identity.chipModel
    relayCapabilityCount := UInt8.ofNat relayCapabilityCount
    relayPins := Vector.ofFn fun i => if i.val < relayCapabilityCount then identity.relayPins[i.val]?.getD 0 else 0
    discoveredAtMilliseconds := identity.nowMilliseconds }

/-- A record for a MAC that had none. -/
def make (macAddress : MacAddress) (lifecycleState : NodeLifecycleState) (friendlyName : List UInt8)
    (identity : ReportedIdentity) : CommissioningEntry :=
  refresh identity
    { macAddress, role := identity.role, lifecycleState, friendlyName, pendingFriendlyName := [],
      pendingCommandId := 0, firmwareVersion := [], chipModel := [], relayCapabilityCount := 0,
      relayPins := Vector.replicate MAX_RELAY_GPIO_CAPABILITIES 0, discoveredAtMilliseconds := 0,
      syncState := .SYNCED, diagnostics := Diagnostics.zero }

/-- The Node has not been commissioned yet. -/
def isFirstCommissioning (entry : CommissioningEntry) : Bool :=
  entry.lifecycleState = .UNCOMMISSIONED || entry.lifecycleState = .DISCOVERED

/-- The Node is commissioned already. -/
def isRename (entry : CommissioningEntry) : Bool :=
  entry.lifecycleState = .COMMISSIONED || entry.lifecycleState = .OPERATIONAL

/-- The record waits for the answer to this command. -/
def awaits (entry : CommissioningEntry) (commandId : UInt32) : Bool :=
  entry.syncState = .PENDING && entry.pendingCommandId = commandId

/-- What `recordDiscovered` does to a record that exists. -/
def rediscover (identity : ReportedIdentity) (entry : CommissioningEntry) : CommissioningEntry :=
  (if entry.lifecycleState = .DECOMMISSIONED then { entry with lifecycleState := .UNCOMMISSIONED }
    else entry).refresh identity

/-- Diagnostics replace the ones before. -/
def measure (diagnostics : Diagnostics) (entry : CommissioningEntry) : CommissioningEntry :=
  { entry with diagnostics }

/-- What an accepted `requestCommissioning` does to the record. -/
def request (friendlyName : List UInt8) (commandId : UInt32) (entry : CommissioningEntry) : CommissioningEntry :=
  { entry with
    lifecycleState := if entry.isFirstCommissioning then .CONFIGURING else entry.lifecycleState
    pendingFriendlyName := copyTruncated FRIENDLY_NAME_BUFFER_SIZE friendlyName
    pendingCommandId := commandId
    syncState := .PENDING }

/-- What a matching `applyCommissionResult` does to the record. -/
def confirm (success : Bool) (resultingState : NodeLifecycleState) (entry : CommissioningEntry) :
    CommissioningEntry :=
  { entry with
    lifecycleState := resultingState
    friendlyName :=
      if success then copyTruncated FRIENDLY_NAME_BUFFER_SIZE entry.pendingFriendlyName else entry.friendlyName
    syncState := if success then .SYNCED else .FAILED
    pendingFriendlyName := [] }

/-- What an accepted `decommission` does to the record. -/
def erase (entry : CommissioningEntry) : CommissioningEntry :=
  { entry with
    lifecycleState := .DECOMMISSIONED
    friendlyName := []
    pendingFriendlyName := []
    syncState := .SYNCED }

end CommissioningEntry

/-- `NodeCommissioningRegistry` with all the fields of its records. -/
structure CommissioningRegistry where
  entries : List CommissioningEntry
deriving DecidableEq

namespace CommissioningRegistry

/-- The registry after a boot without records. -/
def make : CommissioningRegistry := ⟨[]⟩

/-- The record with this MAC, if there is one. -/
def findByMac (registry : CommissioningRegistry) (macAddress : MacAddress) : Option CommissioningEntry :=
  KeyedList.lookup (fun entry => entry.macAddress) registry.entries macAddress

/-- Changes the record of a MAC in its place. -/
def change (macAddress : MacAddress) (changed : CommissioningEntry → CommissioningEntry)
    (registry : CommissioningRegistry) : CommissioningRegistry :=
  ⟨KeyedList.update (fun entry => entry.macAddress) macAddress changed registry.entries⟩

/-- A name is not empty and fits into its buffer. -/
def isValidFriendlyName (friendlyName : List UInt8) : Bool :=
  friendlyName != [] && friendlyName.length < FRIENDLY_NAME_BUFFER_SIZE

/-- Returns whether the Node is new; a known one is refreshed. -/
def recordDiscovered (macAddress : MacAddress) (identity : ReportedIdentity) (registry : CommissioningRegistry) :
    CommissioningRegistry × Bool :=
  match registry.findByMac macAddress with
  | none => (⟨registry.entries ++ [.make macAddress .UNCOMMISSIONED [] identity]⟩, true)
  | some _ => (registry.change macAddress (·.rediscover identity), false)

/-- An unknown Node is refused. -/
def updateDiagnostics (macAddress : MacAddress) (diagnostics : Diagnostics) (registry : CommissioningRegistry) :
    CommissioningRegistry × Bool :=
  match registry.findByMac macAddress with
  | none => (registry, false)
  | some _ => (registry.change macAddress (·.measure diagnostics), true)

/-- Central's own record; a second call is refused. -/
def registerSelf (macAddress : MacAddress) (friendlyName : List UInt8) (identity : ReportedIdentity)
    (registry : CommissioningRegistry) : CommissioningRegistry × Bool :=
  match registry.findByMac macAddress with
  | some _ => (registry, false)
  | none =>
    (⟨registry.entries ++ [.make macAddress .COMMISSIONED (copyTruncated FRIENDLY_NAME_BUFFER_SIZE friendlyName)
      identity]⟩, true)

/-- Refused for an unknown Node, a bad name, or a state from which neither is possible. -/
def requestCommissioning (macAddress : MacAddress) (friendlyName : List UInt8) (commandId : UInt32)
    (registry : CommissioningRegistry) : CommissioningRegistry × Bool :=
  if !isValidFriendlyName friendlyName then (registry, false)
  else
    match registry.findByMac macAddress with
    | none => (registry, false)
    | some record =>
      if !record.isFirstCommissioning && !record.isRename then (registry, false)
      else if record.isFirstCommissioning && !isValidNodeLifecycleTransition record.lifecycleState .CONFIGURING then
        (registry, false)
      else (registry.change macAddress (·.request friendlyName commandId), true)

/-- Refused unless the record waits for this command. -/
def applyCommissionResult (macAddress : MacAddress) (commandId : UInt32) (success : Bool)
    (resultingState : NodeLifecycleState) (registry : CommissioningRegistry) : CommissioningRegistry × Bool :=
  match registry.findByMac macAddress with
  | none => (registry, false)
  | some record =>
    if !record.awaits commandId then (registry, false)
    else (registry.change macAddress (·.confirm success resultingState), true)

/-- Refused for an unknown Node, or a state from which it is not possible. -/
def decommission (macAddress : MacAddress) (registry : CommissioningRegistry) : CommissioningRegistry × Bool :=
  match registry.findByMac macAddress with
  | none => (registry, false)
  | some record =>
    if !isValidNodeLifecycleTransition record.lifecycleState .DECOMMISSIONED then (registry, false)
    else (registry.change macAddress (·.erase), true)

/-- One record as it stands in the blob, with the byte of its state. -/
structure PersistedCommissioningRecord where
  macAddress : MacAddress
  role : NodeRole
  lifecycleState : UInt8
  friendlyName : List UInt8
  firmwareVersion : List UInt8
  chipModel : List UInt8
  relayCapabilityCount : UInt8
  relayPins : Vector UInt8 MAX_RELAY_GPIO_CAPABILITIES
deriving DecidableEq

/-- The states that are kept over a restart. -/
def isPersistedState (state : NodeLifecycleState) : Bool :=
  state = .COMMISSIONED || state = .OPERATIONAL || state = .DECOMMISSIONED

/-- A record that was stored in another state, or with too many pins, is refused. -/
def restore (persisted : PersistedCommissioningRecord) : Option CommissioningEntry :=
  let lifecycleState := NodeLifecycleState.ofByte persisted.lifecycleState
  if !isPersistedState lifecycleState then none
  else if MAX_RELAY_GPIO_CAPABILITIES < persisted.relayCapabilityCount.toNat then none
  else
    let identity : ReportedIdentity :=
      ⟨persisted.role, persisted.firmwareVersion, persisted.chipModel, persisted.relayPins.toList,
        persisted.relayCapabilityCount.toNat, 0⟩
    some (.make persisted.macAddress lifecycleState
      (copyTruncated FRIENDLY_NAME_BUFFER_SIZE persisted.friendlyName) identity)

/-- The registry after a boot that finds these records, or none. -/
def loadPersisted (persisted : List PersistedCommissioningRecord) : CommissioningRegistry :=
  match persisted.mapM restore with
  | none => make
  | some restored => ⟨restored⟩

/-- What `persist` writes. -/
def persist (registry : CommissioningRegistry) : List PersistedCommissioningRecord :=
  (registry.entries.filter fun entry => isPersistedState entry.lifecycleState).map fun entry =>
    ⟨entry.macAddress, entry.role, entry.lifecycleState.toByte, entry.friendlyName, entry.firmwareVersion,
      entry.chipModel, entry.relayCapabilityCount, entry.relayPins⟩

/-- The calls that change the registry. -/
inductive Operation where
  | recordDiscovered (macAddress : MacAddress) (identity : ReportedIdentity)
  | updateDiagnostics (macAddress : MacAddress) (diagnostics : Diagnostics)
  | registerSelf (macAddress : MacAddress) (friendlyName : List UInt8) (identity : ReportedIdentity)
  | requestCommissioning (macAddress : MacAddress) (friendlyName : List UInt8) (commandId : UInt32)
  | applyCommissionResult (macAddress : MacAddress) (commandId : UInt32) (success : Bool)
      (resultingState : NodeLifecycleState)
  | decommission (macAddress : MacAddress)
deriving DecidableEq

/-- The Node that an operation is about. -/
def Operation.macAddress : Operation → MacAddress
  | .recordDiscovered macAddress _ => macAddress
  | .updateDiagnostics macAddress _ => macAddress
  | .registerSelf macAddress _ _ => macAddress
  | .requestCommissioning macAddress _ _ => macAddress
  | .applyCommissionResult macAddress _ _ _ => macAddress
  | .decommission macAddress => macAddress

/-- The registry and the result of an operation. -/
def perform (registry : CommissioningRegistry) : Operation → CommissioningRegistry × Bool
  | .recordDiscovered macAddress identity => registry.recordDiscovered macAddress identity
  | .updateDiagnostics macAddress diagnostics => registry.updateDiagnostics macAddress diagnostics
  | .registerSelf macAddress friendlyName identity => registry.registerSelf macAddress friendlyName identity
  | .requestCommissioning macAddress friendlyName commandId =>
    registry.requestCommissioning macAddress friendlyName commandId
  | .applyCommissionResult macAddress commandId success resultingState =>
    registry.applyCommissionResult macAddress commandId success resultingState
  | .decommission macAddress => registry.decommission macAddress

/-- A call and what it returned. -/
structure Event where
  operation : Operation
  returned : Bool
deriving DecidableEq

/-- The Node that an event is about. -/
def Event.macAddress (event : Event) : MacAddress := event.operation.macAddress

/-- The operation returned what it really returns. -/
def Step (before : CommissioningRegistry) (event : Event) (after : CommissioningRegistry) : Prop :=
  before.perform event.operation = (after, event.returned)

/-- Every restored record comes from a stored one. -/
theorem restored_of_mapM {persisted : List PersistedCommissioningRecord} {restored : List CommissioningEntry}
    (hrestored : persisted.mapM restore = some restored) {entry : CommissioningEntry} (hentry : entry ∈ restored) :
    ∃ stored ∈ persisted, restore stored = some entry := by
  induction persisted generalizing restored with
  | nil =>
    cases hrestored
    cases hentry
  | cons first rest ih =>
    rw [List.mapM_cons] at hrestored
    obtain ⟨head, hhead, htail⟩ := Option.bind_eq_some_iff.mp hrestored
    obtain ⟨tail, hmapped, hlist⟩ := Option.bind_eq_some_iff.mp htail
    cases hlist
    obtain rfl | hentry := List.mem_cons.mp hentry
    · exact ⟨first, List.mem_cons_self, hhead⟩
    · obtain ⟨stored, hstored, hrestore⟩ := ih hmapped hentry
      exact ⟨stored, List.mem_cons_of_mem first hstored, hrestore⟩

/-- What a boot restores waits for nothing and stands in a state that is persisted. -/
theorem settled_of_mem_loadPersisted {persisted : List PersistedCommissioningRecord} {entry : CommissioningEntry}
    (hentry : entry ∈ (loadPersisted persisted).entries) :
    entry.syncState = .SYNCED ∧ isPersistedState entry.lifecycleState = true := by
  unfold loadPersisted at hentry
  split at hentry
  · cases hentry
  · rename_i restored hrestored
    obtain ⟨stored, -, hstored⟩ := restored_of_mapM hrestored hentry
    unfold restore at hstored
    dsimp only at hstored
    split at hstored
    · cases hstored
    split at hstored
    · cases hstored
    rename_i hstate _
    obtain rfl := Option.some.inj hstored
    exact ⟨rfl, by simpa [CommissioningEntry.make, CommissioningEntry.refresh] using hstate⟩

/-- The registries agree but for one MAC, where the second holds `record`. -/
structure ActsAt (macAddress : MacAddress) (record : Option CommissioningEntry)
    (before after : CommissioningRegistry) : Prop where
  found : after.findByMac macAddress = record
  others : ∀ other, other ≠ macAddress → after.findByMac other = before.findByMac other
  entries : ∀ entry ∈ after.entries, entry ∈ before.entries ∨ record = some entry

/-- An operation that changes nothing. -/
theorem actsAt_self {registry : CommissioningRegistry} {macAddress : MacAddress}
    {record : Option CommissioningEntry} (hfound : registry.findByMac macAddress = record) :
    ActsAt macAddress record registry registry :=
  ⟨hfound, fun _ _ => rfl, fun _ hentry => .inl hentry⟩

/-- The change of a record. Needs that the change keeps the MAC, and that there is a record. -/
theorem actsAt_change {registry : CommissioningRegistry} {macAddress : MacAddress} {entry : CommissioningEntry}
    {changed : CommissioningEntry → CommissioningEntry}
    (hkey : ∀ entry, (changed entry).macAddress = entry.macAddress)
    (hfound : registry.findByMac macAddress = some entry) :
    ActsAt macAddress (some (changed entry)) registry (registry.change macAddress changed) := by
  have hlookup : ∀ other, (registry.change macAddress changed).findByMac other =
      if other = macAddress then (registry.findByMac other).map changed else registry.findByMac other :=
    fun other => KeyedList.lookup_update hkey macAddress other registry.entries
  constructor
  · rw [hlookup, if_pos rfl, hfound, Option.map_some]
  · intro other hother
    rw [hlookup, if_neg hother]
  · intro other hother
    refine (KeyedList.mem_update hother).imp_right ?_
    rintro ⟨item, hitem, rfl⟩
    rw [Option.some.inj (hfound.symm.trans hitem)]

/-- A new record. Needs that there is none with its MAC. -/
theorem actsAt_append {registry : CommissioningRegistry} {macAddress : MacAddress} {entry : CommissioningEntry}
    (hkey : entry.macAddress = macAddress) (hnew : registry.findByMac macAddress = none) :
    ActsAt macAddress (some entry) registry ⟨registry.entries ++ [entry]⟩ := by
  subst hkey
  have hlookup : ∀ other, findByMac ⟨registry.entries ++ [entry]⟩ other =
      (registry.findByMac other).or (if entry.macAddress = other then some entry else none) :=
    fun other => KeyedList.lookup_append_singleton registry.entries entry other
  constructor
  · rw [hlookup, hnew, if_pos rfl, Option.none_or]
  · intro other hother
    rw [hlookup, if_neg (Ne.symm hother), Option.or_none]
  · intro other hother
    exact (List.mem_append.mp hother).imp_right fun hlast => congrArg some (List.mem_singleton.mp hlast).symm

/-- What a call does to the record of its MAC. -/
inductive RecordStep : Option CommissioningEntry → Event → Option CommissioningEntry → Prop where
  | rejected (record : Option CommissioningEntry) (operation : Operation) :
      RecordStep record ⟨operation, false⟩ record
  | discovered (macAddress : MacAddress) (identity : ReportedIdentity) :
      RecordStep none ⟨.recordDiscovered macAddress identity, true⟩
        (some (.make macAddress .UNCOMMISSIONED [] identity))
  | rediscovered (entry : CommissioningEntry) (macAddress : MacAddress) (identity : ReportedIdentity) :
      RecordStep (some entry) ⟨.recordDiscovered macAddress identity, false⟩ (some (entry.rediscover identity))
  | measured (entry : CommissioningEntry) (macAddress : MacAddress) (diagnostics : Diagnostics) :
      RecordStep (some entry) ⟨.updateDiagnostics macAddress diagnostics, true⟩ (some (entry.measure diagnostics))
  | registered (macAddress : MacAddress) (friendlyName : List UInt8) (identity : ReportedIdentity) :
      RecordStep none ⟨.registerSelf macAddress friendlyName identity, true⟩
        (some (.make macAddress .COMMISSIONED (copyTruncated FRIENDLY_NAME_BUFFER_SIZE friendlyName) identity))
  | requested (entry : CommissioningEntry) (macAddress : MacAddress) (friendlyName : List UInt8)
      (commandId : UInt32) (haccepts : entry.isFirstCommissioning = true ∨ entry.isRename = true) :
      RecordStep (some entry) ⟨.requestCommissioning macAddress friendlyName commandId, true⟩
        (some (entry.request friendlyName commandId))
  | confirmed (entry : CommissioningEntry) (macAddress : MacAddress) (commandId : UInt32) (success : Bool)
      (resultingState : NodeLifecycleState) (hawaits : entry.awaits commandId = true) :
      RecordStep (some entry) ⟨.applyCommissionResult macAddress commandId success resultingState, true⟩
        (some (entry.confirm success resultingState))
  | decommissioned (entry : CommissioningEntry) (macAddress : MacAddress)
      (hvalid : isValidNodeLifecycleTransition entry.lifecycleState .DECOMMISSIONED = true) :
      RecordStep (some entry) ⟨.decommission macAddress, true⟩ (some entry.erase)

/-- Every operation is a step of its own Node's record and of no other. -/
theorem actsAt_perform (registry : CommissioningRegistry) (operation : Operation) :
    ∃ record, RecordStep (registry.findByMac operation.macAddress) ⟨operation, (registry.perform operation).2⟩ record ∧
      ActsAt operation.macAddress record registry (registry.perform operation).1 := by
  cases operation with
  | recordDiscovered macAddress identity =>
    cases hfound : registry.findByMac macAddress with
    | none =>
      simp only [perform, recordDiscovered, Operation.macAddress, hfound]
      exact ⟨_, .discovered macAddress identity, actsAt_append rfl hfound⟩
    | some entry =>
      simp only [perform, recordDiscovered, Operation.macAddress, hfound]
      refine ⟨_, .rediscovered entry macAddress identity, actsAt_change (fun entry => ?_) hfound⟩
      unfold CommissioningEntry.rediscover
      split <;> rfl
  | updateDiagnostics macAddress diagnostics =>
    cases hfound : registry.findByMac macAddress with
    | none =>
      simp only [perform, updateDiagnostics, Operation.macAddress, hfound]
      exact ⟨_, .rejected none _, actsAt_self hfound⟩
    | some entry =>
      simp only [perform, updateDiagnostics, Operation.macAddress, hfound]
      exact ⟨_, .measured entry macAddress diagnostics, actsAt_change (fun _ => rfl) hfound⟩
  | registerSelf macAddress friendlyName identity =>
    cases hfound : registry.findByMac macAddress with
    | none =>
      simp only [perform, registerSelf, Operation.macAddress, hfound]
      exact ⟨_, .registered macAddress friendlyName identity, actsAt_append rfl hfound⟩
    | some entry =>
      simp only [perform, registerSelf, Operation.macAddress, hfound]
      exact ⟨_, .rejected (some entry) _, actsAt_self hfound⟩
  | requestCommissioning macAddress friendlyName commandId =>
    simp only [perform, requestCommissioning, Operation.macAddress]
    split
    · exact ⟨_, .rejected _ _, actsAt_self rfl⟩
    cases hfound : registry.findByMac macAddress with
    | none => exact ⟨_, .rejected none _, actsAt_self hfound⟩
    | some entry =>
      dsimp only
      split
      · exact ⟨_, .rejected (some entry) _, actsAt_self hfound⟩
      split
      · exact ⟨_, .rejected (some entry) _, actsAt_self hfound⟩
      rename_i haccepts _
      refine ⟨_, .requested entry macAddress friendlyName commandId ?_, actsAt_change (fun _ => rfl) hfound⟩
      cases hfirst : entry.isFirstCommissioning with
      | true => exact .inl rfl
      | false => exact .inr (by simpa [hfirst] using haccepts)
  | applyCommissionResult macAddress commandId success resultingState =>
    simp only [perform, applyCommissionResult, Operation.macAddress]
    cases hfound : registry.findByMac macAddress with
    | none => exact ⟨_, .rejected none _, actsAt_self hfound⟩
    | some entry =>
      dsimp only
      split
      · exact ⟨_, .rejected (some entry) _, actsAt_self hfound⟩
      rename_i hawaits
      exact ⟨_, .confirmed entry macAddress commandId success resultingState (by simpa using hawaits),
        actsAt_change (fun _ => rfl) hfound⟩
  | decommission macAddress =>
    simp only [perform, decommission, Operation.macAddress]
    cases hfound : registry.findByMac macAddress with
    | none => exact ⟨_, .rejected none _, actsAt_self hfound⟩
    | some entry =>
      dsimp only
      split
      · exact ⟨_, .rejected (some entry) _, actsAt_self hfound⟩
      rename_i hvalid
      exact ⟨_, .decommissioned entry macAddress (by simpa using hvalid), actsAt_change (fun _ => rfl) hfound⟩

/-- The same of a step of the registry. -/
theorem actsAt_of_step {before after : CommissioningRegistry} {event : Event} (hstep : Step before event after) :
    ∃ record, RecordStep (before.findByMac event.macAddress) event record ∧
      ActsAt event.macAddress record before after := by
  obtain ⟨operation, returned⟩ := event
  obtain ⟨record, hrecord, hacts⟩ := actsAt_perform before operation
  rw [Step] at hstep
  rw [hstep] at hrecord hacts
  exact ⟨record, hrecord, hacts⟩

/-- A call is one step of the record of its MAC, and no other record takes part in it. -/
theorem recordStep_of_step {before after : CommissioningRegistry} {event : Event} (hstep : Step before event after) :
    RecordStep (before.findByMac event.macAddress) event (after.findByMac event.macAddress) ∧
    ∀ other, other ≠ event.macAddress → after.findByMac other = before.findByMac other := by
  obtain ⟨record, hrecord, hacts⟩ := actsAt_of_step hstep
  exact ⟨hacts.found ▸ hrecord, hacts.others⟩

/-- The fields of the records that planning reads. -/
def planningView (registry : CommissioningRegistry) : NodeCommissioningRegistry :=
  ⟨registry.entries.map fun entry => entry.toCommissioningRecord⟩

/-- Planning sees the record that the registry finds. -/
theorem findByMac_planningView (registry : CommissioningRegistry) (macAddress : MacAddress) :
    registry.planningView.findByMac macAddress =
      (registry.findByMac macAddress).map fun entry => entry.toCommissioningRecord :=
  KeyedList.lookup_map (fun _ => rfl) macAddress registry.entries

/-- What planning sees of a decommissioning is what it does to the three fields. -/
theorem planningView_decommission (registry : CommissioningRegistry) (macAddress : MacAddress) :
    ((registry.decommission macAddress).1.planningView, (registry.decommission macAddress).2) =
      registry.planningView.decommission macAddress := by
  rw [decommission, NodeCommissioningRegistry.decommission, findByMac_planningView]
  cases registry.findByMac macAddress with
  | none => rfl
  | some entry =>
    dsimp only [Option.map_some]
    split
    · rfl
    · have hview : (registry.change macAddress (·.erase)).entries.map (fun entry => entry.toCommissioningRecord) =
          KeyedList.update CommissioningRecord.macAddress macAddress
            (fun record => { record with lifecycleState := .DECOMMISSIONED })
            (registry.entries.map fun entry => entry.toCommissioningRecord) := by
        refine KeyedList.map_update ?_ ?_ macAddress registry.entries
        · exact fun _ => rfl
        · exact fun _ => rfl
      exact congrArg (fun records => (NodeCommissioningRegistry.mk records, true)) hview

end CommissioningRegistry

end kilowatts
