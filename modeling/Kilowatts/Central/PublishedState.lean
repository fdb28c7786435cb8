import Kilowatts.Central.NodeRegistryJson
import Kilowatts.MqttManager.SystemStateJson
import Kilowatts.NodeManager.EveryLoad

namespace kilowatts

open Json TopologyText NodeRegistryJson

/-- What Central does to a load that it points to. It never renames one. -/
structure UnnamedUpdate extends LoadUpdate where
  name_apply : ∀ load, (apply load).name = load.name

/-- The hardware of Central and the two registries that it publishes. -/
structure PublishedState where
  hardware : NodeHardware
  registry : CentralNodeRegistry
  commissioningRegistry : CommissioningRegistry

/-- The calls that change what is published. A boot finds its configurations and its records in
the flash. -/
inductive PublishedEvent where
  | boot (configurations : FlashBacked NodeLoadHardwareStore)
      (persisted : List CommissioningRegistry.PersistedCommissioningRecord)
  | hardware (event : NodeHardware.HardwareEvent)
  | addLocalCentralNode (nodeName : List UInt8) (nowMilliseconds : UInt32)
  | applyNodeReport (packet : NodeReportPacket) (nowMilliseconds : UInt32)
  | removeLoad (macAddress : MacAddress) (relayPin : UInt8)
  | updateLoad (macAddress : MacAddress) (relayPin : UInt8) (update : UnnamedUpdate)
  | commissioning (operation : CommissioningRegistry.Operation)

namespace PublishedState

/-- Nothing is known and nothing is configured. -/
def factory (macAddress : MacAddress) : PublishedState :=
  ⟨⟨⟨.empty, .empty⟩, .empty, .make macAddress⟩, .empty, .make⟩

/-- Whatever brings a text that is published later. -/
def next (state : PublishedState) : PublishedEvent → PublishedState
  | .boot configurations persisted =>
    ⟨⟨configurations, .empty, .make state.hardware.node.macAddress⟩, .empty, .loadPersisted persisted⟩
  | .hardware event => { state with hardware := state.hardware.afterEvent event }
  | .addLocalCentralNode nodeName nowMilliseconds =>
    { state with registry := state.registry.addLocalCentralNode nodeName state.hardware.node nowMilliseconds }
  | .applyNodeReport packet nowMilliseconds =>
    { state with registry := state.registry.applyNodeReport packet nowMilliseconds }
  | .removeLoad macAddress relayPin => { state with registry := (state.registry.removeLoad macAddress relayPin).1 }
  | .updateLoad macAddress relayPin update =>
    { state with registry := state.registry.updateLoad macAddress relayPin update.toLoadUpdate }
  | .commissioning operation =>
    { state with commissioningRegistry := (state.commissioningRegistry.perform operation).1 }

/-- The events are total functions of the state. -/
def Step (before : PublishedState) (event : PublishedEvent) (after : PublishedState) : Prop := after = before.next event

end PublishedState

/-! The texts that a call brings. -/

/-- The name is cut to its buffer before it is printed. -/
def friendlyNameReadable (friendlyName : List UInt8) : Bool :=
  isPrintable (copyTruncated FRIENDLY_NAME_BUFFER_SIZE friendlyName)

/-- So are the versions of firmware and chip. -/
def versionsReadable (firmwareVersion chipModel : List UInt8) : Bool :=
  isPrintable (copyTruncated FIRMWARE_VERSION_BUFFER_SIZE firmwareVersion) &&
    isPrintable (copyTruncated CHIP_MODEL_BUFFER_SIZE chipModel)

/-- The names of the configured loads. -/
def configurationsReadable (configurations : List LoadConfiguration) : Bool :=
  configurations.all fun value => isPrintable value.name.text

/-- The names in a report, of the valid loads only. -/
def packetReadable (packet : NodeReportPacket) : Bool :=
  isPrintable packet.nodeName.text &&
    (PlanningNode.reportedLoads packet).all fun report => !report.validLoadReport || isPrintable report.name.text

/-- The texts that an operation on the registry brings. -/
def operationReadable : CommissioningRegistry.Operation → Bool
  | .recordDiscovered _ identity => versionsReadable identity.firmwareVersion identity.chipModel
  | .updateDiagnostics _ diagnostics => isPrintable diagnostics.resetReason && temperatureReadable diagnostics
  | .registerSelf _ friendlyName identity =>
    friendlyNameReadable friendlyName && versionsReadable identity.firmwareVersion identity.chipModel
  | .requestCommissioning _ friendlyName _ => friendlyNameReadable friendlyName
  | .applyCommissionResult _ _ _ _ => true
  | .decommission _ => true

def persistedReadable (stored : CommissioningRegistry.PersistedCommissioningRecord) : Bool :=
  friendlyNameReadable stored.friendlyName && versionsReadable stored.firmwareVersion stored.chipModel

/-- The texts that an event brings are UTF-8 without control characters. -/
def PublishedEvent.isReadable : PublishedEvent → Bool
  | .boot configurations persisted =>
    configurationsReadable configurations.memory.configurations && persisted.all persistedReadable
  | .hardware (.configureNewLoad _ value) => isPrintable value.name.text
  | .addLocalCentralNode nodeName _ => isPrintable nodeName
  | .applyNodeReport packet _ => packetReadable packet
  | .commissioning operation => operationReadable operation
  | _ => true

namespace CommissioningEntry

/-- Whatever of a record is printed can be read, and so can the name that it waits for. -/
structure Readable (entry : CommissioningEntry) : Prop where
  friendlyName : isPrintable entry.friendlyName = true
  pendingFriendlyName : friendlyNameReadable entry.pendingFriendlyName = true
  firmwareVersion : isPrintable entry.firmwareVersion = true
  chipModel : isPrintable entry.chipModel = true
  resetReason : isPrintable entry.diagnostics.resetReason = true
  temperature : temperatureReadable entry.diagnostics = true

variable {entry : CommissioningEntry}

theorem Readable.recordReadable (hreadable : entry.Readable) : recordReadable entry = true := by
  simp [NodeRegistryJson.recordReadable, hreadable.friendlyName, hreadable.firmwareVersion, hreadable.chipModel,
    hreadable.resetReason, hreadable.temperature]

/-- New versions do not touch the names. -/
theorem Readable.refresh (hreadable : entry.Readable) {identity : ReportedIdentity}
    (hversions : versionsReadable identity.firmwareVersion identity.chipModel = true) :
    (entry.refresh identity).Readable := by
  rw [versionsReadable, Bool.and_eq_true] at hversions
  exact ⟨hreadable.friendlyName, hreadable.pendingFriendlyName, hversions.1, hversions.2, hreadable.resetReason,
    hreadable.temperature⟩

/-- A record begins with a name and versions, and nothing else that is printed. -/
theorem readable_make (macAddress : MacAddress) (lifecycleState : NodeLifecycleState) {friendlyName : List UInt8}
    {identity : ReportedIdentity} (hname : isPrintable friendlyName = true)
    (hversions : versionsReadable identity.firmwareVersion identity.chipModel = true) :
    (make macAddress lifecycleState friendlyName identity).Readable :=
  Readable.refresh ⟨hname, rfl, rfl, rfl, rfl, rfl⟩ hversions

/-- A Node that is discovered again keeps its name. -/
theorem Readable.rediscover (hreadable : entry.Readable) {identity : ReportedIdentity}
    (hversions : versionsReadable identity.firmwareVersion identity.chipModel = true) :
    (entry.rediscover identity).Readable := by
  unfold CommissioningEntry.rediscover
  refine Readable.refresh ?_ hversions
  split
  · exact ⟨hreadable.friendlyName, hreadable.pendingFriendlyName, hreadable.firmwareVersion, hreadable.chipModel,
      hreadable.resetReason, hreadable.temperature⟩
  · exact hreadable

/-- A name that is cut is not cut again. -/
theorem Readable.request (hreadable : entry.Readable) {friendlyName : List UInt8}
    (hname : friendlyNameReadable friendlyName = true) (commandId : UInt32) :
    (entry.request friendlyName commandId).Readable := by
  refine ⟨hreadable.friendlyName, ?_, hreadable.firmwareVersion, hreadable.chipModel, hreadable.resetReason,
    hreadable.temperature⟩
  have hcut : copyTruncated FRIENDLY_NAME_BUFFER_SIZE (copyTruncated FRIENDLY_NAME_BUFFER_SIZE friendlyName) =
      copyTruncated FRIENDLY_NAME_BUFFER_SIZE friendlyName := List.take_take.trans (by rw [Nat.min_self]; rfl)
  rwa [friendlyNameReadable, CommissioningEntry.request, hcut]

/-- A confirmation takes the pending name over. -/
theorem Readable.confirm (hreadable : entry.Readable) (success : Bool) (resultingState : NodeLifecycleState) :
    (entry.confirm success resultingState).Readable := by
  refine ⟨?_, rfl, hreadable.firmwareVersion, hreadable.chipModel, hreadable.resetReason, hreadable.temperature⟩
  cases success with
  | true => exact hreadable.pendingFriendlyName
  | false => exact hreadable.friendlyName

theorem Readable.erase (hreadable : entry.Readable) : entry.erase.Readable :=
  ⟨rfl, rfl, hreadable.firmwareVersion, hreadable.chipModel, hreadable.resetReason, hreadable.temperature⟩

/-- One call on the record of its MAC. -/
theorem Readable.of_recordStep {record : Option CommissioningEntry} {event : CommissioningRegistry.Event}
    (hrecord : ∀ old, record = some old → old.Readable) (hreadable : operationReadable event.operation = true)
    (hstep : CommissioningRegistry.RecordStep record event (some entry)) : entry.Readable := by
  generalize hafter : some entry = after at hstep
  cases hstep with
  | rejected => exact hrecord entry hafter.symm
  | discovered macAddress identity =>
    obtain rfl := Option.some.inj hafter
    exact readable_make macAddress _ rfl hreadable
  | rediscovered old macAddress identity =>
    obtain rfl := Option.some.inj hafter
    exact (hrecord old rfl).rediscover hreadable
  | measured old macAddress diagnostics =>
    obtain rfl := Option.some.inj hafter
    have hold := hrecord old rfl
    rw [operationReadable, Bool.and_eq_true] at hreadable
    exact ⟨hold.friendlyName, hold.pendingFriendlyName, hold.firmwareVersion, hold.chipModel, hreadable.1, hreadable.2⟩
  | registered macAddress friendlyName identity =>
    obtain rfl := Option.some.inj hafter
    rw [operationReadable, Bool.and_eq_true] at hreadable
    exact readable_make macAddress _ hreadable.1 hreadable.2
  | requested old macAddress friendlyName commandId =>
    obtain rfl := Option.some.inj hafter
    exact (hrecord old rfl).request hreadable commandId
  | confirmed old macAddress commandId success resultingState =>
    obtain rfl := Option.some.inj hafter
    exact (hrecord old rfl).confirm success resultingState
  | decommissioned old =>
    obtain rfl := Option.some.inj hafter
    exact (hrecord old rfl).erase

end CommissioningEntry

/-! Loads get their names from configurations and from reports only. -/

/-- The name of a load can be printed. -/
def Load.Named (load : Load) : Prop := isPrintable load.name = true

namespace Load

theorem name_make (id : Load.Id) (name : List UInt8) (rating : CFloat) (priority : UInt16) (powerType : LoadPowerType)
    (mode : LoadMode) : (make id name rating priority powerType mode).name = name := by
  obtain ⟨value, hnonneg, hmake⟩ := make_eq id name rating priority powerType mode
  rw [hmake]

theorem name_setSchedule (load : Load) (schedule : AutoSchedule) : (load.setSchedule schedule).1.name = load.name := by
  rw [setSchedule_eq]
  split
  · rfl
  · rfl

theorem name_setPowerRatingWatts (load : Load) (rating : CFloat) :
    (load.setPowerRatingWatts rating).1.name = load.name := by
  cases rating with
  | finite value =>
    rw [setPowerRatingWatts]
    split
    · rfl
    · rfl
  | nonFinite => rfl

end Load

/-- A load has the name that it was configured with. -/
theorem LoadConfiguration.name_load (configuration : LoadConfiguration) (macAddress : MacAddress) :
    (configuration.load macAddress).name = configuration.name.text := by
  rw [load]
  split
  · rw [Load.name_setSchedule, Load.name_make]
  · rw [Load.name_make]

namespace PlanningNode

theorem name_applySchedule (report : LoadReportPacket) (load : Load) : (applySchedule report load).name = load.name := by
  unfold applySchedule
  split
  · exact load.name_setSchedule report.schedule
  · rfl

theorem name_overwrittenLoad (report : LoadReportPacket) (load : Load) :
    (overwrittenLoad report load).name = report.name.text := by
  dsimp only [overwrittenLoad, Load.setPriority, Load.setPowerType]
  rw [Load.name_setPowerRatingWatts, Load.setMode_eq]
  rfl

/-- A page brings only names that can be printed, if its packet does. -/
theorem keeps_named (nodeMacAddress : MacAddress) {report : LoadReportPacket}
    (hname : isPrintable report.name.text = true) : report.Keeps Load.Named nodeMacAddress where
  created := by
    rw [Load.Named, createdLoad, Load.name_make]
    exact hname
  scheduled load hload := by
    rw [Load.Named, scheduleUpdate, name_applySchedule]
    exact hload
  overwritten load _ := by
    show isPrintable (applySchedule report (overwrittenLoad report load)).name = true
    rw [name_applySchedule, name_overwrittenLoad]
    exact hname

/-- The name of the Node and those of its loads. -/
structure Named (planningNode : PlanningNode) : Prop where
  name : isPrintable planningNode.nodeName = true
  loads : planningNode.node.Every Load.Named

variable {planningNode : PlanningNode}

theorem name_applyPage (packet : NodeReportPacket) (nowMilliseconds : UInt32) (planningNode : PlanningNode) :
    (applyPage packet nowMilliseconds planningNode).nodeName = packet.nodeName.text := by
  obtain ⟨node, pendingReport, hpage⟩ := applyPage_rest packet nowMilliseconds planningNode
  rw [hpage]
  rfl

/-- A page leaves a Node with names that can be printed. -/
theorem Named.applyPage {packet : NodeReportPacket} (hpacket : packetReadable packet = true)
    (hnamed : planningNode.Named) (nowMilliseconds : UInt32) :
    (applyPage packet nowMilliseconds planningNode).Named := by
  simp only [packetReadable, Bool.and_eq_true, List.all_eq_true, Bool.or_eq_true, Bool.not_eq_true'] at hpacket
  refine ⟨by rw [name_applyPage]; exact hpacket.1, every_applyPage hnamed.loads (fun report hreport hvalid => ?_) _⟩
  exact keeps_named _ ((hpacket.2 report hreport).resolve_left (by rw [hvalid]; decide))

end PlanningNode

namespace PublishedState

/-- What every call keeps that brings readable texts only. -/
structure Readable (state : PublishedState) : Prop where
  configurations : configurationsReadable state.hardware.store.memory.configurations = true
  loads : state.hardware.node.Every Load.Named
  nodes : state.registry.Every PlanningNode.Named
  records : ∀ record ∈ state.commissioningRegistry.entries, record.Readable

/-- There is nothing to print yet. -/
theorem readable_factory (macAddress : MacAddress) : (factory macAddress).Readable :=
  ⟨rfl, List.forall_mem_nil _, List.forall_mem_nil _, List.forall_mem_nil _⟩

variable {before : PublishedState}

/-- Loads on the own pins, by their configurations. -/
theorem Readable.afterHardware (hbefore : before.Readable) {event : NodeHardware.HardwareEvent}
    (hevent : (PublishedEvent.hardware event).isReadable = true) : (before.next (.hardware event)).Readable := by
  have happlied : configurationsReadable (event.applied before.hardware) = true := by
    cases event with
    | configureNewLoad answers value => exact (Bool.and_true _).trans hevent
    | applyPersistedConfigurations => exact hbefore.configurations
    | _ => rfl
  have hconfigurations := hbefore.configurations
  simp only [configurationsReadable, List.all_eq_true] at happlied hconfigurations
  refine ⟨?_, NodeHardware.every_afterEvent hbefore.loads event fun value hvalue => ?_, hbefore.nodes, hbefore.records⟩
  · rw [configurationsReadable, List.all_eq_true]
    intro value hvalue
    obtain hold | hnew := NodeHardware.mem_configurations_afterEvent hvalue
    · exact hconfigurations value hold
    · exact happlied value hnew
  · rw [Load.Named, value.name_load]
    exact happlied value hvalue

/-- Records, by the operations on them. -/
theorem Readable.afterOperation (hbefore : before.Readable) {operation : CommissioningRegistry.Operation}
    (hoperation : operationReadable operation = true) : (before.next (.commissioning operation)).Readable := by
  obtain ⟨record, hstep, hacts⟩ := CommissioningRegistry.actsAt_perform before.commissioningRegistry operation
  refine ⟨hbefore.configurations, hbefore.loads, hbefore.nodes, fun entry hentry => ?_⟩
  obtain hold | rfl := hacts.entries entry hentry
  · exact hbefore.records entry hold
  · refine CommissioningEntry.Readable.of_recordStep (fun old hold => ?_) hoperation hstep
    exact hbefore.records old (KeyedList.mem_of_lookup hold)

/-- What a boot loads was printable when it was stored. -/
theorem readable_loadPersisted {persisted : List CommissioningRegistry.PersistedCommissioningRecord}
    (hpersisted : persisted.all persistedReadable = true) :
    ∀ record ∈ (CommissioningRegistry.loadPersisted persisted).entries, record.Readable := by
  intro record hrecord
  unfold CommissioningRegistry.loadPersisted at hrecord
  split at hrecord
  · cases hrecord
  rename_i restored hrestored
  obtain ⟨stored, hstored, hrestore⟩ := CommissioningRegistry.restored_of_mapM hrestored hrecord
  have hreadable := List.all_eq_true.mp hpersisted stored hstored
  rw [persistedReadable, Bool.and_eq_true] at hreadable
  unfold CommissioningRegistry.restore at hrestore
  dsimp only at hrestore
  split at hrestore
  · cases hrestore
  split at hrestore
  · cases hrestore
  obtain rfl := Option.some.inj hrestore
  exact CommissioningEntry.readable_make _ _ hreadable.1 hreadable.2

/-- One event keeps all texts readable, if the texts that it brings are. -/
theorem Readable.next (hbefore : before.Readable) {event : PublishedEvent} (hevent : event.isReadable = true) :
    (before.next event).Readable := by
  cases event with
  | boot configurations persisted =>
    rw [PublishedEvent.isReadable, Bool.and_eq_true] at hevent
    exact ⟨hevent.1, List.forall_mem_nil _, List.forall_mem_nil _, readable_loadPersisted hevent.2⟩
  | hardware event => exact hbefore.afterHardware hevent
  | addLocalCentralNode nodeName nowMilliseconds =>
    refine ⟨hbefore.configurations, hbefore.loads, fun planningNode hmem => ?_, hbefore.records⟩
    obtain hold | rfl := KeyedList.mem_put hmem
    · exact hbefore.nodes planningNode hold
    · exact ⟨hevent, hbefore.loads⟩
  | applyNodeReport packet nowMilliseconds =>
    refine ⟨hbefore.configurations, hbefore.loads, ?_, hbefore.records⟩
    exact hbefore.nodes.applyNodeReport ⟨rfl, List.forall_mem_nil _⟩ fun _ hnamed =>
      hnamed.applyPage hevent nowMilliseconds
  | removeLoad macAddress relayPin =>
    refine ⟨hbefore.configurations, hbefore.loads, ?_, hbefore.records⟩
    exact hbefore.nodes.updatePlanningNode macAddress fun _ hnamed =>
      ⟨hnamed.name, hnamed.loads.removeLoadByRelayPin relayPin⟩
  | updateLoad macAddress relayPin update =>
    refine ⟨hbefore.configurations, hbefore.loads, ?_, hbefore.records⟩
    refine hbefore.nodes.updatePlanningNode macAddress fun _ hnamed =>
      ⟨hnamed.name, hnamed.loads.updateLoadByRelayPin relayPin fun load hload => ?_⟩
    rw [Load.Named, update.name_apply]
    exact hload
  | commissioning operation => exact hbefore.afterOperation hevent

/-- And so does every run of such events. -/
theorem readable_of_run {macAddress : MacAddress} {events : List PublishedEvent} {last : PublishedState}
    (hrun : Run Step (factory macAddress) events last) (hevents : ∀ event ∈ events, event.isReadable = true) :
    last.Readable := by
  refine hrun.invariant_mem (fun before after event hevent hbefore hstep => ?_) (readable_factory macAddress)
  rw [hstep]
  exact hbefore.next (hevents event hevent)

end PublishedState

end kilowatts
