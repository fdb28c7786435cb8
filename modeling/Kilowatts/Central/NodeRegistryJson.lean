import Kilowatts.Central.TopologyText
import Kilowatts.LoadManager.PrintedFloats

namespace kilowatts

/-- The texts of the source, which a reader of the topic compares with. -/
def NodeLifecycleState.toText : NodeLifecycleState → List UInt8
  | .FACTORY => Json.ascii "factory"
  | .UNCOMMISSIONED => Json.ascii "uncommissioned"
  | .DISCOVERED => Json.ascii "discovered"
  | .CONFIGURING => Json.ascii "configuring"
  | .COMMISSIONED => Json.ascii "commissioned"
  | .OPERATIONAL => Json.ascii "operational"
  | .DECOMMISSIONED => Json.ascii "decommissioned"
  | .undeclared _ _ => Json.ascii "unknown"

/-- A byte that is no role is shown as unknown. -/
def NodeRole.toText : NodeRole → List UInt8
  | .CENTRAL => Json.ascii "central"
  | .SMART => Json.ascii "smart"
  | .undeclared _ _ => Json.ascii "unknown"

namespace NodeRegistryJson

open Json Decimal TopologyText

/-- The texts of the source. -/
def syncStateText : SyncState → List UInt8
  | .SYNCED => ascii "SYNCED"
  | .PENDING => ascii "PENDING"
  | .FAILED => ascii "FAILED"

/-- A load is on the pin, as far as Central knows. -/
def pinIsUsed (node : Option PlanningNode) (pin : UInt8) : Bool :=
  node.any fun node => node.node.loads.any fun load => load.getRelayPin = pin

/-- The pins that both loops of `appendRelayPins` go through. No record counts more than it has. -/
def relayPins (record : CommissioningEntry) : List UInt8 :=
  record.relayPins.toList.take record.relayCapabilityCount.toNat

/-- The pins of the record that have a load, in the order of the record. -/
def usedRelayPins (record : CommissioningEntry) (node : Option PlanningNode) : List UInt8 :=
  (relayPins record).filter (pinIsUsed node)

/-- The other pins of the record. -/
def availableRelayPins (record : CommissioningEntry) (node : Option PlanningNode) : List UInt8 :=
  (relayPins record).filter fun pin => !pinIsUsed node pin

/-- Both lists of pins. -/
def appendRelayPins (record : CommissioningEntry) (node : Option PlanningNode) : List UInt8 :=
  [ascii "\"usedRelayPins\":[",
    [0x2C].intercalate ((usedRelayPins record node).map fun pin => digitsOf pin.toNat),
    ascii "],\"availableRelayPins\":[",
    [0x2C].intercalate ((availableRelayPins record node).map fun pin => digitsOf pin.toNat),
    ascii "]"].flatten

/-- The temperature goes through a buffer of 24 bytes, the last of which is zero. -/
def temperatureText (diagnostics : Diagnostics) : List UInt8 :=
  if diagnostics.temperatureAvailable then (CFloat.printed 2 diagnostics.temperatureCelsius).take 23 else ascii "null"

/-- The diagnostics, with `null` for a temperature that is not available. -/
def appendDiagnostics (diagnostics : Diagnostics) : List UInt8 :=
  [ascii "\x7b\"freeHeapBytes\":", digitsOf diagnostics.freeHeapBytes.toNat,
    ascii ",\"minFreeHeapBytes\":", digitsOf diagnostics.minFreeHeapBytes.toNat,
    ascii ",\"flashSizeBytes\":", digitsOf diagnostics.flashSizeBytes.toNat,
    ascii ",\"psramSizeBytes\":", digitsOf diagnostics.psramSizeBytes.toNat,
    ascii ",\"siliconRevision\":", digitsOf diagnostics.siliconRevision.toNat,
    ascii ",\"cpuCores\":", digitsOf diagnostics.cpuCores.toNat,
    ascii ",\"cpuFrequencyMhz\":", digitsOf diagnostics.cpuFrequencyMhz.toNat,
    ascii ",\"resetReason\":", appendString diagnostics.resetReason,
    ascii ",\"temperatureAvailable\":", boolText diagnostics.temperatureAvailable,
    ascii ",\"temperatureCelsius\":", temperatureText diagnostics,
    ascii "\x7d"].flatten

section Build

variable (commissioningRegistry : CommissioningRegistry) (registry : CentralNodeRegistry)
  (nowMilliseconds onlineTimeoutMilliseconds : UInt32)

/-- The same comparison of wrapped milliseconds that planning makes. -/
def nodeIsOnline (node : PlanningNode) : Bool :=
  node.isCentralNode || nowMilliseconds - node.lastSeenMilliseconds ≤ onlineTimeoutMilliseconds

def loadCount (node : Option PlanningNode) : Nat := node.elim 0 fun node => node.node.loads.length

/-- The end of a record. -/
def appendConnection : (node : Option PlanningNode) → List UInt8
  | none => ascii ",\"online\":false,\"hopCountToCentral\":null,\"nextHopMac\":null"
  | some node =>
    if node.isCentralNode then ascii ",\"online\":null,\"hopCountToCentral\":0,\"nextHopMac\":null"
    else
      [ascii ",\"online\":", boolText (nodeIsOnline nowMilliseconds onlineTimeoutMilliseconds node),
        ascii ",\"hopCountToCentral\":", digitsOf node.hopCountToCentral.toNat,
        ascii ",\"nextHopMac\":", appendMacAddressJson node.nextHopToCentralMacAddress].flatten

/-- One record with what the registry knows of its Node. -/
def appendRecord (record : CommissioningEntry) : List UInt8 :=
  let node := registry.findNodeByMacAddress record.macAddress
  [ascii "\x7b\"mac\":", appendMacAddressJson record.macAddress,
    ascii ",\"role\":\"", record.role.toText,
    ascii "\",\"nodeName\":", appendString record.friendlyName,
    ascii ",\"lifecycleState\":\"", record.lifecycleState.toText,
    ascii "\",\"syncState\":\"", syncStateText record.syncState,
    ascii "\",\"firmwareVersion\":", appendString record.firmwareVersion,
    ascii ",\"chipModel\":", appendString record.chipModel,
    ascii ",\"loadCount\":", digitsOf (loadCount node), ascii ",",
    appendRelayPins record node,
    ascii ",\"diagnostics\":", appendDiagnostics record.diagnostics,
    appendConnection nowMilliseconds onlineTimeoutMilliseconds node, ascii "\x7d"].flatten

/-- Central does not count as a Smart Node. -/
def onlineNodeCount : Nat :=
  registry.planningNodes.countP fun node =>
    !node.isCentralNode && nodeIsOnline nowMilliseconds onlineTimeoutMilliseconds node

/-- The document of the topic, printed piece by piece. -/
def buildStateNodesJson (schemaVersion : UInt32) : List UInt8 :=
  [ascii "\x7b\"schemaVersion\":", digitsOf schemaVersion.toNat,
    ascii ",\"nodeCount\":", digitsOf registry.planningNodes.length,
    ascii ",\"onlineSmartNodeCount\":", digitsOf (onlineNodeCount registry nowMilliseconds onlineTimeoutMilliseconds),
    ascii ",\"nodes\":[",
    [0x2C].intercalate (commissioningRegistry.entries.map
      (appendRecord registry nowMilliseconds onlineTimeoutMilliseconds)),
    ascii "]\x7d"].flatten

end Build

theorem isPlain_syncStateText (syncState : SyncState) : isPlain (syncStateText syncState) = true := by
  cases syncState with
  | SYNCED => decide
  | PENDING => decide
  | FAILED => decide

theorem isPlain_roleText (role : NodeRole) : isPlain role.toText = true := by
  cases role with
  | undeclared => exact (by decide : isPlain (ascii "unknown") = true)
  | _ => decide

theorem isPlain_lifecycleStateText (lifecycleState : NodeLifecycleState) :
    isPlain lifecycleState.toText = true := by
  cases lifecycleState with
  | undeclared => exact (by decide : isPlain (ascii "unknown") = true)
  | _ => decide

/-- The keys that are also those of the topology need no escapes. -/
structure SharedKeys : Prop where
  schemaVersion : isPlain (ascii "schemaVersion") = true
  mac : isPlain (ascii "mac") = true
  nodeName : isPlain (ascii "nodeName") = true
  firmwareVersion : isPlain (ascii "firmwareVersion") = true
  chipModel : isPlain (ascii "chipModel") = true
  diagnostics : isPlain (ascii "diagnostics") = true
  online : isPlain (ascii "online") = true
  hopCountToCentral : isPlain (ascii "hopCountToCentral") = true
  freeHeapBytes : isPlain (ascii "freeHeapBytes") = true
  minFreeHeapBytes : isPlain (ascii "minFreeHeapBytes") = true
  flashSizeBytes : isPlain (ascii "flashSizeBytes") = true
  psramSizeBytes : isPlain (ascii "psramSizeBytes") = true
  cpuCores : isPlain (ascii "cpuCores") = true
  resetReason : isPlain (ascii "resetReason") = true

theorem sharedKeys : SharedKeys := by
  constructor <;> decide

def pinsDocument (pins : List UInt8) : Document := .array (pins.map fun pin => .natural pin.toNat)

def temperatureDocument (diagnostics : Diagnostics) : Document :=
  if diagnostics.temperatureAvailable then CFloat.printedDocument 23 2 diagnostics.temperatureCelsius else .null

/-- What `appendDiagnostics` prints, as a document. -/
def diagnosticsDocument (diagnostics : Diagnostics) : Document :=
  .object [
    .next "freeHeapBytes" (.natural diagnostics.freeHeapBytes.toNat) sharedKeys.freeHeapBytes,
    .next "minFreeHeapBytes" (.natural diagnostics.minFreeHeapBytes.toNat) sharedKeys.minFreeHeapBytes,
    .next "flashSizeBytes" (.natural diagnostics.flashSizeBytes.toNat) sharedKeys.flashSizeBytes,
    .next "psramSizeBytes" (.natural diagnostics.psramSizeBytes.toNat) sharedKeys.psramSizeBytes,
    .next "siliconRevision" (.natural diagnostics.siliconRevision.toNat),
    .next "cpuCores" (.natural diagnostics.cpuCores.toNat) sharedKeys.cpuCores,
    .next "cpuFrequencyMhz" (.natural diagnostics.cpuFrequencyMhz.toNat),
    .next "resetReason" (.string diagnostics.resetReason) sharedKeys.resetReason,
    .next "temperatureAvailable" (.bool diagnostics.temperatureAvailable),
    .last "temperatureCelsius" (temperatureDocument diagnostics)]

section Documents

variable (commissioningRegistry : CommissioningRegistry) (registry : CentralNodeRegistry)
  (nowMilliseconds onlineTimeoutMilliseconds : UInt32)

/-- What `appendConnection` prints, as members. -/
def connectionMembers : (node : Option PlanningNode) → List Member
  | none =>
    [.next "online" (.bool false) sharedKeys.online, .next "hopCountToCentral" .null sharedKeys.hopCountToCentral,
      .last "nextHopMac" .null]
  | some node =>
    if node.isCentralNode then
      [.next "online" .null sharedKeys.online,
        .next "hopCountToCentral" (.natural 0) sharedKeys.hopCountToCentral, .last "nextHopMac" .null]
    else
      [.next "online" (.bool (nodeIsOnline nowMilliseconds onlineTimeoutMilliseconds node)) sharedKeys.online,
        .next "hopCountToCentral" (.natural node.hopCountToCentral.toNat) sharedKeys.hopCountToCentral,
        .last "nextHopMac" (.string (macText node.nextHopToCentralMacAddress))]

/-- What `appendRecord` prints, as a document. -/
def recordDocument (record : CommissioningEntry) : Document :=
  let node := registry.findNodeByMacAddress record.macAddress
  .object ([
    .next "mac" (.string (macText record.macAddress)) sharedKeys.mac,
    .next "role" (.plain record.role.toText (isPlain_roleText record.role)),
    .next "nodeName" (.string record.friendlyName) sharedKeys.nodeName,
    .next "lifecycleState" (.plain record.lifecycleState.toText (isPlain_lifecycleStateText record.lifecycleState)),
    .next "syncState" (.plain (syncStateText record.syncState) (isPlain_syncStateText record.syncState)),
    .next "firmwareVersion" (.string record.firmwareVersion) sharedKeys.firmwareVersion,
    .next "chipModel" (.string record.chipModel) sharedKeys.chipModel,
    .next "loadCount" (.natural (loadCount node)),
    .next "usedRelayPins" (pinsDocument (usedRelayPins record node)),
    .next "availableRelayPins" (pinsDocument (availableRelayPins record node)),
    .next "diagnostics" (diagnosticsDocument record.diagnostics) sharedKeys.diagnostics] ++
      connectionMembers nowMilliseconds onlineTimeoutMilliseconds node)

/-- What `buildStateNodesJson` means to publish. -/
def stateNodesDocument (schemaVersion : UInt32) : Document :=
  .object [
    .next "schemaVersion" (.natural schemaVersion.toNat) sharedKeys.schemaVersion,
    .next "nodeCount" (.natural registry.planningNodes.length),
    .next "onlineSmartNodeCount"
      (.natural (onlineNodeCount registry nowMilliseconds onlineTimeoutMilliseconds)),
    .last "nodes" (.array (commissioningRegistry.entries.map
      (recordDocument registry nowMilliseconds onlineTimeoutMilliseconds)))]

end Documents

section Texts

variable (commissioningRegistry : CommissioningRegistry) (registry : CentralNodeRegistry)
  (nowMilliseconds onlineTimeoutMilliseconds : UInt32)

theorem pinsDocument_text (pins : List UInt8) :
    (pinsDocument pins).text = 0x5B :: ([0x2C].intercalate (pins.map fun pin => digitsOf pin.toNat) ++ [0x5D]) := by
  rw [pinsDocument, Document.array_text, List.map_map]
  simp only [Function.comp_def, Document.natural_text]

theorem temperatureDocument_text (diagnostics : Diagnostics) :
    (temperatureDocument diagnostics).text = temperatureText diagnostics := by
  unfold temperatureDocument temperatureText
  split
  · exact CFloat.printedDocument_text (by decide) 2 diagnostics.temperatureCelsius
  · rfl

set_option maxRecDepth 8000 in
theorem diagnosticsDocument_text (diagnostics : Diagnostics) :
    (diagnosticsDocument diagnostics).text = appendDiagnostics diagnostics := by
  simp only [diagnosticsDocument, Document.object_text, List.map_cons, List.map_nil, List.flatMap_cons,
    List.flatMap_nil, Member.written_next, Member.written_last, Document.natural_text, temperatureDocument_text,
    List.append_assoc, List.cons_append, List.nil_append, List.append_nil, appendDiagnostics, List.flatten_cons,
    List.flatten_nil]
  rfl

theorem connectionMembers_text (node : Option PlanningNode) :
    0x2C :: ((connectionMembers nowMilliseconds onlineTimeoutMilliseconds node).map Member.piece).flatMap Piece.written =
      appendConnection nowMilliseconds onlineTimeoutMilliseconds node := by
  cases node with
  | none => rfl
  | some node =>
    unfold connectionMembers appendConnection
    dsimp only
    split
    · rfl
    · simp only [List.map_cons, List.map_nil, List.flatMap_cons, List.flatMap_nil, Member.written_next,
        Member.written_last, Document.natural_text, List.append_assoc, List.cons_append, List.nil_append,
        List.append_nil, List.flatten_cons, List.flatten_nil]
      rfl

set_option maxRecDepth 8000 in
theorem recordDocument_text (record : CommissioningEntry) :
    (recordDocument registry nowMilliseconds onlineTimeoutMilliseconds record).text =
      appendRecord registry nowMilliseconds onlineTimeoutMilliseconds record := by
  have hconnection := connectionMembers_text nowMilliseconds onlineTimeoutMilliseconds
  simp only [recordDocument, Document.object_text, List.map_cons, List.flatMap_cons, Member.written_next,
    Document.natural_text, Document.plain_text, pinsDocument_text, diagnosticsDocument_text, List.append_assoc,
    List.cons_append, List.nil_append, List.append_nil, appendRecord, appendRelayPins, ← hconnection, List.flatten_cons,
    List.flatten_nil]
  rfl

/-- The text that is published is the text of the document. -/
theorem stateNodesDocument_text (schemaVersion : UInt32) :
    (stateNodesDocument commissioningRegistry registry nowMilliseconds onlineTimeoutMilliseconds schemaVersion).text =
      buildStateNodesJson commissioningRegistry registry nowMilliseconds onlineTimeoutMilliseconds schemaVersion := by
  have hrecords := List.map_congr_left (l := commissioningRegistry.entries) fun record _ =>
    recordDocument_text registry nowMilliseconds onlineTimeoutMilliseconds record
  simp only [stateNodesDocument, Document.object_text, List.map_cons, List.map_nil, List.flatMap_cons,
    List.flatMap_nil, Member.written_next, Member.written_last, Document.natural_text, Document.array_text, List.map_map,
    List.append_assoc, List.cons_append, List.nil_append, List.append_nil, buildStateNodesJson, ← hrecords,
    List.flatten_cons, List.flatten_nil]
  rfl

end Texts

section Restored

variable {commissioningRegistry : CommissioningRegistry} {registry : CentralNodeRegistry}
  {nowMilliseconds onlineTimeoutMilliseconds : UInt32}

/-- A temperature that is printed is a number, and neither its point nor a digit before it stands
where the buffer ends. -/
def temperatureReadable (diagnostics : Diagnostics) : Bool :=
  !diagnostics.temperatureAvailable ||
    (CFloat.ofBits diagnostics.temperatureCelsius ≠ .nonFinite &&
      ((CFloat.printed 2 diagnostics.temperatureCelsius).length ≤ 24 ||
        (CFloat.printed 2 diagnostics.temperatureCelsius).length = 26))

/-- The texts of a record are UTF-8 without control characters, and its temperature fits its buffer. -/
def recordReadable (record : CommissioningEntry) : Bool :=
  isPrintable record.friendlyName && isPrintable record.firmwareVersion && isPrintable record.chipModel &&
    isPrintable record.diagnostics.resetReason && temperatureReadable record.diagnostics

theorem temperatureDocument_restored {diagnostics : Diagnostics} :
    (temperatureDocument diagnostics).Restored ↔ temperatureReadable diagnostics = true := by
  unfold temperatureDocument temperatureReadable
  cases diagnostics.temperatureAvailable with
  | false => simp
  | true =>
    rw [if_pos rfl, CFloat.printedDocument_restored_iff (by decide) (by decide)]
    simp only [Bool.not_true, Bool.false_or, Bool.and_eq_true, Bool.or_eq_true, decide_eq_true_eq]
    refine and_congr_right fun _ => ?_
    omega

theorem diagnosticsDocument_restored {diagnostics : Diagnostics} :
    (diagnosticsDocument diagnostics).Restored ↔
      isPrintable diagnostics.resetReason = true ∧ temperatureReadable diagnostics = true := by
  simp [diagnosticsDocument, Member.next, Member.last, wellSeparated, temperatureDocument_restored]

/-- The end of a record can always be read. -/
theorem connectionMembers_restored (node : Option PlanningNode) :
    wellSeparated ((connectionMembers nowMilliseconds onlineTimeoutMilliseconds node).map Member.comma) = true ∧
      connectionMembers nowMilliseconds onlineTimeoutMilliseconds node ≠ [] ∧
      ∀ item ∈ connectionMembers nowMilliseconds onlineTimeoutMilliseconds node, item.value.Restored := by
  cases node with
  | none => simp [connectionMembers, Member.next, Member.last, wellSeparated]
  | some node =>
    unfold connectionMembers
    dsimp only
    split
    · simp [Member.next, Member.last, wellSeparated]
    · simp [Member.next, Member.last, wellSeparated, isPrintable_macText]

theorem recordDocument_restored {record : CommissioningEntry} :
    (recordDocument registry nowMilliseconds onlineTimeoutMilliseconds record).Restored ↔
      recordReadable record = true := by
  obtain ⟨hseparated, hne, hconnection⟩ := @connectionMembers_restored nowMilliseconds
    onlineTimeoutMilliseconds (registry.findNodeByMacAddress record.macAddress)
  have hpins (pins : List UInt8) : (pinsDocument pins).Restored := by simp [pinsDocument]
  dsimp only [recordDocument]
  rw [Document.restored_object, List.map_append, List.forall_mem_append,
    wellSeparated_append (by simp [Member.next]) hseparated (by simpa using hne), and_iff_left hconnection]
  simp [Member.next, recordReadable, isPrintable_macText, hpins, diagnosticsDocument_restored, and_assoc]

/-- A reader gets the document back exactly if every record is readable. -/
theorem stateNodesDocument_restored {schemaVersion : UInt32} :
    (stateNodesDocument commissioningRegistry registry nowMilliseconds onlineTimeoutMilliseconds
        schemaVersion).Restored ↔ ∀ record ∈ commissioningRegistry.entries, recordReadable record = true := by
  simp [stateNodesDocument, Member.next, Member.last, wellSeparated, recordDocument_restored]

end Restored

end NodeRegistryJson

end kilowatts
