import Kilowatts.Central.TopologyTree
import Kilowatts.Library.JsonDocument

namespace kilowatts.TopologyText

open Json Decimal

/-- `appendString` of all three files that write JSON. -/
def appendString (value : List UInt8) : List UInt8 := 0x22 :: (escaped value ++ [0x22])

/-- The upper-case hexadecimal digit of `value`, which is below 16 wherever it is used. -/
def hexDigit (value : UInt8) : UInt8 := if value < 10 then 0x30 + value else 0x37 + value

/-- `%02X` of six bytes, with colons between them. -/
def macText (mac : MacAddress) : List UInt8 :=
  [0x3A].intercalate (mac.toList.map fun byte => [hexDigit (byte / 16), hexDigit (byte % 16)])

/-- The MAC address as a quoted string. -/
def appendMacAddressJson (mac : MacAddress) : List UInt8 := appendString (macText mac)

/-- The `controlMode` of a load: FIXED when the mode is one of the fixed modes. -/
def controlModeText (load : Load) : List UInt8 := if load.isFixed then ascii "FIXED" else ascii "AUTO"

/-- The mode's name; a stored byte that names no mode is written `UNKNOWN`. -/
def loadModeText : LoadMode → List UInt8
  | .FIXED_OFF => ascii "FIXED_OFF"
  | .FIXED_ON => ascii "FIXED_ON"
  | .AUTO_OFF => ascii "AUTO_OFF"
  | .AUTO_ON => ascii "AUTO_ON"
  | .undeclared _ _ => ascii "UNKNOWN"

def rejectionReasonText (reason : UInt8) : List UInt8 :=
  if reason = 0 then ascii "NONE"
  else if reason = 1 then ascii "LOW_BATTERY"
  else if reason = 2 then ascii "POWER_BUDGET_EXCEEDED"
  else if reason = 3 then ascii "BATTERY_CURRENT_LIMIT"
  else if reason = 4 then ascii "MAIN_LIMIT_EXCEEDED"
  else if reason = 5 then ascii "BRANCH_LIMIT_EXCEEDED"
  else ascii "UNKNOWN"

/-- JSON's `true` and `false`. -/
def boolText (flag : Bool) : List UInt8 := if flag then ascii "true" else ascii "false"

def powerTypeText (powerType : LoadPowerType) : List UInt8 := if powerType = .AC then ascii "AC" else ascii "DC"

section Loads

/-! A rating of zero may have either sign, and a load does not tell which. -/

variable (minusZero : Load → Bool)

/-- A zero rating is negative when its bits are those of minus zero, which the rational number does not
tell. -/
def isNegative (load : Load) : Bool := load.powerRatingWatts = 0 && minusZero load

/-- The object of one load, in the order in which the code appends its fields. -/
def appendLoadJson (load : Load) (nodeName : List UInt8) : List UInt8 :=
  [ascii "\x7b\"name\":", appendString load.name,
    ascii ",\"nodeName\":", appendString nodeName,
    ascii ",\"nodeMac\":", appendMacAddressJson load.getMacAddress,
    ascii ",\"relayPin\":", digitsOf load.getRelayPin.toNat,
    ascii ",\"controlMode\":\"", controlModeText load,
    ascii "\",\"mode\":\"", loadModeText load.mode,
    ascii "\",\"manualControlAllowed\":", boolText load.isFixed,
    ascii ",\"priority\":", digitsOf load.priority.toNat,
    ascii ",\"powerRatingWatts\":", Decimal.fixed 6 (isNegative minusZero load) load.powerRatingWatts,
    ascii ",\"powerType\":\"", powerTypeText load.powerType, ascii "\"",
    ascii ",\"schedule\":\x7b\"enabled\":", boolText load.schedule.enabled,
    ascii ",\"startHour\":", digitsOf load.schedule.startHour.toNat,
    ascii ",\"startMinute\":", digitsOf load.schedule.startMinute.toNat,
    ascii ",\"endHour\":", digitsOf load.schedule.endHour.toNat,
    ascii ",\"endMinute\":", digitsOf load.schedule.endMinute.toNat,
    ascii "\x7d,\"bestFirstRejectionReason\":\"", rejectionReasonText load.lastBestFirstRejectionReason,
    ascii "\"\x7d"].flatten

/-- The `loads` member of a node, with its loads in the order they are stored in. -/
def appendLoadsForNode (planningNode : PlanningNode) : List UInt8 :=
  [ascii "\"loads\":[",
    [0x2C].intercalate (planningNode.node.loads.map fun load => appendLoadJson minusZero load planningNode.nodeName),
    ascii "]"].flatten

end Loads

/-- The fixed texts need no escape. -/
theorem isPlain_controlModeText (load : Load) : isPlain (controlModeText load) = true := by
  unfold controlModeText
  split
  · decide
  · decide

/-- Also the name of an undeclared mode. -/
theorem isPlain_loadModeText (mode : LoadMode) : isPlain (loadModeText mode) = true := by
  cases mode with
  | undeclared => exact (by decide : isPlain (ascii "UNKNOWN") = true)
  | _ => decide

theorem isPlain_powerTypeText (powerType : LoadPowerType) : isPlain (powerTypeText powerType) = true := by
  unfold powerTypeText
  split
  · decide
  · decide

/-- Also the text of a reason that the code does not know. -/
theorem isPlain_rejectionReasonText (reason : UInt8) : isPlain (rejectionReasonText reason) = true := by
  unfold rejectionReasonText
  split_ifs
  all_goals decide

def loadDocument (minusZero : Load → Bool) (load : Load) (nodeName : List UInt8) : Document :=
  .object [
    .next "name" (.string load.name),
    .next "nodeName" (.string nodeName),
    .next "nodeMac" (.string (macText load.getMacAddress)),
    .next "relayPin" (.natural load.getRelayPin.toNat),
    .next "controlMode" (.plain (controlModeText load) (isPlain_controlModeText load)),
    .next "mode" (.plain (loadModeText load.mode) (isPlain_loadModeText load.mode)),
    .next "manualControlAllowed" (.bool load.isFixed),
    .next "priority" (.natural load.priority.toNat),
    .next "powerRatingWatts" (.fixed 6 (isNegative minusZero load) load.powerRatingWatts),
    .next "powerType" (.plain (powerTypeText load.powerType) (isPlain_powerTypeText load.powerType)),
    .next "schedule" (.object [
      .next "enabled" (.bool load.schedule.enabled),
      .next "startHour" (.natural load.schedule.startHour.toNat),
      .next "startMinute" (.natural load.schedule.startMinute.toNat),
      .next "endHour" (.natural load.schedule.endHour.toNat),
      .last "endMinute" (.natural load.schedule.endMinute.toNat)]),
    .last "bestFirstRejectionReason" (.plain (rejectionReasonText load.lastBestFirstRejectionReason)
      (isPlain_rejectionReasonText load.lastBestFirstRejectionReason))]

set_option maxRecDepth 8000 in
/-- The document of a load writes what the code appends for it. -/
theorem loadDocument_text (minusZero : Load → Bool) (load : Load) (nodeName : List UInt8) :
    (loadDocument minusZero load nodeName).text = appendLoadJson minusZero load nodeName := by
  simp only [loadDocument, Document.object_text, List.map_cons, List.map_nil, List.flatMap_cons, List.flatMap_nil,
    Member.written_next, Member.written_last, Document.natural_text, Document.plain_text, List.append_assoc, List.cons_append,
    List.nil_append, List.append_nil, appendLoadJson, List.flatten_cons, List.flatten_nil]
  rfl

/-- A hexadecimal digit is neither a quote, nor a backslash, nor a control character. -/
theorem isPlain_hexDigit {value : UInt8} (hvalue : value.toNat < 16) : isPlain [hexDigit value] = true := by
  have hdigits : ∀ digit : Fin 16, isPlain [hexDigit (UInt8.ofNat digit)] = true := by decide
  rw [← UInt8.ofNat_toNat (x := value)]
  exact hdigits ⟨value.toNat, hvalue⟩

/-- The text of a MAC address is restored by every reader, since it is plain ASCII. -/
theorem isPrintable_macText (mac : MacAddress) : isPrintable (macText mac) = true := by
  refine isPrintable_of_isPlain (isPlain_intercalate (by decide) fun text htext => ?_)
  obtain ⟨byte, -, rfl⟩ := List.mem_map.mp htext
  have hbyte := byte.toNat_lt
  have hhigh : (byte / 16).toNat < 16 := by
    rw [UInt8.toNat_div]
    show byte.toNat / 16 < 16
    omega
  have hlow : (byte % 16).toNat < 16 := by
    rw [UInt8.toNat_mod]
    exact Nat.mod_lt _ (by decide)
  exact isPlain_append (isPlain_hexDigit hhigh) (isPlain_hexDigit hlow)

/-- A load's document is restored if and only if its two names are: the other texts are fixed. -/
theorem loadDocument_restored {minusZero : Load → Bool} {load : Load} {nodeName : List UInt8} :
    (loadDocument minusZero load nodeName).Restored ↔ isPrintable load.name = true ∧ isPrintable nodeName = true := by
  have hrating := Document.restored_fixed (by decide : 0 < 6) (isNegative minusZero load) load.powerRating_nonneg
  simp [loadDocument, Member.next, Member.last, wellSeparated, isPrintable_macText, hrating]

/-- The value of the `loads` member. -/
def loadsDocument (minusZero : Load → Bool) (planningNode : PlanningNode) : Document :=
  .array (planningNode.node.loads.map fun load => loadDocument minusZero load planningNode.nodeName)

/-- The `loads` member, with its key, is what the code appends for a node. -/
theorem loadsDocument_text (minusZero : Load → Bool) (planningNode : PlanningNode) :
    0x22 :: (ascii "loads" ++ 0x22 :: 0x3A :: (loadsDocument minusZero planningNode).text) =
      appendLoadsForNode minusZero planningNode := by
  have helements : (planningNode.node.loads.map fun load => loadDocument minusZero load planningNode.nodeName).map
      Document.text = planningNode.node.loads.map fun load => appendLoadJson minusZero load planningNode.nodeName := by
    rw [List.map_map]
    exact List.map_congr_left fun load _ => loadDocument_text minusZero load planningNode.nodeName
  rw [loadsDocument, Document.array_text, helements]
  rfl

section Tree

variable (registry : CentralNodeRegistry) (commissioningRegistry : CommissioningRegistry) (minusZero : Load → Bool)
  (nowMilliseconds onlineTimeoutMilliseconds : UInt32)

/-- The `diagnostics` member, `null` when no record of the Node is there. -/
def appendDiagnosticsJson (mac : MacAddress) : List UInt8 :=
  ascii "\"diagnostics\":" ++
    match commissioningRegistry.findByMac mac with
    | none => ascii "null"
    | some record =>
      [ascii "\x7b\"firmwareVersion\":", appendString record.firmwareVersion,
        ascii ",\"chipModel\":", appendString record.chipModel,
        ascii ",\"freeHeapBytes\":", digitsOf record.diagnostics.freeHeapBytes.toNat,
        ascii ",\"minFreeHeapBytes\":", digitsOf record.diagnostics.minFreeHeapBytes.toNat,
        ascii ",\"flashSizeBytes\":", digitsOf record.diagnostics.flashSizeBytes.toNat,
        ascii ",\"psramSizeBytes\":", digitsOf record.diagnostics.psramSizeBytes.toNat,
        ascii ",\"cpuCores\":", digitsOf record.diagnostics.cpuCores.toNat,
        ascii ",\"resetReason\":", appendString record.diagnostics.resetReason,
        ascii "\x7d"].flatten

/-- The object of a Smart Node, with its children. -/
def appendNode (planningNode : PlanningNode) (children : List UInt8) : List UInt8 :=
  [ascii "\x7b\"type\":\"node\",\"nodeRole\":\"SMART\",\"name\":", appendString planningNode.nodeName,
    ascii ",\"mac\":", appendMacAddressJson planningNode.getMacAddress,
    ascii ",\"parentMac\":", appendMacAddressJson planningNode.nextHopToCentralMacAddress,
    ascii ",\"hopCountToCentral\":", digitsOf planningNode.hopCountToCentral.toNat,
    ascii ",\"online\":",
    boolText (nowMilliseconds - planningNode.lastSeenMilliseconds ≤ onlineTimeoutMilliseconds),
    ascii ",", appendDiagnosticsJson commissioningRegistry planningNode.getMacAddress,
    ascii ",", appendLoadsForNode minusZero planningNode,
    ascii ",", children, ascii "\x7d"].flatten

/-- The `children` member: the nodes whose upstream is the given MAC, with their own children below them
to the depth that remains. -/
def appendChildren : (depthRemaining : Nat) → (parentMac : MacAddress) → List UInt8
  | 0, parentMac =>
    [ascii "\"children\":[",
      [0x2C].intercalate ((TopologyTree.childrenOf registry parentMac).map fun planningNode =>
        appendNode commissioningRegistry minusZero nowMilliseconds onlineTimeoutMilliseconds planningNode
          (ascii "\"children\":[]")),
      ascii "]"].flatten
  | depthRemaining + 1, parentMac =>
    [ascii "\"children\":[",
      [0x2C].intercalate ((TopologyTree.childrenOf registry parentMac).map fun planningNode =>
        appendNode commissioningRegistry minusZero nowMilliseconds onlineTimeoutMilliseconds planningNode
          (appendChildren depthRemaining planningNode.getMacAddress)),
      ascii "]"].flatten

/-- The text of the topology tree; `central` is `null` when no Central is registered. -/
def buildTreeJson (schemaVersion : UInt32) : List UInt8 :=
  [ascii "\x7b\"schemaVersion\":", digitsOf schemaVersion.toNat, ascii ",\"central\":",
    match registry.planningNodes.find? PlanningNode.isCentralNode with
    | none => ascii "null\x7d"
    | some central =>
      [ascii "\x7b\"type\":\"node\",\"nodeRole\":\"CENTRAL\",\"name\":", appendString central.nodeName,
        ascii ",\"mac\":", appendMacAddressJson central.getMacAddress,
        ascii ",\"online\":true,", appendDiagnosticsJson commissioningRegistry central.getMacAddress,
        ascii ",", appendLoadsForNode minusZero central,
        ascii ",",
        appendChildren registry commissioningRegistry minusZero nowMilliseconds onlineTimeoutMilliseconds
          registry.planningNodes.length central.getMacAddress,
        ascii "\x7d\x7d"].flatten].flatten

/-- The text of the flat list of all loads, Central's own among them. -/
def buildLoadsJson (schemaVersion : UInt32) : List UInt8 :=
  [ascii "\x7b\"schemaVersion\":", digitsOf schemaVersion.toNat, ascii ",\"loads\":[",
    [0x2C].intercalate (registry.planningNodes.flatMap fun planningNode =>
      planningNode.node.loads.map fun load => appendLoadJson minusZero load planningNode.nodeName),
    ascii "]\x7d"].flatten

end Tree

section Documents

variable (registry : CentralNodeRegistry) (commissioningRegistry : CommissioningRegistry) (minusZero : Load → Bool)
  (nowMilliseconds onlineTimeoutMilliseconds : UInt32)

/-- The value of the `diagnostics` member. -/
def diagnosticsDocument (mac : MacAddress) : Document :=
  match commissioningRegistry.findByMac mac with
  | none => .null
  | some record => .object [
      .next "firmwareVersion" (.string record.firmwareVersion),
      .next "chipModel" (.string record.chipModel),
      .next "freeHeapBytes" (.natural record.diagnostics.freeHeapBytes.toNat),
      .next "minFreeHeapBytes" (.natural record.diagnostics.minFreeHeapBytes.toNat),
      .next "flashSizeBytes" (.natural record.diagnostics.flashSizeBytes.toNat),
      .next "psramSizeBytes" (.natural record.diagnostics.psramSizeBytes.toNat),
      .next "cpuCores" (.natural record.diagnostics.cpuCores.toNat),
      .last "resetReason" (.string record.diagnostics.resetReason)]

/-- The object of a Smart Node, whose children are given as a document. -/
def nodeDocument (planningNode : PlanningNode) (children : Document) : Document :=
  .object [
    .next "type" (.plain (ascii "node") (by decide)),
    .next "nodeRole" (.plain (ascii "SMART") (by decide)),
    .next "name" (.string planningNode.nodeName),
    .next "mac" (.string (macText planningNode.getMacAddress)),
    .next "parentMac" (.string (macText planningNode.nextHopToCentralMacAddress)),
    .next "hopCountToCentral" (.natural planningNode.hopCountToCentral.toNat),
    .next "online" (.bool (nowMilliseconds - planningNode.lastSeenMilliseconds ≤ onlineTimeoutMilliseconds)),
    .next "diagnostics" (diagnosticsDocument commissioningRegistry planningNode.getMacAddress),
    .next "loads" (loadsDocument minusZero planningNode),
    .last "children" children]

/-- The value of the `children` member, by the same recursion as the text. -/
def childrenDocument : (depthRemaining : Nat) → (parentMac : MacAddress) → Document
  | 0, parentMac => .array ((TopologyTree.childrenOf registry parentMac).map fun planningNode =>
      nodeDocument commissioningRegistry minusZero nowMilliseconds onlineTimeoutMilliseconds planningNode (.array []))
  | depthRemaining + 1, parentMac => .array ((TopologyTree.childrenOf registry parentMac).map fun planningNode =>
      nodeDocument commissioningRegistry minusZero nowMilliseconds onlineTimeoutMilliseconds planningNode
        (childrenDocument depthRemaining planningNode.getMacAddress))

/-- The object of Central, with the tree below it. -/
def centralDocument (central : PlanningNode) : Document :=
  .object [
    .next "type" (.plain (ascii "node") (by decide)),
    .next "nodeRole" (.plain (ascii "CENTRAL") (by decide)),
    .next "name" (.string central.nodeName),
    .next "mac" (.string (macText central.getMacAddress)),
    .next "online" (.bool true),
    .next "diagnostics" (diagnosticsDocument commissioningRegistry central.getMacAddress),
    .next "loads" (loadsDocument minusZero central),
    .last "children" (childrenDocument registry commissioningRegistry minusZero nowMilliseconds
      onlineTimeoutMilliseconds registry.planningNodes.length central.getMacAddress)]

/-- What `buildTreeJson` means to publish. -/
def treeDocument (schemaVersion : UInt32) : Document :=
  .object [
    .next "schemaVersion" (.natural schemaVersion.toNat),
    .last "central" (match registry.planningNodes.find? PlanningNode.isCentralNode with
      | none => .null
      | some central =>
        centralDocument registry commissioningRegistry minusZero nowMilliseconds onlineTimeoutMilliseconds central)]

/-- What `buildLoadsJson` means to publish. -/
def allLoadsDocument (schemaVersion : UInt32) : Document :=
  .object [
    .next "schemaVersion" (.natural schemaVersion.toNat),
    .last "loads" (.array (registry.planningNodes.flatMap fun planningNode =>
      planningNode.node.loads.map fun load => loadDocument minusZero load planningNode.nodeName))]

end Documents

section Texts

variable (registry : CentralNodeRegistry) (commissioningRegistry : CommissioningRegistry) (minusZero : Load → Bool)
  (nowMilliseconds onlineTimeoutMilliseconds : UInt32)

set_option maxRecDepth 8000 in
/-- The `diagnostics` member, with its key, is what the code appends. -/
theorem diagnosticsDocument_text (mac : MacAddress) :
    0x22 :: (ascii "diagnostics" ++ 0x22 :: 0x3A :: (diagnosticsDocument commissioningRegistry mac).text) =
      appendDiagnosticsJson commissioningRegistry mac := by
  unfold diagnosticsDocument appendDiagnosticsJson
  split
  · rfl
  · simp only [Document.object_text, List.map_cons, List.map_nil, List.flatMap_cons, List.flatMap_nil,
      Member.written_next, Member.written_last, Document.natural_text, List.append_assoc, List.cons_append,
      List.nil_append, List.append_nil, List.flatten_cons, List.flatten_nil]
    rfl

set_option maxRecDepth 8000 in
/-- The object of a node is the text that the code appends, when the children's document is the
children's text. -/
theorem nodeDocument_text (planningNode : PlanningNode) (children : Document) :
    (nodeDocument commissioningRegistry minusZero nowMilliseconds onlineTimeoutMilliseconds planningNode children).text =
      appendNode commissioningRegistry minusZero nowMilliseconds onlineTimeoutMilliseconds planningNode
        (0x22 :: (ascii "children" ++ 0x22 :: 0x3A :: children.text)) := by
  rw [appendNode, ← diagnosticsDocument_text, ← loadsDocument_text]
  simp only [nodeDocument, Document.object_text, List.map_cons, List.map_nil, List.flatMap_cons, List.flatMap_nil,
    Member.written_next, Member.written_last, Document.natural_text, Document.plain_text, List.append_assoc,
    List.cons_append, List.nil_append, List.append_nil, List.flatten_cons, List.flatten_nil]
  rfl

/-- By induction on the depth that remains, through `nodeDocument_text`. -/
theorem childrenDocument_text (depthRemaining : Nat) (parentMac : MacAddress) :
    0x22 :: (ascii "children" ++ 0x22 :: 0x3A :: (childrenDocument registry commissioningRegistry minusZero
        nowMilliseconds onlineTimeoutMilliseconds depthRemaining parentMac).text) =
      appendChildren registry commissioningRegistry minusZero nowMilliseconds onlineTimeoutMilliseconds depthRemaining
        parentMac := by
  induction depthRemaining generalizing parentMac with
  | zero =>
    have hnodes := List.map_congr_left (l := TopologyTree.childrenOf registry parentMac) fun planningNode _ =>
      nodeDocument_text commissioningRegistry minusZero nowMilliseconds onlineTimeoutMilliseconds planningNode (.array [])
    rw [childrenDocument, appendChildren, Document.array_text, List.map_map]
    exact congrArg (fun texts => [ascii "\"children\":[", [0x2C].intercalate texts, ascii "]"].flatten) hnodes
  | succ depthRemaining ih =>
    have hnodes := List.map_congr_left (l := TopologyTree.childrenOf registry parentMac) fun planningNode _ =>
      (nodeDocument_text commissioningRegistry minusZero nowMilliseconds onlineTimeoutMilliseconds planningNode _).trans
        (congrArg _ (ih planningNode.getMacAddress))
    rw [childrenDocument, appendChildren, Document.array_text, List.map_map]
    exact congrArg (fun texts => [ascii "\"children\":[", [0x2C].intercalate texts, ascii "]"].flatten) hnodes

set_option maxRecDepth 8000 in
/-- The tree's document is the text that Central publishes. -/
theorem treeDocument_text (schemaVersion : UInt32) :
    (treeDocument registry commissioningRegistry minusZero nowMilliseconds onlineTimeoutMilliseconds schemaVersion).text =
      buildTreeJson registry commissioningRegistry minusZero nowMilliseconds onlineTimeoutMilliseconds schemaVersion := by
  unfold treeDocument buildTreeJson
  cases registry.planningNodes.find? PlanningNode.isCentralNode with
  | none =>
    simp only [Document.object_text, List.map_cons, List.map_nil, List.flatMap_cons, List.flatMap_nil,
      Member.written_next, Member.written_last, Document.natural_text, List.append_assoc, List.cons_append,
      List.nil_append, List.append_nil, List.flatten_cons, List.flatten_nil]
    rfl
  | some central =>
    dsimp only
    rw [← diagnosticsDocument_text, ← loadsDocument_text, ← childrenDocument_text]
    simp only [centralDocument, Document.object_text, List.map_cons, List.map_nil, List.flatMap_cons, List.flatMap_nil,
      Member.written_next, Member.written_last, Document.natural_text, Document.plain_text, List.append_assoc,
      List.cons_append, List.nil_append, List.append_nil, List.flatten_cons, List.flatten_nil]
    rfl

/-- The list's document is the text that Central publishes. -/
theorem allLoadsDocument_text (schemaVersion : UInt32) :
    (allLoadsDocument registry minusZero schemaVersion).text = buildLoadsJson registry minusZero schemaVersion := by
  have hloads : (registry.planningNodes.flatMap fun planningNode =>
        planningNode.node.loads.map fun load => loadDocument minusZero load planningNode.nodeName).map Document.text =
      registry.planningNodes.flatMap fun planningNode =>
        planningNode.node.loads.map fun load => appendLoadJson minusZero load planningNode.nodeName := by
    rw [List.map_flatMap]
    refine List.flatMap_congr fun planningNode _ => ?_
    rw [List.map_map]
    exact List.map_congr_left fun load _ => loadDocument_text minusZero load planningNode.nodeName
  simp only [allLoadsDocument, Document.object_text, List.map_cons, List.map_nil, List.flatMap_cons, List.flatMap_nil,
    Member.written_next, Member.written_last, Document.natural_text, Document.array_text, hloads, List.append_assoc,
    List.cons_append, List.nil_append, List.append_nil, buildLoadsJson, List.flatten_cons, List.flatten_nil]
  rfl

end Texts

section Restored

/-! What may be in a document that is to be read back. -/

variable {registry : CentralNodeRegistry} {commissioningRegistry : CommissioningRegistry} {minusZero : Load → Bool}
  {nowMilliseconds onlineTimeoutMilliseconds : UInt32}

/-- The names of the node's loads, and its own name if it has a load at all, are printable. -/
def loadsPrintable (planningNode : PlanningNode) : Bool :=
  planningNode.node.loads.all fun load => isPrintable load.name && isPrintable planningNode.nodeName

def diagnosticsPrintable (commissioningRegistry : CommissioningRegistry) (mac : MacAddress) : Bool :=
  (commissioningRegistry.findByMac mac).all fun record =>
    isPrintable record.firmwareVersion && isPrintable record.chipModel && isPrintable record.diagnostics.resetReason

/-- Everything that the document of one node quotes is printable. -/
def nodePrintable (commissioningRegistry : CommissioningRegistry) (planningNode : PlanningNode) : Bool :=
  isPrintable planningNode.nodeName && loadsPrintable planningNode &&
    diagnosticsPrintable commissioningRegistry planningNode.getMacAddress

/-- The Nodes that the tree of the Central node shows, with the Central node. -/
def published (registry : CentralNodeRegistry) (central : PlanningNode) : List PlanningNode :=
  central :: RoseTree.reached (fun planningNode => TopologyTree.childrenOf registry planningNode.getMacAddress)
    registry.planningNodes.length central

/-- The loads of a node are restored if and only if their names are printable. -/
theorem loadsDocument_restored {planningNode : PlanningNode} :
    (loadsDocument minusZero planningNode).Restored ↔ loadsPrintable planningNode = true := by
  simp [loadsDocument, loadsPrintable, loadDocument_restored]

/-- A missing record is `null`, which is always restored. -/
theorem diagnosticsDocument_restored {mac : MacAddress} :
    (diagnosticsDocument commissioningRegistry mac).Restored ↔
      diagnosticsPrintable commissioningRegistry mac = true := by
  unfold diagnosticsDocument diagnosticsPrintable
  cases commissioningRegistry.findByMac mac with
  | none => simp
  | some record => simp [Member.next, Member.last, wellSeparated, and_assoc]

/-- A node's document is restored if and only if its own texts are printable and its children are
restored. -/
theorem nodeDocument_restored {planningNode : PlanningNode} {children : Document} :
    (nodeDocument commissioningRegistry minusZero nowMilliseconds onlineTimeoutMilliseconds planningNode
        children).Restored ↔
      nodePrintable commissioningRegistry planningNode = true ∧ children.Restored := by
  simp [nodeDocument, nodePrintable, Member.next, Member.last, wellSeparated, isPrintable_macText,
    diagnosticsDocument_restored, loadsDocument_restored]
  tauto

/-- The children are restored if and only if every node that the tree reaches below the parent is
printable. -/
theorem childrenDocument_restored {depthRemaining : Nat} {parent : PlanningNode} :
    (childrenDocument registry commissioningRegistry minusZero nowMilliseconds onlineTimeoutMilliseconds depthRemaining
        parent.getMacAddress).Restored ↔
      ∀ planningNode ∈ RoseTree.reached
        (fun planningNode => TopologyTree.childrenOf registry planningNode.getMacAddress) depthRemaining parent,
        nodePrintable commissioningRegistry planningNode = true := by
  induction depthRemaining generalizing parent with
  | zero => simp [childrenDocument, RoseTree.reached, nodeDocument_restored]
  | succ depthRemaining ih =>
    rw [childrenDocument, RoseTree.reached, Document.restored_array, List.forall_mem_map, List.forall_mem_flatMap]
    refine forall₂_congr fun planningNode _ => ?_
    rw [nodeDocument_restored, ih, List.forall_mem_cons]

/-- Central's document is restored if and only if every published node is printable. -/
theorem centralDocument_restored {central : PlanningNode} :
    (centralDocument registry commissioningRegistry minusZero nowMilliseconds onlineTimeoutMilliseconds
        central).Restored ↔
      ∀ planningNode ∈ published registry central, nodePrintable commissioningRegistry planningNode = true := by
  simp [centralDocument, published, nodePrintable, Member.next, Member.last, wellSeparated, isPrintable_macText,
    diagnosticsDocument_restored, loadsDocument_restored, childrenDocument_restored]
  tauto

/-- Without a Central, the document holds no text of the registry and is restored. -/
theorem treeDocument_restored {schemaVersion : UInt32} :
    (treeDocument registry commissioningRegistry minusZero nowMilliseconds onlineTimeoutMilliseconds
        schemaVersion).Restored ↔
      ∀ central, registry.planningNodes.find? PlanningNode.isCentralNode = some central →
        ∀ planningNode ∈ published registry central, nodePrintable commissioningRegistry planningNode = true := by
  unfold treeDocument
  cases registry.planningNodes.find? PlanningNode.isCentralNode with
  | none => simp [Member.next, Member.last, wellSeparated]
  | some central => simp [Member.next, Member.last, wellSeparated, centralDocument_restored]

/-- The flat list is restored if and only if the loads of every node are printable. -/
theorem allLoadsDocument_restored {schemaVersion : UInt32} :
    (allLoadsDocument registry minusZero schemaVersion).Restored ↔
      ∀ planningNode ∈ registry.planningNodes, loadsPrintable planningNode = true := by
  have hloads : (Document.array (registry.planningNodes.flatMap fun planningNode =>
        planningNode.node.loads.map fun load => loadDocument minusZero load planningNode.nodeName)).Restored ↔
      ∀ planningNode ∈ registry.planningNodes, loadsPrintable planningNode = true := by
    rw [Document.restored_array, List.forall_mem_flatMap]
    refine forall₂_congr fun planningNode _ => ?_
    rw [← @loadsDocument_restored minusZero, loadsDocument, Document.restored_array]
  rw [← hloads, allLoadsDocument, Document.restored_object]
  simp [Member.next, Member.last, wellSeparated, -Document.restored_array]

end Restored

end kilowatts.TopologyText
