import Kilowatts.MqttManager.CommandDocuments

namespace kilowatts

open Json (ascii escaped isPrintable Document Member)
open Json.Document (string null natural object)
open Decimal (digitsOf)
open TopologyText (macText)

/-- The states of the connection to the broker. -/
inductive MqttConnectionState where
  | DISCONNECTED
  | CONNECTING
  | CONNECTED
deriving DecidableEq

/-- What `esp_mqtt_client_publish` is called with. -/
structure Publication where
  topic : List UInt8
  payload : List UInt8
  qos : Nat
  retain : Bool
deriving DecidableEq

/-- The fields of `MqttManager` that decide what is published. -/
structure MqttManager where
  topicNamespace : List UInt8
  schemaVersion : UInt32
  stateSystemJson : List UInt8
  stateLoadsJson : List UInt8
  stateNodesJson : List UInt8
  state : MqttConnectionState
deriving DecidableEq

/-- The topics that Central publishes its state to. None of them is a topic of the broker. -/
inductive StatePart where
  | SYSTEM
  | TREE
  | LOADS
  | NODES
  | CONFIG_NODES
deriving DecidableEq

/-- The handlers that Central may register. -/
inductive CommandHandler where
  | loadCommandHandler
  | systemCommandHandler
  | configCommandHandler
  | simulationCommandHandler
  | powerPlanningCommandHandler
deriving DecidableEq

/-- The handler that a command is given to. -/
def Command.handler : Command → CommandHandler
  | .load _ _ => .loadCommandHandler
  | .configureLoad _ | .removeLoad _ | .commissioning _ | .decommissionNode _ _ => .configCommandHandler
  | .powerPlanning _ _ => .powerPlanningCommandHandler
  | .simulation _ _ => .simulationCommandHandler
  | .system _ => .systemCommandHandler

namespace CommandAcknowledgement

/-- The text of a status. -/
def ackText : AckStatus → String
  | .ACCEPTED => "ACCEPTED"
  | .APPLIED => "APPLIED"
  | .REJECTED => "REJECTED"
  | .FAILED => "FAILED"

end CommandAcknowledgement

/-- The status that answers a handler's result. -/
def CommandResult.resultStatus (result : CommandResult) : AckStatus :=
  if !result.accepted then .REJECTED else if result.completed then .APPLIED else .ACCEPTED

namespace MqttManager

/-- A manager whose `begin` has started the client. -/
def started (topicNamespace : List UInt8) (schemaVersion : UInt32) : MqttManager :=
  ⟨topicNamespace, schemaVersion, [], [], [], .CONNECTING⟩

/-- The text of an absent value is empty, and written alike. -/
def appendJsonString (value : List UInt8) : List UInt8 :=
  if value = [] then ascii "null" else 0x22 :: (escaped value ++ [0x22])

section Publications

variable (manager : MqttManager)

/-- The topic below the namespace. -/
def fullTopic (suffix : String) : List UInt8 := manager.topicNamespace ++ 0x2F :: ascii suffix

/-- Nothing is published without a connection. -/
def publishRaw (suffix : String) (payload : List UInt8) (qos : Nat) (retain : Bool) : List Publication :=
  if manager.state ≠ .CONNECTED then [] else [⟨manager.fullTopic suffix, payload, qos, retain⟩]

/-- The three parts that were handed over last, `null` for one that never was. -/
def combinedState : List UInt8 :=
  [ascii "\x7b\"system\":", if manager.stateSystemJson = [] then ascii "null" else manager.stateSystemJson,
    ascii ",\"loads\":", if manager.stateLoadsJson = [] then ascii "null" else manager.stateLoadsJson,
    ascii ",\"nodes\":", if manager.stateNodesJson = [] then ascii "null" else manager.stateNodesJson,
    ascii "\x7d"].flatten

/-- The parts are collected, and the nodes' part publishes all of them. -/
def publish (part : StatePart) (payload : List UInt8) : MqttManager × List Publication :=
  match part with
  | .SYSTEM => ({ manager with stateSystemJson := payload }, [])
  | .LOADS => ({ manager with stateLoadsJson := payload }, [])
  | .NODES =>
    let manager := { manager with stateNodesJson := payload }
    (manager, manager.publishRaw "state" manager.combinedState 0 true)
  | .TREE | .CONFIG_NODES => (manager, [])

/-- The message that says that Central is there. -/
def publishStatus : List Publication := manager.publishRaw "status" (ascii "online") 1 true

/-- The text of an acknowledgement, member by member. -/
def acknowledgementText (acknowledgement : CommandAcknowledgement) : List UInt8 :=
  [ascii "\x7b\"schemaVersion\":", digitsOf manager.schemaVersion.toNat,
    ascii ",\"commandId\":", digitsOf acknowledgement.commandId.toNat,
    ascii ",\"commandType\":", appendJsonString (ascii acknowledgement.commandType),
    ascii ",\"status\":\"", ascii (CommandAcknowledgement.ackText acknowledgement.status),
    ascii "\",\"reason\":", appendJsonString (ascii acknowledgement.reason),
    ascii ",\"target\":", appendJsonString (acknowledgement.target.elim [] macText),
    ascii "\x7d"].flatten

/-- An acknowledgement is not retained. -/
def publishAcknowledgement (acknowledgement : CommandAcknowledgement) : List Publication :=
  manager.publishRaw "ack" (manager.acknowledgementText acknowledgement) 1 false

/-- The text of an alert, member by member. -/
def alertText (alertType severity detail : List UInt8) : List UInt8 :=
  [ascii "\x7b\"schemaVersion\":", digitsOf manager.schemaVersion.toNat, ascii ",\"alertType\":",
    appendJsonString alertType, ascii ",\"severity\":", appendJsonString severity, ascii ",\"detail\":",
    appendJsonString detail, ascii "\x7d"].flatten

/-- An alert is not retained. -/
def publishAlert (alertType severity detail : List UInt8) : List Publication :=
  manager.publishRaw "alert" (manager.alertText alertType severity detail) 1 false

/-- The connection is there, and the status is published on it. -/
def onConnected : MqttManager × List Publication :=
  let manager := { manager with state := .CONNECTED }
  (manager, manager.publishStatus)

/-- The connection is lost. -/
def onDisconnected : MqttManager := { manager with state := .DISCONNECTED }

end Publications

end MqttManager

/-- A message that arrives, and what decides how it is answered: whether there is memory to parse
it a second time, and what the handler of Central returns if it is called. -/
structure Incoming where
  topic : List UInt8
  data : List UInt8
  parsedAgain : Bool
  result : CommandResult

/-- `parse` is `cJSON_ParseWithLength`. -/
structure CommandSetup where
  parse : List UInt8 → Option CJson
  handlers : CommandHandler → Bool

namespace CommandSetup

variable (setup : CommandSetup)

/-- The handlers of messages that `onDataReceived` knows. -/
def messageType (root : CJson) : Option String :=
  ["node", "load", "battery", "sensor", "system"].find? fun commandType =>
    MqttManager.valueString (root.getObjectItemCaseSensitive "type") = some (ascii commandType)

/-- The call of a handler, if there is one, and the acknowledgement of a message on the topic of
commands. -/
def answer (incoming : Incoming) : Option (Command × CommandResult) × CommandAcknowledgement :=
  match setup.parse incoming.data with
  | none => (none, MqttManager.rejected "command" 0 "malformed JSON" none)
  | some root =>
    match messageType root, incoming.parsedAgain with
    | some commandType, false => (none, MqttManager.rejected commandType 0 "malformed JSON" none)
    | _, _ =>
      match MqttManager.readCommand root with
      | .error rejection => (none, rejection)
      | .ok command =>
        if !setup.handlers command.handler then
          (none, MqttManager.rejected command.commandType command.commandId "no handler" command.target)
        else
          (some (command, incoming.result), ⟨command.commandId, command.commandType, incoming.result.resultStatus,
            incoming.result.reason, command.target⟩)

end CommandSetup

/-- What happens to the client: events of the connection, and calls from the tasks of Central. -/
inductive MqttEvent where
  | connected
  | disconnected
  | data (incoming : Incoming)
  | acknowledge (acknowledgement : CommandAcknowledgement)
  | alert (alertType severity detail : List UInt8)
  | publish (part : StatePart) (payload : List UInt8)

/-- The manager, the calls of handlers and the publications so far. -/
structure MqttSession where
  manager : MqttManager
  calls : List (Command × CommandResult)
  publications : List Publication

namespace MqttSession

/-- The session of a manager that has been started. -/
def started (topicNamespace : List UInt8) (schemaVersion : UInt32) : MqttSession :=
  ⟨.started topicNamespace schemaVersion, [], []⟩

/-- `onDataReceived`. -/
def onDataReceived (setup : CommandSetup) (incoming : Incoming) (session : MqttSession) : MqttSession :=
  if incoming.topic ≠ session.manager.fullTopic "command" then session
  else
    let (call, acknowledgement) := setup.answer incoming
    { session with
      calls := session.calls ++ call.toList
      publications := session.publications ++ session.manager.publishAcknowledgement acknowledgement }

/-- The later parts of a long message come without a topic. -/
def next (setup : CommandSetup) (session : MqttSession) : MqttEvent → MqttSession
  | .connected =>
    { session with
      manager := session.manager.onConnected.1
      publications := session.publications ++ session.manager.onConnected.2 }
  | .disconnected => { session with manager := session.manager.onDisconnected }
  | .data incoming =>
    if 0 < incoming.topic.length ∧ 0 < incoming.data.length then session.onDataReceived setup incoming else session
  | .acknowledge acknowledgement =>
    { session with
      publications := session.publications ++ session.manager.publishAcknowledgement acknowledgement }
  | .alert alertType severity detail =>
    { session with publications := session.publications ++ session.manager.publishAlert alertType severity detail }
  | .publish part payload =>
    { session with
      manager := (session.manager.publish part payload).1
      publications := session.publications ++ (session.manager.publish part payload).2 }

/-- The session after these events. -/
def run (setup : CommandSetup) (session : MqttSession) (events : List MqttEvent) : MqttSession :=
  events.foldl (next setup) session

end MqttSession

namespace CommandAcknowledgement

/-- A text that `appendJsonString` writes, as it is read. -/
def jsonText (value : List UInt8) : Json := if value = [] then .null else .string value

/-- The document of a text that may be absent. -/
def textDocument (value : List UInt8) : Document := if value = [] then null else string value

/-- What a reader of the topic finds. -/
def json (schemaVersion : UInt32) (acknowledgement : CommandAcknowledgement) : Json :=
  .object [(ascii "schemaVersion", .number schemaVersion.toNat),
    (ascii "commandId", .number acknowledgement.commandId.toNat),
    (ascii "commandType", jsonText (ascii acknowledgement.commandType)),
    (ascii "status", .string (ascii (ackText acknowledgement.status))),
    (ascii "reason", jsonText (ascii acknowledgement.reason)),
    (ascii "target", jsonText (acknowledgement.target.elim [] macText))]

/-- A status needs no escape. -/
theorem isPlain_ackText (status : AckStatus) : Json.isPlain (ascii (ackText status)) = true := by
  cases status
  all_goals decide

theorem isPlain_schemaVersion : Json.isPlain (ascii "schemaVersion") = true := by
  decide

/-- The document of an acknowledgement, member by member. -/
def document (schemaVersion : UInt32) (acknowledgement : CommandAcknowledgement) : Document :=
  object [
    .next "schemaVersion" (natural schemaVersion.toNat) isPlain_schemaVersion,
    .next "commandId" (natural acknowledgement.commandId.toNat),
    .next "commandType" (textDocument (ascii acknowledgement.commandType)),
    .next "status" (.plain (ascii (ackText acknowledgement.status)) (isPlain_ackText acknowledgement.status)),
    .next "reason" (textDocument (ascii acknowledgement.reason)),
    .last "target" (textDocument (acknowledgement.target.elim [] macText))]

/-- The type and the reason of an acknowledgement are printable. -/
def isReadable (acknowledgement : CommandAcknowledgement) : Bool :=
  isPrintable (ascii acknowledgement.commandType) && isPrintable (ascii acknowledgement.reason)

/-- The document writes what `appendJsonString` writes. -/
theorem textDocument_text (value : List UInt8) : (textDocument value).text = MqttManager.appendJsonString value := by
  unfold textDocument MqttManager.appendJsonString
  split
  · rfl
  · rfl

/-- The text is read back. Needs that it is printable. -/
theorem textDocument_result {value : List UInt8} (hprintable : isPrintable value = true) :
    (textDocument value).result = some (jsonText value) := by
  unfold textDocument jsonText
  split
  · rfl
  · exact if_pos hprintable

set_option maxRecDepth 8000 in
/-- The document writes what the code publishes. -/
theorem document_text (manager : MqttManager) (acknowledgement : CommandAcknowledgement) :
    (document manager.schemaVersion acknowledgement).text = manager.acknowledgementText acknowledgement := by
  simp only [document, Document.object_text, List.map_cons, List.map_nil, List.flatMap_cons, List.flatMap_nil,
    Member.written_next, Member.written_last, Document.natural_text, Document.plain_text, textDocument_text,
    List.append_assoc, List.cons_append, List.nil_append, List.append_nil, MqttManager.acknowledgementText,
    List.flatten_cons, List.flatten_nil]
  rfl

/-- The text of a target is printable, also of one that is absent. -/
theorem isPrintable_target (target : Option MacAddress) : isPrintable (target.elim [] macText) = true := by
  cases target with
  | none => rfl
  | some mac => exact TopologyText.isPrintable_macText mac

/-- A reader finds the acknowledgement in what is published. Needs that it is readable. -/
theorem parse_acknowledgementText {acknowledgement : CommandAcknowledgement} (hreadable : acknowledgement.isReadable = true)
    (manager : MqttManager) :
    Json.parse (manager.acknowledgementText acknowledgement) = some (acknowledgement.json manager.schemaVersion) := by
  obtain ⟨htype, hreason⟩ := Bool.and_eq_true_iff.mp hreadable
  rw [← document_text, Document.parse_text]
  have htarget := isPrintable_target acknowledgement.target
  simp [document, object, Json.collected, Json.wellSeparated, Member.next, Member.last, Member.piece, Member.result,
    textDocument_result htype, textDocument_result hreason, textDocument_result htarget, json, natural, Document.numeral,
    Json.numeralValue, Json.signed, Document.plain]

end CommandAcknowledgement

namespace MqttManager

section Rejections

/-- Whatever is refused, a reader of the topic can read why. -/
def Readable {α : Type} (read : Except CommandAcknowledgement α) : Prop :=
  ∀ rejection, read = .error rejection → rejection.isReadable = true

variable {α β : Type}

/-- A value is no rejection. -/
theorem readable_ok (value : α) : Readable (.ok value) := nofun

/-- A readable rejection. -/
theorem readable_error {rejection : CommandAcknowledgement} (hreadable : rejection.isReadable = true) :
    Readable (.error rejection : Except CommandAcknowledgement α) := by
  rintro _ ⟨⟩
  exact hreadable

/-- Both parts of a computation reject readably. -/
theorem readable_bind {first : Except CommandAcknowledgement α} {next : α → Except CommandAcknowledgement β}
    (hfirst : Readable first) (hnext : ∀ value, Readable (next value)) : Readable (first >>= next) := by
  cases first with
  | error rejection => exact readable_error (hfirst rejection rfl)
  | ok value => exact hnext value

/-- Both branches reject readably. -/
theorem readable_ite {condition : Prop} [Decidable condition] {yes no : Except CommandAcknowledgement α}
    (hyes : Readable yes) (hno : Readable no) : Readable (if condition then yes else no) := by
  by_cases hcondition : condition
  · rwa [if_pos hcondition]
  · rwa [if_neg hcondition]

/-- A required value is rejected readably. -/
theorem readable_require {rejection : CommandAcknowledgement} (hreadable : rejection.isReadable = true)
    (value : Option α) : Readable (require value rejection) := by
  cases value with
  | none => exact readable_error hreadable
  | some value => exact readable_ok value

/-- An optional member is rejected readably. -/
theorem readable_optional {rejection : CommandAcknowledgement} (hreadable : rejection.isReadable = true)
    (item : Option CJson) (read : Option CJson → Option α) : Readable (optional item read rejection) := by
  cases item with
  | none => exact readable_ok none
  | some item =>
    rw [optional]
    cases read (some item) with
    | none => exact readable_error hreadable
    | some value => exact readable_ok _

theorem isReadable_rejected {commandType reason : String} (hplain : isPrintable (ascii commandType) = true ∧
    isPrintable (ascii reason) = true) (commandId : UInt32) (target : Option MacAddress) :
    (rejected commandType commandId reason target).isReadable = true := Bool.and_eq_true_iff.mpr hplain

theorem readable_readCommissioning (root : CJson) (commandId : UInt32) (action : CommissioningRetries.CommissioningAction)
    (nodeMacAddress : MacAddress) : Readable (readCommissioning root commandId action nodeMacAddress) :=
  readable_bind (readable_require (isReadable_rejected (by decide) _ _) _) fun _ => readable_ok _

theorem readable_readNodeCommand (root : CJson) : Readable (readNodeCommand root) := by
  have hmissing : (rejected "node" 0 "commandId, action and mac required" none).isReadable = true := by decide
  refine readable_bind (readable_require hmissing _) fun commandId => ?_
  refine readable_bind (readable_require hmissing _) fun action => ?_
  refine readable_bind (readable_require hmissing _) fun nodeMacAddress => ?_
  refine readable_ite (readable_readCommissioning _ _ _ _) (readable_ite (readable_readCommissioning _ _ _ _) ?_)
  exact readable_ite (readable_ok _) (readable_error (isReadable_rejected (by decide) _ _))

theorem readable_unless {condition : Prop} [Decidable condition] {rejection : CommandAcknowledgement}
    (hreadable : rejection.isReadable = true) {next : Except CommandAcknowledgement α} (hnext : Readable next) :
    Readable (if condition then (throw rejection >>= fun _ : PUnit => next) else next) :=
  readable_ite (readable_bind (readable_error hreadable) fun _ => hnext) hnext

theorem readable_readLoadUpdate (root : CJson) (commandId : UInt32) (nodeMacAddress : MacAddress) (relayPin : UInt8) :
    Readable (readLoadUpdate root commandId nodeMacAddress relayPin) := by
  refine readable_bind (readable_optional (isReadable_rejected (by decide) _ _) _ _) fun priority => ?_
  refine readable_bind (readable_optional (isReadable_rejected (by decide) _ _) _ _) fun mode => ?_
  refine readable_bind (readable_optional (isReadable_rejected (by decide) _ _) _ _) fun schedule => ?_
  exact readable_unless (isReadable_rejected (by decide) _ _) (readable_ok _)

theorem readable_readLoadConfiguration (root : CJson) (commandId : UInt32) (nodeMacAddress : MacAddress)
    (relayPin : UInt8) : Readable (readLoadConfiguration root commandId nodeMacAddress relayPin) := by
  have hinvalid : (rejected "load" commandId "invalid load settings" (some nodeMacAddress)).isReadable = true :=
    isReadable_rejected (by decide) _ _
  refine readable_bind (readable_require hinvalid _) fun loadName => ?_
  refine readable_bind (readable_require hinvalid _) fun powerRatingWatts => ?_
  refine readable_bind (readable_require hinvalid _) fun priority => ?_
  refine readable_bind (readable_require hinvalid _) fun mode => ?_
  refine readable_bind (readable_require hinvalid _) fun powerType => ?_
  refine readable_bind (readable_require hinvalid _) fun relayActiveHigh => ?_
  exact readable_bind (readable_require hinvalid _) fun schedule => readable_ok _

theorem readable_readLoadCommand (root : CJson) : Readable (readLoadCommand root) := by
  have hmissing : (rejected "load" 0 "commandId, action, nodeMac and relayPin required" none).isReadable = true := by
    decide
  refine readable_bind (readable_require hmissing _) fun commandId => ?_
  refine readable_bind (readable_require hmissing _) fun action => ?_
  refine readable_bind (readable_require hmissing _) fun nodeMacAddress => ?_
  refine readable_bind (readable_require hmissing _) fun relayPin => ?_
  refine readable_ite (readable_readLoadUpdate _ _ _ _) (readable_ite (readable_ok _) ?_)
  exact readable_ite (readable_readLoadConfiguration _ _ _ _) (readable_error (isReadable_rejected (by decide) _ _))

theorem readable_readBatteryCommand (root : CJson) : Readable (readBatteryCommand root) := by
  have hmissing : (rejected "battery" ((readU32 (root.getObjectItemCaseSensitive "commandId")).getD 0)
      "use action=set with budget, reserve and minSoc" none).isReadable = true := isReadable_rejected (by decide) _ _
  refine readable_bind (readable_require hmissing _) fun commandId => ?_
  refine readable_bind (readable_require hmissing _) fun action => ?_
  refine readable_unless hmissing ?_
  refine readable_bind (readable_require hmissing _) fun P_budget => ?_
  refine readable_bind (readable_require hmissing _) fun P_reserve => ?_
  refine readable_bind (readable_require hmissing _) fun percent => ?_
  refine readable_bind (readable_optional (isReadable_rejected (by decide) _ _) _ _) fun runtime => ?_
  exact readable_unless (isReadable_rejected (by decide) _ _) (readable_ok _)

theorem readable_readSensorValues (root : CJson) (commandId : UInt32) : Readable (readSensorValues root commandId) := by
  have hinvalid : (rejected "sensor" commandId "invalid sensor values" none).isReadable = true :=
    isReadable_rejected (by decide) _ _
  refine readable_unless hinvalid ?_
  refine readable_bind (readable_optional hinvalid _ _) fun volts => ?_
  refine readable_bind (readable_optional hinvalid _ _) fun amps => ?_
  refine readable_bind (readable_optional hinvalid _ _) fun percent => ?_
  exact readable_unless (isReadable_rejected (by decide) _ _) (readable_ok _)

theorem readable_readSensorCommand (root : CJson) : Readable (readSensorCommand root) := by
  have hmissing : (rejected "sensor" 0 "invalid commandId/action" none).isReadable = true := by decide
  refine readable_bind (readable_require hmissing _) fun commandId => ?_
  refine readable_bind (readable_require hmissing _) fun action => ?_
  refine readable_ite (readable_ok _) (readable_ite (readable_ok _) ?_)
  exact readable_ite (readable_readSensorValues _ _) (readable_error (isReadable_rejected (by decide) _ _))

theorem readable_readSystemCommand (root : CJson) : Readable (readSystemCommand root) := by
  have hmissing : (rejected "system" 0 "invalid commandId/action" none).isReadable = true := by decide
  refine readable_bind (readable_require hmissing _) fun commandId => ?_
  refine readable_bind (readable_require hmissing _) fun action => ?_
  refine readable_ite (readable_ok _) (readable_ite (readable_ok _) (readable_ite ?_ ?_))
  · exact readable_bind (readable_require (isReadable_rejected (by decide) _ _) _) fun seconds => readable_ok _
  · exact readable_error (isReadable_rejected (by decide) _ _)

/-- Every rejection of the reader can be read, whatever the document is. -/
theorem readable_readCommand (root : CJson) : Readable (readCommand root) := by
  refine readable_ite (readable_readNodeCommand root) (readable_ite (readable_readLoadCommand root) ?_)
  refine readable_ite (readable_readBatteryCommand root) (readable_ite (readable_readSensorCommand root) ?_)
  exact readable_ite (readable_readSystemCommand root) (readable_error (by decide))

end Rejections

end MqttManager

namespace CommandSetup

variable {setup : CommandSetup} {incoming : Incoming}

/-- Every answer can be read. Needs that the handler's reason can. -/
theorem isReadable_answer (hreason : isPrintable (ascii incoming.result.reason) = true) :
    (setup.answer incoming).2.isReadable = true := by
  have hprintable : ∀ commandType ∈ ["node", "load", "battery", "sensor", "system"],
      isPrintable (ascii commandType) = true := by decide
  have hknown : ∀ command : Command, command.commandType ∈ ["node", "load", "battery", "sensor", "system"] := by
    intro command
    cases command <;> simp [Command.commandType]
  unfold answer
  split
  · decide
  · next root _ =>
    split
    · next commandType hmessage _ =>
      have hmember := List.mem_of_find?_eq_some hmessage
      exact MqttManager.isReadable_rejected ⟨hprintable commandType hmember, by decide⟩ _ _
    · split
      · next rejection hread => exact MqttManager.readable_readCommand root rejection hread
      · next command _ =>
        have htype := hprintable _ (hknown command)
        split
        · exact MqttManager.isReadable_rejected ⟨htype, by decide⟩ _ _
        · exact Bool.and_eq_true_iff.mpr ⟨htype, hreason⟩

end CommandSetup

section Runs

/-- What an event has Central acknowledge, and the call that it makes for that. -/
def MqttEvent.exchange (setup : CommandSetup) (topicNamespace : List UInt8) :
    MqttEvent → Option (Option (Command × CommandResult) × CommandAcknowledgement)
  | .data incoming =>
    if incoming.topic = topicNamespace ++ 0x2F :: ascii "command" ∧ incoming.data ≠ [] then
      some (setup.answer incoming)
    else none
  | .acknowledge acknowledgement => some (none, acknowledgement)
  | _ => none

/-- Whether there is a connection after an event. -/
def MqttEvent.connects (isConnected : Bool) : MqttEvent → Bool
  | .connected => true
  | .disconnected => false
  | _ => isConnected

/-- The acknowledgements of these events, except at times without a connection. -/
def acknowledged (setup : CommandSetup) (topicNamespace : List UInt8) :
    Bool → List MqttEvent → List CommandAcknowledgement
  | _, [] => []
  | isConnected, event :: events =>
    (if isConnected then ((event.exchange setup topicNamespace).map Prod.snd).toList else []) ++
      acknowledged setup topicNamespace (event.connects isConnected) events

/-- The calls of these events, connected or not. -/
def called (setup : CommandSetup) (topicNamespace : List UInt8) (events : List MqttEvent) :
    List (Command × CommandResult) :=
  events.filterMap fun event => (event.exchange setup topicNamespace).bind Prod.fst

/-- Every text that Central itself puts into an acknowledgement can be read. -/
def MqttEvent.isReadable : MqttEvent → Bool
  | .data incoming => isPrintable (ascii incoming.result.reason)
  | .acknowledge acknowledgement => acknowledgement.isReadable
  | _ => true

namespace MqttSession

variable {setup : CommandSetup} {session : MqttSession} {event : MqttEvent}

/-- The session has a connection. -/
def isConnected (session : MqttSession) : Bool := session.manager.state = .CONNECTED

/-- What a reader finds on the topic of acknowledgements. -/
def found (session : MqttSession) : List (Option Json) :=
  (session.publications.filter fun publication => publication.topic = session.manager.fullTopic "ack").map
    fun publication => Json.parse publication.payload

/-- Publications on other topics are no acknowledgements. -/
theorem filter_publishRaw (manager : MqttManager) {suffix : String} (hsuffix : ascii suffix ≠ ascii "ack")
    (payload : List UInt8) (qos : Nat) (retain : Bool) :
    (manager.publishRaw suffix payload qos retain).filter (fun publication => publication.topic = manager.fullTopic "ack") =
      [] := by
  have hother : manager.fullTopic suffix ≠ manager.fullTopic "ack" := by
    intro hsame
    exact hsuffix (List.cons.inj (List.append_cancel_left hsame)).2
  unfold MqttManager.publishRaw
  split
  · rfl
  · simp [hother]

/-- More publications add the acknowledgements among them. Needs that the namespace stays. -/
theorem found_append (manager : MqttManager) (calls : List (Command × CommandResult)) (others : List Publication)
    (hnamespace : manager.topicNamespace = session.manager.topicNamespace) :
    found ⟨manager, calls, session.publications ++ others⟩ =
      session.found ++ (others.filter fun publication => publication.topic = manager.fullTopic "ack").map
        fun publication => Json.parse publication.payload := by
  have htopic : manager.fullTopic "ack" = session.manager.fullTopic "ack" := by
    rw [MqttManager.fullTopic, hnamespace, MqttManager.fullTopic]
  rw [found, found, List.filter_append, List.map_append, htopic]

/-- An acknowledgement is found if and only if the session is connected. Needs that it is readable. -/
theorem found_publishAcknowledgement {manager : MqttManager} {acknowledgement : CommandAcknowledgement}
    (hreadable : acknowledgement.isReadable = true) :
    ((manager.publishAcknowledgement acknowledgement).filter fun publication =>
        publication.topic = manager.fullTopic "ack").map (fun publication => Json.parse publication.payload) =
      (if manager.state = .CONNECTED then [acknowledgement] else []).map fun acknowledgement =>
        some (acknowledgement.json manager.schemaVersion) := by
  unfold MqttManager.publishAcknowledgement MqttManager.publishRaw
  by_cases hconnected : manager.state = .CONNECTED
  · rw [if_neg (not_not.mpr hconnected), if_pos hconnected]
    simp [CommandAcknowledgement.parse_acknowledgementText hreadable]
  · rw [if_pos hconnected, if_neg hconnected]
    rfl

theorem next_manager (setup : CommandSetup) (session : MqttSession) (event : MqttEvent) :
    (session.next setup event).manager.topicNamespace = session.manager.topicNamespace ∧
      (session.next setup event).manager.schemaVersion = session.manager.schemaVersion ∧
      (session.next setup event).isConnected = event.connects session.isConnected := by
  cases event with
  | connected => exact ⟨rfl, rfl, rfl⟩
  | disconnected => exact ⟨rfl, rfl, rfl⟩
  | data incoming =>
    rw [next, onDataReceived]
    split_ifs <;> exact ⟨rfl, rfl, rfl⟩
  | acknowledge => exact ⟨rfl, rfl, rfl⟩
  | alert => exact ⟨rfl, rfl, rfl⟩
  | publish part =>
    cases part
    all_goals exact ⟨rfl, rfl, rfl⟩

/-- A message is answered if it stands on the topic of commands. -/
theorem next_data (setup : CommandSetup) (session : MqttSession) (incoming : Incoming) :
    session.next setup (.data incoming) =
      if incoming.topic = session.manager.topicNamespace ++ 0x2F :: ascii "command" ∧ incoming.data ≠ [] then
        { session with
          calls := session.calls ++ (setup.answer incoming).1.toList
          publications := session.publications ++ session.manager.publishAcknowledgement (setup.answer incoming).2 }
      else session := by
  rw [next, onDataReceived, MqttManager.fullTopic]
  by_cases htopic : incoming.topic = session.manager.topicNamespace ++ 0x2F :: ascii "command"
  · have hlength : 0 < incoming.topic.length := by
      rw [htopic, List.length_append, List.length_cons]
      omega
    rw [if_neg (not_not.mpr htopic)]
    by_cases hdata : incoming.data = []
    · rw [if_neg (by simp [hdata]), if_neg (fun hboth => hboth.2 hdata)]
    · rw [if_pos ⟨hlength, List.length_pos_iff.mpr hdata⟩, if_pos ⟨htopic, hdata⟩]
  · rw [if_pos htopic, ite_self, if_neg (fun hboth => htopic hboth.1)]

/-- What one event adds to what is found on the topic. -/
theorem next_found (setup : CommandSetup) (session : MqttSession) (hreadable : event.isReadable = true) :
    (session.next setup event).found =
      session.found ++ (if session.isConnected then
        ((event.exchange setup session.manager.topicNamespace).map Prod.snd).toList else []).map fun acknowledgement =>
          some (acknowledgement.json session.manager.schemaVersion) := by
  have hsilent : event.exchange setup session.manager.topicNamespace = none →
      (if session.isConnected then ((event.exchange setup session.manager.topicNamespace).map Prod.snd).toList else []) =
        [] := by
    intro hnone
    rw [hnone]
    exact ite_self _
  cases event with
  | connected =>
    refine (found_append session.manager.onConnected.1 _ _ rfl).trans ?_
    rw [hsilent rfl, MqttManager.onConnected, MqttManager.publishStatus, filter_publishRaw _ (by decide),
      List.map_nil, List.map_nil]
  | disconnected =>
    rw [hsilent rfl]
    exact (List.append_nil _).symm
  | data incoming =>
    rw [next_data, MqttEvent.exchange]
    split_ifs with hcommand hconnected hconnected
    · refine (found_append session.manager _ _ rfl).trans ?_
      rw [found_publishAcknowledgement (CommandSetup.isReadable_answer hreadable), if_pos (of_decide_eq_true hconnected)]
      rfl
    · refine (found_append session.manager _ _ rfl).trans ?_
      rw [found_publishAcknowledgement (CommandSetup.isReadable_answer hreadable),
        if_neg (fun hstate => hconnected (decide_eq_true hstate))]
    · exact (List.append_nil _).symm
    · exact (List.append_nil _).symm
  | acknowledge acknowledgement =>
    refine (found_append session.manager _ _ rfl).trans ?_
    rw [found_publishAcknowledgement hreadable, MqttEvent.exchange, Option.map_some, Option.toList_some, isConnected]
    simp only [decide_eq_true_eq]
  | alert =>
    refine (found_append session.manager _ _ rfl).trans ?_
    rw [hsilent rfl, MqttManager.publishAlert, filter_publishRaw _ (by decide), List.map_nil, List.map_nil]
  | publish part payload =>
    have hother : ((session.manager.publish part payload).2.filter fun publication =>
        publication.topic = (session.manager.publish part payload).1.fullTopic "ack") = [] := by
      cases part with
      | NODES => exact filter_publishRaw _ (by decide) _ _ _
      | _ => rfl
    refine (found_append (session.manager.publish part payload).1 _ _ (by cases part <;> rfl)).trans ?_
    rw [hother, hsilent rfl, List.map_nil, List.map_nil]

/-- A step calls at most one handler, that of the exchange. -/
theorem next_calls (setup : CommandSetup) (session : MqttSession) (event : MqttEvent) :
    (session.next setup event).calls =
      session.calls ++ ((event.exchange setup session.manager.topicNamespace).bind Prod.fst).toList := by
  cases event with
  | data incoming =>
    rw [next_data, MqttEvent.exchange]
    split_ifs
    · rfl
    · exact (List.append_nil _).symm
  | _ => exact (List.append_nil _).symm

/-- What a reader finds after a run is what each event adds. Needs readable events. -/
theorem run_found (setup : CommandSetup) {events : List MqttEvent} (hreadable : ∀ event ∈ events, event.isReadable = true)
    (session : MqttSession) :
    (session.run setup events).found =
        session.found ++ (acknowledged setup session.manager.topicNamespace session.isConnected events).map
          (fun acknowledgement => some (acknowledgement.json session.manager.schemaVersion)) ∧
      (session.run setup events).calls = session.calls ++ called setup session.manager.topicNamespace events := by
  induction events generalizing session with
  | nil => exact ⟨(List.append_nil _).symm, (List.append_nil _).symm⟩
  | cons event events ih =>
    obtain ⟨hfirst, hrest⟩ := List.forall_mem_cons.mp hreadable
    obtain ⟨hfound, hcalls⟩ := ih hrest (session.next setup event)
    obtain ⟨hnamespace, hversion, hconnected⟩ := next_manager setup session event
    rw [hnamespace, hversion, hconnected, next_found setup session hfirst] at hfound
    rw [hnamespace, next_calls] at hcalls
    constructor
    · rw [acknowledged, List.map_append, ← List.append_assoc]
      exact hfound
    · refine hcalls.trans ?_
      rw [List.append_assoc, called, called, List.filterMap_cons]
      cases (event.exchange setup session.manager.topicNamespace).bind Prod.fst <;> rfl

end MqttSession

/-- Whatever happens to the client: a reader of the topic of acknowledgements finds one for every command
that came while there was a connection, and those of the tasks of Central, each as it was meant. A handler
is called once for every document that it is set for, connected or not. Needs `hreadable`: the reasons and
the types that Central hands over are printable UTF-8, since control characters are not escaped. -/
theorem commands_acknowledged (setup : CommandSetup) (topicNamespace : List UInt8) (schemaVersion : UInt32)
    {events : List MqttEvent} (hreadable : ∀ event ∈ events, event.isReadable = true) :
    ((MqttSession.started topicNamespace schemaVersion).run setup events).found =
        (acknowledged setup topicNamespace false events).map
          (fun acknowledgement => some (acknowledgement.json schemaVersion)) ∧
      ((MqttSession.started topicNamespace schemaVersion).run setup events).calls = called setup topicNamespace events :=
  MqttSession.run_found setup hreadable (.started topicNamespace schemaVersion)

/-- The text of a command that restarts Central. -/
def restartText : List UInt8 :=
  ascii "\x7b\"type\":\"system\",\"action\":\"restart\",\"commandId\":7\x7d"

/-- A parser for one text, and all handlers. -/
def restartSetup : CommandSetup where
  parse data := if data = restartText then some (CommandDocument.command "system" "restart" 7 []) else none
  handlers _ := true

/-- What Central's handler answers to it. -/
def restartAnswer : CommandResult := ⟨true, true, "Central restarting in 1.5 seconds"⟩

/-- A command is carried out without a connection, too, but only acknowledged with one. -/
theorem commands_acknowledged_restart :
    ((MqttSession.started (ascii "kilowatts") 1).run restartSetup [.connected,
        .data ⟨ascii "kilowatts/command", restartText, true, restartAnswer⟩,
        .data ⟨ascii "kilowatts/command", ascii "restart", true, restartAnswer⟩, .disconnected,
        .data ⟨ascii "kilowatts/command", restartText, true, restartAnswer⟩]).found =
      [some ((CommandAcknowledgement.mk 7 "system" .APPLIED "Central restarting in 1.5 seconds" none).json 1),
        some ((CommandAcknowledgement.mk 0 "command" .REJECTED "malformed JSON" none).json 1)] := by
  have hacknowledged : acknowledged restartSetup (ascii "kilowatts") false [.connected,
      .data ⟨ascii "kilowatts/command", restartText, true, restartAnswer⟩,
      .data ⟨ascii "kilowatts/command", ascii "restart", true, restartAnswer⟩, .disconnected,
      .data ⟨ascii "kilowatts/command", restartText, true, restartAnswer⟩] =
      [⟨7, "system", .APPLIED, "Central restarting in 1.5 seconds", none⟩,
        ⟨0, "command", .REJECTED, "malformed JSON", none⟩] := by
    decide +kernel
  refine (commands_acknowledged restartSetup (ascii "kilowatts") 1 (by decide)).1.trans ?_
  rw [hacknowledged]
  rfl

end Runs

end kilowatts
