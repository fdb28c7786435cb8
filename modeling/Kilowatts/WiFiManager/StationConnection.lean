import Kilowatts.Library.CharBuffer
import Kilowatts.Library.FlashBacked

namespace kilowatts

/-- The channel that is compiled in. -/
def KILOWATTS_RADIO_CHANNEL : UInt8 := 7

namespace RadioChannelStore

def isValidChannel (channel : UInt8) : Bool := channel ≥ 1 && channel ≤ 14

/-- `opened` tells whether the flash can be read. -/
def load (stored : Option UInt8) (opened : Bool) : Option UInt8 := if opened then stored.filter isValidChannel else none

/-- The stored channel afterwards, and whether it was saved. -/
def save (channel : UInt8) (flash : FlashAnswers) (stored : Option UInt8) : Option UInt8 × Bool :=
  if !isValidChannel channel then (stored, false)
  else (if flash.writes then some channel else stored, flash.succeeds)

end RadioChannelStore

inductive WiFiConnectionState where
  | DISCONNECTED
  | SCANNING
  | CONNECTING
  | CONNECTED_AWAITING_IP
  | CONNECTED_WITH_IP
  | RADIO_CHANNEL_MISMATCH
deriving DecidableEq

/-- `wifi_ap_record_t`, as far as it is read. -/
structure ApRecord where
  ssid : CharBuffer 33
  primary : UInt8
deriving DecidableEq

/-- Where `verifyChannelAndConnect` stands, with the channel that it discovered. -/
inductive Verification where
  | idle
  | scanning
  | configuring (discoveredChannel : UInt8)
  | connecting (discoveredChannel : UInt8)
  | restarting
deriving DecidableEq

/-- The reconnect timer runs for so many microseconds when it is started. -/
structure WiFiManager where
  requiredChannel : UInt8
  ssid : List UInt8
  state : WiFiConnectionState
  reconnectAttempts : UInt32
  eventHandlersRegistered : Bool
  timerCreated : Bool
  reconnectTimer : Option UInt64
  verification : Verification
deriving DecidableEq

namespace WiFiManager

def SSID_BUFFER_SIZE : Nat := 33

def RECONNECT_BASE_DELAY_MICROSECONDS : UInt64 := 2000000

def RECONNECT_MAXIMUM_DELAY_MICROSECONDS : UInt64 := 60000000

def RECONNECT_BACKOFF_CAP_SHIFT : UInt32 := 5

def initial (requiredChannel : UInt8) : WiFiManager :=
  ⟨requiredChannel, [], .DISCONNECTED, 0, false, false, none, .idle⟩

/-- `none` is a scan that could not be started. -/
def scanForSsidChannel (ssid : List UInt8) : Option (List ApRecord) → Option UInt8
  | none => none
  | some records => (records.find? fun record => record.ssid.text = ssid).map ApRecord.primary

variable (manager : WiFiManager)

def setRequiredChannel (requiredChannel : UInt8) : WiFiManager :=
  if manager.eventHandlersRegistered then manager else { manager with requiredChannel }

def reconnectDelay (attempt : UInt32) : UInt64 :=
  let backoffShift := if attempt < RECONNECT_BACKOFF_CAP_SHIFT then attempt else RECONNECT_BACKOFF_CAP_SHIFT
  let delayMicroseconds := RECONNECT_BASE_DELAY_MICROSECONDS <<< backoffShift.toUInt64
  if delayMicroseconds > RECONNECT_MAXIMUM_DELAY_MICROSECONDS then RECONNECT_MAXIMUM_DELAY_MICROSECONDS
  else delayMicroseconds

def onStationDisconnected : WiFiManager :=
  let attempt := manager.reconnectAttempts + 1
  { manager with
    state := .DISCONNECTED
    reconnectAttempts := attempt
    reconnectTimer := if manager.timerCreated then some (reconnectDelay attempt) else manager.reconnectTimer }

def onGotIp : WiFiManager := { manager with reconnectAttempts := 0, state := .CONNECTED_WITH_IP }

/-- The beginning of `verifyChannelAndConnect`. -/
def verifyChannelAndConnect : WiFiManager := { manager with state := .SCANNING, verification := .scanning }

/-- `registered` and `timerCreated` are the answers to the two registrations and to
`esp_timer_create`. -/
def begin (ssid : List UInt8) (registered timerCreated : Bool) : WiFiManager :=
  if ssid = [] then manager
  else
    let copied := { manager with ssid := ssid.take (SSID_BUFFER_SIZE - 1) }
    if !registered then copied
    else { copied with eventHandlersRegistered := true, timerCreated }.verifyChannelAndConnect

/-- Verification ends, and another attempt is scheduled. -/
def retryLater : WiFiManager := { manager.onStationDisconnected with verification := .idle }

end WiFiManager

/-- The radio of Central: the channel in the flash, that of ESP-NOW, and the station.
`channelRestarts` counts how often a new channel made Central restart. -/
structure CentralRadio where
  channelStore : Option UInt8
  communicationChannel : UInt8
  wifiManager : WiFiManager
  channelRestarts : Nat
deriving DecidableEq

/-- What a boot meets. The flash may have to be erased before it can be used. -/
structure RadioBootAnswers where
  erased : Bool
  flashReady : Bool
  opened : Bool
  radioStarts : Bool
  credentials : Option (List UInt8)
  registered : Bool
  timerCreated : Bool
deriving DecidableEq

inductive RadioEvent where
  | boot (answers : RadioBootAnswers)
  | reconnectTimerRunsOut
  | scanned (records : Option (List ApRecord)) (flash : FlashAnswers)
  | configured (succeeded : Bool)
  | connectReturns (succeeded : Bool)
  | stationConnected
  | stationDisconnected
  | gotIp
  | consoleSavesChannel (channel : UInt8) (flash : FlashAnswers)
deriving DecidableEq

/-- Neither a boot nor a message of the driver. -/
def RadioEvent.isQuiet : RadioEvent → Bool
  | .boot _ | .stationConnected | .stationDisconnected | .gotIp => false
  | _ => true

def RadioEvent.savesChannel : RadioEvent → Bool
  | .consoleSavesChannel _ _ => true
  | _ => false

namespace CentralRadio

/-- A Central that was never switched on. -/
def factory : CentralRadio := ⟨none, KILOWATTS_RADIO_CHANNEL, .initial KILOWATTS_RADIO_CHANNEL, 0⟩

/-- `EspNowCommunication::setChannel` before the radio is initialized. -/
def setChannel (channel communicationChannel : UInt8) : UInt8 :=
  if channel = 0 ∨ channel > 14 then communicationChannel else channel

/-- `applyRadioChannelOverride` after a restart. -/
def applyRadioChannelOverride (answers : RadioBootAnswers) (radio : CentralRadio) : CentralRadio :=
  let channelStore := if answers.erased then none else radio.channelStore
  let started : CentralRadio :=
    ⟨channelStore, KILOWATTS_RADIO_CHANNEL, .initial KILOWATTS_RADIO_CHANNEL, radio.channelRestarts⟩
  if !answers.flashReady then started
  else
    match RadioChannelStore.load channelStore answers.opened with
    | none => started
    | some channel =>
      { started with
        communicationChannel := setChannel channel started.communicationChannel
        wifiManager := started.wifiManager.setRequiredChannel channel }

/-- The part of `runApp` that concerns the radio. -/
def boot (answers : RadioBootAnswers) (radio : CentralRadio) : CentralRadio :=
  let started := radio.applyRadioChannelOverride answers
  if !answers.radioStarts then started
  else
    match answers.credentials with
    | none => started
    | some ssid =>
      { started with wifiManager := started.wifiManager.begin ssid answers.registered answers.timerCreated }

variable (radio : CentralRadio)

/-- `verifyChannelAndConnect` once it has scanned. -/
def verifyChannel (records : Option (List ApRecord)) (flash : FlashAnswers) : CentralRadio :=
  let manager := radio.wifiManager
  match WiFiManager.scanForSsidChannel manager.ssid records with
  | none => { radio with wifiManager := manager.retryLater }
  | some discoveredChannel =>
    if discoveredChannel ≠ manager.requiredChannel then
      let (channelStore, saved) := RadioChannelStore.save discoveredChannel flash radio.channelStore
      if !saved then
        { radio with channelStore, wifiManager := { manager with state := .DISCONNECTED, verification := .idle } }
      else
        { radio with
          channelStore
          wifiManager := { manager with verification := .restarting }
          channelRestarts := radio.channelRestarts + 1 }
    else { radio with wifiManager := { manager with verification := .configuring discoveredChannel } }

/-- `none` when the event cannot happen. One verification runs at a time, and nothing but a boot
follows a restart. -/
def next : RadioEvent → Option CentralRadio
  | .boot answers => some (radio.boot answers)
  | .reconnectTimerRunsOut =>
    if radio.wifiManager.reconnectTimer.isSome ∧ radio.wifiManager.verification = .idle then
      some { radio with wifiManager := { radio.wifiManager with reconnectTimer := none }.verifyChannelAndConnect }
    else none
  | .scanned records flash =>
    if radio.wifiManager.verification = .scanning then some (radio.verifyChannel records flash) else none
  | .configured succeeded =>
    match radio.wifiManager.verification with
    | .configuring discoveredChannel =>
      some { radio with
        wifiManager :=
          if succeeded then
            { radio.wifiManager with state := .CONNECTING, verification := .connecting discoveredChannel }
          else radio.wifiManager.retryLater }
    | _ => none
  | .connectReturns succeeded =>
    match radio.wifiManager.verification with
    | .connecting _ =>
      some { radio with
        wifiManager :=
          if succeeded then { radio.wifiManager with verification := .idle } else radio.wifiManager.retryLater }
    | _ => none
  | .stationConnected =>
    if radio.wifiManager.eventHandlersRegistered ∧ radio.wifiManager.verification ≠ .restarting then
      some { radio with wifiManager := { radio.wifiManager with state := .CONNECTED_AWAITING_IP } }
    else none
  | .stationDisconnected =>
    if radio.wifiManager.eventHandlersRegistered ∧ radio.wifiManager.verification ≠ .restarting then
      some { radio with wifiManager := radio.wifiManager.onStationDisconnected }
    else none
  | .gotIp =>
    if radio.wifiManager.eventHandlersRegistered ∧ radio.wifiManager.verification ≠ .restarting then
      some { radio with wifiManager := radio.wifiManager.onGotIp }
    else none
  | .consoleSavesChannel channel flash =>
    if radio.wifiManager.verification ≠ .restarting then
      some { radio with channelStore := (RadioChannelStore.save channel flash radio.channelStore).1 }
    else none

def Step (before : CentralRadio) (event : RadioEvent) (after : CentralRadio) : Prop := before.next event = some after

end CentralRadio

end kilowatts
