import Kilowatts.Library.Run
import Kilowatts.WiFiManager.StationConnection

namespace kilowatts.CentralRadio

open RadioChannelStore (isValidChannel)
open WiFiManager (scanForSsidChannel)

/-- The channel that the next boot reads, if it can. -/
def bootChannel (radio : CentralRadio) : UInt8 :=
  (radio.channelStore.filter isValidChannel).getD KILOWATTS_RADIO_CHANNEL

section Steps

variable {before after : CentralRadio} {event : RadioEvent}

/-- What each step leaves, and what it found. -/
inductive Moves (before : CentralRadio) : RadioEvent → CentralRadio → Prop where
  | booted (answers : RadioBootAnswers) : Moves before (.boot answers) (before.boot answers)
  | timedOut (hidle : before.wifiManager.verification = .idle) :
      Moves before .reconnectTimerRunsOut
        { before with wifiManager := { before.wifiManager with reconnectTimer := none }.verifyChannelAndConnect }
  | unseen (records : Option (List ApRecord)) (flash : FlashAnswers)
      (hverification : before.wifiManager.verification = .scanning) :
      Moves before (.scanned records flash) { before with wifiManager := before.wifiManager.retryLater }
  | unsaved (records : Option (List ApRecord)) (flash : FlashAnswers) (discoveredChannel : UInt8)
      (hverification : before.wifiManager.verification = .scanning)
      (hscanned : scanForSsidChannel before.wifiManager.ssid records = some discoveredChannel)
      (hother : discoveredChannel ≠ before.wifiManager.requiredChannel)
      (hfailed : (RadioChannelStore.save discoveredChannel flash before.channelStore).2 = false) :
      Moves before (.scanned records flash)
        { before with
          channelStore := (RadioChannelStore.save discoveredChannel flash before.channelStore).1
          wifiManager := { before.wifiManager with state := .DISCONNECTED, verification := .idle } }
  | moved (records : Option (List ApRecord)) (flash : FlashAnswers) (discoveredChannel : UInt8)
      (hverification : before.wifiManager.verification = .scanning)
      (hscanned : scanForSsidChannel before.wifiManager.ssid records = some discoveredChannel)
      (hother : discoveredChannel ≠ before.wifiManager.requiredChannel)
      (hsaved : (RadioChannelStore.save discoveredChannel flash before.channelStore).2 = true) :
      Moves before (.scanned records flash)
        { before with
          channelStore := (RadioChannelStore.save discoveredChannel flash before.channelStore).1
          wifiManager := { before.wifiManager with verification := .restarting }
          channelRestarts := before.channelRestarts + 1 }
  | found (records : Option (List ApRecord)) (flash : FlashAnswers)
      (hverification : before.wifiManager.verification = .scanning) :
      Moves before (.scanned records flash)
        { before with
          wifiManager := { before.wifiManager with
            verification := .configuring before.wifiManager.requiredChannel } }
  | configured (discoveredChannel : UInt8)
      (hverification : before.wifiManager.verification = .configuring discoveredChannel) :
      Moves before (.configured true)
        { before with
          wifiManager := { before.wifiManager with
            state := .CONNECTING
            verification := .connecting discoveredChannel } }
  | unconfigured (discoveredChannel : UInt8)
      (hverification : before.wifiManager.verification = .configuring discoveredChannel) :
      Moves before (.configured false) { before with wifiManager := before.wifiManager.retryLater }
  | asked (discoveredChannel : UInt8)
      (hverification : before.wifiManager.verification = .connecting discoveredChannel) :
      Moves before (.connectReturns true)
        { before with wifiManager := { before.wifiManager with verification := .idle } }
  | refused (discoveredChannel : UInt8)
      (hverification : before.wifiManager.verification = .connecting discoveredChannel) :
      Moves before (.connectReturns false) { before with wifiManager := before.wifiManager.retryLater }
  | connected (hrunning : before.wifiManager.verification ≠ .restarting) :
      Moves before .stationConnected
        { before with wifiManager := { before.wifiManager with state := .CONNECTED_AWAITING_IP } }
  | disconnected (hrunning : before.wifiManager.verification ≠ .restarting) :
      Moves before .stationDisconnected { before with wifiManager := before.wifiManager.onStationDisconnected }
  | addressed (hrunning : before.wifiManager.verification ≠ .restarting) :
      Moves before .gotIp { before with wifiManager := before.wifiManager.onGotIp }
  | consoleSaved (channel : UInt8) (flash : FlashAnswers) (hrunning : before.wifiManager.verification ≠ .restarting) :
      Moves before (.consoleSavesChannel channel flash)
        { before with channelStore := (RadioChannelStore.save channel flash before.channelStore).1 }

theorem moves_of_verifyChannel (records : Option (List ApRecord)) (flash : FlashAnswers)
    (hverification : before.wifiManager.verification = .scanning) :
    Moves before (.scanned records flash) (before.verifyChannel records flash) := by
  simp only [verifyChannel]
  split
  · exact .unseen records flash hverification
  next discoveredChannel hscanned =>
  split
  · next hother =>
    cases hsaved : (RadioChannelStore.save discoveredChannel flash before.channelStore).2 with
    | false => exact .unsaved records flash discoveredChannel hverification hscanned hother hsaved
    | true => exact .moved records flash discoveredChannel hverification hscanned hother hsaved
  · next hsame =>
    rw [not_not.mp hsame]
    exact .found records flash hverification

theorem moves_of_next (hnext : before.next event = some after) : Moves before event after := by
  cases event with
  | boot answers =>
    obtain rfl := Option.some.inj hnext
    exact .booted answers
  | reconnectTimerRunsOut =>
    obtain ⟨⟨-, hidle⟩, hafter⟩ := Option.ite_none_right_eq_some.mp hnext
    obtain rfl := Option.some.inj hafter
    exact .timedOut hidle
  | scanned records flash =>
    obtain ⟨hverification, hafter⟩ := Option.ite_none_right_eq_some.mp hnext
    obtain rfl := Option.some.inj hafter
    exact moves_of_verifyChannel records flash hverification
  | configured succeeded =>
    simp only [next] at hnext
    split at hnext
    · next discoveredChannel hverification =>
      obtain rfl := Option.some.inj hnext
      cases succeeded with
      | false => exact .unconfigured discoveredChannel hverification
      | true => exact .configured discoveredChannel hverification
    · cases hnext
  | connectReturns succeeded =>
    simp only [next] at hnext
    split at hnext
    · next discoveredChannel hverification =>
      obtain rfl := Option.some.inj hnext
      cases succeeded with
      | false => exact .refused discoveredChannel hverification
      | true => exact .asked discoveredChannel hverification
    · cases hnext
  | stationConnected =>
    obtain ⟨⟨-, hrunning⟩, hafter⟩ := Option.ite_none_right_eq_some.mp hnext
    obtain rfl := Option.some.inj hafter
    exact .connected hrunning
  | stationDisconnected =>
    obtain ⟨⟨-, hrunning⟩, hafter⟩ := Option.ite_none_right_eq_some.mp hnext
    obtain rfl := Option.some.inj hafter
    exact .disconnected hrunning
  | gotIp =>
    obtain ⟨⟨-, hrunning⟩, hafter⟩ := Option.ite_none_right_eq_some.mp hnext
    obtain rfl := Option.some.inj hafter
    exact .addressed hrunning
  | consoleSavesChannel channel flash =>
    obtain ⟨hrunning, hafter⟩ := Option.ite_none_right_eq_some.mp hnext
    obtain rfl := Option.some.inj hafter
    exact .consoleSaved channel flash hrunning

/-- The channel that a boot starts with. -/
def bootedChannel (answers : RadioBootAnswers) (radio : CentralRadio) : UInt8 :=
  if answers.flashReady && answers.opened then
    ((if answers.erased then none else radio.channelStore).filter isValidChannel).getD KILOWATTS_RADIO_CHANNEL
  else KILOWATTS_RADIO_CHANNEL

/-- Both users of the radio start with the same channel. -/
theorem applyRadioChannelOverride_eq (answers : RadioBootAnswers) (radio : CentralRadio) :
    radio.applyRadioChannelOverride answers =
      ⟨if answers.erased then none else radio.channelStore, radio.bootedChannel answers,
        .initial (radio.bootedChannel answers), radio.channelRestarts⟩ := by
  have hset : ∀ channel, isValidChannel channel = true → setChannel channel KILOWATTS_RADIO_CHANNEL = channel := by
    intro channel hvalid
    simp only [isValidChannel, Bool.and_eq_true, decide_eq_true_eq, UInt8.le_iff_toNat_le, ge_iff_le] at hvalid
    rw [setChannel, if_neg]
    rintro (rfl | hlarge)
    · exact absurd hvalid.1 (by decide)
    · rw [gt_iff_lt, UInt8.lt_iff_toNat_lt] at hlarge
      omega
  unfold applyRadioChannelOverride RadioChannelStore.load bootedChannel
  generalize (if answers.erased then none else radio.channelStore) = channelStore
  cases answers.flashReady with
  | false => rfl
  | true =>
    cases answers.opened with
    | false => rfl
    | true =>
      cases hloaded : channelStore.filter isValidChannel with
      | none => simp [hloaded]
      | some channel =>
        have hvalid := (Option.filter_eq_some_iff.mp hloaded).2
        simp [hloaded, hset channel hvalid, WiFiManager.setRequiredChannel, WiFiManager.initial]

/-- A station that a boot has started scans, and one that it has not started does nothing. -/
theorem boot_cases (answers : RadioBootAnswers) (radio : CentralRadio) :
    ∃ ssid manager, radio.boot answers = ⟨if answers.erased then none else radio.channelStore,
        radio.bootedChannel answers, manager, radio.channelRestarts⟩ ∧
      (manager = { WiFiManager.initial (radio.bootedChannel answers) with ssid } ∨
        manager = { WiFiManager.initial (radio.bootedChannel answers) with
          ssid, eventHandlersRegistered := true, timerCreated := answers.timerCreated }.verifyChannelAndConnect) := by
  unfold boot
  rw [applyRadioChannelOverride_eq]
  dsimp only
  cases answers.radioStarts with
  | false => exact ⟨[], _, rfl, .inl rfl⟩
  | true =>
    cases answers.credentials with
    | none => exact ⟨[], _, rfl, .inl rfl⟩
    | some ssid =>
      by_cases hempty : ssid = []
      · exact ⟨[], _, rfl, .inl (by simp [WiFiManager.begin, hempty, WiFiManager.initial])⟩
      · cases hregistered : answers.registered with
        | false => exact ⟨_, _, rfl, .inl (by simp [WiFiManager.begin, hempty]; rfl)⟩
        | true => exact ⟨_, _, rfl, .inr (by simp [WiFiManager.begin, hempty]; rfl)⟩

theorem isValidChannel_bootedChannel (answers : RadioBootAnswers) (radio : CentralRadio) :
    isValidChannel (radio.bootedChannel answers) = true := by
  unfold bootedChannel
  split
  · cases hloaded : (if answers.erased then none else radio.channelStore).filter isValidChannel with
    | none => rfl
    | some channel => exact (Option.filter_eq_some_iff.mp hloaded).2
  · rfl

theorem save_valid {channel stored : UInt8} {flash : FlashAnswers} {channelStore : Option UInt8}
    (hstored : (RadioChannelStore.save channel flash channelStore).1 = some stored) :
    isValidChannel stored = true ∨ channelStore = some stored := by
  unfold RadioChannelStore.save at hstored
  cases hvalid : isValidChannel channel with
  | false =>
    rw [hvalid] at hstored
    exact .inr hstored
  | true =>
    rw [hvalid] at hstored
    cases hwrites : flash.writes with
    | false =>
      rw [hwrites] at hstored
      exact .inr hstored
    | true =>
      rw [hwrites] at hstored
      exact .inl (Option.some.inj hstored ▸ hvalid)

/-- ESP-NOW and the station use the same channel, and the station asks for no access point that
was found on another one. -/
structure Agreed (radio : CentralRadio) : Prop where
  shared : radio.communicationChannel = radio.wifiManager.requiredChannel
  valid : isValidChannel radio.communicationChannel = true
  stored : ∀ channel, radio.channelStore = some channel → isValidChannel channel = true
  configuring : ∀ channel, radio.wifiManager.verification = .configuring channel → channel = radio.communicationChannel
  connecting : ∀ channel, radio.wifiManager.verification = .connecting channel → channel = radio.communicationChannel

theorem Agreed.next (hagreed : before.Agreed) (hnext : before.next event = some after) : after.Agreed := by
  obtain ⟨hshared, hvalid, hstored, hconfiguring, hconnecting⟩ := hagreed
  cases moves_of_next hnext with
  | booted answers =>
    obtain ⟨ssid, manager, hbooted, hmanager⟩ := boot_cases answers before
    rw [hbooted]
    have hkept : ∀ channel, (if answers.erased then none else before.channelStore) = some channel →
        isValidChannel channel = true := by
      intro channel hchannel
      split at hchannel
      · cases hchannel
      · exact hstored channel hchannel
    obtain rfl | rfl := hmanager
    · exact ⟨rfl, isValidChannel_bootedChannel answers before, hkept, nofun, nofun⟩
    · exact ⟨rfl, isValidChannel_bootedChannel answers before, hkept, nofun, nofun⟩
  | unsaved records flash discoveredChannel | moved records flash discoveredChannel =>
    refine ⟨hshared, hvalid, fun channel hchannel => ?_, nofun, nofun⟩
    exact (save_valid hchannel).elim id (hstored channel)
  | consoleSaved channel flash =>
    refine ⟨hshared, hvalid, fun stored hchannel => ?_, hconfiguring, hconnecting⟩
    exact (save_valid hchannel).elim id (hstored stored)
  | found records flash =>
    refine ⟨hshared, hvalid, hstored, fun channel hfound => ?_, nofun⟩
    rw [← Verification.configuring.inj hfound]
    exact hshared.symm
  | configured discoveredChannel hverification =>
    refine ⟨hshared, hvalid, hstored, nofun, fun channel hfound => ?_⟩
    exact hconfiguring channel (Verification.connecting.inj hfound ▸ hverification)
  | timedOut | unseen | unconfigured | asked | refused => exact ⟨hshared, hvalid, hstored, nofun, nofun⟩
  | connected | disconnected | addressed => exact ⟨hshared, hvalid, hstored, hconfiguring, hconnecting⟩

end Steps

section Agreement

variable {events : List RadioEvent} {last : CentralRadio}

/-- Over all restarts and whatever the flash answers: ESP-NOW and the station are given one channel from 1
to 14, and the station only asks for an access point that it has found on this channel. What the driver then
does with the channel that it is asked for is not modelled. -/
theorem channels_agree (hrun : Run Step factory events last) : last.Agreed :=
  hrun.invariant (fun _ _ _ hagreed hnext => hagreed.next hnext) ⟨rfl, rfl, nofun, nofun, nofun⟩

def homeRecord (primary : UInt8) : ApRecord := ⟨CharBuffer.zero.print [104, 111, 109, 101], primary⟩

def homeAnswers : RadioBootAnswers := ⟨false, true, true, true, some [104, 111, 109, 101], true, true⟩

def homeBoot : RadioEvent := .boot homeAnswers

/-- The access point is on channel 11 at first, and Central follows it there. -/
def followed : List RadioEvent :=
  [homeBoot, .scanned (some [homeRecord 11]) .succeeding, homeBoot, .scanned (some [homeRecord 11]) .succeeding,
    .configured true]

theorem channels_agree_followed : ∃ last, Run Step factory followed last ∧ last.Agreed ∧
    last.wifiManager.verification = .connecting 11 := by
  have hends : (followed.foldlM next factory).any (fun (last : CentralRadio) =>
      decide (last.wifiManager.verification = .connecting 11)) = true := by decide +kernel
  obtain ⟨last, hlast, hconnecting⟩ := (Option.any_eq_true _ _).mp hends
  have hstep : ∀ (before : CentralRadio) event after, before.next event = some after → Step before event after :=
    fun _ _ _ => id
  have hrun := Run.of_foldlM hstep hlast
  exact ⟨last, hrun, channels_agree hrun, of_decide_eq_true hconnecting⟩

end Agreement

section Retries

/-- The station waits for nothing that would make it try again. -/
structure GivenUp (manager : WiFiManager) : Prop where
  state : manager.state = .DISCONNECTED
  verification : manager.verification = .idle
  reconnectTimer : manager.reconnectTimer = none

/-- The station is verifying, or it will be within a minute. -/
def Retrying (manager : WiFiManager) : Prop :=
  manager.verification ≠ .idle ∨ ∃ delayMicroseconds, manager.reconnectTimer = some delayMicroseconds ∧
    WiFiManager.RECONNECT_BASE_DELAY_MICROSECONDS ≤ delayMicroseconds ∧
      delayMicroseconds ≤ WiFiManager.RECONNECT_MAXIMUM_DELAY_MICROSECONDS

/-- A channel that differs is saved when it is found. -/
def saves (radio : CentralRadio) : RadioEvent → Bool
  | .scanned records flash =>
    (scanForSsidChannel radio.wifiManager.ssid records).all fun channel =>
      channel = radio.wifiManager.requiredChannel || (RadioChannelStore.save channel flash radio.channelStore).2
  | _ => true

structure SavingStep (before : CentralRadio) (event : RadioEvent) (after : CentralRadio) : Prop where
  next : before.next event = some after
  saves : before.saves event = true

theorem reconnectDelay_bounds (attempt : UInt32) :
    WiFiManager.RECONNECT_BASE_DELAY_MICROSECONDS ≤ WiFiManager.reconnectDelay attempt ∧
      WiFiManager.reconnectDelay attempt ≤ WiFiManager.RECONNECT_MAXIMUM_DELAY_MICROSECONDS := by
  unfold WiFiManager.reconnectDelay
  by_cases hsmall : attempt < WiFiManager.RECONNECT_BACKOFF_CAP_SHIFT
  · rw [if_pos hsmall]
    obtain ⟨number, hnumber, rfl⟩ : ∃ number < 5, attempt = UInt32.ofNat number :=
      ⟨attempt.toNat, UInt32.lt_iff_toNat_lt.mp hsmall, UInt32.ofNat_toNat.symm⟩
    revert number
    decide
  · rw [if_neg hsmall]
    decide

/-- A station that is not verifying, or that has just asked for its access point, has its timer
running while it is disconnected. -/
structure Sustained (manager : WiFiManager) : Prop where
  delay : ∀ delayMicroseconds, manager.reconnectTimer = some delayMicroseconds →
    WiFiManager.RECONNECT_BASE_DELAY_MICROSECONDS ≤ delayMicroseconds ∧
      delayMicroseconds ≤ WiFiManager.RECONNECT_MAXIMUM_DELAY_MICROSECONDS
  waiting : manager.timerCreated = true → manager.state = .DISCONNECTED ∨ manager.state = .SCANNING →
    manager.verification = .idle ∨ (∃ channel, manager.verification = .connecting channel) →
      manager.reconnectTimer.isSome = true

variable {before after : CentralRadio} {event : RadioEvent}

theorem Sustained.disconnect {manager : WiFiManager} (hsustained : Sustained manager) :
    Sustained manager.onStationDisconnected := by
  refine ⟨fun delayMicroseconds hdelay => ?_, fun hcreated _ _ => ?_⟩
  · rw [WiFiManager.onStationDisconnected] at hdelay
    dsimp only at hdelay
    split at hdelay
    · exact Option.some.inj hdelay ▸ reconnectDelay_bounds _
    · exact hsustained.delay delayMicroseconds hdelay
  · change manager.timerCreated = true at hcreated
    rw [WiFiManager.onStationDisconnected, hcreated]
    rfl

theorem Sustained.retryLater {manager : WiFiManager} (hsustained : Sustained manager) : Sustained manager.retryLater := by
  refine ⟨hsustained.disconnect.delay, fun hcreated _ _ => ?_⟩
  change manager.timerCreated = true at hcreated
  rw [WiFiManager.retryLater, WiFiManager.onStationDisconnected, hcreated]
  rfl

theorem Sustained.next (hsustained : Sustained before.wifiManager) (hstep : SavingStep before event after) :
    Sustained after.wifiManager := by
  obtain ⟨hdelay, hwaiting⟩ := id hsustained
  cases moves_of_next hstep.next with
  | booted answers =>
    obtain ⟨ssid, manager, hbooted, hmanager⟩ := boot_cases answers before
    rw [hbooted]
    obtain rfl | rfl := hmanager
    · exact ⟨nofun, nofun⟩
    · exact ⟨nofun, fun _ _ hverification => by simp [WiFiManager.verifyChannelAndConnect] at hverification⟩
  | timedOut => exact ⟨nofun, fun _ _ hverification => by simp [WiFiManager.verifyChannelAndConnect] at hverification⟩
  | unsaved records flash channel hverification hscanned hother hfailed =>
    have hsaves := hstep.saves
    rw [saves, hscanned, Option.all_some, decide_eq_false hother, Bool.false_or] at hsaves
    exact nomatch hfailed.symm.trans hsaves
  | moved | found => exact ⟨hdelay, fun _ _ hverification => by simp at hverification⟩
  | configured => exact ⟨hdelay, fun _ hstate _ => by simp at hstate⟩
  | asked channel hverification =>
    exact ⟨hdelay, fun hcreated hstate _ => hwaiting hcreated hstate (.inr ⟨channel, hverification⟩)⟩
  | unseen | unconfigured | refused => exact hsustained.retryLater
  | disconnected => exact hsustained.disconnect
  | connected => exact ⟨hdelay, fun _ hstate _ => by simp at hstate⟩
  | addressed => exact ⟨hdelay, fun _ hstate _ => by simp [WiFiManager.onGotIp] at hstate⟩
  | consoleSaved => exact hsustained

theorem GivenUp.next (hgivenUp : GivenUp before.wifiManager) (hquiet : event.isQuiet = true)
    (hnext : before.next event = some after) : GivenUp after.wifiManager := by
  obtain ⟨hstate, hidle, htimer⟩ := id hgivenUp
  cases event with
  | boot | stationConnected | stationDisconnected | gotIp => cases hquiet
  | reconnectTimerRunsOut => simp [next, htimer] at hnext
  | scanned => simp [next, hidle] at hnext
  | configured => simp [next, hidle] at hnext
  | connectReturns => simp [next, hidle] at hnext
  | consoleSavesChannel channel flash =>
    obtain ⟨-, hafter⟩ := Option.ite_none_right_eq_some.mp hnext
    exact Option.some.inj hafter ▸ hgivenUp

/-- As long as every new channel can be saved, a station with a timer never stops trying in DISCONNECTED and
SCANNING; nothing is said about CONNECTING. If a new channel cannot be saved while the timer does not run,
it stops, until the next boot or a message of the driver. -/
theorem station_keeps_trying :
    (∀ events last, Run SavingStep factory events last → last.wifiManager.timerCreated = true →
      last.wifiManager.state = .DISCONNECTED ∨ last.wifiManager.state = .SCANNING → Retrying last.wifiManager) ∧
    ∀ (before : CentralRadio) records flash channel after events last, before.next (.scanned records flash) = some after →
      scanForSsidChannel before.wifiManager.ssid records = some channel →
      channel ≠ before.wifiManager.requiredChannel →
      (RadioChannelStore.save channel flash before.channelStore).2 = false →
      before.wifiManager.reconnectTimer = none → Run Step after events last →
      (∀ event ∈ events, event.isQuiet = true) → GivenUp last.wifiManager := by
  constructor
  · intro events last hrun hcreated hstate
    have hpreserved : ∀ before event after, Sustained before.wifiManager → SavingStep before event after →
        Sustained after.wifiManager := fun _ _ _ hsustained hstep => hsustained.next hstep
    obtain ⟨hdelay, hwaiting⟩ := hrun.invariant hpreserved ⟨nofun, nofun⟩
    by_cases hidle : last.wifiManager.verification = .idle
    · obtain ⟨delayMicroseconds, hrunning⟩ := Option.isSome_iff_exists.mp (hwaiting hcreated hstate (.inl hidle))
      exact .inr ⟨delayMicroseconds, hrunning, hdelay delayMicroseconds hrunning⟩
    · exact .inl hidle
  · intro before records flash channel after events last hnext hscanned hother hfailed htimer hrun hquiet
    have hafter : GivenUp after.wifiManager := by
      cases moves_of_next hnext with
      | unseen =>
        obtain ⟨-, hverified⟩ := Option.ite_none_right_eq_some.mp hnext
        simp only [verifyChannel, hscanned, if_pos hother, hfailed, Bool.not_false, if_true, Option.some.injEq] at hverified
        exact hverified ▸ ⟨rfl, rfl, htimer⟩
      | unsaved => exact ⟨rfl, rfl, htimer⟩
      | moved records flash found hverification hfound hdiffers hsaved =>
        obtain rfl := Option.some.inj (hscanned.symm.trans hfound)
        exact nomatch hfailed.symm.trans hsaved
      | found =>
        obtain ⟨-, hverified⟩ := Option.ite_none_right_eq_some.mp hnext
        simp only [verifyChannel, hscanned, if_pos hother, hfailed, Bool.not_false, if_true, Option.some.injEq] at hverified
        exact hverified ▸ ⟨rfl, rfl, htimer⟩
    have hpreserved : ∀ before after, ∀ event ∈ events, GivenUp before.wifiManager → Step before event after →
        GivenUp after.wifiManager := fun _ _ event hmem hgivenUp hstep => hgivenUp.next (hquiet event hmem) hstep
    exact hrun.invariant_mem hpreserved hafter

/-- An access point that is not there is looked for again, and one that has moved is lost if the
flash does not take its channel. -/
theorem station_keeps_trying_home :
    Retrying ((factory.next homeBoot).bind (·.next (.scanned (some []) .succeeding)) |>.getD factory).wifiManager ∧
      GivenUp ((factory.next homeBoot).bind
        (·.next (.scanned (some [homeRecord 11]) ⟨true, false, false, false⟩)) |>.getD factory).wifiManager := by
  obtain ⟨hretrying, hgivenUp⟩ := station_keeps_trying
  constructor
  · exact hretrying [homeBoot, .scanned (some []) .succeeding] _ (.snoc (.snoc (.nil _) ⟨rfl, rfl⟩) ⟨rfl, rfl⟩) rfl
      (.inl rfl)
  · exact hgivenUp (factory.boot homeAnswers) (some [homeRecord 11]) ⟨true, false, false, false⟩ 11 _ [] _ rfl
      (by decide) (by decide) rfl rfl
      (.nil _) nofun

end Retries

section Settling

/-- The network is nowhere but on this channel, and every boot can read the flash. -/
def settled (channel : UInt8) (radio : CentralRadio) : RadioEvent → Bool
  | .scanned records _ => (scanForSsidChannel radio.wifiManager.ssid records).all (· = channel)
  | .boot answers => !answers.erased && answers.flashReady && answers.opened
  | _ => true

structure SettledStep (channel : UInt8) (before : CentralRadio) (event : RadioEvent) (after : CentralRadio) : Prop where
  next : before.next event = some after
  settled : before.settled channel event = true

/-- Whether Central still has to restart because of the channel. -/
def due (channel : UInt8) (radio : CentralRadio) : Nat :=
  if radio.bootChannel = channel ∧
      (radio.wifiManager.verification = .restarting ∨ radio.wifiManager.requiredChannel = channel) then 0
  else 1

variable {before after : CentralRadio} {event : RadioEvent} {channel : UInt8}

theorem due_le_one (channel : UInt8) (radio : CentralRadio) : radio.due channel ≤ 1 := by
  unfold due
  split <;> omega

theorem save_succeeded {flash : FlashAnswers} {channelStore : Option UInt8}
    (hsaved : (RadioChannelStore.save channel flash channelStore).2 = true) :
    (RadioChannelStore.save channel flash channelStore).1 = some channel ∧ isValidChannel channel = true := by
  unfold RadioChannelStore.save at hsaved ⊢
  cases hvalid : isValidChannel channel with
  | false =>
    rw [hvalid] at hsaved
    cases hsaved
  | true =>
    rw [hvalid] at hsaved
    rw [Bool.not_true, if_neg Bool.false_ne_true, FlashAnswers.writes_of_succeeds hsaved]
    exact ⟨rfl, rfl⟩

theorem restarts_of_running (hbefore : before.wifiManager.verification ≠ .restarting)
    (hafter : after.wifiManager.verification ≠ .restarting) (hstore : after.channelStore = before.channelStore)
    (hrequired : after.wifiManager.requiredChannel = before.wifiManager.requiredChannel)
    (hrestarts : after.channelRestarts = before.channelRestarts) :
    after.channelRestarts + after.due channel ≤
      before.channelRestarts + before.due channel + if event.savesChannel then 1 else 0 := by
  have hboot : after.bootChannel = before.bootChannel := by rw [bootChannel, hstore, bootChannel]
  have hdue : after.due channel = before.due channel := by
    unfold due
    simp only [hboot, hrequired, hbefore, hafter, false_or]
  rw [hrestarts, hdue]
  exact Nat.le_add_right _ _

/-- Central never restarts because of the channel more often than it is due. -/
theorem restarts_next (hstep : SettledStep channel before event after) :
    after.channelRestarts + after.due channel ≤
      before.channelRestarts + before.due channel + if event.savesChannel then 1 else 0 := by
  have hsettled := hstep.settled
  have hfound : ∀ records found, (scanForSsidChannel before.wifiManager.ssid records).all (· = channel) = true →
      scanForSsidChannel before.wifiManager.ssid records = some found → found = channel := by
    intro records found hall hscanned
    rw [hscanned, Option.all_some] at hall
    exact of_decide_eq_true hall
  have hlate : ∀ found, before.wifiManager.verification = .scanning → found = channel →
      found ≠ before.wifiManager.requiredChannel → before.due channel = 1 := by
    rintro found hscanning rfl hother
    refine if_neg ?_
    rintro ⟨-, hrestarting | hsame⟩
    · exact nomatch hscanning.symm.trans hrestarting
    · exact hother hsame.symm
  cases moves_of_next hstep.next with
  | booted answers =>
    obtain ⟨⟨herased, hready⟩, hopened⟩ : (answers.erased = false ∧ answers.flashReady = true) ∧
        answers.opened = true := by simpa [settled] using hsettled
    obtain ⟨ssid, manager, hbooted, hmanager⟩ := boot_cases answers before
    have hchannel : before.bootedChannel answers = before.bootChannel := by
      simp [bootedChannel, bootChannel, herased, hready, hopened]
    have hrequired : manager.requiredChannel = before.bootChannel := by
      obtain rfl | rfl := hmanager <;> exact hchannel
    have hboot : (before.boot answers).bootChannel = before.bootChannel := by
      rw [hbooted, herased]
      rfl
    have hrestarts : (before.boot answers).channelRestarts = before.channelRestarts := by rw [hbooted]
    have hdue : (before.boot answers).due channel ≤ before.due channel := by
      rw [due, due, hboot, hbooted]
      dsimp only
      rw [hrequired]
      split_ifs with hafter hbefore
      · exact Nat.le_refl _
      · exact Nat.zero_le _
      · next hbefore => exact absurd ⟨hbefore.1, .inr hbefore.1⟩ hafter
      · exact Nat.le_refl _
    rw [hrestarts]
    exact Nat.add_le_add_left hdue _
  | moved records flash found hscanning hscanned hother hsaved =>
    obtain rfl := hfound records found hsettled hscanned
    obtain ⟨hstored, hvalid⟩ := save_succeeded hsaved
    have hdue : due found { before with
        channelStore := (RadioChannelStore.save found flash before.channelStore).1
        wifiManager := { before.wifiManager with verification := .restarting }
        channelRestarts := before.channelRestarts + 1 } = 0 := by
      refine if_pos ⟨?_, .inl rfl⟩
      rw [bootChannel, hstored, Option.filter_some_pos hvalid]
      rfl
    rw [hdue, hlate found hscanning rfl hother]
    exact Nat.le_refl _
  | unsaved records flash found hscanning hscanned hother =>
    rw [hlate found hscanning (hfound records found hsettled hscanned) hother]
    exact (Nat.add_le_add_left (due_le_one channel _) _).trans (Nat.le_add_right _ _)
  | consoleSaved saved flash =>
    exact (Nat.add_le_add_left (due_le_one channel _) _).trans (Nat.add_le_add_right (Nat.le_add_right _ _) _)
  | timedOut hidle =>
    refine restarts_of_running (by simp [hidle]) ?_ rfl rfl rfl
    simp [WiFiManager.verifyChannelAndConnect]
  | unseen records flash hverification =>
    refine restarts_of_running (by simp [hverification]) ?_ rfl rfl rfl
    simp [WiFiManager.retryLater]
  | found records flash hverification | configured found hverification | asked found hverification =>
    exact restarts_of_running (by simp [hverification]) (by simp) rfl rfl rfl
  | unconfigured found hverification | refused found hverification =>
    refine restarts_of_running (by simp [hverification]) ?_ rfl rfl rfl
    simp [WiFiManager.retryLater]
  | connected hrunning | disconnected hrunning | addressed hrunning =>
    exact restarts_of_running hrunning hrunning rfl rfl rfl

/-- As long as the network stays on its channel and the flash works, a new channel makes Central restart at
most once, and once more for each channel that the console saves. The state at the start is arbitrary. -/
theorem restarts_settle {events : List RadioEvent} {start last : CentralRadio}
    (hrun : Run (SettledStep channel) start events last) :
    last.channelRestarts ≤ start.channelRestarts + 1 + events.countP RadioEvent.savesChannel := by
  have hbound : last.channelRestarts + last.due channel ≤
      start.channelRestarts + start.due channel + events.countP RadioEvent.savesChannel := by
    induction hrun with
    | nil => exact Nat.le_refl _
    | @snoc mid last events event _ hstep ih =>
      have hlast := restarts_next hstep
      rw [List.countP_append, List.countP_singleton]
      omega
  have hstart := start.due_le_one channel
  omega

/-- Central follows the access point to channel 11 once. -/
theorem restarts_settle_followed : ∃ last, Run (SettledStep 11) factory followed last ∧ last.channelRestarts ≤ 1 := by
  have hends : (followed.foldlM (fun (before : CentralRadio) event =>
      if before.settled 11 event then before.next event else none) factory).isSome = true := by decide +kernel
  obtain ⟨last, hlast⟩ := Option.isSome_iff_exists.mp hends
  have hstep : ∀ (before : CentralRadio) event after,
      (if before.settled 11 event then before.next event else none) = some after → SettledStep 11 before event after := by
    intro before event after hnext
    obtain ⟨hsettled, hafter⟩ := Option.ite_none_right_eq_some.mp hnext
    exact ⟨hafter, hsettled⟩
  have hrun := Run.of_foldlM hstep hlast
  exact ⟨last, hrun, restarts_settle hrun⟩

end Settling

end kilowatts.CentralRadio
