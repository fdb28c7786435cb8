import Kilowatts.Library.Run
import Kilowatts.LoadManager.Load

namespace kilowatts.ChannelSearch

/-- The channel that every Node starts on. -/
def KILOWATTS_RADIO_CHANNEL : UInt8 := 7

/-- 2 s at 100 ticks a second. -/
def NODE_REPORT_PERIOD_TICKS : UInt32 := 200

/-- The ticks between two searches. -/
def DISCOVERY_RETRY_PERIOD_TICKS : UInt32 := 200

/-- After so many failures in a row the Node goes through all channels. -/
def DISCOVERY_FAILURES_BEFORE_SWEEP : Nat := 3

/-- After so many failures in a row the Node restarts. -/
def REPORT_FAILURES_BEFORE_RESTART : UInt8 := 3

/-- The answers of the driver when the radio is to change to a channel. -/
structure SwitchAnswers where
  channelSet : Bool
  peerFound : Bool
  peerModified : Bool
deriving DecidableEq

/-- What the task finds during one round of its loop. `heard` is the best candidate that answers on a
channel and becomes a peer, and `acknowledges` tells on which channel the upstream Node confirms the
pages of a report. -/
structure Air where
  now : UInt32
  heard : UInt8 → Option MacAddress
  switches : UInt8 → SwitchAnswers
  upstreamPeerModified : Bool
  acknowledges : UInt8 → Bool
  bootTicks : UInt32

/-- The radio of a Smart Node, and what `espNowCommunicationTask` keeps to find Central. `upstream`
comes with the channel of its peer. The last three count over restarts. -/
structure SmartRadio where
  homeChannel : UInt8
  broadcastPeerChannel : UInt8
  activeRadioChannel : UInt8
  upstream : Option (MacAddress × UInt8)
  lastDiscovery : UInt32
  lastReport : UInt32
  discoveryFailures : Nat
  consecutiveReportFailures : UInt8
  searches : Nat
  reports : Nat
  restarts : Nat
deriving DecidableEq

namespace SmartRadio

/-- A Node after a boot, which has no upstream. -/
def boot (bootTicks : UInt32) (searches reports restarts : Nat) : SmartRadio where
  homeChannel := KILOWATTS_RADIO_CHANNEL
  broadcastPeerChannel := KILOWATTS_RADIO_CHANNEL
  activeRadioChannel := KILOWATTS_RADIO_CHANNEL
  upstream := none
  lastDiscovery := 0
  lastReport := bootTicks
  discoveryFailures := 0
  consecutiveReportFailures := 0
  searches
  reports
  restarts

variable (radio : SmartRadio)

/-- The radio is on the channel before its peers are told so. -/
def setSmartRadioChannel (channel : UInt8) (answers : SwitchAnswers) : SmartRadio × Bool :=
  if channel < 1 ∨ 13 < channel then (radio, false)
  else if !answers.channelSet then (radio, false)
  else if !answers.peerFound || !answers.peerModified then ({ radio with homeChannel := channel }, false)
  else
    ({ radio with homeChannel := channel, broadcastPeerChannel := channel, activeRadioChannel := channel }, true)

/-- The upstream peer follows the radio, unless the driver refuses. -/
def syncUpstreamPeerChannel (upstreamPeerModified : Bool) : SmartRadio :=
  match radio.upstream with
  | some (upstream, _) =>
    if upstreamPeerModified then { radio with upstream := some (upstream, radio.activeRadioChannel) } else radio
  | none => radio

/-- The driver sends to a peer only on the channel that the radio is on. A candidate becomes a peer on
the channel that ESP-NOW started with. -/
def discoverUpstreamNode (air : Air) : SmartRadio × Bool :=
  if radio.broadcastPeerChannel = radio.homeChannel then
    match air.heard radio.homeChannel with
    | some upstream => ({ radio with upstream := some (upstream, KILOWATTS_RADIO_CHANNEL) }, true)
    | none => (radio, false)
  else (radio, false)

/-- The loop over the channels. -/
def sweep (air : Air) : List UInt8 → SmartRadio → SmartRadio
  | [], radio => radio
  | channel :: channels, radio =>
    let (switched, done) := radio.setSmartRadioChannel channel (air.switches channel)
    if !done then sweep air channels switched
    else
      let (found, discovered) := switched.discoverUpstreamNode air
      if discovered then
        { found.syncUpstreamPeerChannel air.upstreamPeerModified with consecutiveReportFailures := 0 }
      else sweep air channels found

/-- The channels 1 to 13. -/
def sweepChannels : List UInt8 := (List.range' 1 13).map UInt8.ofNat

/-- An attempt to find an upstream Node. It searches the channel that the radio is on, and from the third
failure in a row on, it goes through all channels as well and counts anew. -/
def search (air : Air) : SmartRadio :=
  let (found, discovered) :=
    { radio with lastDiscovery := air.now, searches := radio.searches + 1 }.discoverUpstreamNode air
  if discovered then
    { found.syncUpstreamPeerChannel air.upstreamPeerModified with
      discoveryFailures := 0
      consecutiveReportFailures := 0 }
  else if DISCOVERY_FAILURES_BEFORE_SWEEP ≤ found.discoveryFailures + 1 then
    sweep air sweepChannels { found with discoveryFailures := 0 }
  else { found with discoveryFailures := found.discoveryFailures + 1 }

/-- The pages of a report reach the upstream Node on the channel that the radio, its peer and the
upstream Node are on. -/
def reportsDelivered (air : Air) : Bool :=
  match radio.upstream with
  | some (_, peerChannel) => peerChannel = radio.homeChannel && air.acknowledges radio.homeChannel
  | none => false

/-- A report in all its pages. Nothing counts without an upstream Node; with one, the third report in a row
that is not delivered restarts the Node. -/
def report (air : Air) : SmartRadio :=
  let radio := { radio with lastReport := air.now }
  if radio.upstream.isNone then radio
  else
    let radio := { radio with reports := radio.reports + 1 }
    if radio.reportsDelivered air then { radio with consecutiveReportFailures := 0 }
    else if REPORT_FAILURES_BEFORE_RESTART ≤ radio.consecutiveReportFailures + 1 then
      boot air.bootTicks radio.searches radio.reports (radio.restarts + 1)
    else { radio with consecutiveReportFailures := radio.consecutiveReportFailures + 1 }

/-- One round of the loop without the message that it handles. Of these messages, only a
`FACTORY_RESET_COMMAND` changes what is kept here, as it restarts the Node. The ticks wrap around. -/
def next (air : Air) : SmartRadio :=
  let searched :=
    if radio.upstream.isNone ∧ DISCOVERY_RETRY_PERIOD_TICKS ≤ air.now - radio.lastDiscovery then radio.search air
    else radio
  if NODE_REPORT_PERIOD_TICKS ≤ air.now - searched.lastReport then searched.report air else searched

section Sound

/-- What any round leaves behind, whatever the driver answers. -/
structure Sound (radio : SmartRadio) : Prop where
  broadcast : radio.broadcastPeerChannel = radio.activeRadioChannel
  active : 1 ≤ radio.activeRadioChannel ∧ radio.activeRadioChannel ≤ 13
  discoveryFailures : radio.discoveryFailures < DISCOVERY_FAILURES_BEFORE_SWEEP
  reportFailures : radio.consecutiveReportFailures < REPORT_FAILURES_BEFORE_RESTART

variable {radio : SmartRadio} {air : Air}

theorem no_discoveryFailures : 0 < DISCOVERY_FAILURES_BEFORE_SWEEP := by
  decide

theorem no_reportFailures : 0 < REPORT_FAILURES_BEFORE_RESTART := by
  decide

theorem radioChannel_bounds : 1 ≤ KILOWATTS_RADIO_CHANNEL ∧ KILOWATTS_RADIO_CHANNEL ≤ 13 := by
  decide

/-- A Node starts sound. -/
theorem sound_boot (bootTicks : UInt32) (searches reports restarts : Nat) :
    Sound (boot bootTicks searches reports restarts) where
  broadcast := rfl
  active := radioChannel_bounds
  discoveryFailures := no_discoveryFailures
  reportFailures := no_reportFailures

/-- Also when the driver refuses on the way. -/
theorem Sound.setSmartRadioChannel (hsound : Sound radio) (channel : UInt8) (answers : SwitchAnswers) :
    Sound (radio.setSmartRadioChannel channel answers).1 := by
  unfold SmartRadio.setSmartRadioChannel
  split_ifs with hchannel
  · exact hsound
  · exact hsound
  · exact ⟨hsound.broadcast, hsound.active, hsound.discoveryFailures, hsound.reportFailures⟩
  · rw [not_or, UInt8.not_lt, UInt8.not_lt] at hchannel
    exact ⟨rfl, hchannel, hsound.discoveryFailures, hsound.reportFailures⟩

theorem Sound.syncUpstreamPeerChannel (hsound : Sound radio) (upstreamPeerModified : Bool) :
    Sound (radio.syncUpstreamPeerChannel upstreamPeerModified) := by
  unfold SmartRadio.syncUpstreamPeerChannel
  split
  · split_ifs
    · exact ⟨hsound.broadcast, hsound.active, hsound.discoveryFailures, hsound.reportFailures⟩
    · exact hsound
  · exact hsound

theorem Sound.discoverUpstreamNode (hsound : Sound radio) (air : Air) : Sound (radio.discoverUpstreamNode air).1 := by
  unfold SmartRadio.discoverUpstreamNode
  split_ifs
  · split
    · exact ⟨hsound.broadcast, hsound.active, hsound.discoveryFailures, hsound.reportFailures⟩
    · exact hsound
  · exact hsound

theorem Sound.resetDiscoveryFailures (hsound : Sound radio) : Sound { radio with discoveryFailures := 0 } :=
  ⟨hsound.broadcast, hsound.active, no_discoveryFailures, hsound.reportFailures⟩

theorem Sound.sweep (hsound : Sound radio) (channels : List UInt8) : Sound (sweep air channels radio) := by
  induction channels generalizing radio with
  | nil => exact hsound
  | cons channel channels ih =>
    have hswitched := hsound.setSmartRadioChannel channel (air.switches channel)
    have hfound := hswitched.discoverUpstreamNode air
    have hsynced := hfound.syncUpstreamPeerChannel air.upstreamPeerModified
    simp only [SmartRadio.sweep]
    split_ifs
    · exact ih hswitched
    · exact ⟨hsynced.broadcast, hsynced.active, hsynced.discoveryFailures, no_reportFailures⟩
    · exact ih hfound

/-- A whole search keeps the Node sound. -/
theorem Sound.search (hsound : Sound radio) (air : Air) : Sound (radio.search air) := by
  have hstart : Sound { radio with lastDiscovery := air.now, searches := radio.searches + 1 } :=
    ⟨hsound.broadcast, hsound.active, hsound.discoveryFailures, hsound.reportFailures⟩
  have hfound := hstart.discoverUpstreamNode air
  have hsynced := hfound.syncUpstreamPeerChannel air.upstreamPeerModified
  simp only [SmartRadio.search]
  split_ifs with hdiscovered hsweep
  · exact ⟨hsynced.broadcast, hsynced.active, no_discoveryFailures, no_reportFailures⟩
  · exact hfound.resetDiscoveryFailures.sweep _
  · exact ⟨hfound.broadcast, hfound.active, Nat.lt_of_not_le hsweep, hfound.reportFailures⟩

/-- A report keeps the Node sound, the restart included. -/
theorem Sound.report (hsound : Sound radio) (air : Air) : Sound (radio.report air) := by
  simp only [SmartRadio.report]
  split_ifs with hnone hdelivered hrestart
  · exact ⟨hsound.broadcast, hsound.active, hsound.discoveryFailures, hsound.reportFailures⟩
  · exact ⟨hsound.broadcast, hsound.active, hsound.discoveryFailures, no_reportFailures⟩
  · exact sound_boot ..
  · exact ⟨hsound.broadcast, hsound.active, hsound.discoveryFailures, UInt8.not_le.mp hrestart⟩

/-- A turn of the loop keeps the Node sound. -/
theorem Sound.next (hsound : Sound radio) (air : Air) : Sound (radio.next air) := by
  simp only [SmartRadio.next]
  split_ifs
  · exact (hsound.search air).report air
  · exact hsound.search air
  · exact hsound.report air
  · exact hsound

end Sound

section Steady

/-- The network is on one channel, and the driver does what it is told. -/
structure Steady (channel : UInt8) (air : Air) : Prop where
  heard : ∀ other, (air.heard other).isSome = true ↔ other = channel
  acknowledges : ∀ other, air.acknowledges other = true ↔ other = channel
  switches : ∀ other, air.switches other = ⟨true, true, true⟩
  upstreamPeerModified : air.upstreamPeerModified = true

/-- The radio and the upstream peer are on this channel. -/
def Connected (channel : UInt8) (radio : SmartRadio) : Prop :=
  radio.homeChannel = channel ∧ radio.upstream.map Prod.snd = some channel

instance (channel : UInt8) (radio : SmartRadio) : Decidable (Connected channel radio) :=
  inferInstanceAs (Decidable (radio.homeChannel = channel ∧ radio.upstream.map Prod.snd = some channel))

/-- What the rounds are counted by. -/
def counts (radio : SmartRadio) : Nat × Nat × Nat := (radio.searches, radio.reports, radio.restarts)

variable {radio : SmartRadio} {air : Air} {channel : UInt8}

/-- On the channel of the network, a search finds it. -/
theorem discoverUpstreamNode_found (hsteady : Steady channel air) (hbroadcast : radio.broadcastPeerChannel = channel)
    (hhome : radio.homeChannel = channel) :
    ∃ upstream, radio.discoverUpstreamNode air =
      ({ radio with upstream := some (upstream, KILOWATTS_RADIO_CHANNEL) }, true) := by
  obtain ⟨upstream, hheard⟩ := Option.isSome_iff_exists.mp ((hsteady.heard radio.homeChannel).mpr hhome)
  refine ⟨upstream, ?_⟩
  rw [discoverUpstreamNode, if_pos (hbroadcast.trans hhome.symm), hheard]

/-- A search finds nothing elsewhere. -/
theorem discoverUpstreamNode_missed (hsteady : Steady channel air)
    (helsewhere : ¬ (radio.broadcastPeerChannel = channel ∧ radio.homeChannel = channel)) :
    radio.discoverUpstreamNode air = (radio, false) := by
  rw [discoverUpstreamNode]
  split_ifs with hsends
  · have hsilent : air.heard radio.homeChannel = none := by
      rw [← Option.not_isSome_iff_eq_none, hsteady.heard]
      exact fun hhome => helsewhere ⟨hsends.trans hhome, hhome⟩
    rw [hsilent]
  · rfl

/-- On steady air every switch succeeds. Needs a channel from 1 to 13. -/
theorem setSmartRadioChannel_steady (hsteady : Steady channel air) {other : UInt8} (hother : 1 ≤ other ∧ other ≤ 13) :
    radio.setSmartRadioChannel other (air.switches other) =
      ({ radio with homeChannel := other, broadcastPeerChannel := other, activeRadioChannel := other }, true) := by
  have hrange : ¬ (other < 1 ∨ 13 < other) := by
    rw [not_or, UInt8.not_lt, UInt8.not_lt]
    exact hother
  rw [setSmartRadioChannel, if_neg hrange, hsteady.switches]
  rfl

/-- The Node is connected as soon as the loop comes to the channel of the network. -/
theorem connected_sweep (hsteady : Steady channel air) {channels : List UInt8} (hmem : channel ∈ channels)
    (hchannels : ∀ other ∈ channels, 1 ≤ other ∧ other ≤ 13) :
    Connected channel (sweep air channels radio) ∧ (sweep air channels radio).counts = radio.counts := by
  induction channels generalizing radio with
  | nil => exact absurd hmem List.not_mem_nil
  | cons other channels ih =>
    rw [sweep, setSmartRadioChannel_steady hsteady (hchannels other List.mem_cons_self)]
    simp only [Bool.not_true, Bool.false_eq_true, if_false]
    by_cases hother : other = channel
    · subst hother
      obtain ⟨upstream, hfound⟩ := discoverUpstreamNode_found hsteady (rfl : SmartRadio.broadcastPeerChannel
        { radio with homeChannel := other, broadcastPeerChannel := other, activeRadioChannel := other } = other) rfl
      rw [hfound]
      simp [syncUpstreamPeerChannel, hsteady.upstreamPeerModified, Connected, counts]
    · rw [discoverUpstreamNode_missed hsteady (fun hboth => hother hboth.2)]
      simp only [Bool.false_eq_true, if_false]
      obtain hhead | htail := List.mem_cons.mp hmem
      · exact absurd hhead.symm hother
      · exact ih htail fun next hnext => hchannels next (List.mem_cons_of_mem _ hnext)

/-- A sweep tries no channel that is refused. -/
theorem sweepChannels_bounds : ∀ other ∈ sweepChannels, 1 ≤ other ∧ other ≤ 13 := by
  decide +kernel

/-- A sweep tries every channel from 1 to 13. -/
theorem mem_sweepChannels (hchannel : 1 ≤ channel ∧ channel ≤ 13) : channel ∈ sweepChannels := by
  have hlower := UInt8.le_iff_toNat_le.mp hchannel.1
  have hupper := UInt8.le_iff_toNat_le.mp hchannel.2
  refine List.mem_map.mpr ⟨channel.toNat, List.mem_range'_1.mpr ⟨hlower, ?_⟩, UInt8.ofNat_toNat⟩
  exact Nat.lt_succ_of_le hupper

/-- A search that finds nothing is not the third one in a row. -/
theorem search_steady (hsteady : Steady channel air) (hchannel : 1 ≤ channel ∧ channel ≤ 13) (hsound : Sound radio)
    (hnone : radio.upstream = none) :
    (radio.search air).counts = (radio.searches + 1, radio.reports, radio.restarts) ∧
      (Connected channel (radio.search air) ∨
        (radio.search air).upstream = none ∧ (radio.search air).discoveryFailures = radio.discoveryFailures + 1) := by
  by_cases hhere : radio.broadcastPeerChannel = channel ∧ radio.homeChannel = channel
  · obtain ⟨hbroadcast, hhome⟩ := hhere
    have hactive : radio.activeRadioChannel = channel := hsound.broadcast.symm.trans hbroadcast
    obtain ⟨upstream, hfound⟩ := discoverUpstreamNode_found hsteady (show SmartRadio.broadcastPeerChannel
      { radio with lastDiscovery := air.now, searches := radio.searches + 1 } = channel from hbroadcast) hhome
    simp only [search, hfound, if_true]
    refine ⟨?_, .inl ?_⟩
    · simp [syncUpstreamPeerChannel, hsteady.upstreamPeerModified, counts]
    · simp [syncUpstreamPeerChannel, hsteady.upstreamPeerModified, Connected, hhome, hactive]
  · have hmissed := discoverUpstreamNode_missed hsteady (show ¬ (SmartRadio.broadcastPeerChannel
      { radio with lastDiscovery := air.now, searches := radio.searches + 1 } = channel ∧ _) from hhere)
    simp only [search, hmissed, Bool.false_eq_true, if_false]
    split_ifs
    · obtain ⟨hconnected, hcounts⟩ := connected_sweep hsteady (mem_sweepChannels hchannel) sweepChannels_bounds
      exact ⟨hcounts, .inl hconnected⟩
    · exact ⟨rfl, .inr ⟨hnone, rfl⟩⟩

end Steady

section Progress

/-- The searches, reports and restarts that may still come to nothing. -/
def searchBudget (radio : SmartRadio) : Nat := if radio.upstream.isNone then 2 - radio.discoveryFailures else 2

/-- How many reports may fail before the Node restarts. -/
def reportBudget (radio : SmartRadio) : Nat :=
  if radio.upstream.isNone then 0 else 3 - radio.consecutiveReportFailures.toNat

/-- How many restarts a Node may still need. -/
def restartBudget (channel : UInt8) (radio : SmartRadio) : Nat :=
  if radio.upstream.isNone ∨ Connected channel radio then 0 else 1

/-- A Node that does not get connected uses up its budgets. -/
structure Progress (channel : UInt8) (before after : SmartRadio) : Prop where
  connected : Connected channel before → Connected channel after
  searches : ¬ Connected channel after → after.searches + after.searchBudget ≤ before.searches + before.searchBudget
  reports : ¬ Connected channel after → after.reports + after.reportBudget ≤ before.reports + before.reportBudget
  restarts : after.restarts + after.restartBudget channel ≤ before.restarts + before.restartBudget channel

variable {radio before mid after : SmartRadio} {air : Air} {channel : UInt8}

/-- Doing nothing is progress of no steps. -/
theorem Progress.refl (radio : SmartRadio) : Progress channel radio radio :=
  ⟨id, fun _ => Nat.le_refl _, fun _ => Nat.le_refl _, Nat.le_refl _⟩

/-- Progress adds up. -/
theorem Progress.trans (hfirst : Progress channel before mid) (hsecond : Progress channel mid after) :
    Progress channel before after where
  connected hconnected := hsecond.connected (hfirst.connected hconnected)
  searches hafter := Nat.le_trans (hsecond.searches hafter) (hfirst.searches (mt hsecond.connected hafter))
  reports hafter := Nat.le_trans (hsecond.reports hafter) (hfirst.reports (mt hsecond.connected hafter))
  restarts := Nat.le_trans hsecond.restarts hfirst.restarts

/-- At most one restart is needed. -/
theorem restartBudget_le_one (channel : UInt8) (radio : SmartRadio) : radio.restartBudget channel ≤ 1 := by
  rw [restartBudget]
  split_ifs <;> decide

/-- A Node without an upstream is not connected. -/
theorem not_connected_of_none (hnone : radio.upstream = none) : ¬ Connected channel radio := by
  rintro ⟨-, hupstream⟩
  rw [hnone] at hupstream
  cases hupstream

/-- A search makes progress on steady air. Needs that the Node has no upstream. -/
theorem progress_search (hsteady : Steady channel air) (hchannel : 1 ≤ channel ∧ channel ≤ 13) (hsound : Sound radio)
    (hnone : radio.upstream = none) : Progress channel radio (radio.search air) := by
  obtain ⟨hcounts, hfound⟩ := search_steady hsteady hchannel hsound hnone
  obtain ⟨hsearches, hreports, hrestarts⟩ : (radio.search air).searches = radio.searches + 1 ∧
      (radio.search air).reports = radio.reports ∧ (radio.search air).restarts = radio.restarts := by
    simpa [counts] using hcounts
  refine ⟨fun hconnected => absurd hconnected (not_connected_of_none hnone), fun hmissed => ?_, fun hmissed => ?_, ?_⟩
  · obtain ⟨hafter, hfailures⟩ := hfound.resolve_left hmissed
    have hbound := (hsound.search air).discoveryFailures
    rw [searchBudget, searchBudget, hafter, hnone, hsearches, hfailures]
    rw [hfailures, DISCOVERY_FAILURES_BEFORE_SWEEP] at hbound
    simp only [Option.isNone_none, if_true]
    omega
  · obtain ⟨hafter, -⟩ := hfound.resolve_left hmissed
    rw [reportBudget, hafter, hreports]
    exact Nat.le_add_right _ _
  · have hbudget : (radio.search air).restartBudget channel = 0 := by
      rw [restartBudget, if_pos]
      obtain hconnected | ⟨hafter, -⟩ := hfound
      · exact .inr hconnected
      · exact .inl (hafter ▸ rfl)
    rw [hbudget, hrestarts]
    exact Nat.le_add_right _ _

/-- A Node that is not on the channel of the network, or whose peer is not, reports in vain. -/
theorem reportsDelivered_steady (hsteady : Steady channel air) :
    radio.reportsDelivered air = true ↔ Connected channel radio := by
  unfold reportsDelivered Connected
  cases hupstream : radio.upstream with
  | none => simp
  | some upstream =>
    simp only [Bool.and_eq_true, decide_eq_true_eq, hsteady.acknowledges, Option.map_some, Option.some.injEq]
    constructor
    · rintro ⟨hpeer, hhome⟩
      exact ⟨hhome, hpeer.trans hhome⟩
    · rintro ⟨hhome, hpeer⟩
      exact ⟨hpeer.trans hhome.symm, hhome⟩

/-- A report makes progress on steady air. -/
theorem progress_report (hsteady : Steady channel air) (hsound : Sound radio) :
    Progress channel radio (radio.report air) := by
  have hbound : radio.consecutiveReportFailures.toNat < 3 := UInt8.lt_iff_toNat_lt.mp hsound.reportFailures
  have hsteps : (radio.consecutiveReportFailures + 1).toNat = radio.consecutiveReportFailures.toNat + 1 := by
    rw [UInt8.toNat_add]
    exact Nat.mod_eq_of_lt (Nat.lt_trans (Nat.succ_lt_succ hbound) (by decide))
  have hdelivers := @reportsDelivered_steady { radio with lastReport := air.now, reports := radio.reports + 1 } air
    channel hsteady
  simp only [report]
  split_ifs with hnone hdelivered hrestart
  · exact ⟨id, fun _ => Nat.le_refl _, fun _ => Nat.le_refl _, Nat.le_refl _⟩
  · have hconnected : Connected channel radio := hdelivers.mp hdelivered
    exact ⟨id, fun hmissed => absurd hconnected hmissed, fun hmissed => absurd hconnected hmissed, Nat.le_refl _⟩
  · have hmissed : ¬ Connected channel radio := mt hdelivers.mpr hdelivered
    refine ⟨fun hconnected => absurd hconnected hmissed, fun _ => ?_, fun _ => ?_, ?_⟩
    · rw [searchBudget, searchBudget, if_neg hnone]
      exact Nat.le_refl _
    · rw [reportBudget, reportBudget, if_neg hnone]
      change radio.reports + 1 + 0 ≤ _
      omega
    · rw [restartBudget, restartBudget, if_neg (not_or.mpr ⟨hnone, hmissed⟩)]
      exact Nat.le_refl _
  · refine ⟨id, fun _ => Nat.le_refl _, fun _ => ?_, Nat.le_refl _⟩
    rw [reportBudget, reportBudget, if_neg hnone, if_neg hnone, hsteps]
    change radio.reports + 1 + _ ≤ _
    omega

/-- A turn of the loop makes progress on steady air, whatever it does. -/
theorem progress_next (hsteady : Steady channel air) (hchannel : 1 ≤ channel ∧ channel ≤ 13) (hsound : Sound radio) :
    Progress channel radio (radio.next air) := by
  simp only [SmartRadio.next]
  by_cases hsearch : radio.upstream.isNone ∧ DISCOVERY_RETRY_PERIOD_TICKS ≤ air.now - radio.lastDiscovery
  · rw [if_pos hsearch]
    have hsearched := progress_search hsteady hchannel hsound (Option.isNone_iff_eq_none.mp hsearch.1)
    split_ifs
    · exact hsearched.trans (progress_report hsteady (hsound.search air))
    · exact hsearched
  · rw [if_neg hsearch]
    split_ifs
    · exact progress_report hsteady hsound
    · exact .refl radio

end Progress

/-- Whatever happened before: once the network stays on a channel and the driver works, a Node that is
connected stays so. Any other restarts at most once for its reports, and is connected after its third
search or its fourth report at the latest. `hsince` needs both for as long as the run lasts; a
`FACTORY_RESET_COMMAND` in between, whose restart is not counted, is left out. -/
theorem search_settles {bootTicks : UInt32} {before since : List Air} {start last : SmartRadio} {channel : UInt8}
    (hchannel : 1 ≤ channel ∧ channel ≤ 13)
    (hbefore : Run (fun radio air after => after = radio.next air) (boot bootTicks 0 0 0) before start)
    (hsince : Run (fun radio air after => Steady channel air ∧ after = radio.next air) start since last) :
    (Connected channel start → Connected channel last) ∧ last.restarts ≤ start.restarts + 1 ∧
      (Connected channel last ∨ last.searches ≤ start.searches + 2 ∧ last.reports ≤ start.reports + 3) := by
  have hstart : Sound start := by
    refine hbefore.invariant (fun radio air after hsound hnext => ?_) (sound_boot bootTicks 0 0 0)
    exact hnext ▸ hsound.next air
  have hpreserved : ∀ radio air after, Sound radio ∧ Progress channel start radio →
      Steady channel air ∧ after = radio.next air → Sound after ∧ Progress channel start after := by
    rintro radio air after ⟨hsound, hprogress⟩ ⟨hsteady, rfl⟩
    exact ⟨hsound.next air, hprogress.trans (progress_next hsteady hchannel hsound)⟩
  have hprogress := (hsince.invariant hpreserved ⟨hstart, .refl start⟩).2
  refine ⟨hprogress.connected, ?_, ?_⟩
  · have hbudget := restartBudget_le_one channel start
    have hrestarts := hprogress.restarts
    omega
  · by_cases hconnected : Connected channel last
    · exact .inl hconnected
    · have hsearches := hprogress.searches hconnected
      have hreports := hprogress.reports hconnected
      have hsearchBudget : start.searchBudget ≤ 2 := by
        rw [searchBudget]
        split_ifs <;> omega
      have hreportBudget : start.reportBudget ≤ 3 := by
        rw [reportBudget]
        split_ifs <;> omega
      exact .inr ⟨by omega, by omega⟩

/-- Air in which an upstream Node is heard on one channel only. -/
def onChannel (channel : UInt8) (now : UInt32) : Air where
  now
  heard other := if other = channel then some (Vector.replicate 6 1) else none
  switches _ := ⟨true, true, true⟩
  upstreamPeerModified := true
  acknowledges other := other = channel
  bootTicks := 0

/-- Such air is steady. -/
theorem steady_onChannel (channel : UInt8) (now : UInt32) : Steady channel (onChannel channel now) where
  heard other := by
    by_cases hother : other = channel <;> simp [onChannel, hother]
  acknowledges other := decide_eq_true_iff
  switches _ := rfl
  upstreamPeerModified := rfl

/-- Central moves to channel 11: three reports are lost, and after the restart three searches find it. -/
def moved : List Air :=
  [onChannel 11 400, onChannel 11 600, onChannel 11 800, onChannel 11 200, onChannel 11 400, onChannel 11 600]

/-- The Node after it has found its upstream on channel 7. -/
def found : SmartRadio := [onChannel 7 200].foldl next (boot 0 0 0 0)

/-- The upstream moves from channel 7 to channel 11, and the Node follows with at most one restart. -/
theorem search_settles_moved : Connected 7 found ∧ Connected 11 (moved.foldl next found) ∧
    (moved.foldl next found).restarts ≤ found.restarts + 1 := by
  have hsteady : ∀ air ∈ moved, Steady 11 air := by
    simp only [moved, List.forall_mem_cons]
    exact ⟨steady_onChannel .., steady_onChannel .., steady_onChannel .., steady_onChannel .., steady_onChannel ..,
      steady_onChannel .., List.forall_mem_nil _⟩
  have hbefore : Run (fun radio air after => after = next radio air) (boot 0 0 0 0) [onChannel 7 200] found :=
    .snoc (.nil _) rfl
  have hsince : Run (fun radio air after => Steady 11 air ∧ after = next radio air) found moved (moved.foldl next found) :=
    Run.of_foldl_mem (fun air hair _ => ⟨hsteady air hair, rfl⟩) found
  exact ⟨by decide +kernel, by decide +kernel, (search_settles (by decide) hbefore hsince).2.1⟩

end SmartRadio

end kilowatts.ChannelSearch
