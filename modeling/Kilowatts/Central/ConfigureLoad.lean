import Kilowatts.Central.Routing
import Kilowatts.NodeManager.HardwareConfigurationPackets
import Kilowatts.NodeManager.NodeCommissioningRegistry

namespace kilowatts

/-- The part of `ConfigCommandRequest` that belongs to CONFIGURE_LOAD. -/
structure ConfigCommandRequest where
  commandId : UInt32
  nodeMacAddress : MacAddress
  hasLoadConfiguration : Bool
  loadName : CharBuffer 16
  relayPin : UInt8
  relayActiveHigh : Bool
  mode : LoadMode
  priority : UInt16
  powerType : LoadPowerType
  powerRatingWatts : CFloat
  schedule : AutoSchedule
deriving DecidableEq

/-- What the CONFIGURE_LOAD branch does with a request: it refuses it with a
reason, configures a Load of Central, or sends a packet on its way. -/
inductive ConfigureLoadAction where
  | refuse (reason : String)
  | configureLocally (configuration : LoadConfiguration)
  | send (nextHop : MacAddress) (packet : ConfigureLoadCommandPacket)
deriving DecidableEq

namespace ConfigCommandRequest

/-- What a request must be: a name that fits, a usable rating, a priority up to
10, a declared mode and power type, and a schedule that a load accepts. -/
def isValid (request : ConfigCommandRequest) : Bool :=
  request.hasLoadConfiguration && 0 < request.loadName.boundedLength && request.loadName.boundedLength < 16 &&
    LoadReportPacket.validPowerRating request.powerRatingWatts && request.priority ≤ 10 && request.mode.isDeclared &&
    request.powerType.isDeclared && request.schedule.isValidSchedule

/-- The configuration a request asks for, as Central builds it for its own loads. -/
def loadConfiguration (request : ConfigCommandRequest) : LoadConfiguration where
  name := LoadConfiguration.zero.name.print request.loadName.text
  relayPin := request.relayPin
  relayActiveHigh := request.relayActiveHigh
  powerRatingWatts := request.powerRatingWatts
  powerType := request.powerType
  mode := request.mode
  priority := request.priority
  schedule := request.schedule

/-- The packet for a Smart Node. Nothing is assigned to the end of the window. -/
def configureLoadCommandPacket (request : ConfigCommandRequest) : ConfigureLoadCommandPacket :=
  { ConfigureLoadCommandPacket.zero with
    commandId := request.commandId
    loadName := ConfigureLoadCommandPacket.zero.loadName.print request.loadName.text
    relayPin := request.relayPin
    relayActiveHigh := if request.relayActiveHigh then 1 else 0
    mode := request.mode.toByte
    powerType := request.powerType.toByte
    priority := request.priority
    powerRatingWatts := request.powerRatingWatts
    scheduleEnabled := if request.schedule.enabled then 1 else 0
    scheduleStartHour := request.schedule.startHour
    scheduleStartMinute := request.schedule.startMinute }

end ConfigCommandRequest

/-- The CONFIGURE_LOAD branch of `handleConfigCommand`, up to the store or the
radio. `stateTaken` tells whether `stateMutex` was obtained in time. -/
def handleConfigureLoad (localMac : MacAddress) (registry : CentralNodeRegistry)
    (commissioningRegistry : NodeCommissioningRegistry) (stateTaken : Bool) (request : ConfigCommandRequest) :
    ConfigureLoadAction :=
  if !request.hasLoadConfiguration then .refuse "loadConfiguration required"
  else if request.nodeMacAddress = localMac then
    if !stateTaken then .refuse "state is busy" else .configureLocally request.loadConfiguration
  else if !stateTaken then .refuse "state is busy"
  else if !commissioningRegistry.isCommissionedSmartNode request.nodeMacAddress then
    .refuse "Smart Node is not commissioned"
  else
    match registry.findNextHopFromCentral localMac request.nodeMacAddress with
    | none => .refuse "no ESP-NOW route to Smart Node"
    | some nextHop => .send nextHop request.configureLoadCommandPacket

/-- A request is refused, or what it asks for is configured or sent. -/
theorem handleConfigureLoad_cases (localMac : MacAddress) (registry : CentralNodeRegistry)
    (commissioningRegistry : NodeCommissioningRegistry) (stateTaken : Bool) (request : ConfigCommandRequest) :
    (∃ reason, handleConfigureLoad localMac registry commissioningRegistry stateTaken request = .refuse reason) ∨
      handleConfigureLoad localMac registry commissioningRegistry stateTaken request =
        .configureLocally request.loadConfiguration ∨
      ∃ nextHop, handleConfigureLoad localMac registry commissioningRegistry stateTaken request =
        .send nextHop request.configureLoadCommandPacket := by
  unfold handleConfigureLoad
  split
  · exact .inl ⟨_, rfl⟩
  split
  · split
    · exact .inl ⟨_, rfl⟩
    · exact .inr (.inl rfl)
  split
  · exact .inl ⟨_, rfl⟩
  split
  · exact .inl ⟨_, rfl⟩
  split
  · exact .inl ⟨_, rfl⟩
  · exact .inr (.inr ⟨_, rfl⟩)

section Actions

variable {localMac : MacAddress} {registry : CentralNodeRegistry} {commissioningRegistry : NodeCommissioningRegistry}
  {stateTaken : Bool} {request : ConfigCommandRequest}

/-- What is configured on Central's own pins is what was asked for. -/
theorem handleConfigureLoad_configuration {configuration : LoadConfiguration}
    (haction : handleConfigureLoad localMac registry commissioningRegistry stateTaken request =
      .configureLocally configuration) : configuration = request.loadConfiguration := by
  obtain ⟨reason, hrefuse⟩ | hlocal | ⟨nextHop, hsend⟩ :=
    handleConfigureLoad_cases localMac registry commissioningRegistry stateTaken request
  · rw [hrefuse] at haction
    cases haction
  · exact (ConfigureLoadAction.configureLocally.inj (hlocal.symm.trans haction)).symm
  · rw [hsend] at haction
    cases haction

/-- What is sent to a Node is the packet of the request, whatever the route. -/
theorem handleConfigureLoad_packet {nextHop : MacAddress} {packet : ConfigureLoadCommandPacket}
    (haction : handleConfigureLoad localMac registry commissioningRegistry stateTaken request = .send nextHop packet) :
    packet = request.configureLoadCommandPacket := by
  obtain ⟨reason, hrefuse⟩ | hlocal | ⟨hop, hsend⟩ :=
    handleConfigureLoad_cases localMac registry commissioningRegistry stateTaken request
  · rw [hrefuse] at haction
    cases haction
  · rw [hlocal] at haction
    cases haction
  · exact (ConfigureLoadAction.send.inj (hsend.symm.trans haction)).2.symm

end Actions

namespace ConfigureLoadCommandPacket

/-- The configuration that `applyConfigureLoadCommand` of a Smart Node builds. -/
def loadConfiguration (command : ConfigureLoadCommandPacket) : LoadConfiguration where
  name := LoadConfiguration.zero.name.print command.loadName.text
  relayPin := command.relayPin
  relayActiveHigh := command.relayActiveHigh != 0
  powerRatingWatts := command.powerRatingWatts
  powerType := .ofByte command.powerType
  mode := .ofByte command.mode
  priority := command.priority
  schedule := .make (command.scheduleEnabled != 0) command.scheduleStartHour command.scheduleStartMinute
    command.scheduleEndHour command.scheduleEndMinute

end ConfigureLoadCommandPacket

namespace ConfigCommandRequest

/-- Everything survives the packet except the end of the window, which arrives as
00:00. The request need not be valid. -/
theorem loadConfiguration_configureLoadCommandPacket (request : ConfigCommandRequest) :
    request.configureLoadCommandPacket.loadConfiguration =
      { request.loadConfiguration with
        schedule := .make request.schedule.enabled request.schedule.startHour request.schedule.startMinute 0 0 } := by
  have hname : LoadConfiguration.zero.name.print request.configureLoadCommandPacket.loadName.text =
      LoadConfiguration.zero.name.print request.loadName.text :=
    CharBuffer.print_print_text (by decide) request.loadName.zero_notMem_text
  have hbyte : ∀ flag : Bool, ((if flag then 1 else 0 : UInt8) != 0) = flag := by decide
  rw [ConfigureLoadCommandPacket.loadConfiguration, hname]
  simp only [configureLoadCommandPacket, loadConfiguration, hbyte, LoadMode.ofByte_toByte, LoadPowerType.ofByte_toByte]
  rfl

end ConfigCommandRequest

namespace AutoSchedule

/-- A schedule without its end is the same one exactly if it has no end to lose. -/
theorem make_without_end_eq_iff (schedule : AutoSchedule) :
    make schedule.enabled schedule.startHour schedule.startMinute 0 0 = schedule ↔
      schedule.enabled = false ∨ schedule.endHour = 0 ∧ schedule.endMinute = 0 := by
  cases henabled : schedule.enabled with
  | false =>
    rw [make_false, eq_none_of_disabled henabled]
    simp
  | true =>
    constructor
    · intro hsame
      rw [← hsame]
      simp [make]
    · rintro (hdisabled | ⟨hhour, hminute⟩)
      · exact absurd hdisabled (by simp)
      · have hself := schedule.make_self
        rw [henabled, hhour, hminute] at hself
        exact hself

end AutoSchedule

/-- A Smart Node rebuilds the configuration that was requested exactly if the schedule is disabled or its
window ends at 00:00. Needs only that Central sends the packet: nothing is assumed about the other fields of
the request or about the route. -/
theorem configureLoad_roundTrip_iff {localMac : MacAddress} {registry : CentralNodeRegistry}
    {commissioningRegistry : NodeCommissioningRegistry} {stateTaken : Bool} {request : ConfigCommandRequest}
    {nextHop : MacAddress} {packet : ConfigureLoadCommandPacket}
    (hsend : handleConfigureLoad localMac registry commissioningRegistry stateTaken request = .send nextHop packet) :
    packet.loadConfiguration = request.loadConfiguration ↔
      request.schedule.enabled = false ∨ request.schedule.endHour = 0 ∧ request.schedule.endMinute = 0 := by
  have hpacket := handleConfigureLoad_packet hsend
  rw [hpacket, request.loadConfiguration_configureLoadCommandPacket, ← request.schedule.make_without_end_eq_iff]
  constructor
  · intro hsame
    exact congrArg LoadConfiguration.schedule hsame
  · intro hschedule
    rw [hschedule]
    rfl

section Runs

/-- A commissioned Smart Node one hop from Central. -/
def oneHopRegistry : CentralNodeRegistry where
  planningNodes := [
    { node := .make (Vector.replicate 6 2)
      nodeName := [83]
      nextHopToCentralMacAddress := Vector.replicate 6 1
      hopCountToCentral := 1
      isCentralNode := false
      lastSeenMilliseconds := 0
      pendingReport := .none }]
  macs_nodup := by simp

def oneHopCommissioning : NodeCommissioningRegistry := ⟨[⟨Vector.replicate 6 2, .SMART, .OPERATIONAL⟩]⟩

/-- A pump that prefers to run in the given window. -/
def pumpRequest (schedule : AutoSchedule) : ConfigCommandRequest where
  commandId := 1
  nodeMacAddress := Vector.replicate 6 2
  hasLoadConfiguration := true
  loadName := CharBuffer.zero.print [80, 117, 109, 112]
  relayPin := 4
  relayActiveHigh := true
  mode := .AUTO_OFF
  priority := 5
  powerType := .AC
  powerRatingWatts := .finite 60
  schedule

theorem configureLoad_roundTrip_iff_evening :
    (pumpRequest (.make true 22 0 0 0)).configureLoadCommandPacket.loadConfiguration =
      (pumpRequest (.make true 22 0 0 0)).loadConfiguration := by
  have hsend : handleConfigureLoad (Vector.replicate 6 1) oneHopRegistry oneHopCommissioning true
      (pumpRequest (.make true 22 0 0 0)) =
      .send (Vector.replicate 6 2) (pumpRequest (.make true 22 0 0 0)).configureLoadCommandPacket := by
    decide +kernel
  exact (configureLoad_roundTrip_iff hsend).mpr (.inr ⟨rfl, rfl⟩)

/-- A valid request for 08:00 to 17:00 is sent, and arrives as 08:00 to 00:00. -/
theorem configureLoad_loses_window_end :
    (pumpRequest (.make true 8 0 17 0)).isValid = true ∧
    handleConfigureLoad (Vector.replicate 6 1) oneHopRegistry oneHopCommissioning true
        (pumpRequest (.make true 8 0 17 0)) =
      .send (Vector.replicate 6 2) (pumpRequest (.make true 8 0 17 0)).configureLoadCommandPacket ∧
    (pumpRequest (.make true 8 0 17 0)).configureLoadCommandPacket.loadConfiguration ≠
      (pumpRequest (.make true 8 0 17 0)).loadConfiguration := by
  decide +kernel

end Runs

end kilowatts
