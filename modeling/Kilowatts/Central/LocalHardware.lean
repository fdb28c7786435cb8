import Kilowatts.Central.ConfigureLoad
import Kilowatts.Central.LoadCommand
import Kilowatts.Library.Run
import Kilowatts.NodeManager.NodeLoadHardwareStore

namespace kilowatts

open HardwareConfigurationFailureReason NodeHardware

/-- `CentralNodeConfig::CENTRAL_NODE_NAME`. -/
def CENTRAL_NODE_NAME : List UInt8 := [67, 101, 110, 116, 114, 97, 108]

/-- The Loads that are wired to Central, and what the load commands work on. -/
structure CentralRuntime where
  hardware : NodeHardware
  commandState : LoadCommandState

namespace CentralRuntime

/-- The local branch of CONFIGURE_LOAD under `stateMutex`. -/
def configureLocalLoad (answers : ConfigureAnswers) (nowMilliseconds : UInt32) (configuration : LoadConfiguration)
    (runtime : CentralRuntime) : CentralRuntime × CommandResult :=
  let (hardware, reason) := runtime.hardware.configureNewLoad answers configuration
  if reason ≠ NONE then ({ runtime with hardware }, ⟨false, false, reason.text⟩)
  else
    ({ hardware
       commandState := { runtime.commandState with
        registry := runtime.commandState.registry.addLocalCentralNode CENTRAL_NODE_NAME hardware.node nowMilliseconds } },
      ⟨true, true, "Central Load configured"⟩)

/-- The local branch of REMOVE_LOAD under `stateMutex`. The answers of the flash for
the stored settings are not looked at. -/
def removeLocalLoad (localMac : MacAddress) (answers : RemoveAnswers) (settingsFlash : FlashAnswers)
    (nowMilliseconds : UInt32) (relayPin : UInt8) (runtime : CentralRuntime) : CentralRuntime × CommandResult :=
  let (hardware, reason) := runtime.hardware.removeLoad answers relayPin
  if reason ≠ NONE then ({ runtime with hardware }, ⟨false, false, reason.text⟩)
  else
    let store := runtime.commandState.centralLoadConfigurationStore
    ({ hardware
       commandState := { runtime.commandState with
        registry := runtime.commandState.registry.addLocalCentralNode CENTRAL_NODE_NAME hardware.node nowMilliseconds
        centralLoadConfigurationStore :=
          ({ store with memory := (store.memory.removeConfiguration localMac relayPin).1 }.persist settingsFlash).1 } },
      ⟨true, true, "Central Load removed"⟩)

/-- What Central does at a boot: the pins of the store are set up, and the node is copied to the
registry. -/
def configureLocalHardware (localMac : MacAddress) (answers : UInt8 → GpioAnswers) (nowMilliseconds : UInt32)
    (runtime : CentralRuntime) : CentralRuntime :=
  let (store, loaded) := NodeLoadHardwareStore.loadPersisted runtime.hardware.store
  let hardware : NodeHardware := { runtime.hardware with store, node := .make localMac }
  let hardware := if loaded then (hardware.applyPersistedConfigurations answers).1 else hardware
  { hardware
    commandState := { runtime.commandState with
      registry := runtime.commandState.registry.addLocalCentralNode CENTRAL_NODE_NAME hardware.node nowMilliseconds } }

/-- What a restart leaves: the flash, and the persisted commissioning records. -/
def restarted (runtime : CentralRuntime) : CentralRuntime where
  hardware := ⟨⟨.empty, runtime.hardware.store.flash⟩, .empty, .make runtime.hardware.node.macAddress⟩
  commandState := { runtime.commandState with
    registry := .empty
    centralLoadConfigurationStore := ⟨⟨[]⟩, runtime.commandState.centralLoadConfigurationStore.flash⟩ }

/-- `CentralApplication::runApp`: the stored settings are loaded once the GPIOs are
driven already. -/
def runApp (localMac : MacAddress) (answers : UInt8 → GpioAnswers) (nowMilliseconds : UInt32)
    (runtime : CentralRuntime) : CentralRuntime :=
  let booted := runtime.restarted.configureLocalHardware localMac answers nowMilliseconds
  let store := booted.commandState.centralLoadConfigurationStore.reload
  { booted with
    commandState := { booted.commandState with
      registry := Central.applyStoredLoadSettings store.memory booted.commandState.registry
      centralLoadConfigurationStore := store } }

end CentralRuntime

/-- What happens at Central: a load command is accepted, Central reboots, or anything
else that leaves the stored Loads as they are. -/
inductive CentralEvent where
  | configureLoad (request : ConfigCommandRequest) (answers : ConfigureAnswers) (nowMilliseconds : UInt32)
  | loadCommand (request : LoadCommandRequest) (answers : FlashAnswers)
  | removeLoad (relayPin : UInt8) (answers : RemoveAnswers) (settingsFlash : FlashAnswers) (nowMilliseconds : UInt32)
  | reboot (answers : UInt8 → GpioAnswers) (nowMilliseconds : UInt32)
  | other

/-- The events that were accepted, with what they leave. -/
inductive AcceptedStep (localMac : MacAddress) : CentralRuntime → CentralEvent → CentralRuntime → Prop where
  | configureLoad {before : CentralRuntime} {request : ConfigCommandRequest} {configuration : LoadConfiguration}
      {answers : ConfigureAnswers} {nowMilliseconds : UInt32}
      (haction : handleConfigureLoad localMac before.commandState.registry before.commandState.commissioningRegistry
        true request = .configureLocally configuration)
      (haccepted : (before.configureLocalLoad answers nowMilliseconds configuration).2.accepted = true) :
      AcceptedStep localMac before (.configureLoad request answers nowMilliseconds)
        (before.configureLocalLoad answers nowMilliseconds configuration).1
  | loadCommand {before : CentralRuntime} {request : LoadCommandRequest} {answers : FlashAnswers}
      (haccepted : (before.commandState.handleLoadCommand localMac true answers request).2.accepted = true) :
      AcceptedStep localMac before (.loadCommand request answers)
        { before with commandState := (before.commandState.handleLoadCommand localMac true answers request).1 }
  | removeLoad {before : CentralRuntime} {relayPin : UInt8} {answers : RemoveAnswers} {settingsFlash : FlashAnswers}
      {nowMilliseconds : UInt32}
      (haccepted : (before.removeLocalLoad localMac answers settingsFlash nowMilliseconds relayPin).2.accepted = true) :
      AcceptedStep localMac before (.removeLoad relayPin answers settingsFlash nowMilliseconds)
        (before.removeLocalLoad localMac answers settingsFlash nowMilliseconds relayPin).1
  | reboot {before : CentralRuntime} {answers : UInt8 → GpioAnswers} {nowMilliseconds : UInt32} :
      AcceptedStep localMac before (.reboot answers nowMilliseconds) (before.runApp localMac answers nowMilliseconds)
  | other {before after : CentralRuntime} (hstore : after.hardware.store = before.hardware.store) :
      AcceptedStep localMac before .other after

namespace CentralEvent

/-- The mode that the Load of a pin was configured with, after the event. -/
def configuredMode (relayPin : UInt8) (previous : Option LoadMode) : CentralEvent → Option LoadMode
  | .configureLoad request _ _ => if relayPin = request.relayPin then some request.mode else previous
  | .removeLoad removed _ _ _ => if relayPin = removed then none else previous
  | _ => previous

/-- The mode that was last accepted for the Load of a pin, after the event. -/
def acceptedMode (localMac : MacAddress) (relayPin : UInt8) (previous : Option LoadMode) :
    CentralEvent → Option LoadMode
  | .configureLoad request _ _ => if relayPin = request.relayPin then some request.mode else previous
  | .loadCommand request _ =>
    if request.nodeMacAddress = localMac ∧ relayPin = request.relayPin ∧ request.hasMode then some request.mode
    else previous
  | .removeLoad removed _ _ _ => if relayPin = removed then none else previous
  | _ => previous

end CentralEvent

/-- The mode that the load on this pin was configured with, if there is one. -/
def configuredMode (events : List CentralEvent) (relayPin : UInt8) : Option LoadMode :=
  events.foldl (CentralEvent.configuredMode relayPin) none

/-- The same, with the load commands that were accepted since. -/
def lastAcceptedMode (localMac : MacAddress) (events : List CentralEvent) (relayPin : UInt8) : Option LoadMode :=
  events.foldl (CentralEvent.acceptedMode localMac relayPin) none

/-- A relay with this mode begins ON. -/
def SwitchedOn (mode : Option LoadMode) : Prop := mode = some .FIXED_ON ∨ mode = some .AUTO_ON

/-- A relay with this mode begins OFF. -/
def SwitchedOff (mode : Option LoadMode) : Prop := mode = some .FIXED_OFF ∨ mode = some .AUTO_OFF

/-- Whatever the hardware answers, a reboot drives no pin ON whose last accepted mode
is OFF. -/
def BootsSafely (localMac : MacAddress) (events : List CentralEvent) (runtime : CentralRuntime) : Prop :=
  ∀ answers nowMilliseconds relayPin,
    (runtime.restarted.configureLocalHardware localMac answers nowMilliseconds).hardware.relays.DrivenOn relayPin →
      ¬ SwitchedOff (lastAcceptedMode localMac events relayPin)

section Boots

variable {localMac : MacAddress} {before after : CentralRuntime} {event : CentralEvent}

/-- The initial state follows the mode. -/
theorem switchedOn_iff (configuration : LoadConfiguration) :
    SwitchedOn (some configuration.mode) ↔ configuration.initialStateOn = true := by
  simp [SwitchedOn, LoadConfiguration.initialStateOn]

/-- A reboot finds all stored Loads, and tries to apply each of them. -/
theorem configureLocalHardware_hardware (hsound : SoundStore before.hardware.store) (answers : UInt8 → GpioAnswers)
    (nowMilliseconds : UInt32) :
    (before.restarted.configureLocalHardware localMac answers nowMilliseconds).hardware =
      (NodeHardware.applyPersistedConfigurations answers ⟨before.hardware.store, .empty, .make localMac⟩).1 := by
  unfold CentralRuntime.configureLocalHardware CentralRuntime.restarted
  simp only [hsound.loadPersisted, if_true]

theorem runApp_store (localMac : MacAddress) (hsound : SoundStore before.hardware.store) (answers : UInt8 → GpioAnswers)
    (nowMilliseconds : UInt32) :
    (before.runApp localMac answers nowMilliseconds).hardware.store = before.hardware.store := by
  rw [CentralRuntime.runApp]
  dsimp only
  rw [configureLocalHardware_hardware hsound]
  exact applyAll_store answers _ [] _

/-- A reboot drives a pin ON only if its stored Load was configured to be ON. -/
theorem findByRelayPin_of_drivenOn (hsound : SoundStore before.hardware.store) {answers : UInt8 → GpioAnswers}
    {nowMilliseconds : UInt32} {relayPin : UInt8}
    (hdriven : (before.restarted.configureLocalHardware localMac answers nowMilliseconds).hardware.relays.DrivenOn
      relayPin) :
    SwitchedOn ((before.hardware.store.memory.findByRelayPin relayPin).map LoadConfiguration.mode) := by
  obtain ⟨-, hvalid⟩ := NodeLoadHardwareStore.isLoadable_iff.mp hsound.loadable
  rw [configureLocalHardware_hardware hsound] at hdriven
  obtain hbefore | ⟨configuration, hmem, hpin, hon⟩ :=
    applyAll_drivenOn _ _ _ (fun configuration hmem => (hvalid configuration hmem).1) hdriven
  · cases hbefore
  · have hfind : before.hardware.store.memory.findByRelayPin relayPin = some configuration :=
      (KeyedList.lookup_eq_some_iff before.hardware.store.memory.pins_nodup).mpr ⟨hmem, hpin⟩
    rw [hfind]
    exact (switchedOn_iff configuration).mpr hon

/-- A reboot whose hardware answers drives every pin ON whose stored Load was configured
to be ON. -/
theorem drivenOn_of_findByRelayPin (hsound : SoundStore before.hardware.store) (nowMilliseconds : UInt32)
    {relayPin : UInt8}
    (hon : SwitchedOn ((before.hardware.store.memory.findByRelayPin relayPin).map LoadConfiguration.mode)) :
    (before.restarted.configureLocalHardware localMac (fun _ => .succeeding) nowMilliseconds).hardware.relays.DrivenOn
      relayPin := by
  obtain ⟨-, hvalid⟩ := NodeLoadHardwareStore.isLoadable_iff.mp hsound.loadable
  have hanswers : ∀ relayPin : UInt8, (GpioAnswers.succeeding.configured && GpioAnswers.succeeding.written) = true :=
    fun _ => rfl
  have happlied := applyAll_of_free hanswers before.hardware.store.memory.configurations []
    ⟨before.hardware.store, .empty, .make localMac⟩
    (fun configuration hmem => (hvalid configuration hmem).1) before.hardware.store.memory.pins_nodup
    fun _ _ => ⟨rfl, rfl⟩
  rw [configureLocalHardware_hardware hsound]
  refine (happlied.2.2.1 relayPin).mpr (.inr ?_)
  cases hfind : before.hardware.store.memory.findByRelayPin relayPin with
  | none =>
    rw [hfind] at hon
    obtain hmode | hmode := hon
    · cases hmode
    · cases hmode
  | some configuration =>
    rw [hfind] at hon
    obtain ⟨hmem, hpin⟩ := (KeyedList.lookup_eq_some_iff before.hardware.store.memory.pins_nodup).mp hfind
    exact ⟨configuration, hmem, hpin, (switchedOn_iff configuration).mp hon⟩

/-- An accepted configuration of a Load of Central. -/
theorem configureLocalLoad_accepted {answers : ConfigureAnswers} {nowMilliseconds : UInt32}
    {configuration : LoadConfiguration}
    (haccepted : (before.configureLocalLoad answers nowMilliseconds configuration).2.accepted = true) :
    before.hardware.Configurable configuration ∧
      Configured configuration before.hardware
        (before.configureLocalLoad answers nowMilliseconds configuration).1.hardware := by
  unfold CentralRuntime.configureLocalLoad at haccepted ⊢
  obtain ⟨hreason, hconfigurable, -, hconfigured⟩ | ⟨hreason, -⟩ :=
    configureNewLoad_cases answers before.hardware configuration
  · simp only [hreason, ne_eq, not_true, if_false]
    exact ⟨hconfigurable, hconfigured⟩
  · simp [hreason] at haccepted

theorem removeLocalLoad_accepted {answers : RemoveAnswers} {settingsFlash : FlashAnswers} {nowMilliseconds : UInt32}
    {relayPin : UInt8}
    (haccepted : (before.removeLocalLoad localMac answers settingsFlash nowMilliseconds relayPin).2.accepted = true) :
    Removed relayPin before.hardware
      (before.removeLocalLoad localMac answers settingsFlash nowMilliseconds relayPin).1.hardware := by
  unfold CentralRuntime.removeLocalLoad at haccepted ⊢
  obtain ⟨hreason, -, -, hremoved⟩ | ⟨hreason, -⟩ := removeLoad_cases answers before.hardware relayPin
  · simp only [hreason, ne_eq, not_true, if_false]
    exact hremoved
  · simp [hreason] at haccepted

/-- A refused command leaves the loads alone. -/
theorem configureLocalLoad_refused {answers : ConfigureAnswers} {nowMilliseconds : UInt32}
    {configuration : LoadConfiguration}
    (hrefused : (before.configureLocalLoad answers nowMilliseconds configuration).2.accepted = false) :
    (before.configureLocalLoad answers nowMilliseconds configuration).1.hardware.node = before.hardware.node := by
  unfold CentralRuntime.configureLocalLoad at hrefused ⊢
  obtain ⟨hreason, -⟩ | ⟨hreason, -, hsame, -⟩ := configureNewLoad_cases answers before.hardware configuration
  · simp [hreason] at hrefused
  · simp only [hreason, ne_eq, not_false_eq_true, if_true]
    exact hsame.node

/-- A refusal leaves Central as it was. -/
theorem removeLocalLoad_refused {answers : RemoveAnswers} {settingsFlash : FlashAnswers} {nowMilliseconds : UInt32}
    {relayPin : UInt8}
    (hrefused : (before.removeLocalLoad localMac answers settingsFlash nowMilliseconds relayPin).2.accepted = false) :
    (before.removeLocalLoad localMac answers settingsFlash nowMilliseconds relayPin).1.hardware.node =
      before.hardware.node := by
  unfold CentralRuntime.removeLocalLoad at hrefused ⊢
  obtain ⟨hreason, -⟩ | ⟨hreason, -, hsame, -⟩ := removeLoad_cases answers before.hardware relayPin
  · simp [hreason] at hrefused
  · simp only [hreason, ne_eq, not_false_eq_true, if_true]
    exact hsame.node

/-- What a local configuration leaves of the loads and overrides that Central knows. -/
theorem configureLocalLoad_commandState (answers : ConfigureAnswers) (nowMilliseconds : UInt32)
    (configuration : LoadConfiguration) (before : CentralRuntime) :
    (before.configureLocalLoad answers nowMilliseconds configuration).1.commandState =
      if (before.configureLocalLoad answers nowMilliseconds configuration).2.accepted then
        { before.commandState with
          registry := before.commandState.registry.addLocalCentralNode CENTRAL_NODE_NAME
            (before.configureLocalLoad answers nowMilliseconds configuration).1.hardware.node nowMilliseconds }
      else before.commandState := by
  unfold CentralRuntime.configureLocalLoad
  dsimp only
  split
  · rfl
  · rfl

theorem removeLocalLoad_commandState (localMac : MacAddress) (answers : RemoveAnswers) (settingsFlash : FlashAnswers)
    (nowMilliseconds : UInt32) (relayPin : UInt8) (before : CentralRuntime) :
    (before.removeLocalLoad localMac answers settingsFlash nowMilliseconds relayPin).1.commandState =
      if (before.removeLocalLoad localMac answers settingsFlash nowMilliseconds relayPin).2.accepted then
        let store := before.commandState.centralLoadConfigurationStore
        { before.commandState with
          registry := before.commandState.registry.addLocalCentralNode CENTRAL_NODE_NAME
            (before.removeLocalLoad localMac answers settingsFlash nowMilliseconds relayPin).1.hardware.node
            nowMilliseconds
          centralLoadConfigurationStore :=
            ({ store with memory := (store.memory.removeConfiguration localMac relayPin).1 }.persist settingsFlash).1 }
      else before.commandState := by
  unfold CentralRuntime.removeLocalLoad
  dsimp only
  split
  · rfl
  · rfl

/-- Accepted events never put two loads on a pin. -/
theorem AcceptedStep.soundStore (hstep : AcceptedStep localMac before event after)
    (hsound : SoundStore before.hardware.store) : SoundStore after.hardware.store := by
  cases hstep with
  | configureLoad haction haccepted =>
    obtain ⟨hconfigurable, hconfigured⟩ := configureLocalLoad_accepted haccepted
    exact hsound.of_configured hconfigurable hconfigured
  | loadCommand haccepted => exact hsound
  | removeLoad haccepted => exact hsound.of_removed (removeLocalLoad_accepted haccepted)
  | @reboot answers nowMilliseconds =>
    rw [runApp_store localMac hsound answers nowMilliseconds]
    exact hsound
  | other hstore => exact hstore ▸ hsound

/-- A stored Load keeps the mode that it was configured with. -/
theorem AcceptedStep.findByRelayPin (hstep : AcceptedStep localMac before event after)
    (hsound : SoundStore before.hardware.store) (relayPin : UInt8) :
    (after.hardware.store.memory.findByRelayPin relayPin).map LoadConfiguration.mode =
      event.configuredMode relayPin
        ((before.hardware.store.memory.findByRelayPin relayPin).map LoadConfiguration.mode) := by
  cases hstep with
  | configureLoad haction haccepted =>
    obtain ⟨hconfigurable, hconfigured⟩ := configureLocalLoad_accepted haccepted
    rw [hconfigured.findByRelayPin hconfigurable, handleConfigureLoad_configuration haction]
    exact apply_ite _ _ _ _
  | loadCommand haccepted => rfl
  | removeLoad haccepted =>
    rw [(removeLocalLoad_accepted haccepted).findByRelayPin]
    exact apply_ite _ _ _ _
  | @reboot answers nowMilliseconds =>
    rw [runApp_store localMac hsound answers nowMilliseconds]
    rfl
  | other hstore =>
    rw [hstore]
    rfl

/-- The stored Loads after a run from a new Central. -/
theorem run_findByRelayPin {start last : CentralRuntime} {events : List CentralEvent}
    (hnew : start.hardware.store = ⟨.empty, .empty⟩) (hrun : Run (AcceptedStep localMac) start events last) :
    SoundStore last.hardware.store ∧ ∀ relayPin,
      (last.hardware.store.memory.findByRelayPin relayPin).map LoadConfiguration.mode =
        configuredMode events relayPin := by
  induction hrun with
  | nil =>
    rw [hnew]
    exact ⟨⟨rfl, rfl⟩, fun relayPin => rfl⟩
  | @snoc _ _ path _ _ hstep ih =>
    obtain ⟨hsound, hmode⟩ := ih
    refine ⟨hstep.soundStore hsound, fun relayPin => ?_⟩
    rw [hstep.findByRelayPin hsound, hmode, configuredMode, configuredMode, List.foldl_append]
    rfl

/-- A reboot after any accepted commands is safe exactly if no Load that was configured to be ON was last
switched OFF. Needs an empty store at the start. -/
theorem boots_safely_iff {start last : CentralRuntime} {events : List CentralEvent}
    (hnew : start.hardware.store = ⟨.empty, .empty⟩) (hrun : Run (AcceptedStep localMac) start events last) :
    BootsSafely localMac events last ↔
      ∀ relayPin, SwitchedOff (lastAcceptedMode localMac events relayPin) →
        ¬ SwitchedOn (configuredMode events relayPin) := by
  obtain ⟨hsound, hmode⟩ := run_findByRelayPin hnew hrun
  constructor
  · intro hsafe relayPin hoff hon
    rw [← hmode] at hon
    exact hsafe _ 0 relayPin (drivenOn_of_findByRelayPin hsound 0 hon) hoff
  · intro hcondition answers nowMilliseconds relayPin hdriven hoff
    have hon := findByRelayPin_of_drivenOn hsound hdriven
    rw [hmode] at hon
    exact hcondition relayPin hoff hon

end Boots

section Runs

/-- A new Central. -/
def newCentral : CentralRuntime where
  hardware := ⟨⟨.empty, .empty⟩, .empty, .make (Vector.replicate 6 1)⟩
  commandState := ⟨.empty, ⟨[]⟩, ⟨⟨[]⟩, ⟨[]⟩⟩⟩

/-- A heater on pin 4. -/
def heaterRequest (mode : LoadMode) : ConfigCommandRequest where
  commandId := 1
  nodeMacAddress := Vector.replicate 6 1
  hasLoadConfiguration := true
  loadName := LoadConfiguration.zero.name.print [72, 101, 97, 116]
  relayPin := 4
  relayActiveHigh := true
  mode
  priority := 5
  powerType := .AC
  powerRatingWatts := .finite 800
  schedule := .none

def heaterMode (mode : LoadMode) : LoadCommandRequest where
  nodeMacAddress := Vector.replicate 6 1
  relayPin := 4
  hasPriority := false
  priority := 0
  hasMode := true
  mode
  hasSchedule := false
  schedule := .none

/-- The heater is configured to be `configured` and then switched to `requested`. -/
def heaterEvents (configured requested : LoadMode) : List CentralEvent :=
  [.configureLoad (heaterRequest configured) .succeeding 0, .loadCommand (heaterMode requested) .succeeding]

def heaterConfigured (mode : LoadMode) : CentralRuntime :=
  (newCentral.configureLocalLoad .succeeding 0 (heaterRequest mode).loadConfiguration).1

def heaterSwitched (configured requested : LoadMode) : CentralRuntime :=
  { heaterConfigured configured with
    commandState := ((heaterConfigured configured).commandState.handleLoadCommand (Vector.replicate 6 1) true .succeeding
      (heaterMode requested)).1 }

/-- A heater that was configured to be OFF stays OFF at a reboot after it was left to
the planner. -/
theorem boots_safely_iff_heater :
    Run (AcceptedStep (Vector.replicate 6 1)) newCentral (heaterEvents .FIXED_OFF .AUTO_OFF)
        (heaterSwitched .FIXED_OFF .AUTO_OFF) ∧
      BootsSafely (Vector.replicate 6 1) (heaterEvents .FIXED_OFF .AUTO_OFF) (heaterSwitched .FIXED_OFF .AUTO_OFF) := by
  have hrun : Run (AcceptedStep (Vector.replicate 6 1)) newCentral (heaterEvents .FIXED_OFF .AUTO_OFF)
      (heaterSwitched .FIXED_OFF .AUTO_OFF) :=
    .snoc (.snoc (.nil _) (.configureLoad (by decide +kernel) (by decide +kernel)))
      (.loadCommand (by decide +kernel))
  refine ⟨hrun, (boots_safely_iff rfl hrun).mpr fun relayPin _ hon => ?_⟩
  by_cases hpin : relayPin = 4
  · subst hpin
    revert hon
    simp [SwitchedOn, configuredMode, heaterEvents, CentralEvent.configuredMode, heaterRequest]
  · simp [SwitchedOn, configuredMode, heaterEvents, CentralEvent.configuredMode, heaterRequest, hpin] at hon

/-- A heater that was configured to be ON and then switched OFF is driven ON by the
next reboot. -/
theorem switched_off_heater_driven_on :
    Run (AcceptedStep (Vector.replicate 6 1)) newCentral (heaterEvents .FIXED_ON .FIXED_OFF)
        (heaterSwitched .FIXED_ON .FIXED_OFF) ∧
      ¬ BootsSafely (Vector.replicate 6 1) (heaterEvents .FIXED_ON .FIXED_OFF) (heaterSwitched .FIXED_ON .FIXED_OFF) := by
  refine ⟨.snoc (.snoc (.nil _) (.configureLoad (by decide +kernel) (by decide +kernel)))
    (.loadCommand (by decide +kernel)), fun hsafe => ?_⟩
  have hdriven : ((heaterSwitched .FIXED_ON .FIXED_OFF).restarted.configureLocalHardware (Vector.replicate 6 1)
      (fun _ => .succeeding) 0).hardware.relays.DrivenOn 4 := by
    decide +kernel
  exact hsafe _ 0 4 hdriven (.inl rfl)

end Runs

end kilowatts
