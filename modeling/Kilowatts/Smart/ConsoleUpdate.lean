import Kilowatts.NodeManager.NodeLoadHardwareStore
import Kilowatts.NodeManager.SystemCommandModel

namespace kilowatts

structure SmartLoadUpdateRequest where
  relayPin : UInt8
  hasPriority : Bool
  priority : UInt16
  hasMode : Bool
  mode : LoadMode
  hasSchedule : Bool
  schedule : AutoSchedule
deriving DecidableEq

/-- The stored configuration with exactly the requested fields replaced. -/
def SmartLoadUpdateRequest.updated (request : SmartLoadUpdateRequest) (existing : LoadConfiguration) :
    LoadConfiguration :=
  { existing with
    priority := if request.hasPriority then request.priority else existing.priority
    mode := if request.hasMode then request.mode else existing.mode
    schedule := if request.hasSchedule then request.schedule else existing.schedule }

namespace NodeHardware

open HardwareConfigurationFailureReason

/-- The result of the removal is ignored. `nodeTaken` tells whether `nodeMutex` was
obtained in time. -/
def consoleSmartUpdateLoad (nodeTaken : Bool) (removing : RemoveAnswers) (configuring : ConfigureAnswers)
    (request : SmartLoadUpdateRequest) (hardware : NodeHardware) : NodeHardware × CommandResult :=
  if !nodeTaken then (hardware, ⟨false, false, "state is busy"⟩)
  else
    match hardware.store.memory.findByRelayPin request.relayPin with
    | none => (hardware, ⟨false, false, "Load not found"⟩)
    | some existing =>
      let removed := (hardware.removeLoad removing request.relayPin).1
      let (configured, reason) := removed.configureNewLoad configuring (request.updated existing)
      (configured, if reason = NONE then ⟨true, true, "Load updated"⟩ else ⟨false, false, reason.text⟩)

/-- The configurations, in memory and in flash, the registered relays and the loads
are as before. -/
structure Unchanged (before after : NodeHardware) : Prop where
  store : after.store = before.store
  relays : after.relays.relays = before.relays.relays
  node : after.node = before.node

/-- The load on the pin has the new configuration, and every other one is as before. -/
structure Reconfigured (value : LoadConfiguration) (before after : NodeHardware) : Prop where
  memory : ∀ relayPin, after.store.memory.findByRelayPin relayPin =
    if relayPin = value.relayPin then some value else before.store.memory.findByRelayPin relayPin
  flash : after.store.flash = after.store.memory
  relays : ∀ relayPin, after.relays.findRelay relayPin =
    if relayPin = value.relayPin then some ⟨value.relayConfiguration, true⟩ else before.relays.findRelay relayPin
  loads : ∀ relayPin, after.node.getLoadByRelayPin relayPin =
    if relayPin = value.relayPin then some (value.load before.node.macAddress)
    else before.node.getLoadByRelayPin relayPin

/-- An accepted update changes exactly the requested fields of its load, and one that
is not accepted changes nothing. -/
def UpdatedOrUnchanged (request : SmartLoadUpdateRequest) (before : NodeHardware)
    (outcome : NodeHardware × CommandResult) : Prop :=
  if outcome.2.accepted then ∃ existing, before.store.memory.findByRelayPin request.relayPin = some existing ∧
    Reconfigured (request.updated existing) before outcome.1
  else Unchanged before outcome.1

/-- Once the load is removed it is configured again: its new configuration is valid
and the hardware takes it. A removal that the flash refuses leaves the flash alone. -/
def Restores (removing : RemoveAnswers) (configuring : ConfigureAnswers) (hardware : NodeHardware)
    (updated : LoadConfiguration) : Prop :=
  if removing.flash.succeeds then
    (hardware.store.memory.erase updated.relayPin).isValidNewConfiguration updated = NONE ∧
      (configuring.gpio.configured && configuring.gpio.written && configuring.flash.succeeds) = true
  else removing.flash.writes = true → hardware.store.flash = hardware.store.memory.erase updated.relayPin

section Update

variable {hardware removed after : NodeHardware} {value : LoadConfiguration}

/-- After the removal only the configuration itself can be refused. -/
theorem Removed.configurable_iff (hremoved : Removed value.relayPin hardware removed) :
    removed.Configurable value ↔
      (hardware.store.memory.erase value.relayPin).isValidNewConfiguration value = NONE := by
  constructor
  · intro hconfigurable
    rw [← hremoved.memory]
    exact hconfigurable.valid
  · intro hvalid
    refine ⟨hremoved.memory ▸ hvalid, ?_, ?_⟩
    · rw [RelayController.isRelayRegistered, hremoved.findRelay, if_pos rfl]
      rfl
    · rw [hremoved.getLoadByRelayPin, if_pos rfl]

/-- A removal and a new configuration of the pin make up an update. -/
theorem Removed.reconfigured (hremoved : Removed value.relayPin hardware removed)
    (hconfigurable : removed.Configurable value) (hconfigured : Configured value removed after) :
    Reconfigured value hardware after := by
  refine ⟨fun other => ?_, hconfigured.flash, fun other => ?_, fun other => ?_⟩
  · rw [hconfigured.findByRelayPin hconfigurable, hremoved.findByRelayPin]
    by_cases hother : other = value.relayPin <;> simp [hother]
  · rw [hconfigured.findRelay hconfigurable, hremoved.findRelay]
    by_cases hother : other = value.relayPin <;> simp [hother]
  · have hmac : removed.node.macAddress = hardware.node.macAddress := by
      rw [hremoved.node, Node.removeLoadByRelayPin_macAddress]
    rw [hconfigured.getLoadByRelayPin hconfigurable, hremoved.getLoadByRelayPin, hmac]
    by_cases hother : other = value.relayPin <;> simp [hother]

/-- A configuration whose pin is still stored is refused. -/
theorem configureNewLoad_of_stored {configuration : LoadConfiguration}
    (hstored : hardware.store.memory.findByRelayPin value.relayPin = some configuration) (answers : ConfigureAnswers) :
    (hardware.configureNewLoad answers value).1 = hardware ∧
      (hardware.configureNewLoad answers value).2 ≠ NONE := by
  have hinvalid : hardware.store.memory.isValidNewConfiguration value ≠ NONE := by
    intro hvalid
    have hfree := (NodeLoadHardwareStore.isValidNewConfiguration_eq_none_iff.mp hvalid).2.2.2
    rw [hstored] at hfree
    cases hfree
  rw [configureNewLoad, dif_neg hinvalid]
  exact ⟨rfl, hinvalid⟩

/-- A removed load is not unchanged by a configuration that is refused. -/
theorem Removed.not_unchanged (hremoved : Removed value.relayPin hardware removed) {existing : LoadConfiguration}
    (hfind : hardware.store.memory.findByRelayPin value.relayPin = some existing) (hkept : SameLoads removed after) :
    ¬ Unchanged hardware after := by
  intro hunchanged
  have hmemory := congrArg FlashBacked.memory hunchanged.store
  rw [hkept.memory, hremoved.memory] at hmemory
  have herased := hardware.store.memory.findByRelayPin_erase value.relayPin value.relayPin
  rw [hmemory, if_pos rfl, hfind] at herased
  cases herased

/-- After a removal, a configuration of the pin is refused exactly if it is not valid or
the hardware does not take it. -/
theorem Removed.configureNewLoad_iff (hremoved : Removed value.relayPin hardware removed)
    (configuring : ConfigureAnswers) :
    (removed.configureNewLoad configuring value).2 = NONE ↔
      (hardware.store.memory.erase value.relayPin).isValidNewConfiguration value = NONE ∧
        (configuring.gpio.configured && configuring.gpio.written && configuring.flash.succeeds) = true := by
  obtain ⟨hnone, hconfigurable, hanswers, -⟩ | ⟨hreason, hblocked, -⟩ :=
    configureNewLoad_cases configuring removed value
  · exact iff_of_true hnone ⟨hremoved.configurable_iff.mp hconfigurable, hanswers⟩
  · refine iff_of_false hreason fun hrestored => ?_
    obtain ⟨hvalid, hanswers⟩ := hrestored
    rw [hblocked (hremoved.configurable_iff.mpr hvalid)] at hanswers
    cases hanswers

/-- A removal that is refused changes nothing, unless it was left in the flash. -/
theorem unchanged_removeLoad_iff {removing : RemoveAnswers} {relayPin : UInt8}
    (hrefused : hardware.Removable removing relayPin → removing.flash.succeeds = false)
    (hsame : SameLoads hardware removed) (hflash : removed.store.flash =
      if (hardware.store.memory.findByRelayPin relayPin).isSome && hardware.relays.isHardwareApplied relayPin &&
        removing.written && removing.flash.writes then hardware.store.memory.erase relayPin
      else hardware.store.flash) :
    Unchanged hardware removed ↔ (hardware.Removable removing relayPin → removing.flash.succeeds = false →
      removing.flash.writes = true → hardware.store.flash = hardware.store.memory.erase relayPin) := by
  constructor
  · intro hunchanged hremovable _ hwrites
    rw [Bool.and_assoc _ _ removing.written, hremovable.stored, hremovable.switched, hwrites] at hflash
    exact (congrArg FlashBacked.flash hunchanged.store).symm.trans hflash
  · intro hkeeps
    refine ⟨FlashBacked.ext hsame.memory ?_, hsame.relays, hsame.node⟩
    rw [hflash]
    split
    · rename_i hwritten
      simp only [Bool.and_eq_true] at hwritten
      obtain ⟨⟨⟨hsome, happlied⟩, hwrite⟩, hwrites⟩ := hwritten
      have hremovable : hardware.Removable removing relayPin := ⟨hsome, by rw [happlied, hwrite]; rfl⟩
      exact (hkeeps hremovable (hrefused hremovable) hwrites).symm
    · rfl

/-- A console update keeps the load or updates it exactly if the load cannot be removed, or its removal is
made good. Nothing is assumed about the hardware or its answers. -/
theorem consoleSmartUpdateLoad_iff (nodeTaken : Bool) (removing : RemoveAnswers) (configuring : ConfigureAnswers)
    (request : SmartLoadUpdateRequest) (hardware : NodeHardware) :
    UpdatedOrUnchanged request hardware
        (hardware.consoleSmartUpdateLoad nodeTaken removing configuring request) ↔
      ∀ existing, nodeTaken = true → hardware.store.memory.findByRelayPin request.relayPin = some existing →
        hardware.Removable removing request.relayPin →
        hardware.Restores removing configuring (request.updated existing) := by
  unfold consoleSmartUpdateLoad
  cases nodeTaken with
  | false => exact iff_of_true ⟨rfl, rfl, rfl⟩ fun _ htaken => by cases htaken
  | true =>
    cases hfind : hardware.store.memory.findByRelayPin request.relayPin with
    | none => exact iff_of_true ⟨rfl, rfl, rfl⟩ fun _ _ hsome => by cases hsome
    | some existing =>
      have hexisting : existing.relayPin = request.relayPin := KeyedList.key_of_lookup hfind
      have hpin : (request.updated existing).relayPin = request.relayPin := hexisting
      simp only [Bool.not_true, Bool.false_eq_true, if_false, Option.some.injEq, forall_const, forall_eq']
      rw [← hpin, Restores]
      have hstored := hfind
      rw [← hpin] at hstored
      obtain ⟨-, hremovable, hsucceeds, hremoved⟩ | ⟨-, hrefused, hsame, hflash⟩ :=
        removeLoad_cases removing hardware (request.updated existing).relayPin
      · have hiff := hremoved.configureNewLoad_iff configuring
        rw [if_pos hsucceeds, ← hiff]
        obtain ⟨hnone, hconfigurable, -, hconfigured⟩ | ⟨hreason, -, hkept, -⟩ :=
          configureNewLoad_cases configuring (hardware.removeLoad removing (request.updated existing).relayPin).1
            (request.updated existing)
        · simp only [UpdatedOrUnchanged, hnone, if_true]
          exact iff_of_true ⟨existing, hfind, hremoved.reconfigured hconfigurable hconfigured⟩ fun _ => trivial
        · simp only [UpdatedOrUnchanged, hreason, if_false, Bool.false_eq_true]
          exact iff_of_false (hremoved.not_unchanged hstored hkept) fun hrestored => hrestored hremovable
      · rw [← hsame.memory] at hstored
        obtain ⟨hkept, hreason⟩ := configureNewLoad_of_stored hstored configuring
        simp only [UpdatedOrUnchanged, hreason, if_false, Bool.false_eq_true, hkept]
        rw [unchanged_removeLoad_iff hrefused hsame hflash]
        constructor
        · intro hkeeps hremovable
          rw [if_neg (by simp [hrefused hremovable])]
          exact hkeeps hremovable (hrefused hremovable)
        · intro hrestored hremovable hfails
          have hkeeps := hrestored hremovable
          rwa [if_neg (by simp [hfails])] at hkeeps

end Update

section Runs

def smartMacAddress : MacAddress := Vector.replicate 6 2

def freezerConfiguration : LoadConfiguration where
  name := CharBuffer.zero.print [102, 114]
  relayPin := 4
  relayActiveHigh := true
  powerRatingWatts := .finite 90
  powerType := .AC
  mode := .FIXED_ON
  priority := 9
  schedule := .none

/-- A Smart Node with one freezer, configured on it. -/
def freezerHardware : NodeHardware :=
  (configureNewLoad .succeeding freezerConfiguration ⟨⟨.empty, .empty⟩, .empty, .make smartMacAddress⟩).1

/-- The request of the console for a priority. -/
def freezerPriority (priority : UInt16) : SmartLoadUpdateRequest where
  relayPin := 4
  hasPriority := true
  priority
  hasMode := false
  mode := .FIXED_OFF
  hasSchedule := false
  schedule := .none

/-- The priority 11 is refused and the freezer is gone, in memory and in flash. So it
is when a valid update cannot be written to the flash. -/
theorem consoleSmartUpdateLoad_loses_load :
    ¬ UpdatedOrUnchanged (freezerPriority 11) freezerHardware
        (freezerHardware.consoleSmartUpdateLoad true .succeeding .succeeding (freezerPriority 11)) ∧
      ¬ UpdatedOrUnchanged (freezerPriority 7) freezerHardware
        (freezerHardware.consoleSmartUpdateLoad true .succeeding ⟨.succeeding, ⟨true, false, false, false⟩⟩
          (freezerPriority 7)) := by
  constructor
  · rw [UpdatedOrUnchanged, if_neg (by decide +kernel)]
    intro hunchanged
    have hfreezer := congrArg (fun node => (Node.getLoadByRelayPin node 4).isSome) hunchanged.node
    revert hfreezer
    decide +kernel
  · rw [UpdatedOrUnchanged, if_neg (by decide +kernel)]
    intro hunchanged
    have hfreezer := congrArg (fun node => (Node.getLoadByRelayPin node 4).isSome) hunchanged.node
    revert hfreezer
    decide +kernel

end Runs

end NodeHardware

end kilowatts
