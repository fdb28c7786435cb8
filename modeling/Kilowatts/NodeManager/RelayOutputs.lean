import Kilowatts.NodeManager.HardwareAgreement

namespace kilowatts

/-- `driveHigh`: the level that stands for a state of the relay. -/
def RelayConfiguration.driveHigh (configuration : RelayConfiguration) (on : Bool) : Bool :=
  if on then configuration.activeHigh else !configuration.activeHigh

/-- The answers of `gpio_set_level` and of `gpio_reset_pin` while a relay is removed. -/
structure ReleaseAnswers where
  written : Bool
  reset : Bool
deriving DecidableEq

/-- The hardware with the level at each pin, HIGH being true. A pin that is not an output
has none. -/
structure DrivenHardware where
  hardware : NodeHardware
  outputs : UInt8 → Option Bool

namespace DrivenHardware

open HardwareConfigurationFailureReason

def drive (relayPin : UInt8) (level : Option Bool) (driven : DrivenHardware) : UInt8 → Option Bool :=
  fun other => if other = relayPin then level else driven.outputs other

/-- A write that fails leaves the level. -/
def setRelayState (relayPin : UInt8) (on written : Bool) (driven : DrivenHardware) : DrivenHardware × Bool :=
  match driven.hardware.relays.findRelay relayPin with
  | none => (driven, false)
  | some relay =>
    let (relays, switched) := driven.hardware.relays.writeGpioLevel relay on written
    let hardware := { driven.hardware with relays }
    if !switched then ({ driven with hardware }, false)
    else (⟨hardware, driven.drive relayPin (some (relay.configuration.driveHigh on))⟩, true)

/-- A configured pin is driven OFF and reset. -/
def removeRelay (answers : ReleaseAnswers) (relayPin : UInt8) (driven : DrivenHardware) : DrivenHardware :=
  let hardware := { driven.hardware with relays := (driven.hardware.relays.removeRelay relayPin).1 }
  match driven.hardware.relays.findRelay relayPin with
  | none => { driven with hardware }
  | some relay =>
    if !relay.hardwareApplied then { driven with hardware }
    else if answers.reset then ⟨hardware, driven.drive relayPin none⟩
    else if answers.written then ⟨hardware, driven.drive relayPin (some (relay.configuration.driveHigh false))⟩
    else { driven with hardware }

def removeLoadByRelayPin (relayPin : UInt8) (driven : DrivenHardware) : DrivenHardware :=
  { driven with hardware.node := (driven.hardware.node.removeLoadByRelayPin relayPin).1 }

def removeLoad (answers : RemoveAnswers) (release : ReleaseAnswers) (relayPin : UInt8) (driven : DrivenHardware) :
    DrivenHardware × HardwareConfigurationFailureReason :=
  if (driven.hardware.store.memory.findByRelayPin relayPin).isNone then (driven, INVALID_CONFIGURATION)
  else
    let (driven, switched) := driven.setRelayState relayPin false answers.written
    if !switched then (driven, HARDWARE_INITIALIZATION_FAILED)
    else
      let previous := driven.hardware.store.memory
      let (store, persisted) := { driven.hardware.store with memory := previous.erase relayPin }.persist answers.flash
      if !persisted then
        ({ driven with hardware.store := { store with memory := previous } }, PERSISTENCE_FAILED)
      else
        ((removeLoadByRelayPin relayPin { driven with hardware.store := store }).removeRelay release relayPin, NONE)

/-- The first loop of `clearAllConfigurations`. -/
def switchAllOff (written : UInt8 → Bool) : List LoadConfiguration → DrivenHardware → DrivenHardware × Bool
  | [], driven => (driven, true)
  | value :: rest, driven =>
    let (driven, switched) := driven.setRelayState value.relayPin false (written value.relayPin)
    if !switched then (driven, false) else switchAllOff written rest driven

def clearAllConfigurations (written : UInt8 → Bool) (flash : FlashAnswers) (release : UInt8 → ReleaseAnswers)
    (driven : DrivenHardware) : DrivenHardware × HardwareConfigurationFailureReason :=
  let previous := driven.hardware.store.memory
  let (driven, switched) := switchAllOff written previous.configurations driven
  if !switched then (driven, HARDWARE_INITIALIZATION_FAILED)
  else
    let (store, persisted) := { driven.hardware.store with memory := NodeLoadHardwareStore.empty }.persist flash
    if !persisted then
      ({ driven with hardware.store := { store with memory := previous } }, PERSISTENCE_FAILED)
    else
      (previous.configurations.foldl (fun driven value =>
          (removeLoadByRelayPin value.relayPin driven).removeRelay (release value.relayPin) value.relayPin)
        { driven with hardware.store := store }, NONE)

/-! Without the levels, these are the functions of `NodeHardware`. -/

theorem setRelayState_hardware (relayPin : UInt8) (on written : Bool) (driven : DrivenHardware) :
    (driven.setRelayState relayPin on written).1.hardware =
        { driven.hardware with relays := (driven.hardware.relays.setRelayState relayPin on written).1 } ∧
      (driven.setRelayState relayPin on written).2 = (driven.hardware.relays.setRelayState relayPin on written).2 := by
  unfold setRelayState RelayController.setRelayState
  cases driven.hardware.relays.findRelay relayPin with
  | none => exact ⟨rfl, rfl⟩
  | some relay =>
    cases hswitched : (driven.hardware.relays.writeGpioLevel relay on written).2 <;> simp [hswitched]

theorem removeRelay_hardware (answers : ReleaseAnswers) (relayPin : UInt8) (driven : DrivenHardware) :
    (driven.removeRelay answers relayPin).hardware =
      { driven.hardware with relays := (driven.hardware.relays.removeRelay relayPin).1 } := by
  unfold removeRelay
  dsimp only
  split
  · rfl
  split
  · rfl
  split
  · rfl
  split
  · rfl
  · rfl

theorem removeLoad_hardware (answers : RemoveAnswers) (release : ReleaseAnswers) (relayPin : UInt8)
    (driven : DrivenHardware) :
    (driven.removeLoad answers release relayPin).1.hardware = (driven.hardware.removeLoad answers relayPin).1 ∧
      (driven.removeLoad answers release relayPin).2 = (driven.hardware.removeLoad answers relayPin).2 := by
  obtain ⟨hhardware, hswitched⟩ := setRelayState_hardware relayPin false answers.written driven
  unfold removeLoad NodeHardware.removeLoad
  split
  · exact ⟨rfl, rfl⟩
  dsimp only
  rw [hswitched]
  split
  · exact ⟨hhardware, rfl⟩
  rw [hhardware]
  dsimp only
  split
  · exact ⟨rfl, rfl⟩
  · rw [removeRelay_hardware]
    exact ⟨rfl, rfl⟩

theorem switchAllOff_hardware (written : UInt8 → Bool) (values : List LoadConfiguration) (driven : DrivenHardware) :
    (switchAllOff written values driven).1.hardware =
        { driven.hardware with relays := (NodeHardware.switchAllOff written values driven.hardware.relays).1 } ∧
      (switchAllOff written values driven).2 = (NodeHardware.switchAllOff written values driven.hardware.relays).2 := by
  induction values generalizing driven with
  | nil => exact ⟨rfl, rfl⟩
  | cons value rest ih =>
    obtain ⟨hhardware, hswitched⟩ := setRelayState_hardware value.relayPin false (written value.relayPin) driven
    obtain ⟨hrest, hallSwitched⟩ := ih (driven.setRelayState value.relayPin false (written value.relayPin)).1
    rw [switchAllOff, NodeHardware.switchAllOff]
    dsimp only
    rw [hswitched]
    split
    · exact ⟨hhardware, rfl⟩
    · rw [hrest, hallSwitched, hhardware]
      exact ⟨rfl, rfl⟩

theorem foldl_removeRelay_hardware (release : UInt8 → ReleaseAnswers) (values : List LoadConfiguration)
    (driven : DrivenHardware) :
    (values.foldl (fun driven value =>
        (removeLoadByRelayPin value.relayPin driven).removeRelay (release value.relayPin) value.relayPin) driven).hardware =
      values.foldl (fun hardware value => NodeHardware.rollbackOne value hardware) driven.hardware := by
  induction values generalizing driven with
  | nil => rfl
  | cons value rest ih =>
    rw [List.foldl_cons, List.foldl_cons, ih, removeRelay_hardware]
    rfl

theorem clearAllConfigurations_hardware (written : UInt8 → Bool) (flash : FlashAnswers)
    (release : UInt8 → ReleaseAnswers) (driven : DrivenHardware) :
    (driven.clearAllConfigurations written flash release).1.hardware =
        (driven.hardware.clearAllConfigurations written flash).1 ∧
      (driven.clearAllConfigurations written flash release).2 =
        (driven.hardware.clearAllConfigurations written flash).2 := by
  obtain ⟨hhardware, hswitched⟩ := switchAllOff_hardware written driven.hardware.store.memory.configurations driven
  unfold clearAllConfigurations NodeHardware.clearAllConfigurations
  dsimp only
  rw [hswitched]
  split
  · exact ⟨hhardware, rfl⟩
  rw [hhardware]
  dsimp only
  split
  · exact ⟨rfl, rfl⟩
  · rw [foldl_removeRelay_hardware]
    exact ⟨rfl, rfl⟩

/-! Which levels change. -/

/-- The level at which the relay of a pin is OFF. -/
def offLevel (relays : RelayController) (relayPin : UInt8) : Option Bool :=
  (relays.findRelay relayPin).map fun relay => relay.configuration.driveHigh false

theorem setRelayState_outputs (relayPin : UInt8) (written : Bool) (driven : DrivenHardware) (other : UInt8) :
    (driven.setRelayState relayPin false written).1.outputs other =
      if other = relayPin ∧ (driven.hardware.relays.isHardwareApplied relayPin && written) = true then
        offLevel driven.hardware.relays relayPin
      else driven.outputs other := by
  unfold setRelayState RelayController.isHardwareApplied offLevel
  cases hfound : driven.hardware.relays.findRelay relayPin with
  | none => simp
  | some relay =>
    cases happlied : relay.hardwareApplied <;> cases written <;>
      simp [RelayController.writeGpioLevel, happlied, drive]

theorem findRelay_setRelayState (relayPin : UInt8) (on written : Bool) (driven : DrivenHardware) (other : UInt8) :
    (driven.setRelayState relayPin on written).1.hardware.relays.findRelay other =
      driven.hardware.relays.findRelay other := by
  rw [(setRelayState_hardware relayPin on written driven).1]
  simp only [RelayController.findRelay, RelayController.setRelayState_relays]

/-- The relay of the configuration can be switched. -/
def switchable (written : UInt8 → Bool) (relays : RelayController) (value : LoadConfiguration) : Bool :=
  relays.isHardwareApplied value.relayPin && written value.relayPin

/-- The configurations whose relays the loop switches before it stops. -/
def reached (written : UInt8 → Bool) (hardware : NodeHardware) : List LoadConfiguration :=
  hardware.store.memory.configurations.takeWhile (switchable written hardware.relays)

theorem switchAllOff_outputs (written : UInt8 → Bool) (values : List LoadConfiguration) (driven : DrivenHardware)
    (relayPin : UInt8) :
    (switchAllOff written values driven).1.outputs relayPin =
      if relayPin ∈ (values.takeWhile (switchable written driven.hardware.relays)).map LoadConfiguration.relayPin then
        offLevel driven.hardware.relays relayPin
      else driven.outputs relayPin := by
  induction values generalizing driven with
  | nil => rfl
  | cons value rest ih =>
    have hswitched : (driven.setRelayState value.relayPin false (written value.relayPin)).2 =
        switchable written driven.hardware.relays value := by
      rw [(setRelayState_hardware value.relayPin false (written value.relayPin) driven).2,
        RelayController.setRelayState_snd]
      rfl
    have houtputs := setRelayState_outputs value.relayPin (written value.relayPin) driven relayPin
    have hfind := findRelay_setRelayState value.relayPin false (written value.relayPin) driven
    rw [← switchable] at houtputs
    rw [switchAllOff, List.takeWhile_cons]
    dsimp only
    rw [hswitched]
    generalize driven.setRelayState value.relayPin false (written value.relayPin) = after at houtputs hfind ⊢
    cases hvalue : switchable written driven.hardware.relays value with
    | false => simpa [hvalue] using houtputs
    | true =>
      have hsame : switchable written after.1.hardware.relays = switchable written driven.hardware.relays := by
        funext other
        simp only [switchable, RelayController.isHardwareApplied, hfind]
      rw [Bool.not_true, if_neg Bool.false_ne_true, if_pos rfl, ih, hsame, List.map_cons]
      simp only [offLevel, hfind, houtputs, hvalue, and_true, List.mem_cons]
      by_cases hrest : relayPin ∈ (rest.takeWhile (switchable written driven.hardware.relays)).map LoadConfiguration.relayPin
      · simp [hrest]
      · by_cases hpin : relayPin = value.relayPin <;> simp [hrest, hpin]

/-- What a removal that fails must leave: the stored configurations, the relays, the loads and
the level of every relay. -/
def Unswitched (before : DrivenHardware) (outcome : DrivenHardware × HardwareConfigurationFailureReason) : Prop :=
  outcome.2 ≠ NONE →
    outcome.1.hardware.store = before.hardware.store ∧ NodeHardware.SameLoads before.hardware outcome.1.hardware ∧
      ∀ relayPin, before.hardware.relays.isRelayRegistered relayPin = true →
        outcome.1.outputs relayPin = before.outputs relayPin

/-- The relay of the pin is OFF. -/
def IsOff (driven : DrivenHardware) (relayPin : UInt8) : Prop :=
  driven.outputs relayPin = offLevel driven.hardware.relays relayPin

/-- A removal that switches its relay is persisted, or the relay was OFF and the flash does not
keep what it did not commit. -/
def RemovalHarmless (answers : RemoveAnswers) (relayPin : UInt8) (driven : DrivenHardware) : Prop :=
  driven.hardware.Removable answers relayPin → answers.flash.succeeds = true ∨
    driven.IsOff relayPin ∧ (answers.flash.writes = true →
      driven.hardware.store.flash = driven.hardware.store.memory.erase relayPin)

/-- All relays can be switched and the flash succeeds, or those that are reached were OFF and the
flash does not keep what it did not commit. -/
def ClearingHarmless (written : UInt8 → Bool) (flash : FlashAnswers) (driven : DrivenHardware) : Prop :=
  (driven.hardware.isClearable written && flash.succeeds) = true ∨
    (∀ value ∈ reached written driven.hardware, driven.IsOff value.relayPin) ∧
      ((driven.hardware.isClearable written && flash.writes) = true → driven.hardware.store.flash = .empty)

theorem removeLoad_outputs_failed {answers : RemoveAnswers} {relayPin : UInt8} {driven : DrivenHardware}
    (release : ReleaseAnswers) (hfailed : (driven.removeLoad answers release relayPin).2 ≠ NONE) (other : UInt8) :
    (driven.removeLoad answers release relayPin).1.outputs other =
      if other = relayPin ∧ (driven.hardware.store.memory.findByRelayPin relayPin).isSome ∧
        (driven.hardware.relays.isHardwareApplied relayPin && answers.written) = true then
        offLevel driven.hardware.relays relayPin
      else driven.outputs other := by
  have houtputs := setRelayState_outputs relayPin answers.written driven other
  unfold removeLoad at hfailed ⊢
  cases hfound : driven.hardware.store.memory.findByRelayPin relayPin with
  | none => simp
  | some value =>
    simp only [hfound, Option.isNone_some, Option.isSome_some, Bool.false_eq_true, if_false, true_and] at hfailed ⊢
    split
    · exact houtputs
    rename_i hswitched
    rw [if_neg hswitched] at hfailed
    split
    · exact houtputs
    rename_i hpersisted
    rw [if_neg hpersisted] at hfailed
    exact absurd rfl hfailed

theorem clearAllConfigurations_outputs_failed {written : UInt8 → Bool} {flash : FlashAnswers}
    {release : UInt8 → ReleaseAnswers} {driven : DrivenHardware}
    (hfailed : (driven.clearAllConfigurations written flash release).2 ≠ NONE) (other : UInt8) :
    (driven.clearAllConfigurations written flash release).1.outputs other =
      if other ∈ (reached written driven.hardware).map LoadConfiguration.relayPin then
        offLevel driven.hardware.relays other
      else driven.outputs other := by
  rw [reached, ← switchAllOff_outputs]
  unfold clearAllConfigurations at hfailed ⊢
  dsimp only at hfailed ⊢
  split
  · rfl
  rename_i hswitched
  rw [if_neg hswitched] at hfailed
  split
  · rfl
  rename_i hpersisted
  rw [if_neg hpersisted] at hfailed
  exact absurd rfl hfailed

theorem isRelayRegistered_of_applied {relays : RelayController} {relayPin : UInt8}
    (happlied : relays.isHardwareApplied relayPin = true) : relays.isRelayRegistered relayPin = true :=
  Option.isSome_of_any happlied

/-- A removal that fails leaves the levels exactly if the relay that it switched was OFF. -/
theorem removeLoad_levels_iff {answers : RemoveAnswers} {relayPin : UInt8} {driven : DrivenHardware}
    (release : ReleaseAnswers) (hfailed : (driven.removeLoad answers release relayPin).2 ≠ NONE) :
    (∀ other, driven.hardware.relays.isRelayRegistered other = true →
      (driven.removeLoad answers release relayPin).1.outputs other = driven.outputs other) ↔
        (driven.hardware.Removable answers relayPin → driven.IsOff relayPin) := by
  have houtputs := removeLoad_outputs_failed release hfailed
  constructor
  · intro hkept hremovable
    have happlied := (Bool.and_eq_true_iff.mp hremovable.switched).1
    have hlevel := hkept relayPin (isRelayRegistered_of_applied happlied)
    rw [houtputs, if_pos ⟨rfl, hremovable.stored, hremovable.switched⟩] at hlevel
    exact hlevel.symm
  · intro hoff other _
    rw [houtputs]
    split
    · next hswitched =>
      obtain ⟨rfl, hstored, happlied⟩ := hswitched
      exact (hoff ⟨hstored, happlied⟩).symm
    · rfl

theorem removeLoad_unswitched_iff (answers : RemoveAnswers) (release : ReleaseAnswers) (relayPin : UInt8)
    (driven : DrivenHardware) :
    Unswitched driven (driven.removeLoad answers release relayPin) ↔ RemovalHarmless answers relayPin driven := by
  obtain ⟨hhardware, hreason⟩ := removeLoad_hardware answers release relayPin driven
  obtain ⟨hnone, -, hsucceeds, -⟩ | ⟨hfailed, hrefused, hsame, hflash⟩ :=
    NodeHardware.removeLoad_cases answers driven.hardware relayPin
  · exact iff_of_true (fun hfailed => absurd (hreason.trans hnone) hfailed) fun _ => .inl hsucceeds
  rw [← hreason] at hfailed
  rw [← hhardware] at hsame hflash
  have hstore : (driven.removeLoad answers release relayPin).1.hardware.store = driven.hardware.store ↔
      (driven.hardware.Removable answers relayPin → answers.flash.writes = true →
        driven.hardware.store.flash = driven.hardware.store.memory.erase relayPin) := by
    rw [FlashBacked.ext_iff, hflash]
    simp only [hsame.memory, true_and]
    split
    · next hwritten =>
      simp only [Bool.and_eq_true] at hwritten
      obtain ⟨⟨⟨hstored, happlied⟩, hwrite⟩, hwrites⟩ := hwritten
      have hremovable : driven.hardware.Removable answers relayPin := ⟨hstored, by rw [happlied, hwrite]; rfl⟩
      exact ⟨fun herased _ _ => herased.symm, fun hkept => (hkept hremovable hwrites).symm⟩
    · next hkept =>
      refine iff_of_true rfl fun hremovable hwrites => absurd ?_ hkept
      rw [hremovable.stored, Bool.true_and, hremovable.switched, hwrites]
      rfl
  unfold Unswitched RemovalHarmless
  rw [hstore, removeLoad_levels_iff release hfailed]
  constructor
  · intro hunswitched hremovable
    obtain ⟨hkept, -, hoff⟩ := hunswitched hfailed
    exact .inr ⟨hoff hremovable, hkept hremovable⟩
  · intro hharmless _
    have hlost (hremovable : driven.hardware.Removable answers relayPin) :=
      (hharmless hremovable).resolve_left (by rw [hrefused hremovable]; exact Bool.false_ne_true)
    exact ⟨fun hremovable => (hlost hremovable).2, hsame, fun hremovable => (hlost hremovable).1⟩

/-- A clearing that fails leaves the levels exactly if the relays that it reached were OFF. -/
theorem clearAllConfigurations_levels_iff {written : UInt8 → Bool} {flash : FlashAnswers}
    {release : UInt8 → ReleaseAnswers} {driven : DrivenHardware}
    (hfailed : (driven.clearAllConfigurations written flash release).2 ≠ NONE) :
    (∀ relayPin, driven.hardware.relays.isRelayRegistered relayPin = true →
      (driven.clearAllConfigurations written flash release).1.outputs relayPin = driven.outputs relayPin) ↔
        ∀ value ∈ reached written driven.hardware, driven.IsOff value.relayPin := by
  have houtputs := clearAllConfigurations_outputs_failed hfailed
  constructor
  · intro hkept value hvalue
    have hswitchable : switchable written driven.hardware.relays value = true := List.mem_takeWhile_imp hvalue
    rw [switchable, Bool.and_eq_true] at hswitchable
    have hlevel := hkept value.relayPin (isRelayRegistered_of_applied hswitchable.1)
    rw [houtputs, if_pos (List.mem_map_of_mem hvalue)] at hlevel
    exact hlevel.symm
  · intro hoff relayPin _
    rw [houtputs]
    split
    · rename_i hreached
      obtain ⟨value, hvalue, rfl⟩ := List.mem_map.mp hreached
      exact (hoff value hvalue).symm
    · rfl

theorem clearAllConfigurations_unswitched_iff (written : UInt8 → Bool) (flash : FlashAnswers)
    (release : UInt8 → ReleaseAnswers) (driven : DrivenHardware) :
    Unswitched driven (driven.clearAllConfigurations written flash release) ↔
      ClearingHarmless written flash driven := by
  obtain ⟨hhardware, hreason⟩ := clearAllConfigurations_hardware written flash release driven
  have hsucceeds := NodeHardware.clearAllConfigurations_snd written flash driven.hardware
  rw [← hreason, ← Bool.and_eq_true] at hsucceeds
  unfold Unswitched ClearingHarmless
  rw [ne_eq, hsucceeds]
  cases hcleared : driven.hardware.isClearable written && flash.succeeds with
  | true => simp
  | false =>
    obtain ⟨hsame, hflash⟩ := NodeHardware.clearAllConfigurations_failed hcleared
    have hfailed : (driven.clearAllConfigurations written flash release).2 ≠ NONE := by
      rw [ne_eq, hsucceeds, hcleared]
      exact Bool.false_ne_true
    rw [← hhardware] at hsame hflash
    have hstore : (driven.clearAllConfigurations written flash release).1.hardware.store = driven.hardware.store ↔
        ((driven.hardware.isClearable written && flash.writes) = true → driven.hardware.store.flash = .empty) := by
      rw [FlashBacked.ext_iff, hflash]
      simp only [hsame.memory, true_and]
      split
      · rename_i hwritten
        simp [hwritten, eq_comm]
      · rename_i hkept
        simp [hkept]
    rw [hstore, clearAllConfigurations_levels_iff hfailed]
    simp only [Bool.false_eq_true, not_false_iff, true_implies, false_or]
    constructor
    · rintro ⟨hkept, -, hoff⟩
      exact ⟨hoff, hkept⟩
    · rintro ⟨hoff, hkept⟩
      exact ⟨hkept, hsame, hoff⟩

/-- A removal that fails switches nothing exactly if it does not fail any more once it can switch, or the
relays that it reaches were OFF and the flash does not keep what it did not commit. Nothing is assumed about
the hardware or its answers. -/
theorem failed_removal_switches_nothing_iff (driven : DrivenHardware) (answers : RemoveAnswers) (relayPin : UInt8)
    (written : UInt8 → Bool) (flash : FlashAnswers) (release : UInt8 → ReleaseAnswers) :
    (Unswitched driven (driven.removeLoad answers (release relayPin) relayPin) ↔
      RemovalHarmless answers relayPin driven) ∧
    (Unswitched driven (driven.clearAllConfigurations written flash release) ↔
      ClearingHarmless written flash driven) :=
  ⟨removeLoad_unswitched_iff answers (release relayPin) relayPin driven,
    clearAllConfigurations_unswitched_iff written flash release driven⟩

section Pumps

open NodeHardware

/-- A pump that is always ON, on an active-high relay. -/
def pump (relayPin : UInt8) : LoadConfiguration := { fan relayPin with mode := .FIXED_ON, relayActiveHigh := true }

def runningPumps : DrivenHardware where
  hardware := [.configureNewLoad .succeeding (pump 4), .configureNewLoad .succeeding (pump 5)].foldl afterEvent newHardware
  outputs := fun relayPin => if relayPin = 4 ∨ relayPin = 5 then some true else none

/-- The flash does not take the value. -/
def flashFull : FlashAnswers := ⟨true, false, false, false⟩

/-- A pump stops although its removal fails, and one of two although they cannot be cleared. -/
theorem runningPumps_switched :
    ¬Unswitched runningPumps (runningPumps.removeLoad ⟨true, flashFull⟩ ⟨true, true⟩ 4) ∧
      ¬Unswitched runningPumps
        (runningPumps.clearAllConfigurations (fun relayPin => relayPin = 4) .succeeding fun _ => ⟨true, true⟩) := by
  constructor
  · intro hunswitched
    have hlevel := (hunswitched (by decide +kernel)).2.2 4 (by decide +kernel)
    exact absurd hlevel (by decide +kernel)
  · intro hunswitched
    have hlevel := (hunswitched (by decide +kernel)).2.2 4 (by decide +kernel)
    exact absurd hlevel (by decide +kernel)

end Pumps

end DrivenHardware

end kilowatts
