import Kilowatts.Library.KeyedList

namespace kilowatts

structure RelayConfiguration where
  relayPin : UInt8
  activeHigh : Bool
  initialStateOn : Bool
deriving DecidableEq

structure RegisteredRelay where
  configuration : RelayConfiguration
  hardwareApplied : Bool
deriving DecidableEq

def RegisteredRelay.relayPin (relay : RegisteredRelay) : UInt8 := relay.configuration.relayPin

/-- A call of `gpio_set_level`, as the state of the relay that the level stands for. -/
structure GpioWrite where
  relayPin : UInt8
  on : Bool
deriving DecidableEq

/-- The registered relays, and every level that was written to a pin so far. A pin
is only registered if it is not yet. -/
structure RelayController where
  relays : List RegisteredRelay
  pins_nodup : (relays.map RegisteredRelay.relayPin).Nodup
  writes : List GpioWrite

/-- The answers of `gpio_config` and of `gpio_set_level` to `configureGpio`. -/
structure GpioAnswers where
  configured : Bool
  written : Bool
deriving DecidableEq

def GpioAnswers.succeeding : GpioAnswers := ⟨true, true⟩

namespace RelayController

def empty : RelayController := ⟨[], List.nodup_nil, []⟩

def findRelay (controller : RelayController) (relayPin : UInt8) : Option RegisteredRelay :=
  KeyedList.lookup RegisteredRelay.relayPin controller.relays relayPin

def isRelayRegistered (controller : RelayController) (relayPin : UInt8) : Bool :=
  (controller.findRelay relayPin).isSome

def isHardwareApplied (controller : RelayController) (relayPin : UInt8) : Bool :=
  (controller.findRelay relayPin).any RegisteredRelay.hardwareApplied

/-- `writeGpioLevel`: nothing is written to a pin that was not configured. -/
def writeGpioLevel (controller : RelayController) (relay : RegisteredRelay) (on written : Bool) :
    RelayController × Bool :=
  if !relay.hardwareApplied then (controller, false)
  else ({ controller with writes := controller.writes ++ [⟨relay.relayPin, on⟩] }, written)

/-- The pin is driven before it becomes an output, and again after it. A relay whose
hardware fails is removed again, without a level for it. -/
def addRelay (controller : RelayController) (configuration : RelayConfiguration) (answers : GpioAnswers) :
    RelayController × Bool :=
  let drive : GpioWrite := ⟨configuration.relayPin, configuration.initialStateOn⟩
  if hregistered : controller.findRelay configuration.relayPin = none then
    if !answers.configured then ({ controller with writes := controller.writes ++ [drive] }, false)
    else if !answers.written then ({ controller with writes := controller.writes ++ [drive, drive] }, false)
    else
      ({ relays := controller.relays ++ [⟨configuration, true⟩]
         pins_nodup := by
           rw [List.map_append, List.map_singleton, ← List.concat_eq_append]
           exact controller.pins_nodup.concat (KeyedList.lookup_eq_none_iff.mp hregistered)
         writes := controller.writes ++ [drive, drive] }, true)
  else (controller, false)

/-- A configured pin is driven OFF before it is released. -/
def removeRelay (controller : RelayController) (relayPin : UInt8) : RelayController × Bool :=
  match controller.findRelay relayPin with
  | none => (controller, false)
  | some relay =>
    ({ relays := KeyedList.remove RegisteredRelay.relayPin relayPin controller.relays
       pins_nodup := ((KeyedList.remove_sublist _ _).map _).nodup controller.pins_nodup
       writes := (controller.writeGpioLevel relay false true).1.writes }, true)

def setRelayState (controller : RelayController) (relayPin : UInt8) (on written : Bool) : RelayController × Bool :=
  match controller.findRelay relayPin with
  | none => (controller, false)
  | some relay => controller.writeGpioLevel relay on written

/-- The pin was driven to the state ON. -/
def DrivenOn (controller : RelayController) (relayPin : UInt8) : Prop := ⟨relayPin, true⟩ ∈ controller.writes

instance (controller : RelayController) (relayPin : UInt8) : Decidable (controller.DrivenOn relayPin) :=
  inferInstanceAs (Decidable (_ ∈ _))

@[simp] theorem writeGpioLevel_relays (controller : RelayController) (relay : RegisteredRelay) (on written : Bool) :
    (controller.writeGpioLevel relay on written).1.relays = controller.relays := by
  unfold writeGpioLevel
  split <;> rfl

@[simp] theorem setRelayState_relays (controller : RelayController) (relayPin : UInt8) (on written : Bool) :
    (controller.setRelayState relayPin on written).1.relays = controller.relays := by
  unfold setRelayState
  split
  · rfl
  · exact controller.writeGpioLevel_relays _ on written

/-- A relay can be switched exactly if its pin was configured and takes the level. -/
theorem setRelayState_snd (controller : RelayController) (relayPin : UInt8) (on written : Bool) :
    (controller.setRelayState relayPin on written).2 = (controller.isHardwareApplied relayPin && written) := by
  unfold setRelayState isHardwareApplied
  cases controller.findRelay relayPin with
  | none => rfl
  | some relay =>
    cases happlied : relay.hardwareApplied <;> simp [writeGpioLevel, happlied]

@[simp] theorem removeRelay_relays (controller : RelayController) (relayPin : UInt8) :
    (controller.removeRelay relayPin).1.relays =
      KeyedList.remove RegisteredRelay.relayPin relayPin controller.relays := by
  unfold removeRelay
  split
  · rename_i hnone
    exact (List.eraseP_of_forall_not (by simpa [findRelay, KeyedList.lookup, List.find?_eq_none] using hnone)).symm
  · rfl

theorem findRelay_removeRelay (controller : RelayController) (removed relayPin : UInt8) :
    (controller.removeRelay removed).1.findRelay relayPin =
      if relayPin = removed then none else controller.findRelay relayPin := by
  rw [findRelay, removeRelay_relays]
  exact KeyedList.lookup_remove controller.pins_nodup removed relayPin

/-- A relay is added exactly if its pin is free and its hardware answers. -/
theorem addRelay_snd (controller : RelayController) (configuration : RelayConfiguration) (answers : GpioAnswers) :
    (controller.addRelay configuration answers).2 =
      (!controller.isRelayRegistered configuration.relayPin && answers.configured && answers.written) := by
  by_cases hfind : controller.findRelay configuration.relayPin = none
  · cases hconfigured : answers.configured <;> cases hwritten : answers.written <;>
      simp [addRelay, isRelayRegistered, hfind, hconfigured, hwritten]
  · simp [addRelay, isRelayRegistered, hfind]

theorem addRelay_relays (controller : RelayController) (configuration : RelayConfiguration) (answers : GpioAnswers) :
    (controller.addRelay configuration answers).1.relays =
      if (controller.addRelay configuration answers).2 then controller.relays ++ [⟨configuration, true⟩]
      else controller.relays := by
  rw [addRelay_snd]
  by_cases hfind : controller.findRelay configuration.relayPin = none
  · cases hconfigured : answers.configured <;> cases hwritten : answers.written <;>
      simp [addRelay, isRelayRegistered, hfind, hconfigured, hwritten]
  · simp [addRelay, isRelayRegistered, hfind]

/-- Adding a relay and removing it again leaves the registered relays as they were. -/
theorem removeRelay_addRelay_relays {controller : RelayController} {configuration : RelayConfiguration}
    {answers : GpioAnswers} (hadded : (controller.addRelay configuration answers).2 = true) :
    ((controller.addRelay configuration answers).1.removeRelay configuration.relayPin).1.relays =
      controller.relays := by
  rw [removeRelay_relays, addRelay_relays, hadded, if_pos rfl]
  rw [addRelay_snd, isRelayRegistered] at hadded
  have hfree : controller.findRelay configuration.relayPin = none := by
    cases hfind : controller.findRelay configuration.relayPin with
    | none => rfl
    | some relay => simp [hfind] at hadded
  have hnew : (⟨configuration, true⟩ : RegisteredRelay).relayPin ∉ controller.relays.map RegisteredRelay.relayPin :=
    KeyedList.lookup_eq_none_iff.mp hfree
  exact KeyedList.remove_append_singleton hnew

theorem findRelay_addRelay {controller : RelayController} {configuration : RelayConfiguration} {answers : GpioAnswers}
    (hadded : (controller.addRelay configuration answers).2 = true) (relayPin : UInt8) :
    (controller.addRelay configuration answers).1.findRelay relayPin =
      (controller.findRelay relayPin).or
        (if configuration.relayPin = relayPin then some ⟨configuration, true⟩ else none) := by
  rw [findRelay, addRelay_relays, hadded, if_pos rfl, KeyedList.lookup_append_singleton]
  rfl

/-- A new relay that is to be ON is driven ON, also if its hardware fails then. -/
theorem addRelay_drivenOn (controller : RelayController) (configuration : RelayConfiguration) (answers : GpioAnswers)
    (relayPin : UInt8) :
    (controller.addRelay configuration answers).1.DrivenOn relayPin ↔
      controller.DrivenOn relayPin ∨ (controller.isRelayRegistered configuration.relayPin = false ∧
        configuration.relayPin = relayPin ∧ configuration.initialStateOn = true) := by
  by_cases hfind : controller.findRelay configuration.relayPin = none
  · have hdrive : (⟨relayPin, true⟩ : GpioWrite) = ⟨configuration.relayPin, configuration.initialStateOn⟩ ↔
        configuration.relayPin = relayPin ∧ configuration.initialStateOn = true := by
      rw [GpioWrite.mk.injEq]
      exact and_congr eq_comm eq_comm
    cases hconfigured : answers.configured <;> cases hwritten : answers.written <;>
      simp [addRelay, DrivenOn, isRelayRegistered, hfind, hconfigured, hwritten, hdrive]
  · simp [addRelay, isRelayRegistered, hfind]

/-- A pin is only driven OFF when its relay is removed. -/
theorem removeRelay_drivenOn (controller : RelayController) (removed relayPin : UInt8) :
    (controller.removeRelay removed).1.DrivenOn relayPin ↔ controller.DrivenOn relayPin := by
  unfold removeRelay
  cases controller.findRelay removed with
  | none => rfl
  | some relay =>
    cases happlied : relay.hardwareApplied <;> simp [writeGpioLevel, DrivenOn, happlied]

end RelayController

end kilowatts
