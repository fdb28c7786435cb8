import Mathlib.Algebra.Order.Field.Rat
import Mathlib.Data.Rat.Defs

namespace kilowatts

/-- One ESP32 MAC address contains six bytes. -/
abbrev MacAddress := Vector UInt8 6

/-- A C `float` as the checks of the code see it: an exact finite value, or one
that `std::isfinite` refuses (NaN and the infinities). -/
inductive CFloat where
  | finite (value : Rat)
  | nonFinite
deriving DecidableEq

/-- The number that the bits of a C `float` stand for. -/
def CFloat.ofBits (bits : UInt32) : CFloat :=
  let mantissa : Nat := bits.toNat % 2 ^ 23
  let exponent : Nat := bits.toNat / 2 ^ 23 % 2 ^ 8
  let sign : Int := if bits.toNat < 2 ^ 31 then 1 else -1
  if exponent = 255 then .nonFinite
  else if exponent = 0 then .finite (mkRat (sign * mantissa) (2 ^ 149))
  else .finite (mkRat (sign * ((2 ^ 23 + mantissa) * 2 ^ exponent)) (2 ^ 150))

/-- `LoadMode::Value`. Its four declared values, and the bytes a cast can put
into the enumeration although it does not declare them. -/
inductive LoadMode where
  | FIXED_OFF
  | FIXED_ON
  | AUTO_OFF
  | AUTO_ON
  | undeclared (byte : UInt8) (hbyte : 3 < byte)
deriving DecidableEq

namespace LoadMode

/-- `static_cast<LoadMode::Value>(byte)`. -/
def ofByte (byte : UInt8) : LoadMode :=
  if hbyte : 3 < byte then .undeclared byte hbyte
  else if byte = 0 then .FIXED_OFF
  else if byte = 1 then .FIXED_ON
  else if byte = 2 then .AUTO_OFF
  else .AUTO_ON

/-- `static_cast<std::uint8_t>(mode)`. -/
def toByte : LoadMode → UInt8
  | .FIXED_OFF => 0
  | .FIXED_ON => 1
  | .AUTO_OFF => 2
  | .AUTO_ON => 3
  | .undeclared byte _ => byte

/-- The mode is one of the four that the enumeration declares. -/
def isDeclared : LoadMode → Bool
  | .undeclared _ _ => false
  | _ => true

@[simp] theorem ofByte_toByte (mode : LoadMode) : ofByte mode.toByte = mode := by
  cases mode with
  | undeclared byte hbyte => simp [ofByte, toByte, hbyte]
  | _ => rfl

end LoadMode

/-- `LoadPowerType`, with the bytes that a cast can put into it. -/
inductive LoadPowerType where
  | AC
  | DC
  | undeclared (byte : UInt8) (hbyte : 1 < byte)
deriving DecidableEq

namespace LoadPowerType

def ofByte (byte : UInt8) : LoadPowerType :=
  if hbyte : 1 < byte then .undeclared byte hbyte
  else if byte = 0 then .AC
  else .DC

def toByte : LoadPowerType → UInt8
  | .AC => 0
  | .DC => 1
  | .undeclared byte _ => byte

def isDeclared : LoadPowerType → Bool
  | .undeclared _ _ => false
  | _ => true

@[simp] theorem ofByte_toByte (powerType : LoadPowerType) : ofByte powerType.toByte = powerType := by
  cases powerType with
  | undeclared byte hbyte => simp [ofByte, toByte, hbyte]
  | _ => rfl

end LoadPowerType

/-- Preferred running window of an AUTO load. Every constructor of the source
blanks the times of a disabled schedule, and no code writes a field afterwards. -/
structure AutoSchedule where
  enabled : Bool
  startHour : UInt8
  startMinute : UInt8
  endHour : UInt8
  endMinute : UInt8
  blank : enabled = false → startHour = 0 ∧ startMinute = 0 ∧ endHour = 0 ∧ endMinute = 0
deriving DecidableEq

namespace AutoSchedule

/-- The five-argument constructor. -/
def make (scheduleEnabled : Bool)
    (scheduleStartHour scheduleStartMinute scheduleEndHour scheduleEndMinute : UInt8) : AutoSchedule where
  enabled := scheduleEnabled
  startHour := if scheduleEnabled then scheduleStartHour else 0
  startMinute := if scheduleEnabled then scheduleStartMinute else 0
  endHour := if scheduleEnabled then scheduleEndHour else 0
  endMinute := if scheduleEnabled then scheduleEndMinute else 0
  blank := by intro hdisabled; simp [hdisabled]

/-- The default constructor, also written `{false, 0U, 0U, 0U, 0U}` in the source. -/
def none : AutoSchedule := make false 0 0 0 0

@[simp] theorem none_enabled : none.enabled = false := rfl

def startMinutes (schedule : AutoSchedule) : Nat :=
  schedule.startHour.toNat * 60 + schedule.startMinute.toNat

def endMinutes (schedule : AutoSchedule) : Nat :=
  schedule.endHour.toNat * 60 + schedule.endMinute.toNat

def timesInRange (schedule : AutoSchedule) : Bool :=
  schedule.startHour ≤ 23 && schedule.startMinute ≤ 59 && schedule.endHour ≤ 23 && schedule.endMinute ≤ 59

/-- The check repeated by every entry point: a disabled schedule is accepted, an
enabled one needs times of day in range and different start and end. -/
def isValidSchedule (schedule : AutoSchedule) : Bool :=
  !schedule.enabled || (schedule.timesInRange && schedule.startMinutes != schedule.endMinutes)

@[simp] theorem make_false (sh sm eh em : UInt8) : make false sh sm eh em = none := rfl

theorem eq_none_of_disabled {schedule : AutoSchedule} (hdisabled : schedule.enabled = false) :
    schedule = none := by
  obtain ⟨enabled, startHour, startMinute, endHour, endMinute, hblank⟩ := schedule
  obtain ⟨rfl, rfl, rfl, rfl⟩ := hblank hdisabled
  cases hdisabled
  rfl

/-- Rebuilding a schedule from its own fields gives it back. -/
@[simp] theorem make_self (schedule : AutoSchedule) :
    make schedule.enabled schedule.startHour schedule.startMinute schedule.endHour schedule.endMinute =
      schedule := by
  cases henabled : schedule.enabled with
  | false => rw [make_false, eq_none_of_disabled henabled]
  | true => cases schedule; simp_all [make]

end AutoSchedule

/-- Globally identifies one physical load: its Node and its relay pin there. -/
@[ext]
structure Load.Id where
  macAddress : MacAddress
  relayPin : UInt8
deriving DecidableEq

/-- One electrical load. The rating is finite and non-negative in every `Load`,
since `setPowerRatingWatts` is the only code that writes it. -/
structure Load where
  id : Load.Id
  name : List UInt8
  lastBestFirstRejectionReason : UInt8
  powerRatingWatts : Rat
  powerRating_nonneg : 0 ≤ powerRatingWatts
  powerType : LoadPowerType
  priority : UInt16
  mode : LoadMode
  schedule : AutoSchedule
deriving DecidableEq

namespace Load

def getMacAddress (load : Load) : MacAddress := load.id.macAddress

def getRelayPin (load : Load) : UInt8 := load.id.relayPin

def isFixed (load : Load) : Bool := load.mode = .FIXED_ON || load.mode = .FIXED_OFF

def isAuto (load : Load) : Bool := load.mode = .AUTO_ON || load.mode = .AUTO_OFF

def isOn (load : Load) : Bool := load.mode = .FIXED_ON || load.mode = .AUTO_ON

def setName (load : Load) (name : List UInt8) : Load := { load with name }

def clearSchedule (load : Load) : Load := { load with schedule := .none }

/-- A fixed mode drops the schedule. -/
def setMode (load : Load) (mode : LoadMode) : Load :=
  let changed := { load with mode }
  if changed.isFixed then changed.clearSchedule else changed

def setLastBestFirstRejectionReason (load : Load) (reason : UInt8) : Load :=
  { load with lastBestFirstRejectionReason := reason }

def setPowerRatingWatts (load : Load) : CFloat → Load × Bool
  | .finite value => if hnonneg : 0 ≤ value then
      ({ load with powerRatingWatts := value, powerRating_nonneg := hnonneg }, true)
    else (load, false)
  | .nonFinite => (load, false)

def setPowerType (load : Load) (powerType : LoadPowerType) : Load := { load with powerType }

def setPriority (load : Load) (priority : UInt16) : Load := { load with priority }

def setSchedule (load : Load) (schedule : AutoSchedule) : Load × Bool :=
  if !load.isAuto then (load, false)
  else if !schedule.enabled then (load.clearSchedule, true)
  else if !schedule.timesInRange then (load, false)
  else if schedule.startMinutes = schedule.endMinutes then (load, false)
  else ({ load with schedule }, true)

/-- The constructor: an unusable rating leaves the initial 0 W in place. -/
def make (id : Load.Id) (name : List UInt8) (powerRatingWatts : CFloat) (priority : UInt16)
    (powerType : LoadPowerType) (mode : LoadMode) : Load :=
  (setPowerRatingWatts
    { id, name, lastBestFirstRejectionReason := 0, powerRatingWatts := 0, powerRating_nonneg := le_refl 0,
      powerType, priority, mode, schedule := .none } powerRatingWatts).1

theorem setMode_eq (load : Load) (mode : LoadMode) :
    load.setMode mode =
      { load with mode, schedule := if mode = .FIXED_ON ∨ mode = .FIXED_OFF then .none else load.schedule } := by
  by_cases hfixed : mode = .FIXED_ON ∨ mode = .FIXED_OFF
  · simp [setMode, isFixed, clearSchedule, hfixed]
  · simp only [not_or] at hfixed
    simp [setMode, isFixed, hfixed.1, hfixed.2]

/-- An AUTO load takes exactly the valid schedules, a disabled one included. -/
theorem setSchedule_eq (load : Load) (schedule : AutoSchedule) :
    load.setSchedule schedule =
      (if load.isAuto && schedule.isValidSchedule then ({ load with schedule }, true) else (load, false)) := by
  cases hauto : load.isAuto with
  | false => simp [setSchedule, hauto]
  | true =>
    cases henabled : schedule.enabled with
    | false =>
      rw [AutoSchedule.eq_none_of_disabled henabled]
      simp [setSchedule, hauto, clearSchedule, AutoSchedule.isValidSchedule]
    | true =>
      cases hrange : schedule.timesInRange with
      | false => simp [setSchedule, hauto, henabled, hrange, AutoSchedule.isValidSchedule]
      | true =>
        by_cases hequal : schedule.startMinutes = schedule.endMinutes
        · simp [setSchedule, hauto, henabled, hrange, hequal, AutoSchedule.isValidSchedule]
        · simp [setSchedule, hauto, henabled, hrange, hequal, AutoSchedule.isValidSchedule]

@[simp] theorem setMode_id (load : Load) (mode : LoadMode) : (load.setMode mode).id = load.id := by
  rw [setMode_eq]

@[simp] theorem setSchedule_id (load : Load) (schedule : AutoSchedule) :
    (load.setSchedule schedule).1.id = load.id := by
  rw [setSchedule_eq]
  split <;> rfl

@[simp] theorem setPowerRatingWatts_id (load : Load) (rating : CFloat) :
    (load.setPowerRatingWatts rating).1.id = load.id := by
  cases rating with
  | finite value => simp only [setPowerRatingWatts]; split <;> rfl
  | nonFinite => rfl

@[simp] theorem make_id (id : Load.Id) (name : List UInt8) (rating : CFloat) (priority : UInt16)
    (powerType : LoadPowerType) (mode : LoadMode) : (make id name rating priority powerType mode).id = id := by
  rw [make, setPowerRatingWatts_id]

/-- A new load has the given fields, no schedule, and some usable rating. -/
theorem make_eq (id : Load.Id) (name : List UInt8) (rating : CFloat) (priority : UInt16)
    (powerType : LoadPowerType) (mode : LoadMode) :
    ∃ (value : Rat) (hnonneg : 0 ≤ value), make id name rating priority powerType mode =
      { id, name, lastBestFirstRejectionReason := 0, powerRatingWatts := value, powerRating_nonneg := hnonneg,
        powerType, priority, mode, schedule := .none } := by
  cases rating with
  | finite value =>
    by_cases hnonneg : 0 ≤ value
    · exact ⟨value, hnonneg, by simp [make, setPowerRatingWatts, hnonneg]⟩
    · exact ⟨0, le_refl 0, by simp [make, setPowerRatingWatts, hnonneg]⟩
  | nonFinite => exact ⟨0, le_refl 0, rfl⟩

end Load

end kilowatts
