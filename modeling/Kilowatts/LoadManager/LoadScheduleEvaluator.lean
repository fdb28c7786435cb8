import Kilowatts.LoadManager.Load

namespace kilowatts

/-- What `getCurrentLocalHour` and `getCurrentLocalMinute` answer as long as the
clock does not move. `none` stands for a read that returned false. -/
structure CurrentTimeProvider where
  currentLocalHour : Option UInt8
  currentLocalMinute : Option UInt8

structure LoadScheduleEvaluation where
  hasEnabledSchedule : Bool
  isScheduleActive : Bool

namespace LoadScheduleEvaluator

/-- The interval is start-inclusive and end-exclusive, and may cross midnight. -/
def isTimeWithinSchedule (schedule : AutoSchedule) (currentHour currentMinute : UInt8) : Bool :=
  if !schedule.enabled || !schedule.timesInRange || currentHour > 23 || currentMinute > 59 then false
  else
    let currentMinutes := currentHour.toNat * 60 + currentMinute.toNat
    if schedule.startMinutes = schedule.endMinutes then false
    else if schedule.startMinutes < schedule.endMinutes then
      schedule.startMinutes ≤ currentMinutes && currentMinutes < schedule.endMinutes
    else schedule.startMinutes ≤ currentMinutes || currentMinutes < schedule.endMinutes

def isScheduleActive (schedule : AutoSchedule) (currentTimeProvider : CurrentTimeProvider) : Bool :=
  match currentTimeProvider.currentLocalHour, currentTimeProvider.currentLocalMinute with
  | some currentHour, some currentMinute => isTimeWithinSchedule schedule currentHour currentMinute
  | _, _ => false

/-- `none` models the return value false of a load that is not AUTO. -/
def evaluateSchedule (load : Load) (currentTimeProvider : CurrentTimeProvider) : Option LoadScheduleEvaluation :=
  if !load.isAuto then none
  else some {
    hasEnabledSchedule := load.schedule.enabled
    isScheduleActive := load.schedule.enabled && isScheduleActive load.schedule currentTimeProvider }

/-- The minutes from the start of the window to a time of day, across midnight if that comes first. -/
def minutesFromStart (schedule : AutoSchedule) (minutes : Nat) : Nat := (minutes + 1440 - schedule.startMinutes) % 1440

/-- Of a day's minutes, those of the window are the ones that come less far behind its start than
its end does. -/
theorem isTimeWithinSchedule_iff {schedule : AutoSchedule} {currentHour currentMinute : UInt8} (hhour : currentHour ≤ 23)
    (hminute : currentMinute ≤ 59) :
    isTimeWithinSchedule schedule currentHour currentMinute = true ↔
      (schedule.enabled && schedule.timesInRange) = true ∧
        minutesFromStart schedule (currentHour.toNat * 60 + currentMinute.toNat) <
          minutesFromStart schedule schedule.endMinutes := by
  have hguard : (!schedule.enabled || !schedule.timesInRange || currentHour > 23 || currentMinute > 59) =
      !(schedule.enabled && schedule.timesInRange) := by
    have hhour' : ¬ currentHour > 23 := UInt8.not_lt.mpr hhour
    have hminute' : ¬ currentMinute > 59 := UInt8.not_lt.mpr hminute
    simp only [decide_eq_false hhour', decide_eq_false hminute', Bool.or_false, Bool.not_and]
  rw [isTimeWithinSchedule, hguard]
  cases hready : schedule.enabled && schedule.timesInRange with
  | false => simp
  | true =>
    have hrange := (Bool.and_eq_true_iff.mp hready).2
    simp only [AutoSchedule.timesInRange, Bool.and_eq_true, decide_eq_true_eq, UInt8.le_iff_toNat_le,
      UInt8.reduceToNat] at hrange hhour hminute
    have hstart : schedule.startMinutes < 1440 := by
      rw [AutoSchedule.startMinutes]
      omega
    have hend : schedule.endMinutes < 1440 := by
      rw [AutoSchedule.endMinutes]
      omega
    simp only [Bool.not_true, Bool.false_eq_true, if_false, true_and, minutesFromStart]
    split_ifs with hsame hbefore
    · rw [hsame, Nat.add_sub_cancel_left, Nat.mod_self]
      exact iff_of_false id (Nat.not_lt_zero _)
    · rw [Bool.and_eq_true, decide_eq_true_eq, decide_eq_true_eq]
      omega
    · rw [Bool.or_eq_true, decide_eq_true_eq, decide_eq_true_eq]
      omega

end LoadScheduleEvaluator

end kilowatts
