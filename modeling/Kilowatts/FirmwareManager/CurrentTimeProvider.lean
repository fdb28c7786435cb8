import Kilowatts.Library.CivilCalendar
import Kilowatts.Library.FlashBacked
import Kilowatts.Library.Latch
import Kilowatts.LoadManager.LoadScheduleEvaluator

namespace kilowatts.WallClock

open CivilCalendar (Date DateTime)

/-- Whether the clock follows the network or the user. -/
inductive TimeMode where
  | AUTOMATIC
  | MANUAL
deriving DecidableEq

/-- Where the time comes from that the clock shows. -/
inductive TimeSource where
  | NONE
  | NTP
  | MANUAL
deriving DecidableEq

/-- The enumerator's value. -/
def TimeMode.toByte : TimeMode → UInt8
  | .AUTOMATIC => 0
  | .MANUAL => 1

/-- A date and a time of day, as the user enters them. -/
structure ManualDateTime where
  year : UInt16
  month : UInt8
  day : UInt8
  hour : UInt8
  minute : UInt8
  second : UInt8
deriving DecidableEq

/-- `std::tm`, apart from the fields that nothing reads. -/
structure Tm where
  tm_year : Int
  tm_mon : Int
  tm_mday : Int
  tm_hour : Int
  tm_min : Int
  tm_sec : Int
deriving DecidableEq

/-- The first year that can be entered. -/
def MINIMUM_MANUAL_YEAR : UInt16 := 2000

/-- The last year that can be entered. -/
def MAXIMUM_MANUAL_YEAR : UInt16 := 2099

/-- `CAT-2` is two hours ahead of UTC throughout the year. -/
def LOCAL_TIMEZONE_SECONDS : Int := 7200

/-- The rule of the Gregorian calendar. -/
def isLeapYear (year : UInt16) : Bool := (year % 4 = 0 && year % 100 != 0) || year % 400 = 0

/-- The days of the months, in a year that is not a leap year. -/
def DAYS_IN_MONTH : List UInt8 := [31, 28, 31, 30, 31, 30, 31, 31, 30, 31, 30, 31]

/-- No month outside 1 to 12 has days. -/
def daysInMonth (year : UInt16) (month : UInt8) : UInt8 :=
  if month < 1 || month > 12 then 0
  else if month = 2 && isLeapYear year then 29
  else DAYS_IN_MONTH.getD (month.toNat - 1) 0

/-- The checks stand in the order in which the code makes them. -/
def isManualDateTimeValid (manualDateTime : ManualDateTime) : Bool :=
  if manualDateTime.year < MINIMUM_MANUAL_YEAR || manualDateTime.year > MAXIMUM_MANUAL_YEAR then false
  else if manualDateTime.month < 1 || manualDateTime.month > 12 then false
  else
    let maximumDay := daysInMonth manualDateTime.year manualDateTime.month
    if manualDateTime.day < 1 || manualDateTime.day > maximumDay then false
    else if manualDateTime.hour > 23 then false
    else if manualDateTime.minute > 59 then false
    else if manualDateTime.second > 59 then false
    else true

/-- The fields that `setManualCurrentDateTime` fills in. -/
def ManualDateTime.localDateTime (manualDateTime : ManualDateTime) : Tm where
  tm_year := (manualDateTime.year.toNat : Int) - 1900
  tm_mon := (manualDateTime.month.toNat : Int) - 1
  tm_mday := manualDateTime.day.toNat
  tm_hour := manualDateTime.hour.toNat
  tm_min := manualDateTime.minute.toNat
  tm_sec := manualDateTime.second.toNat

/-- The date and the time of day that the fields stand for, where they do. -/
def Tm.dateTime (tm : Tm) : DateTime :=
  ⟨⟨tm.tm_year + 1900, (tm.tm_mon + 1).toNat, tm.tm_mday.toNat⟩, tm.tm_hour.toNat, tm.tm_min.toNat, tm.tm_sec.toNat⟩

/-- The fields of `struct tm` count years from 1900 and months from zero. -/
def Tm.ofDateTime (dateTime : DateTime) : Tm where
  tm_year := dateTime.year - 1900
  tm_mon := (dateTime.month : Int) - 1
  tm_mday := dateTime.day
  tm_hour := dateTime.hour
  tm_min := dateTime.minute
  tm_sec := dateTime.second

/-- A local time that stands in the calendar, in seconds since the epoch. -/
def mktime (localDateTime : Tm) : Int := localDateTime.dateTime.toSeconds - LOCAL_TIMEZONE_SECONDS

/-- The local fields of an instant. -/
def localtime_r (epochSeconds : Int) : Tm := Tm.ofDateTime (DateTime.ofSeconds (epochSeconds + LOCAL_TIMEZONE_SECONDS))

/-- `CurrentTimeProvider`, the system clock in seconds, and the two keys of `kw_time`. -/
structure TimeKeeper where
  initialized : Bool
  sntpActive : Bool
  timeMode : TimeMode
  timeSource : TimeSource
  systemClock : Int
  persistedTimeMode : Option UInt8
  persistedManualTimestamp : Option Int
deriving DecidableEq

namespace TimeKeeper

variable (keeper : TimeKeeper)

/-- Any other stored byte, or none, is the automatic mode. -/
def loadPersistedTimeMode : TimeMode :=
  if keeper.persistedTimeMode = some TimeMode.MANUAL.toByte then .MANUAL else .AUTOMATIC

/-- `sntpStarts` tells whether the network stack and the client could be started. -/
def startAutomaticSynchronization (sntpStarts : Bool) : TimeKeeper × Bool :=
  if keeper.sntpActive then (keeper, true)
  else if !sntpStarts then (keeper, false)
  else ({ keeper with sntpActive := true }, true)

/-- Whatever the clock showed stays. -/
def stopAutomaticSynchronization : TimeKeeper := { keeper with sntpActive := false }

/-- `storageReady` is the answer of `initializeNonVolatileStorage`. -/
def initializeTimeSynchronization (storageReady sntpStarts : Bool) : TimeKeeper × Bool :=
  if keeper.initialized then (keeper, true)
  else if !storageReady then (keeper, false)
  else
    let loaded := { keeper with timeMode := keeper.loadPersistedTimeMode, timeSource := .NONE }
    let (started, result) :=
      if loaded.timeMode = .AUTOMATIC then loaded.startAutomaticSynchronization sntpStarts else (loaded, true)
    ({ started with initialized := true }, result)

/-- A change of mode discards the time source, also when the flash refuses the new mode. -/
def setTimeMode (timeMode : TimeMode) (flash : FlashAnswers) (sntpStarts : Bool) : TimeKeeper × Bool :=
  if keeper.timeMode = timeMode then (keeper, true)
  else
    let changed := { keeper with
      persistedTimeMode := if flash.writes then some timeMode.toByte else keeper.persistedTimeMode
      timeMode
      timeSource := .NONE }
    let (switched, transitionSucceeded) :=
      if timeMode = .MANUAL then (changed.stopAutomaticSynchronization, true)
      else changed.startAutomaticSynchronization sntpStarts
    (switched, flash.succeeds && transitionSucceeded)

/-- `clockSet` is the answer of `settimeofday`. -/
def setManualCurrentDateTime (manualDateTime : ManualDateTime) (clockSet : Bool) (flash : FlashAnswers) :
    TimeKeeper × Bool :=
  if !isManualDateTimeValid manualDateTime then (keeper, false)
  else
    let epochSeconds := mktime manualDateTime.localDateTime
    if epochSeconds = -1 then (keeper, false)
    else if !clockSet then (keeper, false)
    else
      ({ keeper with
        systemClock := epochSeconds
        timeSource := .MANUAL
        persistedManualTimestamp := if flash.writes then some epochSeconds else keeper.persistedManualTimestamp }, true)

/-- An event that arrives late is ignored. -/
def handleTimeSynchronizationEvent : TimeKeeper :=
  if keeper.timeMode ≠ .AUTOMATIC then keeper else { keeper with timeSource := .NTP }

/-- The clock is trusted once a source has set it. -/
def isCurrentTimeValid : Bool := keeper.timeSource != .NONE

/-- No time is given out before it is valid. -/
def getCurrentLocalDateTime : Option Tm :=
  if !keeper.isCurrentTimeValid then none else some (localtime_r keeper.systemClock)

/-- The hour of the local time. -/
def getCurrentLocalHour : Option UInt8 := keeper.getCurrentLocalDateTime.map fun tm => UInt8.ofInt tm.tm_hour

/-- The minute of the local time. -/
def getCurrentLocalMinute : Option UInt8 := keeper.getCurrentLocalDateTime.map fun tm => UInt8.ofInt tm.tm_min

/-- What a schedule evaluation reads: the hour, and the minute with a second reading of the clock. -/
def readings (later : TimeKeeper) : CurrentTimeProvider := ⟨keeper.getCurrentLocalHour, later.getCurrentLocalMinute⟩

end TimeKeeper

section Conversions

/-- The entry is a date of the calendar and a time of day. -/
def ManualDateTime.dateTime (manualDateTime : ManualDateTime) : DateTime :=
  ⟨⟨manualDateTime.year.toNat, manualDateTime.month.toNat, manualDateTime.day.toNat⟩, manualDateTime.hour.toNat,
    manualDateTime.minute.toNat, manualDateTime.second.toNat⟩

/-- The fields stand for the entry that they were filled from. -/
theorem ManualDateTime.localDateTime_dateTime (manualDateTime : ManualDateTime) :
    manualDateTime.localDateTime.dateTime = manualDateTime.dateTime := by
  simp only [localDateTime, Tm.dateTime, dateTime, Int.sub_add_cancel, Int.toNat_natCast]

/-- The fields of a date and time stand for it. -/
theorem Tm.dateTime_ofDateTime (dateTime : DateTime) : (ofDateTime dateTime).dateTime = dateTime := by
  simp only [ofDateTime, Tm.dateTime, Int.sub_add_cancel, Int.toNat_natCast]

/-- The entry's fields are those of its date and time. -/
theorem ManualDateTime.ofDateTime_dateTime (manualDateTime : ManualDateTime) :
    Tm.ofDateTime manualDateTime.dateTime = manualDateTime.localDateTime := rfl

/-- The source's rule on 16 bits is the calendar's. -/
theorem isLeapYear_eq (year : UInt16) : isLeapYear year = CivilCalendar.isLeap year.toNat := by
  have hzero : ∀ divisor : UInt16, year % divisor = 0 ↔ (year.toNat : Int) % divisor.toNat = 0 := by
    intro divisor
    rw [← UInt16.toNat_inj, UInt16.toNat_mod, UInt16.toNat_zero]
    omega
  have h4 := hzero 4
  have h100 := hzero 100
  have h400 := hzero 400
  rw [Bool.eq_iff_iff]
  simp only [isLeapYear, CivilCalendar.isLeap, Bool.or_eq_true, Bool.and_eq_true, decide_eq_true_eq, bne_iff_ne, ne_eq]
  rw [h4, h100, h400]
  rfl

/-- The table of the source is that of the calendar. -/
theorem daysInMonth_toNat (year : UInt16) {month : UInt8} (hmonth : 1 ≤ month.toNat ∧ month.toNat ≤ 12) :
    (daysInMonth year month).toNat = CivilCalendar.monthLength year.toNat month.toNat := by
  obtain ⟨index, hindex⟩ : ∃ index, month = UInt8.ofNat (index + 1) ∧ index < 12 := by
    refine ⟨month.toNat - 1, ?_, by omega⟩
    rw [Nat.sub_add_cancel hmonth.1, UInt8.ofNat_toNat]
  obtain ⟨rfl, hrange⟩ := hindex
  rw [daysInMonth, isLeapYear_eq, CivilCalendar.monthLength, CivilCalendar.monthLengths]
  cases CivilCalendar.isLeap (year.toNat : Int) <;> revert index <;> decide

/-- An entry is accepted exactly if it is a real date and time of the years 2000 to 2099. -/
theorem isManualDateTimeValid_iff_isReal (manualDateTime : ManualDateTime) :
    isManualDateTimeValid manualDateTime = true ↔
      (MINIMUM_MANUAL_YEAR ≤ manualDateTime.year ∧ manualDateTime.year ≤ MAXIMUM_MANUAL_YEAR) ∧
        manualDateTime.dateTime.IsReal := by
  obtain ⟨year, month, day, hour, minute, second⟩ := manualDateTime
  have hvalid : isManualDateTimeValid ⟨year, month, day, hour, minute, second⟩ = true ↔
      (MINIMUM_MANUAL_YEAR ≤ year ∧ year ≤ MAXIMUM_MANUAL_YEAR) ∧ (1 ≤ month.toNat ∧ month.toNat ≤ 12) ∧
        (1 ≤ day.toNat ∧ day.toNat ≤ (daysInMonth year month).toNat) ∧ hour.toNat < 24 ∧ minute.toNat < 60 ∧
          second.toNat < 60 := by
    simp only [isManualDateTimeValid, Bool.or_eq_true, decide_eq_true_eq, UInt8.lt_iff_toNat_lt, gt_iff_lt,
      UInt16.lt_iff_toNat_lt, UInt16.le_iff_toNat_le]
    split_ifs <;> simp_all <;> omega
  rw [hvalid]
  refine and_congr_right fun _ => ⟨?_, ?_⟩
  · rintro ⟨hmonth, hday, htime⟩
    rw [daysInMonth_toNat year hmonth] at hday
    exact ⟨⟨hmonth.1, hday.1, hday.2⟩, htime.1, htime.2.1, htime.2.2⟩
  · rintro ⟨⟨hmonth, hday, hinMonth⟩, hhour, hminute, hsecond⟩
    have hlast := CivilCalendar.month_le_of_monthLength_pos (Nat.lt_of_lt_of_le hday hinMonth)
    exact ⟨⟨hmonth, hlast⟩, ⟨hday, (daysInMonth_toNat year ⟨hmonth, hlast⟩).symm ▸ hinMonth⟩, hhour, hminute, hsecond⟩

/-- An instant shows a date and time exactly if these are real and it is their instant. -/
theorem localtime_r_eq_iff {epochSeconds : Int} {dateTime : DateTime} :
    localtime_r epochSeconds = Tm.ofDateTime dateTime ↔
      dateTime.IsReal ∧ epochSeconds = dateTime.toSeconds - LOCAL_TIMEZONE_SECONDS := by
  constructor
  · intro hsame
    have hdateTime := congrArg Tm.dateTime hsame
    rw [localtime_r, Tm.dateTime_ofDateTime, Tm.dateTime_ofDateTime] at hdateTime
    rw [← hdateTime, DateTime.toSeconds_ofSeconds, Int.add_sub_cancel]
    exact ⟨DateTime.ofSeconds_isReal _, rfl⟩
  · rintro ⟨hreal, rfl⟩
    rw [localtime_r, Int.sub_add_cancel, DateTime.ofSeconds_toSeconds hreal]

/-- An entry is accepted exactly if it is in the years 2000 to 2099 and the local clock shows it at some
instant. There is only one. Nothing is assumed about the entry. -/
theorem isManualDateTimeValid_iff (manualDateTime : ManualDateTime) :
    isManualDateTimeValid manualDateTime = true ↔
      (MINIMUM_MANUAL_YEAR ≤ manualDateTime.year ∧ manualDateTime.year ≤ MAXIMUM_MANUAL_YEAR) ∧
        ∃! epochSeconds, localtime_r epochSeconds = manualDateTime.localDateTime := by
  rw [isManualDateTimeValid_iff_isReal, ← ManualDateTime.ofDateTime_dateTime]
  simp only [localtime_r_eq_iff]
  refine and_congr_right fun _ => ⟨fun hreal => ⟨_, ⟨hreal, rfl⟩, fun _ hother => hother.2⟩, ?_⟩
  rintro ⟨_, ⟨hreal, -⟩, -⟩
  exact hreal

end Conversions

end kilowatts.WallClock
