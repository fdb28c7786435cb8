import Kilowatts.FirmwareManager.CurrentTimeProvider

namespace kilowatts.WallClock

open CivilCalendar (DateTime)
open LoadScheduleEvaluator (isScheduleActive isTimeWithinSchedule isTimeWithinSchedule_iff minutesFromStart)

/-- What a boot finds: where the system clock stands, and what can be initialised. -/
structure BootConditions where
  systemClock : Int
  storageReady : Bool
  sntpStarts : Bool

/-- What can happen to the clock of a Node. A boot initialises the provider before anything
else uses it. The SNTP client sets the clock before the provider hears of it, and anything may
happen in between. -/
inductive TimeEvent where
  | boot (conditions : BootConditions)
  | setTimeMode (timeMode : TimeMode) (flash : FlashAnswers) (sntpStarts : Bool)
  | setManualCurrentDateTime (manualDateTime : ManualDateTime) (clockSet : Bool) (flash : FlashAnswers)
  | sntpSetsClock (epochSeconds : Int)
  | timeSynchronizationEvent
  | tick (seconds : Nat)

/-- How far the event moves time on. -/
def TimeEvent.seconds : TimeEvent → Nat
  | .tick seconds => seconds
  | _ => 0

/-- The seconds that pass during the events. -/
def elapsedSeconds (events : List TimeEvent) : Nat := (events.map TimeEvent.seconds).sum

namespace TimeKeeper

/-- The provider after a restart. -/
def booted (keeper : TimeKeeper) (systemClock : Int) : TimeKeeper :=
  { keeper with
    initialized := false
    sntpActive := false
    timeMode := .AUTOMATIC
    timeSource := .NONE
    systemClock }

/-- A client that is stopped does not set the clock. -/
def next (keeper : TimeKeeper) : TimeEvent → TimeKeeper
  | .boot conditions =>
    ((keeper.booted conditions.systemClock).initializeTimeSynchronization conditions.storageReady
      conditions.sntpStarts).1
  | .setTimeMode timeMode flash sntpStarts => (keeper.setTimeMode timeMode flash sntpStarts).1
  | .setManualCurrentDateTime manualDateTime clockSet flash =>
    (keeper.setManualCurrentDateTime manualDateTime clockSet flash).1
  | .sntpSetsClock epochSeconds => if keeper.sntpActive then { keeper with systemClock := epochSeconds } else keeper
  | .timeSynchronizationEvent => keeper.handleTimeSynchronizationEvent
  | .tick seconds => { keeper with systemClock := keeper.systemClock + seconds }

/-- The source that the event establishes the time from. -/
def establishes (keeper : TimeKeeper) : TimeEvent → Option TimeSource
  | .setManualCurrentDateTime manualDateTime clockSet _ =>
    if isManualDateTimeValid manualDateTime && clockSet then some .MANUAL else none
  | .timeSynchronizationEvent => if keeper.timeMode = .AUTOMATIC then some .NTP else none
  | _ => none

/-- The event is a restart, or selects the other mode. -/
def resets (keeper : TimeKeeper) : TimeEvent → Bool
  | .boot _ => true
  | .setTimeMode timeMode _ _ => keeper.timeMode ≠ timeMode
  | _ => false

/-- The Node after a boot and these events. -/
def run (keeper : TimeKeeper) (boot : BootConditions) (events : List TimeEvent) : TimeKeeper :=
  events.foldl next (keeper.next (.boot boot))

/-- The source established the time, and nothing has established or reset it since. -/
def EstablishedSince (keeper : TimeKeeper) (boot : BootConditions) (events : List TimeEvent)
    (timeSource : TimeSource) : Prop :=
  Latch.SetSince next establishes (fun keeper event => keeper.resets event = true) (keeper.next (.boot boot)) events
    timeSource

/-- Nothing establishes or resets the time. -/
def Undisturbed (keeper : TimeKeeper) (events : List TimeEvent) : Prop :=
  Latch.Quiet next establishes (fun keeper event => keeper.resets event = true) keeper events

/-- The client only runs, and the time is only that of the network, in the automatic mode. -/
structure Consistent (keeper : TimeKeeper) : Prop where
  sntpActive : keeper.sntpActive = true → keeper.timeMode = .AUTOMATIC
  ntp : keeper.timeSource = .NTP → keeper.timeMode = .AUTOMATIC

section Operations

variable {keeper : TimeKeeper}

/-- Only the client changes, and it runs afterwards if it can be started. -/
theorem startAutomaticSynchronization_eq (keeper : TimeKeeper) (sntpStarts : Bool) :
    (keeper.startAutomaticSynchronization sntpStarts).1 =
      { keeper with sntpActive := keeper.sntpActive || sntpStarts } := by
  obtain ⟨initialized, sntpActive, timeMode, timeSource, systemClock, persistedTimeMode, timestamp⟩ := keeper
  cases sntpActive <;> cases sntpStarts <;> rfl

/-- The whole initialization, in one record. -/
theorem initializeTimeSynchronization_eq (keeper : TimeKeeper) (storageReady sntpStarts : Bool) :
    (keeper.initializeTimeSynchronization storageReady sntpStarts).1 =
      if !keeper.initialized && storageReady then
        { keeper with
          initialized := true
          sntpActive := keeper.sntpActive || (keeper.loadPersistedTimeMode = .AUTOMATIC && sntpStarts)
          timeMode := keeper.loadPersistedTimeMode
          timeSource := .NONE }
      else keeper := by
  unfold initializeTimeSynchronization
  cases keeper.initialized with
  | true => rfl
  | false =>
    cases storageReady with
    | false => rfl
    | true =>
      dsimp only [Bool.not_false, Bool.not_true, Bool.true_and, Bool.false_eq_true, if_false, if_true]
      by_cases hautomatic : keeper.loadPersistedTimeMode = .AUTOMATIC
      · simp [hautomatic, startAutomaticSynchronization_eq]
      · simp [hautomatic]

/-- The whole change of mode, in one record. -/
theorem setTimeMode_eq (keeper : TimeKeeper) (timeMode : TimeMode) (flash : FlashAnswers) (sntpStarts : Bool) :
    (keeper.setTimeMode timeMode flash sntpStarts).1 =
      if keeper.timeMode = timeMode then keeper
      else
        { keeper with
          sntpActive := timeMode = .AUTOMATIC && (keeper.sntpActive || sntpStarts)
          timeMode
          timeSource := .NONE
          persistedTimeMode := if flash.writes then some timeMode.toByte else keeper.persistedTimeMode } := by
  unfold setTimeMode
  by_cases hsame : keeper.timeMode = timeMode
  · rw [if_pos hsame, if_pos hsame]
  · rw [if_neg hsame, if_neg hsame]
    cases timeMode with
    | AUTOMATIC => simp [startAutomaticSynchronization_eq]
    | MANUAL => simp [stopAutomaticSynchronization]

/-- The time of an accepted entry is never the one that `mktime` fails with. -/
theorem mktime_ne {manualDateTime : ManualDateTime} (hvalid : isManualDateTimeValid manualDateTime = true) :
    mktime manualDateTime.localDateTime ≠ -1 := by
  rw [isManualDateTimeValid_iff_isReal] at hvalid
  have hyear : MINIMUM_MANUAL_YEAR.toNat ≤ manualDateTime.year.toNat := hvalid.1.1
  have hlater := CivilCalendar.daysBeforeYear_le (show (2000 : Int) ≤ manualDateTime.year.toNat by
    have hminimum : MINIMUM_MANUAL_YEAR.toNat = 2000 := rfl
    omega)
  have hdays := manualDateTime.dateTime.toDate.daysBeforeYear_le_toDays
  have hmillennium : CivilCalendar.daysBeforeYear 2000 = 730119 := rfl
  rw [mktime, ManualDateTime.localDateTime_dateTime, DateTime.toSeconds, LOCAL_TIMEZONE_SECONDS]
  rw [show manualDateTime.dateTime.year = manualDateTime.year.toNat from rfl, CivilCalendar.EPOCH] at hdays
  omega

/-- The instant of a valid entry is never -1, so that exit is not taken. -/
theorem setManualCurrentDateTime_eq (keeper : TimeKeeper) (manualDateTime : ManualDateTime) (clockSet : Bool)
    (flash : FlashAnswers) :
    (keeper.setManualCurrentDateTime manualDateTime clockSet flash).1 =
      if isManualDateTimeValid manualDateTime && clockSet then
        { keeper with
          systemClock := mktime manualDateTime.localDateTime
          timeSource := .MANUAL
          persistedManualTimestamp :=
            if flash.writes then some (mktime manualDateTime.localDateTime) else keeper.persistedManualTimestamp }
      else keeper := by
  unfold setManualCurrentDateTime
  cases hvalid : isManualDateTimeValid manualDateTime with
  | false => rfl
  | true =>
    dsimp only [Bool.not_true, Bool.true_and, Bool.false_eq_true, if_false]
    rw [if_neg (mktime_ne hvalid)]
    cases clockSet <;> rfl

/-- The whole boot, in one record. -/
theorem next_boot (keeper : TimeKeeper) (boot : BootConditions) :
    keeper.next (.boot boot) =
      if boot.storageReady then
        { keeper with
          initialized := true
          sntpActive := keeper.loadPersistedTimeMode = .AUTOMATIC && boot.sntpStarts
          timeMode := keeper.loadPersistedTimeMode
          timeSource := .NONE
          systemClock := boot.systemClock }
      else keeper.booted boot.systemClock := by
  rw [next, initializeTimeSynchronization_eq]
  cases boot.storageReady <;> rfl

/-- The client's event, in one record. -/
theorem handleTimeSynchronizationEvent_eq (keeper : TimeKeeper) :
    keeper.handleTimeSynchronizationEvent =
      if keeper.timeMode = .AUTOMATIC then { keeper with timeSource := .NTP } else keeper := by
  unfold handleTimeSynchronizationEvent
  by_cases hautomatic : keeper.timeMode = .AUTOMATIC
  · rw [if_neg (not_not_intro hautomatic), if_pos hautomatic]
  · rw [if_pos hautomatic, if_neg hautomatic]

end Operations

section Steps

variable {keeper : TimeKeeper} {event : TimeEvent}

/-- A boot starts consistent, whatever the flash holds. -/
theorem consistent_boot (keeper : TimeKeeper) (boot : BootConditions) : (keeper.next (.boot boot)).Consistent := by
  rw [next_boot]
  cases boot.storageReady with
  | true => exact ⟨fun hactive => of_decide_eq_true (Bool.and_eq_true_iff.mp hactive).1, nofun⟩
  | false => exact ⟨nofun, nofun⟩

/-- Every event keeps the keeper consistent. -/
theorem Consistent.next (hconsistent : keeper.Consistent) (event : TimeEvent) : (keeper.next event).Consistent := by
  obtain ⟨hactive, hntp⟩ := hconsistent
  cases event with
  | boot boot => exact consistent_boot keeper boot
  | setTimeMode timeMode flash sntpStarts =>
    rw [TimeKeeper.next, setTimeMode_eq]
    by_cases hsame : keeper.timeMode = timeMode
    · rw [if_pos hsame]
      exact ⟨hactive, hntp⟩
    · rw [if_neg hsame]
      exact ⟨fun hstarted => of_decide_eq_true (Bool.and_eq_true_iff.mp hstarted).1, nofun⟩
  | setManualCurrentDateTime manualDateTime clockSet flash =>
    rw [TimeKeeper.next, setManualCurrentDateTime_eq]
    by_cases haccepted : (isManualDateTimeValid manualDateTime && clockSet) = true
    · rw [if_pos haccepted]
      exact ⟨hactive, nofun⟩
    · rw [if_neg haccepted]
      exact ⟨hactive, hntp⟩
  | sntpSetsClock epochSeconds =>
    rw [TimeKeeper.next]
    split_ifs
    · exact ⟨hactive, hntp⟩
    · exact ⟨hactive, hntp⟩
  | timeSynchronizationEvent =>
    rw [TimeKeeper.next, handleTimeSynchronizationEvent_eq]
    split_ifs with hautomatic
    · exact ⟨hactive, fun _ => hautomatic⟩
    · exact ⟨hactive, hntp⟩
  | tick seconds => exact ⟨hactive, hntp⟩

/-- The source that the time has been established from. -/
def validSource (keeper : TimeKeeper) : Option TimeSource :=
  if keeper.timeSource = .NONE then none else some keeper.timeSource

/-- The event that sets the clock makes its source valid. -/
theorem validSource_next_of_establishes {timeSource : TimeSource}
    (hestablishes : keeper.establishes event = some timeSource) :
    (keeper.next event).validSource = some timeSource := by
  cases event with
  | setManualCurrentDateTime manualDateTime clockSet flash =>
    rw [establishes] at hestablishes
    split_ifs at hestablishes with haccepted
    obtain rfl := Option.some.inj hestablishes
    rw [next, setManualCurrentDateTime_eq, if_pos haccepted]
    rfl
  | timeSynchronizationEvent =>
    rw [establishes] at hestablishes
    split_ifs at hestablishes with hautomatic
    obtain rfl := Option.some.inj hestablishes
    rw [next, handleTimeSynchronizationEvent_eq, if_pos hautomatic]
    rfl
  | _ => cases hestablishes

/-- A reset makes every source invalid. -/
theorem validSource_next_of_resets (hresets : keeper.resets event = true) : (keeper.next event).validSource = none := by
  cases event with
  | boot boot =>
    rw [next_boot]
    cases boot.storageReady <;> rfl
  | setTimeMode timeMode flash sntpStarts =>
    rw [next, setTimeMode_eq, if_neg (by simpa [resets] using hresets)]
    rfl
  | _ => cases hresets

/-- What neither establishes nor resets the time leaves its source and the mode. Without a
client that runs, it also leaves the clock alone. -/
theorem next_of_undisturbed (hestablishes : keeper.establishes event = none) (hresets : ¬ keeper.resets event = true) :
    (keeper.next event).timeSource = keeper.timeSource ∧ (keeper.next event).timeMode = keeper.timeMode ∧
      (keeper.sntpActive = false →
        (keeper.next event).sntpActive = false ∧
          (keeper.next event).systemClock = keeper.systemClock + event.seconds) := by
  cases event with
  | boot boot => exact absurd rfl hresets
  | setTimeMode timeMode flash sntpStarts =>
    rw [next, setTimeMode_eq, if_pos (by simpa [resets] using hresets)]
    simp [TimeEvent.seconds]
  | setManualCurrentDateTime manualDateTime clockSet flash =>
    rw [establishes] at hestablishes
    split_ifs at hestablishes with haccepted
    rw [next, setManualCurrentDateTime_eq, if_neg haccepted]
    simp [TimeEvent.seconds]
  | sntpSetsClock epochSeconds =>
    rw [next]
    cases hactive : keeper.sntpActive <;> simp [hactive, TimeEvent.seconds]
  | timeSynchronizationEvent =>
    rw [establishes] at hestablishes
    split_ifs at hestablishes with hautomatic
    rw [next, handleTimeSynchronizationEvent_eq, if_neg hautomatic]
    simp [TimeEvent.seconds]
  | tick seconds => exact ⟨rfl, rfl, fun hinactive => ⟨hinactive, rfl⟩⟩

end Steps

section Runs

variable {keeper : TimeKeeper} {boot : BootConditions} {events : List TimeEvent}

/-- The invariant along a list of events. -/
theorem Consistent.foldl (hconsistent : keeper.Consistent) (events : List TimeEvent) :
    (events.foldl TimeKeeper.next keeper).Consistent := by
  induction events generalizing keeper with
  | nil => exact hconsistent
  | cons event events ih => exact ih (hconsistent.next event)

/-- Every run after a boot is consistent. -/
theorem consistent_run (keeper : TimeKeeper) (boot : BootConditions) (events : List TimeEvent) :
    (keeper.run boot events).Consistent :=
  (consistent_boot keeper boot).foldl events

/-- Without a client that runs, the clock of an undisturbed run tells how long it took. -/
theorem Undisturbed.clock (hundisturbed : keeper.Undisturbed events) :
    (events.foldl next keeper).timeMode = keeper.timeMode ∧ (keeper.sntpActive = false →
      (events.foldl next keeper).systemClock = keeper.systemClock + elapsedSeconds events) := by
  induction events generalizing keeper with
  | nil => exact ⟨rfl, fun _ => (Int.add_zero _).symm⟩
  | cons event events ih =>
    obtain ⟨⟨hestablishes, hresets⟩, hrest⟩ := hundisturbed
    obtain ⟨-, hmode, hclock⟩ := next_of_undisturbed hestablishes hresets
    obtain ⟨hrestMode, hrestClock⟩ := ih hrest
    refine ⟨hrestMode.trans hmode, fun hinactive => ?_⟩
    obtain ⟨hstill, hmoved⟩ := hclock hinactive
    rw [List.foldl_cons, hrestClock hstill, hmoved, elapsedSeconds, elapsedSeconds, List.map_cons, List.sum_cons]
    omega

/-- The source is valid if and only if an event of the run has established it and none since has taken
it away. -/
theorem validSource_iff_establishedSince {timeSource : TimeSource} :
    (keeper.run boot events).validSource = some timeSource ↔ EstablishedSince keeper boot events timeSource := by
  refine Latch.value_eq_some_iff validSource_next_of_establishes (fun _ => validSource_next_of_resets) ?_
    (validSource_next_of_resets rfl)
  intro before event hestablishes hresets
  rw [validSource, validSource, (next_of_undisturbed hestablishes hresets).1]

/-- The valid source is the time source, unless this is `NONE`. -/
theorem validSource_eq_some_iff {timeSource : TimeSource} :
    keeper.validSource = some timeSource ↔ keeper.timeSource = timeSource ∧ timeSource ≠ .NONE := by
  rw [validSource]
  split_ifs with hnone
  · rw [hnone]
    exact ⟨nofun, fun hsource => absurd hsource.1.symm hsource.2⟩
  · rw [Option.some.injEq]
    exact ⟨fun hsame => ⟨hsame, hsame ▸ hnone⟩, fun hsource => hsource.1⟩

/-- The time is valid if and only if some source has been established since. -/
theorem isCurrentTimeValid_iff_exists :
    (keeper.run boot events).isCurrentTimeValid = true ↔
      ∃ timeSource, EstablishedSince keeper boot events timeSource := by
  simp only [← validSource_iff_establishedSince, validSource_eq_some_iff, isCurrentTimeValid, bne_iff_ne]
  constructor
  · intro hvalid
    exact ⟨_, rfl, hvalid⟩
  · rintro ⟨timeSource, rfl, hvalid⟩
    exact hvalid

/-- The time source is the one that the run has established. -/
theorem timeSource_of_establishedSince {timeSource : TimeSource}
    (hestablished : EstablishedSince keeper boot events timeSource) :
    (keeper.run boot events).timeSource = timeSource :=
  (validSource_eq_some_iff.mp (validSource_iff_establishedSince.mpr hestablished)).1

/-- The time is valid exactly if something has established it since the last restart and the last change of
the mode, and its source is what did so last. The network only does so in the automatic mode. Nothing is
assumed about the keeper before the boot. -/
theorem isCurrentTimeValid_iff (keeper : TimeKeeper) (boot : BootConditions) (events : List TimeEvent) :
    ((keeper.run boot events).isCurrentTimeValid = true ↔
        ∃ timeSource, EstablishedSince keeper boot events timeSource) ∧
      (∀ timeSource, EstablishedSince keeper boot events timeSource →
        (keeper.run boot events).timeSource = timeSource) ∧
      ((keeper.run boot events).timeSource = .NTP → (keeper.run boot events).timeMode = .AUTOMATIC) :=
  ⟨isCurrentTimeValid_iff_exists, fun _ => timeSource_of_establishedSince, (consistent_run keeper boot events).ntp⟩

/-- An accepted entry establishes the manual source, when nothing after it disturbs the clock. -/
theorem establishedSince_of_entered {before after : List TimeEvent} {manualDateTime : ManualDateTime}
    {flash : FlashAnswers} (hevents : events = before ++ .setManualCurrentDateTime manualDateTime true flash :: after)
    (haccepted : isManualDateTimeValid manualDateTime = true)
    (hundisturbed : Undisturbed ((keeper.run boot before).next (.setManualCurrentDateTime manualDateTime true flash))
      after) : EstablishedSince keeper boot events .MANUAL :=
  ⟨before, _, after, hevents, by rw [establishes, haccepted]; rfl, hundisturbed⟩

/-- Where the local clock stands after an entry, when the mode has been manual ever since. -/
theorem systemClock_of_entered (hmanual : (keeper.run boot events).timeMode = .MANUAL) {before after : List TimeEvent}
    {manualDateTime : ManualDateTime} {flash : FlashAnswers}
    (hevents : events = before ++ .setManualCurrentDateTime manualDateTime true flash :: after)
    (haccepted : isManualDateTimeValid manualDateTime = true)
    (hundisturbed : Undisturbed ((keeper.run boot before).next (.setManualCurrentDateTime manualDateTime true flash))
      after) :
    (keeper.run boot events).systemClock + LOCAL_TIMEZONE_SECONDS =
      manualDateTime.dateTime.toSeconds + elapsedSeconds after := by
  have hrun : keeper.run boot events =
      after.foldl next ((keeper.run boot before).next (.setManualCurrentDateTime manualDateTime true flash)) := by
    rw [run, hevents, List.foldl_append, List.foldl_cons, run]
  have hset : (keeper.run boot before).next (.setManualCurrentDateTime manualDateTime true flash) = _ :=
    setManualCurrentDateTime_eq _ _ _ _
  rw [haccepted, Bool.and_self, if_pos rfl] at hset
  obtain ⟨hmode, hclock⟩ := hundisturbed.clock
  rw [hrun, hmode] at hmanual
  have hentered := (consistent_run keeper boot before).next (.setManualCurrentDateTime manualDateTime true flash)
  have hinactive : ((keeper.run boot before).next
      (.setManualCurrentDateTime manualDateTime true flash)).sntpActive = false := by
    refine Bool.eq_false_iff.mpr fun hactive => ?_
    exact absurd (hmanual.symm.trans (hentered.sntpActive hactive)) (by decide)
  rw [hrun, hclock hinactive, hset, mktime, ManualDateTime.localDateTime_dateTime]
  dsimp only
  omega

/-- In the manual mode the local time is the last entry and the time that has gone by since,
and nothing that arrives from the network changes it. -/
theorem getCurrentLocalDateTime_manual (hmanual : (keeper.run boot events).timeMode = .MANUAL) (localDateTime : Tm) :
    (keeper.run boot events).getCurrentLocalDateTime = some localDateTime ↔
      ∃ before manualDateTime flash after,
        events = before ++ .setManualCurrentDateTime manualDateTime true flash :: after ∧
          isManualDateTimeValid manualDateTime = true ∧
          Undisturbed ((keeper.run boot before).next (.setManualCurrentDateTime manualDateTime true flash)) after ∧
          localDateTime =
            Tm.ofDateTime (DateTime.ofSeconds (manualDateTime.dateTime.toSeconds + elapsedSeconds after)) := by
  constructor
  · intro hread
    rw [getCurrentLocalDateTime] at hread
    split_ifs at hread with hinvalid
    obtain ⟨timeSource, hestablished⟩ := isCurrentTimeValid_iff_exists.mp (by simpa using hinvalid)
    have hlast := timeSource_of_establishedSince hestablished
    obtain ⟨before, event, after, hevents, hestablishes, hundisturbed⟩ := hestablished
    cases event with
    | setManualCurrentDateTime manualDateTime clockSet flash =>
      rw [establishes] at hestablishes
      split_ifs at hestablishes with haccepted
      obtain ⟨hentry, rfl⟩ := Bool.and_eq_true_iff.mp haccepted
      exact ⟨before, manualDateTime, flash, after, hevents, hentry, hundisturbed,
        by rw [← Option.some.inj hread, localtime_r, systemClock_of_entered hmanual hevents hentry hundisturbed]⟩
    | timeSynchronizationEvent =>
      rw [establishes] at hestablishes
      split_ifs at hestablishes
      obtain rfl := Option.some.inj hestablishes
      exact absurd (hmanual.symm.trans ((consistent_run keeper boot events).ntp hlast)) (by decide)
    | _ => cases hestablishes
  · rintro ⟨before, manualDateTime, flash, after, hevents, haccepted, hundisturbed, rfl⟩
    have hestablished := establishedSince_of_entered hevents haccepted hundisturbed
    rw [getCurrentLocalDateTime, isCurrentTimeValid_iff_exists.mpr ⟨_, hestablished⟩, localtime_r,
      systemClock_of_entered hmanual hevents haccepted hundisturbed]
    rfl

end Runs

section Schedules

/-- A natural number is taken modulo 256 either way. -/
theorem ofInt_natCast (n : Nat) : UInt8.ofInt n = UInt8.ofNat n := by
  rw [← UInt8.toNat_inj]
  simp only [UInt8.ofInt, UInt8.toNat_ofNat']
  omega

/-- The hour, from the seconds of the local day. Needs that the time is valid. -/
theorem getCurrentLocalHour_eq {keeper : TimeKeeper} (hvalid : keeper.isCurrentTimeValid = true) :
    keeper.getCurrentLocalHour =
      some (UInt8.ofNat (((keeper.systemClock + LOCAL_TIMEZONE_SECONDS) % 86400).toNat / 3600)) := by
  rw [getCurrentLocalHour, getCurrentLocalDateTime, hvalid]
  simp only [Bool.not_true, Bool.false_eq_true, if_false, Option.map_some, localtime_r, Tm.ofDateTime,
    DateTime.ofSeconds, ofInt_natCast]

/-- The minute, from the seconds of the local day. Needs that the time is valid. -/
theorem getCurrentLocalMinute_eq {keeper : TimeKeeper} (hvalid : keeper.isCurrentTimeValid = true) :
    keeper.getCurrentLocalMinute =
      some (UInt8.ofNat (((keeper.systemClock + LOCAL_TIMEZONE_SECONDS) % 86400).toNat % 3600 / 60)) := by
  rw [getCurrentLocalMinute, getCurrentLocalDateTime, hvalid]
  simp only [Bool.not_true, Bool.false_eq_true, if_false, Option.map_some, localtime_r, Tm.ofDateTime,
    DateTime.ofSeconds, ofInt_natCast]

variable {keeper : TimeKeeper} {boot : BootConditions} {events between : List TimeEvent}

/-- The minute of the day that an evaluation puts together: the hour as it is so many seconds
after midnight, and the minute as it is some more seconds later. -/
def minutesRead (secondOfDay secondsBetween : Nat) : Nat :=
  secondOfDay / 3600 % 24 * 60 + (secondOfDay + secondsBetween) / 60 % 60

/-- After an entry that nothing has disturbed, both readings succeed. -/
theorem readings_of_entered (hmanual : (keeper.run boot events).timeMode = .MANUAL)
    (hbetween : (keeper.run boot events).Undisturbed between) {before after : List TimeEvent}
    {manualDateTime : ManualDateTime} {flash : FlashAnswers}
    (hevents : events = before ++ .setManualCurrentDateTime manualDateTime true flash :: after)
    (haccepted : isManualDateTimeValid manualDateTime = true)
    (hundisturbed : Undisturbed ((keeper.run boot before).next (.setManualCurrentDateTime manualDateTime true flash))
      after) :
    (keeper.run boot events).readings (keeper.run boot (events ++ between)) =
      ⟨some (UInt8.ofNat ((manualDateTime.dateTime.secondOfDay + elapsedSeconds after) / 3600 % 24)),
        some (UInt8.ofNat ((manualDateTime.dateTime.secondOfDay + elapsedSeconds after + elapsedSeconds between) /
          60 % 60))⟩ := by
  have hlater : keeper.run boot (events ++ between) = between.foldl next (keeper.run boot events) := List.foldl_append
  have hafter : keeper.run boot events =
      after.foldl next ((keeper.run boot before).next (.setManualCurrentDateTime manualDateTime true flash)) := by
    rw [run, hevents, List.foldl_append, List.foldl_cons, run]
  have hlaterUndisturbed : Undisturbed ((keeper.run boot before).next
      (.setManualCurrentDateTime manualDateTime true flash)) (after ++ between) :=
    Latch.quiet_append.mpr ⟨hundisturbed, hafter ▸ hbetween⟩
  have hlaterEvents : events ++ between =
      before ++ .setManualCurrentDateTime manualDateTime true flash :: (after ++ between) := by
    rw [hevents, List.append_assoc, List.cons_append]
  have hlaterManual : (keeper.run boot (events ++ between)).timeMode = .MANUAL := by
    rw [hlater]
    exact hbetween.clock.1.trans hmanual
  have helapsed : elapsedSeconds (after ++ between) = elapsedSeconds after + elapsedSeconds between := by
    rw [elapsedSeconds, List.map_append, List.sum_append, elapsedSeconds, elapsedSeconds]
  have hfirst := systemClock_of_entered hmanual hevents haccepted hundisturbed
  have hsecond := systemClock_of_entered hlaterManual hlaterEvents haccepted hlaterUndisturbed
  have hfirstValid := isCurrentTimeValid_iff_exists.mpr ⟨_, establishedSince_of_entered hevents haccepted hundisturbed⟩
  have hsecondValid := isCurrentTimeValid_iff_exists.mpr
    ⟨_, establishedSince_of_entered hlaterEvents haccepted hlaterUndisturbed⟩
  rw [readings, getCurrentLocalHour_eq hfirstValid, getCurrentLocalMinute_eq hsecondValid, hfirst, hsecond, helapsed,
    DateTime.toSeconds]
  congr 3
  · omega
  · push_cast
    omega

/-- In the manual mode a schedule is active exactly if it is enabled, an accepted entry stands that
nothing has replaced or reset, and its time of day, carried forward by the time that has gone by
since, lies in the window. The hour is that of the first reading and the minute that of the
second. Nothing may set or reset the time between the two. -/
theorem isScheduleActive_manual (hmanual : (keeper.run boot events).timeMode = .MANUAL)
    (hbetween : (keeper.run boot events).Undisturbed between) (schedule : AutoSchedule) :
    isScheduleActive schedule ((keeper.run boot events).readings (keeper.run boot (events ++ between))) = true ↔
      (schedule.enabled && schedule.timesInRange) = true ∧
        ∃ before manualDateTime flash after,
          events = before ++ .setManualCurrentDateTime manualDateTime true flash :: after ∧
            isManualDateTimeValid manualDateTime = true ∧
            Undisturbed ((keeper.run boot before).next (.setManualCurrentDateTime manualDateTime true flash)) after ∧
            minutesFromStart schedule
                (minutesRead (manualDateTime.dateTime.secondOfDay + elapsedSeconds after) (elapsedSeconds between)) <
              minutesFromStart schedule schedule.endMinutes := by
  have hwindow : ∀ secondOfDay secondsBetween : Nat,
      isTimeWithinSchedule schedule (UInt8.ofNat (secondOfDay / 3600 % 24))
          (UInt8.ofNat ((secondOfDay + secondsBetween) / 60 % 60)) = true ↔
        (schedule.enabled && schedule.timesInRange) = true ∧
          minutesFromStart schedule (minutesRead secondOfDay secondsBetween) <
            minutesFromStart schedule schedule.endMinutes := by
    intro secondOfDay secondsBetween
    have hhour : (UInt8.ofNat (secondOfDay / 3600 % 24)).toNat = secondOfDay / 3600 % 24 := by
      rw [UInt8.toNat_ofNat']
      omega
    have hminute : (UInt8.ofNat ((secondOfDay + secondsBetween) / 60 % 60)).toNat =
        (secondOfDay + secondsBetween) / 60 % 60 := by
      rw [UInt8.toNat_ofNat']
      omega
    rw [isTimeWithinSchedule_iff, hhour, hminute, minutesRead]
    · rw [UInt8.le_iff_toNat_le, hhour]
      exact Nat.le_of_lt_succ (Nat.mod_lt _ (by decide))
    · rw [UInt8.le_iff_toNat_le, hminute]
      exact Nat.le_of_lt_succ (Nat.mod_lt _ (by decide))
  constructor
  · intro hactive
    cases hread : (keeper.run boot events).getCurrentLocalDateTime with
    | none =>
      rw [readings, getCurrentLocalHour, hread] at hactive
      exact absurd hactive Bool.false_ne_true
    | some localDateTime =>
      obtain ⟨before, manualDateTime, flash, after, hevents, haccepted, hundisturbed, -⟩ :=
        (getCurrentLocalDateTime_manual hmanual localDateTime).mp hread
      rw [readings_of_entered hmanual hbetween hevents haccepted hundisturbed] at hactive
      obtain ⟨henabled, hinside⟩ := (hwindow _ _).mp hactive
      exact ⟨henabled, before, manualDateTime, flash, after, hevents, haccepted, hundisturbed, hinside⟩
  · rintro ⟨henabled, before, manualDateTime, flash, after, hevents, haccepted, hundisturbed, hinside⟩
    rw [readings_of_entered hmanual hbetween hevents haccepted hundisturbed]
    exact (hwindow _ _).mpr ⟨henabled, hinside⟩

end Schedules

section Entries

/-- A Node whose flash is empty and whose network is not up yet. -/
def blank : TimeKeeper := ⟨false, false, .AUTOMATIC, .NONE, 0, none, none⟩

/-- The last day of February 2028, half a minute before midnight, and 40 seconds later. -/
theorem getCurrentLocalDateTime_leapDay :
    (blank.run ⟨0, true, true⟩ [.setTimeMode .MANUAL .succeeding false, .sntpSetsClock 5,
      .setManualCurrentDateTime ⟨2028, 2, 29, 23, 59, 30⟩ true .succeeding, .timeSynchronizationEvent,
      .tick 40]).getCurrentLocalDateTime = some ⟨128, 2, 1, 0, 0, 10⟩ :=
  (getCurrentLocalDateTime_manual (by decide) _).mpr
    ⟨[.setTimeMode .MANUAL .succeeding false, .sntpSetsClock 5], ⟨2028, 2, 29, 23, 59, 30⟩, .succeeding,
      [.timeSynchronizationEvent, .tick 40], rfl, by decide, ⟨⟨rfl, nofun⟩, ⟨rfl, nofun⟩, trivial⟩, by decide⟩

/-- A schedule across midnight goes on into the next day, and a second passes while it is read. -/
theorem isScheduleActive_leapDay :
    isScheduleActive ⟨true, 22, 0, 6, 0, nofun⟩
      ((blank.run ⟨0, true, true⟩ [.setTimeMode .MANUAL .succeeding false,
        .setManualCurrentDateTime ⟨2028, 2, 29, 23, 59, 30⟩ true .succeeding, .tick 40]).readings
      (blank.run ⟨0, true, true⟩ ([.setTimeMode .MANUAL .succeeding false,
        .setManualCurrentDateTime ⟨2028, 2, 29, 23, 59, 30⟩ true .succeeding, .tick 40] ++ [.tick 1]))) = true :=
  (@isScheduleActive_manual blank ⟨0, true, true⟩ _ [.tick 1] (by decide) ⟨⟨rfl, nofun⟩, trivial⟩ _).mpr
    ⟨rfl, [.setTimeMode .MANUAL .succeeding false], ⟨2028, 2, 29, 23, 59, 30⟩, .succeeding, [.tick 40], rfl, by decide,
      ⟨⟨rfl, nofun⟩, trivial⟩, by decide⟩

end Entries

end TimeKeeper

end kilowatts.WallClock
