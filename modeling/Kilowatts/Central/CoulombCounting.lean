import Kilowatts.Central.SimulationCommands

namespace kilowatts

/-- `pdTICKS_TO_MS` with `CONFIG_FREERTOS_HZ` 100. -/
def pdTICKS_TO_MS (ticks : UInt32) : UInt32 := UInt32.ofNat (ticks.toNat * 1000 / 100)

/-- `publishAlert` of BATTERY_SENSOR. -/
structure BatterySensorAlert where
  severity : String
  message : String
deriving DecidableEq

/-- The locals of `sensorAcquisitionTask` beside Central, and the state of charge in the flash. -/
structure SensorTask where
  central : SensedCentral
  persistedStateOfCharge : Option Rat
  previousTick : UInt32
  cyclesSincePersist : UInt32
  previousHardwareBatteryReadingValid : Bool
deriving DecidableEq

/-- What one turn of the task finds out. -/
structure SampleAnswers where
  nowTick : UInt32
  stateTaken : Bool
  hardware : Option PowerMeasurements
  flash : FlashAnswers
deriving DecidableEq

namespace SensorTask

variable (answers : SampleAnswers) (task : SensorTask)

/-- The battery monitor that the task works on. -/
def monitor (task : SensorTask) : BatteryMonitor := task.central.batteryMonitor

/-- The time since the task last read, as the code computes it from ticks. -/
def deltaSeconds (nowTick : UInt32) : Rat := ((pdTICKS_TO_MS (nowTick - task.previousTick)).toNat : Rat) / 1000

/-- `persistStateOfCharge`. -/
def persistStateOfCharge (flash : FlashAnswers) : SensorTask :=
  if task.monitor.isStateOfChargeValid && flash.writes then
    { task with persistedStateOfCharge := some task.monitor.stateOfChargePercent }
  else task

/-- The branch for a reading, which has updated the measurements of the monitor. -/
def recordReading (monitor : BatteryMonitor) : SensorTask :=
  let counted :=
    if monitor.isStateOfChargeValid then (monitor.updateStateOfCharge (task.deltaSeconds answers.nowTick)).1
    else monitor
  let task := { task with
    central := { task.central.withMonitor counted with
      latestBatteryMeasurements := monitor.measurements
      batteryReadingValid := true
      batteryReadingMilliseconds := pdTICKS_TO_MS answers.nowTick }
    cyclesSincePersist := task.cyclesSincePersist + 1 }
  if 60 ≤ task.cyclesSincePersist then
    { task.persistStateOfCharge answers.flash with cyclesSincePersist := 0 }
  else task

/-- One turn of the loop. The time of the turn is over before `stateMutex` is tried. -/
def sample : SensorTask × Option BatterySensorAlert :=
  if !answers.stateTaken then ({ task with previousTick := answers.nowTick }, none)
  else
    let simulating := task.monitor.simulationEnabled
    let (monitor, read) :=
      if simulating || task.monitor.initialized then task.monitor.updateMeasurements answers.hardware
      else (task.monitor, false)
    let acquired :=
      if read then task.recordReading answers monitor
      else { task with central := (task.central.withMonitor monitor).invalidateReading }
    let valid := acquired.central.batteryReadingValid
    ({ acquired with previousTick := answers.nowTick, previousHardwareBatteryReadingValid := valid },
      if !simulating && valid != task.previousHardwareBatteryReadingValid then
        some (if valid then ⟨"info", "INA219 battery sensor reading resumed"⟩
          else ⟨"critical", "INA219 battery sensor stopped responding"⟩)
      else none)

/-- The sensor can be read in this turn, and the state of charge is valid. -/
def isCounting : Bool :=
  (task.monitor.simulationEnabled || task.monitor.initialized) &&
    (task.monitor.updateMeasurements answers.hardware).2 && task.monitor.isStateOfChargeValid

/-- Persisting does not change the estimate. -/
theorem persistStateOfCharge_central (flash : FlashAnswers) :
    (task.persistStateOfCharge flash).central = task.central := by
  unfold persistStateOfCharge
  split <;> rfl

theorem recordReading_monitored (monitor : BatteryMonitor) :
    (task.recordReading answers monitor).central.toMonitoredCentral =
      { task.central.toMonitoredCentral with batteryMonitor :=
          if monitor.isStateOfChargeValid then (monitor.updateStateOfCharge (task.deltaSeconds answers.nowTick)).1
          else monitor } := by
  unfold recordReading
  dsimp only
  split
  · exact congrArg SensedCentral.toMonitoredCentral (persistStateOfCharge_central _ _)
  · rfl

/-- A turn with `stateMutex` is the section of the task that the commands run against. -/
theorem sample_acquires (htaken : answers.stateTaken = true) :
    (task.sample answers).1.central.toMonitoredCentral =
      task.central.toMonitoredCentral.acquireMeasurements answers.hardware (task.deltaSeconds answers.nowTick) := by
  unfold sample MonitoredCentral.acquireMeasurements monitor
  simp only [htaken, Bool.not_true, Bool.false_eq_true, if_false]
  split
  · cases hread : (task.central.batteryMonitor.updateMeasurements answers.hardware).2 with
    | true =>
      simp only [if_true, Bool.true_and]
      exact recordReading_monitored answers task _
    | false => rfl
  · rfl

/-- The tick is taken over even if the lock is not obtained, and so the time in between is lost. -/
theorem sample_previousTick : (task.sample answers).1.previousTick = answers.nowTick := by
  unfold sample
  split <;> rfl

/-- Without the lock nothing is counted. -/
theorem sample_of_busy (hbusy : answers.stateTaken = false) :
    (task.sample answers).1.central = task.central := by
  simp [sample, hbusy]

end SensorTask

namespace BatteryMonitor

variable {monitor : BatteryMonitor}

/-- A reading keeps the state of charge and the battery. -/
theorem updateMeasurements_keeps (monitor : BatteryMonitor) (hardware : Option PowerMeasurements) :
    let after := (monitor.updateMeasurements hardware).1
    after.stateOfChargePercent = monitor.stateOfChargePercent ∧
      after.isStateOfChargeValid = monitor.isStateOfChargeValid ∧
      after.batteryConfiguration = monitor.batteryConfiguration := by
  unfold updateMeasurements
  split
  · exact ⟨rfl, rfl, rfl⟩
  · split
    · split <;> exact ⟨rfl, rfl, rfl⟩
    · split <;> exact ⟨rfl, rfl, rfl⟩

/-- A valid percentage is not clamped. -/
theorem clampStateOfCharge_of_valid {percent : Rat} (hvalid : PowerManager.isValidPercent percent = true) :
    clampStateOfCharge percent = percent := by
  simp only [PowerManager.isValidPercent, Bool.and_eq_true, decide_eq_true_eq] at hvalid
  rw [clampStateOfCharge, min_eq_left hvalid.2, max_eq_right hvalid.1]

/-- The charge that flowed is subtracted, if the capacity is known. -/
theorem updateStateOfCharge_percent (hvalid : monitor.isStateOfChargeValid = true) {deltaSeconds : Rat}
    (hnonneg : 0 ≤ deltaSeconds) :
    (monitor.updateStateOfCharge deltaSeconds).1.stateOfChargePercent =
      if 0 < monitor.batteryConfiguration.capacityAmpHours then
        clampStateOfCharge (monitor.stateOfChargePercent - monitor.measurements.currentAmps * deltaSeconds * 100 /
          (3600 * monitor.batteryConfiguration.capacityAmpHours))
      else monitor.stateOfChargePercent := by
  simp only [PowerManager.isStateOfChargeValid, Bool.and_eq_true] at hvalid
  obtain ⟨⟨hinitialized, -⟩, hpercent⟩ := hvalid
  obtain rfl | hpositive := hnonneg.eq_or_lt
  · simp [updateStateOfCharge, clampStateOfCharge_of_valid hpercent]
  · by_cases hcapacity : 0 < monitor.batteryConfiguration.capacityAmpHours
    · simp [updateStateOfCharge, hinitialized, not_le.mpr hpositive, not_le.mpr hcapacity, hcapacity]
    · simp [updateStateOfCharge, not_lt.mp hcapacity, hcapacity]

end BatteryMonitor

namespace SensorTask

/-- What a reading makes of the state of charge. -/
theorem sample_percent (answers : SampleAnswers) (task : SensorTask) (htaken : answers.stateTaken = true)
    (hcounting : task.isCounting answers = true) :
    (task.sample answers).1.monitor.stateOfChargePercent =
      if 0 < task.monitor.batteryConfiguration.capacityAmpHours then
        BatteryMonitor.clampStateOfCharge (task.monitor.stateOfChargePercent -
          (task.monitor.updateMeasurements answers.hardware).1.measurements.currentAmps *
            task.deltaSeconds answers.nowTick * 100 / (3600 * task.monitor.batteryConfiguration.capacityAmpHours))
      else task.monitor.stateOfChargePercent := by
  simp only [isCounting, Bool.and_eq_true] at hcounting
  obtain ⟨⟨hcanRead, hread⟩, hvalid⟩ := hcounting
  obtain ⟨hpercent, hkeepsValid, hbattery⟩ := task.monitor.updateMeasurements_keeps answers.hardware
  have hdelta : 0 ≤ task.deltaSeconds answers.nowTick := by
    unfold deltaSeconds
    positivity
  have hcounted := BatteryMonitor.updateStateOfCharge_percent (hkeepsValid.trans hvalid) hdelta
  rw [hpercent, hbattery] at hcounted
  rw [← hcounted]
  have hmonitor : (task.sample answers).1.monitor =
      (task.central.toMonitoredCentral.acquireMeasurements answers.hardware
        (task.deltaSeconds answers.nowTick)).batteryMonitor :=
    congrArg MonitoredCentral.batteryMonitor (task.sample_acquires answers htaken)
  have hvalid : (task.monitor.updateMeasurements answers.hardware).1.isStateOfChargeValid = true :=
    hkeepsValid.trans hvalid
  unfold monitor at hcanRead hread hvalid
  rw [hmonitor, MonitoredCentral.acquireMeasurements]
  simp only [hcanRead, hread, hvalid, Bool.and_self, if_true]
  rfl

end SensorTask

/-- What happens to the state of charge: an interval is counted, or another task sets it anew. -/
inductive ChargeEntry where
  | counted (currentAmps deltaSeconds capacityAmpHours : Rat)
  | set (percent : Rat)
deriving DecidableEq

namespace ChargeEntry

def deltaSeconds : ChargeEntry → Rat
  | .counted _ deltaSeconds _ => deltaSeconds
  | .set _ => 0

/-- One step of the clamped fold. Without a capacity there is nothing to count against. -/
def apply (percent : Rat) : ChargeEntry → Rat
  | .counted currentAmps deltaSeconds capacityAmpHours =>
    if 0 < capacityAmpHours then
      BatteryMonitor.clampStateOfCharge
        (percent - currentAmps * deltaSeconds * 100 / (3600 * capacityAmpHours))
    else percent
  | .set percent => percent

end ChargeEntry

/-- `ticks` pass until the task reads its clock again, or other tasks hold `stateMutex` and
leave `central`. -/
inductive AcquisitionEvent where
  | sample (ticks : Nat) (stateTaken : Bool) (hardware : Option PowerMeasurements) (flash : FlashAnswers)
  | others (central : SensedCentral)

/-- A stretch of the task. The clock counts without end, and the task sees 32 bits of it. -/
structure Stretch where
  task : SensorTask
  now : Nat
  began : Nat
  startPercent : Rat
  lostTicks : Nat
  log : List ChargeEntry

namespace Stretch

variable (stretch : Stretch)

/-- A stretch begins when the task has read its clock. -/
def begin (central : SensedCentral) (persistedStateOfCharge : Option Rat) (cyclesSincePersist : UInt32)
    (previousHardwareBatteryReadingValid : Bool) (now : Nat) : Stretch where
  task := ⟨central, persistedStateOfCharge, UInt32.ofNat now, cyclesSincePersist, previousHardwareBatteryReadingValid⟩
  now
  began := now
  startPercent := central.batteryMonitor.stateOfChargePercent
  lostTicks := 0
  log := []

def answers (ticks : Nat) (stateTaken : Bool) (hardware : Option PowerMeasurements) (flash : FlashAnswers) :
    SampleAnswers :=
  ⟨UInt32.ofNat (stretch.now + ticks), stateTaken, hardware, flash⟩

/-- The interval that a reading is counted with. -/
def entry (answers : SampleAnswers) : ChargeEntry :=
  .counted (stretch.task.monitor.updateMeasurements answers.hardware).1.measurements.currentAmps
    (stretch.task.deltaSeconds answers.nowTick) stretch.task.monitor.batteryConfiguration.capacityAmpHours

def next (stretch : Stretch) : AcquisitionEvent → Stretch
  | .sample ticks stateTaken hardware flash =>
    let answers := stretch.answers ticks stateTaken hardware flash
    let after := { stretch with task := (stretch.task.sample answers).1, now := stretch.now + ticks }
    if stateTaken then { after with log := stretch.log ++ [stretch.entry answers] }
    else { after with lostTicks := stretch.lostTicks + ticks }
  | .others central =>
    let after := { stretch with task.central := central }
    if central.batteryMonitor.stateOfChargePercent = stretch.task.monitor.stateOfChargePercent then after
    else { after with log := stretch.log ++ [.set central.batteryMonitor.stateOfChargePercent] }

/-- The sum of the `deltaSeconds` passed to `updateStateOfCharge`. -/
def countedSeconds : Rat := (stretch.log.map ChargeEntry.deltaSeconds).sum

/-- The time since the stretch began. -/
def elapsedSeconds : Rat := ((stretch.now : Rat) - stretch.began) / 100

/-- The time that no reading counts. -/
def lostSeconds : Rat := (stretch.lostTicks : Rat) / 100

/-- The clamped fold over what was counted. -/
def estimate : Rat := stretch.log.foldl ChargeEntry.apply stretch.startPercent

end Stretch

/-- In a stretch, every turn with `stateMutex` finds a readable sensor and a valid state of charge. -/
structure StretchStep (before : Stretch) (event : AcquisitionEvent) (after : Stretch) : Prop where
  next : after = before.next event
  counting : ∀ ticks hardware flash, event = .sample ticks true hardware flash →
    before.task.isCounting (before.answers ticks true hardware flash) = true

/-- A reading has counted all the time since the stretch began, and the state of charge is the
fold over it. -/
structure AccountedStep (before : Stretch) (event : AcquisitionEvent) (after : Stretch) : Prop extends
    StretchStep before event after where
  seconds : ∀ ticks hardware flash, event = .sample ticks true hardware flash →
    after.countedSeconds = after.elapsedSeconds
  percent : ∀ ticks hardware flash, event = .sample ticks true hardware flash →
    after.task.monitor.stateOfChargePercent = after.estimate

/-- No turn in front of a reading has waited for `stateMutex` in vain, and the milliseconds since
the last turn fit into 32 bits. -/
structure UnlostStep (before : Stretch) (event : AcquisitionEvent) (after : Stretch) : Prop extends
    StretchStep before event after where
  unlost : ∀ ticks hardware flash, event = .sample ticks true hardware flash →
    before.lostTicks = 0 ∧ ticks * 10 < 2 ^ 32

namespace CoulombCounting

/-- The conversion of the code wraps around twice, once in the ticks and once in the product. -/
theorem pdTICKS_TO_MS_toNat (ticks : Nat) :
    (pdTICKS_TO_MS (UInt32.ofNat ticks)).toNat = ticks % 2 ^ 32 * 10 % 2 ^ 32 := by
  rw [pdTICKS_TO_MS, UInt32.toNat_ofNat', UInt32.toNat_ofNat']
  omega

/-- Between two readings of the clock, the task sees the ticks modulo the width of its numbers. -/
theorem deltaSeconds_eq {task : SensorTask} {now : Nat} (hprevious : task.previousTick = UInt32.ofNat now)
    (ticks : Nat) :
    task.deltaSeconds (UInt32.ofNat (now + ticks)) = ((ticks % 2 ^ 32 * 10 % 2 ^ 32 : Nat) : Rat) / 1000 := by
  have hdifference : UInt32.ofNat (now + ticks) - UInt32.ofNat now = UInt32.ofNat ticks := by
    rw [UInt32.ofNat_add, UInt32.add_comm, UInt32.add_sub_cancel]
  rw [SensorTask.deltaSeconds, hprevious, hdifference, pdTICKS_TO_MS_toNat]

/-- A reading never counts more than the time that has gone by. -/
theorem deltaSeconds_le {task : SensorTask} {now : Nat} (hprevious : task.previousTick = UInt32.ofNat now)
    (ticks : Nat) : task.deltaSeconds (UInt32.ofNat (now + ticks)) ≤ (ticks : Rat) / 100 := by
  rw [deltaSeconds_eq hprevious]
  have hle : ticks % 2 ^ 32 * 10 % 2 ^ 32 ≤ ticks * 10 := by
    have := Nat.mod_le (ticks % 2 ^ 32 * 10) (2 ^ 32)
    have := Nat.mod_le ticks (2 ^ 32)
    omega
  generalize ticks % 2 ^ 32 * 10 % 2 ^ 32 = milliseconds at hle
  have hcast : (milliseconds : Rat) ≤ (ticks : Rat) * 10 := by exact_mod_cast hle
  linarith

/-- It counts all of it just if the milliseconds fit into 32 bits. -/
theorem deltaSeconds_eq_iff {task : SensorTask} {now : Nat} (hprevious : task.previousTick = UInt32.ofNat now)
    (ticks : Nat) : task.deltaSeconds (UInt32.ofNat (now + ticks)) = (ticks : Rat) / 100 ↔ ticks * 10 < 2 ^ 32 := by
  rw [deltaSeconds_eq hprevious]
  have hscale : ((ticks % 2 ^ 32 * 10 % 2 ^ 32 : Nat) : Rat) / 1000 = (ticks : Rat) / 100 ↔
      ticks % 2 ^ 32 * 10 % 2 ^ 32 = ticks * 10 := by
    rw [← Nat.cast_inj (R := Rat)]
    push_cast
    constructor
    · intro hsame
      linarith
    · intro hsame
      linarith
  rw [hscale]
  omega

/-- What holds while no reading has missed a lost interval: the task has the clock of the last
turn, and what was not counted was lost. -/
structure Balanced (stretch : Stretch) : Prop where
  previous : stretch.task.previousTick = UInt32.ofNat stretch.now
  seconds : stretch.countedSeconds + stretch.lostSeconds = stretch.elapsedSeconds
  percent : stretch.task.monitor.stateOfChargePercent = stretch.estimate

theorem balanced_begin (central : SensedCentral) (persisted : Option Rat) (cycles : UInt32) (previous : Bool)
    (now : Nat) : Balanced (.begin central persisted cycles previous now) := by
  refine ⟨rfl, ?_, rfl⟩
  simp [Stretch.begin, Stretch.countedSeconds, Stretch.lostSeconds, Stretch.elapsedSeconds]

section Steps

variable {stretch : Stretch}

/-- What the other tasks do to Central begins a new account. -/
theorem next_others_balanced (hbalanced : Balanced stretch) (central : SensedCentral) :
    Balanced (stretch.next (.others central)) := by
  unfold Stretch.next
  dsimp only
  split
  · next hsame => exact ⟨hbalanced.previous, hbalanced.seconds, hsame.trans hbalanced.percent⟩
  · refine ⟨hbalanced.previous, ?_, ?_⟩
    · refine Eq.trans ?_ hbalanced.seconds
      simp [Stretch.countedSeconds, Stretch.lostSeconds, ChargeEntry.deltaSeconds]
    · simp [Stretch.estimate, SensorTask.monitor, ChargeEntry.apply]

/-- A turn that waits for `stateMutex` in vain loses its interval. -/
theorem next_busy_balanced (hbalanced : Balanced stretch) (ticks : Nat) (hardware : Option PowerMeasurements)
    (flash : FlashAnswers) : Balanced (stretch.next (.sample ticks false hardware flash)) := by
  refine ⟨SensorTask.sample_previousTick _ _, ?_, ?_⟩
  · have hseconds := hbalanced.seconds
    simp only [Stretch.countedSeconds, Stretch.lostSeconds, Stretch.elapsedSeconds] at hseconds
    simp only [Stretch.next, Stretch.countedSeconds, Stretch.lostSeconds, Stretch.elapsedSeconds, Bool.false_eq_true,
      if_false]
    push_cast
    linarith
  · refine Eq.trans ?_ hbalanced.percent
    exact congrArg (fun central : SensedCentral => central.batteryMonitor.stateOfChargePercent)
      (SensorTask.sample_of_busy (stretch.answers ticks false hardware flash) stretch.task rfl)

theorem next_reading_previous (ticks : Nat) (hardware : Option PowerMeasurements) (flash : FlashAnswers) :
    (stretch.next (.sample ticks true hardware flash)).task.previousTick =
      UInt32.ofNat (stretch.next (.sample ticks true hardware flash)).now :=
  SensorTask.sample_previousTick _ _

/-- The percentage after a reading is that before it, less what the reading counts. -/
theorem next_reading_percent (hbalanced : Balanced stretch) {ticks : Nat} {hardware : Option PowerMeasurements}
    {flash : FlashAnswers}
    (hcounting : stretch.task.isCounting (stretch.answers ticks true hardware flash) = true) :
    (stretch.next (.sample ticks true hardware flash)).task.monitor.stateOfChargePercent =
      (stretch.next (.sample ticks true hardware flash)).estimate := by
  have hpercent := SensorTask.sample_percent _ stretch.task rfl hcounting
  simp only [Stretch.next, if_true, Stretch.estimate, List.foldl_append, List.foldl_cons, List.foldl_nil]
  rw [hpercent, hbalanced.percent]
  rfl

theorem next_reading_seconds (ticks : Nat) (hardware : Option PowerMeasurements) (flash : FlashAnswers) :
    (stretch.next (.sample ticks true hardware flash)).countedSeconds =
      stretch.countedSeconds + stretch.task.deltaSeconds (UInt32.ofNat (stretch.now + ticks)) := by
  simp [Stretch.next, Stretch.countedSeconds, Stretch.entry, Stretch.answers, ChargeEntry.deltaSeconds]

theorem next_reading_elapsed (ticks : Nat) (hardware : Option PowerMeasurements) (flash : FlashAnswers) :
    (stretch.next (.sample ticks true hardware flash)).elapsedSeconds = stretch.elapsedSeconds + (ticks : Rat) / 100 := by
  simp only [Stretch.next, Stretch.elapsedSeconds, if_true]
  push_cast
  rw [← add_div, add_sub_right_comm]

/-- A reading accounts for all the time just if nothing was lost before it, nor in it. -/
theorem next_reading_accounts_iff (hbalanced : Balanced stretch) (ticks : Nat)
    (hardware : Option PowerMeasurements) (flash : FlashAnswers) :
    (stretch.next (.sample ticks true hardware flash)).countedSeconds =
      (stretch.next (.sample ticks true hardware flash)).elapsedSeconds ↔
      stretch.lostTicks = 0 ∧ ticks * 10 < 2 ^ 32 := by
  have hdelta := deltaSeconds_le hbalanced.previous ticks
  have hseconds := hbalanced.seconds
  have hlost : 0 ≤ (stretch.lostTicks : Rat) := Nat.cast_nonneg _
  rw [next_reading_seconds, next_reading_elapsed, ← deltaSeconds_eq_iff hbalanced.previous ticks,
    ← Nat.cast_eq_zero (R := Rat)]
  rw [Stretch.lostSeconds] at hseconds
  constructor
  · intro haccounted
    exact ⟨by linarith, by linarith⟩
  · rintro ⟨hnone, hexact⟩
    rw [hnone] at hseconds
    linarith

end Steps

/-- A step that loses no time keeps the account balanced. -/
theorem unlostStep_balanced {before after : Stretch} {event : AcquisitionEvent} (hbalanced : Balanced before)
    (hstep : UnlostStep before event after) : Balanced after := by
  rw [hstep.next]
  cases event with
  | others central => exact next_others_balanced hbalanced central
  | sample ticks stateTaken hardware flash =>
    cases stateTaken with
    | false => exact next_busy_balanced hbalanced ticks hardware flash
    | true =>
      refine ⟨next_reading_previous ticks hardware flash, ?_,
        next_reading_percent hbalanced (hstep.counting ticks hardware flash rfl)⟩
      have hunlost := hstep.unlost ticks hardware flash rfl
      refine Eq.trans ?_ ((next_reading_accounts_iff hbalanced ticks hardware flash).mpr hunlost)
      simp [Stretch.next, Stretch.lostSeconds, hunlost.1]

/-- From a balanced account, a step accounts for its time exactly if it loses none. -/
theorem accountedStep_iff {before after : Stretch} {event : AcquisitionEvent} (hbalanced : Balanced before) :
    AccountedStep before event after ↔ UnlostStep before event after := by
  constructor
  · intro hstep
    refine ⟨hstep.toStretchStep, fun ticks hardware flash hevent => ?_⟩
    have hseconds := hstep.seconds ticks hardware flash hevent
    rw [hstep.next, hevent] at hseconds
    exact (next_reading_accounts_iff hbalanced ticks hardware flash).mp hseconds
  · intro hstep
    refine ⟨hstep.toStretchStep, fun ticks hardware flash hevent => ?_, fun _ _ _ _ => ?_⟩
    · rw [hstep.next, hevent]
      exact (next_reading_accounts_iff hbalanced ticks hardware flash).mpr (hstep.unlost ticks hardware flash hevent)
    · exact (unlostStep_balanced hbalanced hstep).percent

/-- In a stretch every reading has counted all the time just if none comes after a turn that waited for
`stateMutex` in vain. Nothing is assumed about the state in which the stretch begins. -/
theorem coulomb_counting_loses_no_time (central : SensedCentral) (persisted : Option Rat) (cycles : UInt32)
    (previous : Bool) (now : Nat) (events : List AcquisitionEvent) (last : Stretch) :
    Run AccountedStep (.begin central persisted cycles previous now) events last ↔
      Run UnlostStep (.begin central persisted cycles previous now) events last := by
  refine (Run.congr (fun before event after hbalanced (hstep : UnlostStep before event after) =>
    unlostStep_balanced hbalanced hstep) (fun before event after hbalanced => ?_)
    (balanced_begin central persisted cycles previous now)).symm
  exact (accountedStep_iff hbalanced).symm

/-- The task has just read its clock, with a simulated battery of 300 Ah. -/
def simulatedStretch : Stretch := .begin PlanChange.fullBattery (some 70) 0 false 0

/-- One second passes, and the turn gets `stateMutex` or not. -/
def secondPasses (stateTaken : Bool) : AcquisitionEvent := .sample 100 stateTaken none .succeeding

/-- The second reading has counted two of three seconds. -/
theorem coulomb_counting_loses_time :
    (∃ last, Run StretchStep simulatedStretch [secondPasses true, secondPasses false, secondPasses true] last) ∧
      ¬∃ last, Run AccountedStep simulatedStretch
        ([secondPasses true, secondPasses false] ++ [secondPasses true]) last := by
  have hreading : ∀ stretch : Stretch, stretch.task.isCounting (stretch.answers 100 true none .succeeding) = true →
      StretchStep stretch (secondPasses true) (stretch.next (secondPasses true)) := by
    intro stretch hcounting
    refine ⟨rfl, fun ticks hardware flash hevent => ?_⟩
    cases hevent
    exact hcounting
  have hbusy : ∀ stretch : Stretch, StretchStep stretch (secondPasses false) (stretch.next (secondPasses false)) :=
    fun stretch => ⟨rfl, fun _ _ _ hevent => nomatch hevent⟩
  refine ⟨?_, ?_⟩
  · exact ⟨_, (Run.single (hreading _ (by decide +kernel))).append
      ((Run.single (hbusy _)).append (Run.single (hreading _ (by decide +kernel))))⟩
  · rintro ⟨last, hrun⟩
    have hstep := hrun.step_of_snoc fun _ _ _ hstep => hstep.next
    have hseconds := hstep.seconds 100 none .succeeding rfl
    rw [hstep.next] at hseconds
    exact absurd hseconds (by decide +kernel)

end CoulombCounting

end kilowatts
