import Kilowatts.Library.FlashBacked
import Kilowatts.Library.JsonDocument
import Kilowatts.Library.Run
import Kilowatts.NodeManager.SystemCommandModel

namespace kilowatts.OptimizerInterval

open Json (ascii)

/-- Five minutes. -/
def DEFAULT_OPTIMIZATION_PERIOD_MILLISECONDS : UInt32 := 300000

def MIN_OPTIMIZATION_PERIOD_MILLISECONDS : UInt32 := 5000

/-- One day. -/
def MAX_OPTIMIZATION_PERIOD_MILLISECONDS : UInt32 := 86400000

def optimizerMinIntervalSeconds : UInt32 := MIN_OPTIMIZATION_PERIOD_MILLISECONDS / 1000

def optimizerMaxIntervalSeconds : UInt32 := MAX_OPTIMIZATION_PERIOD_MILLISECONDS / 1000

/-- What a command and a boot accept as seconds. -/
def isValidOptimizerIntervalSeconds (seconds : UInt32) : Bool :=
  seconds ≥ optimizerMinIntervalSeconds && seconds ≤ optimizerMaxIntervalSeconds

/-- The tasks that bring system commands. -/
inductive SystemCaller where
  | mqtt
  | console
deriving DecidableEq

instance : Fintype SystemCaller := ⟨{.mqtt, .console}, fun caller => by cases caller <;> decide⟩

/-- How far a task is with a command. A new interval is in the flash, or in memory too and the
optimization is not requested yet. After a factory reset the task waits for the restart, with the
other tasks still at work. -/
inductive SystemCall where
  | idle
  | stored (seconds : UInt32)
  | assigned (seconds : UInt32)
  | restarting
deriving DecidableEq

/-- The call has written the flash and not yet the variable. -/
def SystemCall.isStored : SystemCall → Bool
  | .stored _ => true
  | _ => false

/-- What a system command finds out while it runs. -/
structure SystemAnswers where
  flash : FlashAnswers
  flashErased : Bool
  stateTaken : Bool
  routeFound : Bool
  sent : Bool
deriving DecidableEq

/-- What a boot finds of the flash. -/
structure BootAnswers where
  erased : Bool
  opened : Bool
deriving DecidableEq

/-- `waiting` is the timeout with which `optimizationTask` waits for the semaphore, outside of a
cycle. `triggered` tells whether the semaphore is given. -/
structure IntervalState where
  optimizerIntervalMilliseconds : UInt32
  storedSeconds : Option UInt32
  calls : SystemCaller → SystemCall
  triggered : Bool
  waiting : Option UInt32
  running : Bool
  replies : List (SystemCaller × CommandResult)

/-- What the callers of `handleSystemCommand` and the optimization task do, and restarts. -/
inductive IntervalEvent where
  | command (caller : SystemCaller) (request : SystemCommandRequest) (answers : SystemAnswers)
  | assign (caller : SystemCaller)
  | give (caller : SystemCaller)
  | trigger
  | wait
  | wake
  | timeOut
  | boot (answers : BootAnswers)

/-- The interval that a command saves. -/
def sets (request : SystemCommandRequest) (answers : SystemAnswers) : Option UInt32 :=
  if request.action = .SET_OPTIMIZER_INTERVAL ∧ request.hasOptimizerIntervalSeconds ∧
      isValidOptimizerIntervalSeconds request.optimizerIntervalSeconds ∧ answers.flash.succeeds then
    some request.optimizerIntervalSeconds
  else none

/-- A command that restores the factory settings. -/
def resets (request : SystemCommandRequest) (answers : SystemAnswers) : Bool :=
  request.action = .FACTORY_RESET_CENTRAL &&
    (request.confirmText.text = ascii "RESET" || request.confirmText.text = ascii "FACTORY_RESET_CONFIRMED") &&
    answers.flashErased

/-- The interval that is saved after the events: the last one that a command saved, unless the flash
was erased since. -/
def savedSeconds (saved : Option UInt32) : IntervalEvent → Option UInt32
  | .command _ request answers => if resets request answers then none else (sets request answers).or saved
  | .boot answers => if answers.erased then none else saved
  | _ => saved

/-- A valid number of seconds does not overflow as milliseconds. -/
theorem toNat_milliseconds {seconds : UInt32} (hvalid : isValidOptimizerIntervalSeconds seconds = true) :
    (seconds * 1000).toNat = seconds.toNat * 1000 := by
  have hbound : seconds.toNat ≤ 86400 := by
    simp only [isValidOptimizerIntervalSeconds, Bool.and_eq_true, decide_eq_true_eq] at hvalid
    exact UInt32.le_iff_toNat_le.mp hvalid.2
  have hfits : seconds.toNat * 1000 < 2 ^ 32 := by omega
  exact (UInt32.toNat_mul ..).trans (Nat.mod_eq_of_lt hfits)

/-- The whole seconds are read back exactly. -/
theorem milliseconds_div {seconds : UInt32} (hvalid : isValidOptimizerIntervalSeconds seconds = true) :
    seconds * 1000 / 1000 = seconds := by
  apply UInt32.toNat.inj
  rw [UInt32.toNat_div, toNat_milliseconds hvalid]
  exact Nat.mul_div_cancel _ (by decide)

namespace IntervalState

/-- Before the first boot. -/
def factory : IntervalState := ⟨DEFAULT_OPTIMIZATION_PERIOD_MILLISECONDS, none, fun _ => .idle, false, none, false, []⟩

variable (state : IntervalState)

/-- What the caller is told. -/
def reply (caller : SystemCaller) (accepted completed : Bool) (reason : String) : IntervalState :=
  { state with replies := state.replies ++ [(caller, ⟨accepted, completed, reason⟩)] }

/-- What is shown is computed from the milliseconds in force. -/
def getOptimizerIntervalSeconds : UInt32 := state.optimizerIntervalMilliseconds / 1000

/-- `handleSystemCommand` up to the memory of a new interval. A restart that is scheduled is a boot
like any other. -/
def handleSystemCommand (caller : SystemCaller) (request : SystemCommandRequest) (answers : SystemAnswers) :
    IntervalState :=
  match request.action with
  | .REQUEST_OPTIMIZATION_CYCLE => { state with triggered := true }.reply caller true true "optimization requested"
  | .REPORT_OPTIMIZER_INTERVAL =>
    state.reply caller true true s!"optimizer interval is {state.getOptimizerIntervalSeconds} seconds"
  | .SET_OPTIMIZER_INTERVAL =>
    if !request.hasOptimizerIntervalSeconds || !isValidOptimizerIntervalSeconds request.optimizerIntervalSeconds then
      state.reply caller false false
        s!"optimizer interval must be {optimizerMinIntervalSeconds}..{optimizerMaxIntervalSeconds} seconds"
    else
      let storedSeconds := if answers.flash.writes then some request.optimizerIntervalSeconds else state.storedSeconds
      if answers.flash.succeeds then
        { state with
          storedSeconds
          calls := Function.update state.calls caller (.stored request.optimizerIntervalSeconds) }
      else { state with storedSeconds }.reply caller false false "could not save optimizer interval"
  | .REBOOT_CENTRAL => state.reply caller true true "Central restarting in 1.5 seconds"
  | .FACTORY_RESET_CENTRAL =>
    if request.confirmText.text ≠ ascii "RESET" ∧ request.confirmText.text ≠ ascii "FACTORY_RESET_CONFIRMED" then
      state.reply caller false false "reset confirmation required"
    else if !answers.flashErased then state.reply caller false false "Central NVS erase failed"
    else { state with storedSeconds := none, calls := Function.update state.calls caller .restarting }
  | .FACTORY_RESET_NODE =>
    if !request.hasTargetNodeMacAddress then state.reply caller false false "targetNodeMac required"
    else if !answers.stateTaken then state.reply caller false false "state is busy"
    else if !answers.routeFound then state.reply caller false false "no ESP-NOW route to target Node"
    else
      state.reply caller answers.sent false (if answers.sent then "factory reset dispatched" else "ESP-NOW send failed")
  | .UNKNOWN => state.reply caller false false "unsupported system command"

/-- Whatever cannot be read or is out of range becomes the default. -/
def loadOptimizerIntervalConfiguration (opened : Bool) (storedSeconds : Option UInt32) : UInt32 :=
  if !opened then DEFAULT_OPTIMIZATION_PERIOD_MILLISECONDS
  else
    match storedSeconds.filter isValidOptimizerIntervalSeconds with
    | none => DEFAULT_OPTIMIZATION_PERIOD_MILLISECONDS
    | some savedSeconds => savedSeconds * 1000

/-- A restart at any moment. A flash without free pages is erased. -/
def boot (answers : BootAnswers) : IntervalState :=
  let storedSeconds := if answers.erased then none else state.storedSeconds
  { state with
    optimizerIntervalMilliseconds := loadOptimizerIntervalConfiguration answers.opened storedSeconds
    storedSeconds
    calls := fun _ => .idle
    triggered := false
    waiting := none
    running := true }

/-- A task handles one command after the other. -/
def next : IntervalEvent → Option IntervalState
  | .command caller request answers =>
    if state.running ∧ state.calls caller = .idle then some (state.handleSystemCommand caller request answers) else none
  | .assign caller =>
    match state.running, state.calls caller with
    | true, .stored seconds =>
      some { state with
        optimizerIntervalMilliseconds := seconds * 1000
        calls := Function.update state.calls caller (.assigned seconds) }
    | _, _ => none
  | .give caller =>
    match state.running, state.calls caller with
    | true, .assigned seconds =>
      some ({ state with
        triggered := true
        calls := Function.update state.calls caller .idle }.reply caller true true
          s!"optimizer interval set to {seconds} seconds")
    | _, _ => none
  | .trigger => if state.running then some { state with triggered := true } else none
  | .wait =>
    if state.running ∧ state.waiting = none then some { state with waiting := some state.optimizerIntervalMilliseconds }
    else none
  | .wake =>
    if state.running ∧ state.waiting.isSome ∧ state.triggered then
      some { state with waiting := none, triggered := false }
    else none
  | .timeOut => if state.running ∧ state.waiting.isSome then some { state with waiting := none } else none
  | .boot answers => some (state.boot answers)

/-- What one step can do. -/
inductive Moves (before : IntervalState) : IntervalEvent → IntervalState → Prop where
  | replied (caller : SystemCaller) (request : SystemCommandRequest) (answers : SystemAnswers) (triggered : Bool)
      (replies : List (SystemCaller × CommandResult)) (hunset : sets request answers = none)
      (hkept : before.triggered = true → triggered = true) (hunreset : resets request answers = false) :
      Moves before (.command caller request answers) { before with triggered, replies }
  | unsaved (caller : SystemCaller) (request : SystemCommandRequest) (answers : SystemAnswers)
      (replies : List (SystemCaller × CommandResult)) (hunset : sets request answers = none)
      (hfailed : answers.flash.succeeds = false) (hunreset : resets request answers = false) :
      Moves before (.command caller request answers) { before with
        storedSeconds := if answers.flash.writes then some request.optimizerIntervalSeconds else before.storedSeconds
        replies }
  | saved (caller : SystemCaller) (request : SystemCommandRequest) (answers : SystemAnswers)
      (hidle : before.calls caller = .idle)
      (hvalid : isValidOptimizerIntervalSeconds request.optimizerIntervalSeconds = true)
      (hset : sets request answers = some request.optimizerIntervalSeconds) (hunreset : resets request answers = false) :
      Moves before (.command caller request answers) { before with
        storedSeconds := some request.optimizerIntervalSeconds
        calls := Function.update before.calls caller (.stored request.optimizerIntervalSeconds) }
  | reset (caller : SystemCaller) (request : SystemCommandRequest) (answers : SystemAnswers)
      (hidle : before.calls caller = .idle) (hreset : resets request answers = true) :
      Moves before (.command caller request answers)
        { before with storedSeconds := none, calls := Function.update before.calls caller .restarting }
  | assigned (caller : SystemCaller) (seconds : UInt32) (hstored : before.calls caller = .stored seconds) :
      Moves before (.assign caller) { before with
        optimizerIntervalMilliseconds := seconds * 1000
        calls := Function.update before.calls caller (.assigned seconds) }
  | given (caller : SystemCaller) (seconds : UInt32) (replies : List (SystemCaller × CommandResult))
      (hassigned : before.calls caller = .assigned seconds) :
      Moves before (.give caller) { before with
        triggered := true
        calls := Function.update before.calls caller .idle
        replies }
  | triggered : Moves before .trigger { before with triggered := true }
  | waits (hcycle : before.waiting = none) :
      Moves before .wait { before with waiting := some before.optimizerIntervalMilliseconds }
  | wakes : Moves before .wake { before with waiting := none, triggered := false }
  | timedOut : Moves before .timeOut { before with waiting := none }
  | booted (answers : BootAnswers) : Moves before (.boot answers) (before.boot answers)

section Steps

variable {before after : IntervalState} {event : IntervalEvent} {caller : SystemCaller} {request : SystemCommandRequest}
  {answers : SystemAnswers}

theorem moves_of_set (hidle : before.calls caller = .idle) (haction : request.action = .SET_OPTIMIZER_INTERVAL) :
    Moves before (.command caller request answers) (before.handleSystemCommand caller request answers) := by
  have hunreset : resets request answers = false := by simp [resets, haction]
  unfold handleSystemCommand
  rw [haction]
  dsimp only
  by_cases hrefused :
    (!request.hasOptimizerIntervalSeconds || !isValidOptimizerIntervalSeconds request.optimizerIntervalSeconds) = true
  · rw [if_pos hrefused]
    refine .replied caller request answers before.triggered _ ?_ id hunreset
    simp only [Bool.or_eq_true, Bool.not_eq_true'] at hrefused
    rw [sets, if_neg]
    rintro ⟨-, hhas, hvalid, -⟩
    obtain hhasnt | hinvalid := hrefused
    · exact Bool.false_ne_true (hhasnt.symm.trans hhas)
    · exact Bool.false_ne_true (hinvalid.symm.trans hvalid)
  · rw [if_neg hrefused]
    simp only [Bool.or_eq_true, Bool.not_eq_true', not_or, Bool.not_eq_false] at hrefused
    by_cases hsaved : answers.flash.succeeds = true
    · rw [if_pos hsaved, if_pos (FlashAnswers.writes_of_succeeds hsaved)]
      exact .saved caller request answers hidle hrefused.2 (if_pos ⟨haction, hrefused.1, hrefused.2, hsaved⟩) hunreset
    · rw [if_neg hsaved]
      refine .unsaved caller request answers _ ?_ (Bool.eq_false_of_not_eq_true hsaved) hunreset
      rw [sets, if_neg]
      exact fun hset => hsaved hset.2.2.2

theorem moves_of_reset (hidle : before.calls caller = .idle) (haction : request.action = .FACTORY_RESET_CENTRAL) :
    Moves before (.command caller request answers) (before.handleSystemCommand caller request answers) := by
  have hunset : sets request answers = none := by simp [sets, haction]
  unfold handleSystemCommand
  rw [haction]
  dsimp only
  split_ifs with hrefused hfailed
  · exact .replied caller request answers before.triggered _ hunset id (by simp [resets, hrefused])
  · rw [Bool.not_eq_true'] at hfailed
    exact .replied caller request answers before.triggered _ hunset id (by simp [resets, hfailed])
  · rw [Bool.not_eq_true', Bool.not_eq_false] at hfailed
    refine .reset caller request answers hidle ?_
    simp only [resets, haction, hfailed, Bool.and_true, Bool.or_eq_true, decide_true, Bool.true_and, decide_eq_true_eq]
    tauto

theorem moves_of_command (hidle : before.calls caller = .idle) :
    Moves before (.command caller request answers) (before.handleSystemCommand caller request answers) := by
  cases haction : request.action with
  | SET_OPTIMIZER_INTERVAL => exact moves_of_set hidle haction
  | FACTORY_RESET_CENTRAL => exact moves_of_reset hidle haction
  | REQUEST_OPTIMIZATION_CYCLE =>
    rw [handleSystemCommand, haction]
    exact .replied caller request answers true _ (by simp [sets, haction]) (fun _ => rfl) (by simp [resets, haction])
  | FACTORY_RESET_NODE =>
    rw [handleSystemCommand, haction]
    dsimp only
    split_ifs
    all_goals
      exact .replied caller request answers before.triggered _ (by simp [sets, haction]) id (by simp [resets, haction])
  | _ =>
    rw [handleSystemCommand, haction]
    exact .replied caller request answers before.triggered _ (by simp [sets, haction]) id (by simp [resets, haction])

/-- Every step is one of `Moves`. -/
theorem moves_of_next (hnext : before.next event = some after) : Moves before event after := by
  cases event with
  | command caller request answers =>
    simp only [next, Option.ite_none_right_eq_some, Option.some.injEq] at hnext
    exact hnext.2 ▸ moves_of_command hnext.1.2
  | assign caller =>
    rw [next] at hnext
    split at hnext
    · rename_i seconds _ hstored
      exact Option.some.inj hnext ▸ .assigned caller seconds hstored
    · exact absurd hnext (Option.some_ne_none _).symm
  | give caller =>
    rw [next] at hnext
    split at hnext
    · rename_i seconds _ hassigned
      exact Option.some.inj hnext ▸ .given caller seconds _ hassigned
    · exact absurd hnext (Option.some_ne_none _).symm
  | trigger =>
    simp only [next, Option.ite_none_right_eq_some, Option.some.injEq] at hnext
    exact hnext.2 ▸ .triggered
  | wait =>
    simp only [next, Option.ite_none_right_eq_some, Option.some.injEq] at hnext
    exact hnext.2 ▸ .waits hnext.1.2
  | wake =>
    simp only [next, Option.ite_none_right_eq_some, Option.some.injEq] at hnext
    exact hnext.2 ▸ .wakes
  | timeOut =>
    simp only [next, Option.ite_none_right_eq_some, Option.some.injEq] at hnext
    exact hnext.2 ▸ .timedOut
  | boot answers => exact Option.some.inj hnext ▸ .booted answers

end Steps

section Calls

variable {calls : SystemCaller → SystemCall} {caller other : SystemCaller} {call found : SystemCall}

theorem call_of_update (hfound : Function.update calls caller call other = found) :
    found = call ∨ calls other = found := by
  by_cases hother : other = caller
  · subst hother
    exact .inl (hfound.symm.trans (Function.update_self ..))
  · exact .inr ((Function.update_of_ne hother ..).symm.trans hfound)

theorem call_update (hcaller : calls caller ≠ found) (hfound : calls other = found) :
    Function.update calls caller call other = found := by
  refine (Function.update_of_ne ?_ ..).trans hfound
  rintro rfl
  exact hcaller hfound

/-- A caller that starts a call does not take the assignment of another away. -/
theorem assigned_update (hidle : calls caller = .idle) :
    (∃ other seconds, calls other = .assigned seconds) →
      ∃ other seconds, Function.update calls caller call other = .assigned seconds := by
  rintro ⟨other, seconds, hassigned⟩
  exact ⟨other, seconds, call_update (hidle.trans_ne SystemCall.noConfusion) hassigned⟩

theorem restarting_update (hcaller : calls caller ≠ .restarting) :
    (∃ other, calls other = .restarting) → ∃ other, Function.update calls caller call other = .restarting := by
  rintro ⟨other, hrestarting⟩
  exact ⟨other, call_update hcaller hrestarting⟩

end Calls

section Bounds

/-- The interval is one that a command may set, and a wait with an outdated one is about to end. -/
structure Bounded (state : IntervalState) : Prop where
  interval : ∃ seconds, isValidOptimizerIntervalSeconds seconds ∧ state.optimizerIntervalMilliseconds = seconds * 1000
  stored : ∀ caller seconds, state.calls caller = .stored seconds → isValidOptimizerIntervalSeconds seconds
  waiting : ∀ timeout ∈ state.waiting, timeout = state.optimizerIntervalMilliseconds ∨ state.triggered ∨
    ∃ caller seconds, state.calls caller = .assigned seconds

/-- The default is a valid interval. -/
theorem interval_default :
    ∃ seconds, isValidOptimizerIntervalSeconds seconds ∧ DEFAULT_OPTIMIZATION_PERIOD_MILLISECONDS = seconds * 1000 :=
  ⟨300, by decide, by decide⟩

/-- Whatever the flash holds, a boot begins with a valid interval. -/
theorem interval_load (opened : Bool) (storedSeconds : Option UInt32) :
    ∃ seconds, isValidOptimizerIntervalSeconds seconds ∧
      loadOptimizerIntervalConfiguration opened storedSeconds = seconds * 1000 := by
  rw [loadOptimizerIntervalConfiguration]
  split
  · exact interval_default
  · split
    · exact interval_default
    · rename_i savedSeconds hsaved
      exact ⟨savedSeconds, (Option.filter_eq_some_iff.mp hsaved).2, rfl⟩

/-- Nothing is set and nobody waits. -/
theorem bounded_factory : Bounded factory where
  interval := interval_default
  stored _ _ hstored := absurd hstored (by simp [factory])
  waiting _ hwaiting := absurd hwaiting (by simp [factory])

variable {before after : IntervalState} {event : IntervalEvent}

/-- No step of any task leaves the bounds, whatever the flash answers. -/
theorem bounded_of_next (hbounded : Bounded before) (hnext : before.next event = some after) : Bounded after := by
  obtain ⟨hinterval, hstored, hwaiting⟩ := hbounded
  cases moves_of_next hnext with
  | replied caller request answers triggered replies hunset hkept hunreset =>
    refine ⟨hinterval, hstored, fun timeout htimeout => ?_⟩
    obtain hcurrent | htriggered | hassigned := hwaiting timeout htimeout
    · exact .inl hcurrent
    · exact .inr (.inl (hkept htriggered))
    · exact .inr (.inr hassigned)
  | unsaved => exact ⟨hinterval, hstored, hwaiting⟩
  | saved caller request answers hidle hvalid hset hunreset =>
    refine ⟨hinterval, fun other seconds hother => ?_, fun timeout htimeout => ?_⟩
    · obtain hnew | hother := call_of_update hother
      · exact SystemCall.stored.inj hnew ▸ hvalid
      · exact hstored other seconds hother
    · exact (hwaiting timeout htimeout).imp_right (Or.imp_right (assigned_update hidle))
  | reset caller request answers hidle hreset =>
    refine ⟨hinterval, fun other seconds hother => ?_, fun timeout htimeout => ?_⟩
    · obtain hrestarting | hother := call_of_update hother
      · exact absurd hrestarting SystemCall.noConfusion
      · exact hstored other seconds hother
    · exact (hwaiting timeout htimeout).imp_right (Or.imp_right (assigned_update hidle))
  | assigned caller seconds hassigning =>
    refine ⟨⟨seconds, hstored caller seconds hassigning, rfl⟩, fun other otherSeconds hother => ?_, fun _ _ => ?_⟩
    · obtain hnew | hother := call_of_update hother
      · exact absurd hnew SystemCall.noConfusion
      · exact hstored other otherSeconds hother
    · exact .inr (.inr ⟨caller, seconds, Function.update_self ..⟩)
  | given caller seconds replies hassigned =>
    refine ⟨hinterval, fun other otherSeconds hother => ?_, fun _ _ => .inr (.inl rfl)⟩
    obtain hidle | hother := call_of_update hother
    · exact absurd hidle SystemCall.noConfusion
    · exact hstored other otherSeconds hother
  | triggered => exact ⟨hinterval, hstored, fun _ _ => .inr (.inl rfl)⟩
  | waits hcycle => exact ⟨hinterval, hstored, fun timeout htimeout => .inl (Option.some.inj htimeout).symm⟩
  | wakes => exact ⟨hinterval, hstored, fun _ hnone => absurd hnone (Option.not_mem_none _)⟩
  | timedOut => exact ⟨hinterval, hstored, fun _ hnone => absurd hnone (Option.not_mem_none _)⟩
  | booted answers =>
    exact ⟨interval_load .., fun _ _ hidle => absurd hidle (by simp [boot]),
      fun _ hnone => absurd hnone (Option.not_mem_none _)⟩

end Bounds

section Saved

/-- The flash keeps what it confirms, a boot can read what is there, and no two tasks save an
interval at the same time. -/
def Orderly (before : IntervalState) : IntervalEvent → Prop
  | .command _ request answers => answers.flash.writes = answers.flash.succeeds ∧
      ((sets request answers).isSome → ∀ caller, (before.calls caller).isStored = false)
  | .boot answers => answers.opened ∨ answers.erased ∨ before.storedSeconds = none
  | _ => True

instance (before : IntervalState) (event : IntervalEvent) : Decidable (before.Orderly event) := by
  cases event <;> simp only [Orderly] <;> infer_instance

/-- Between the commands. -/
def Settled (state : IntervalState) : Prop :=
  ∀ caller, state.calls caller ≠ .restarting ∧ (state.calls caller).isStored = false

instance (state : IntervalState) : Decidable state.Settled :=
  inferInstanceAs (Decidable (∀ caller, state.calls caller ≠ .restarting ∧ (state.calls caller).isStored = false))

variable {before after : IntervalState} {event : IntervalEvent}

/-- Needs `Orderly`: two calls that save at once may leave either value. -/
theorem storedSeconds_of_next (horderly : before.Orderly event) (hnext : before.next event = some after) :
    after.storedSeconds = savedSeconds before.storedSeconds event := by
  cases moves_of_next hnext with
  | replied caller request answers triggered replies hunset hkept hunreset =>
    rw [savedSeconds, hunset, hunreset, if_neg Bool.false_ne_true, Option.none_or]
  | unsaved caller request answers replies hunset hfailed hunreset =>
    rw [savedSeconds, hunset, hunreset, if_neg Bool.false_ne_true, Option.none_or, horderly.1, hfailed,
      if_neg Bool.false_ne_true]
  | saved caller request answers hidle hvalid hset hunreset =>
    rw [savedSeconds, hset, hunreset, if_neg Bool.false_ne_true, Option.some_or]
  | reset caller request answers hidle hreset => rw [savedSeconds, if_pos hreset]
  | _ => rfl

/-- What the flash and the tasks know of the interval. -/
structure Recorded (state : IntervalState) : Prop where
  valid : ∀ seconds ∈ state.storedSeconds, isValidOptimizerIntervalSeconds seconds
  stored : ∀ caller seconds, state.calls caller = .stored seconds →
    state.storedSeconds = some seconds ∨ ∃ other, state.calls other = .restarting
  settled : state.Settled → state.optimizerIntervalMilliseconds = state.storedSeconds.getD 300 * 1000

theorem recorded_factory : Recorded factory where
  valid _ hnone := absurd hnone (Option.not_mem_none _)
  stored _ _ hstored := absurd hstored (by simp [factory])
  settled _ := by decide

/-- Needs the flash to be opened, or to be empty. -/
theorem load_of_valid {opened : Bool} {storedSeconds : Option UInt32}
    (hvalid : ∀ seconds ∈ storedSeconds, isValidOptimizerIntervalSeconds seconds)
    (hfound : opened = true ∨ storedSeconds = none) :
    loadOptimizerIntervalConfiguration opened storedSeconds = storedSeconds.getD 300 * 1000 := by
  cases storedSeconds with
  | none => cases opened <;> decide
  | some seconds =>
    obtain hopened | hnone := hfound
    · have hkept : (some seconds).filter isValidOptimizerIntervalSeconds = some seconds :=
        Option.filter_some_pos (hvalid seconds rfl)
      simp [loadOptimizerIntervalConfiguration, hopened, hkept]
    · exact absurd hnone (Option.some_ne_none seconds)

/-- Between commands, what is in force is what was saved last. -/
theorem recorded_of_next (horderly : before.Orderly event) (hrecorded : Recorded before)
    (hnext : before.next event = some after) : Recorded after := by
  obtain ⟨hvalid, hstored, hsettled⟩ := hrecorded
  cases moves_of_next hnext with
  | replied => exact ⟨hvalid, hstored, hsettled⟩
  | unsaved caller request answers replies hunset hfailed hunreset =>
    rw [horderly.1, hfailed, if_neg Bool.false_ne_true]
    exact ⟨hvalid, hstored, hsettled⟩
  | saved caller request answers hidle hnew hset hunreset =>
    refine ⟨fun seconds hseconds => Option.some.inj hseconds ▸ hnew, fun other seconds hother => ?_, fun hquiet => ?_⟩
    · obtain hnew | hother := call_of_update hother
      · exact .inl (congrArg some (SystemCall.stored.inj hnew).symm)
      · have hfree := horderly.2 (hset ▸ rfl) other
        exact absurd (hother ▸ hfree) Bool.noConfusion
    · have hstoring : Function.update before.calls caller (.stored request.optimizerIntervalSeconds) caller =
          .stored request.optimizerIntervalSeconds := Function.update_self ..
      have hfree : (Function.update before.calls caller
          (.stored request.optimizerIntervalSeconds) caller).isStored = false := (hquiet caller).2
      rw [hstoring] at hfree
      exact absurd hfree Bool.noConfusion
  | reset caller request answers hidle hreset =>
    have hrestarting : Function.update before.calls caller .restarting caller = .restarting := Function.update_self ..
    exact ⟨fun _ hnone => absurd hnone (Option.not_mem_none _), fun _ _ _ => .inr ⟨caller, hrestarting⟩,
      fun hquiet => absurd hrestarting (hquiet caller).1⟩
  | assigned caller seconds hassigning =>
    have hunreset : before.calls caller ≠ .restarting := hassigning.trans_ne SystemCall.noConfusion
    refine ⟨hvalid, fun other otherSeconds hother => ?_, fun hquiet => ?_⟩
    · obtain hnew | hother := call_of_update hother
      · exact absurd hnew SystemCall.noConfusion
      · exact (hstored other otherSeconds hother).imp_right (restarting_update hunreset)
    · obtain hseconds | hrestarting := hstored caller seconds hassigning
      · rw [hseconds, Option.getD_some]
      · obtain ⟨other, hrestarting⟩ := restarting_update hunreset hrestarting
        exact absurd hrestarting (hquiet other).1
  | given caller seconds replies hassigned =>
    refine ⟨hvalid, fun other otherSeconds hother => ?_, fun hquiet => hsettled fun other => ?_⟩
    · obtain hidle | hother := call_of_update hother
      · exact absurd hidle SystemCall.noConfusion
      · exact (hstored other otherSeconds hother).imp_right
          (restarting_update (hassigned.trans_ne SystemCall.noConfusion))
    · by_cases hother : other = caller
      · subst hother
        exact ⟨hassigned.trans_ne SystemCall.noConfusion, hassigned ▸ rfl⟩
      · have hsame : Function.update before.calls caller .idle other = before.calls other :=
          Function.update_of_ne hother ..
        have hcalls : Function.update before.calls caller .idle other ≠ .restarting ∧
            (Function.update before.calls caller .idle other).isStored = false := hquiet other
        rwa [hsame] at hcalls
  | triggered => exact ⟨hvalid, hstored, hsettled⟩
  | waits => exact ⟨hvalid, hstored, hsettled⟩
  | wakes => exact ⟨hvalid, hstored, hsettled⟩
  | timedOut => exact ⟨hvalid, hstored, hsettled⟩
  | booted answers =>
    have hkept : ∀ seconds ∈ (if answers.erased then none else before.storedSeconds),
        isValidOptimizerIntervalSeconds seconds := by
      by_cases herased : answers.erased = true
      · rw [if_pos herased]
        exact fun _ hnone => absurd hnone (Option.not_mem_none _)
      · rw [if_neg herased]
        exact hvalid
    refine ⟨hkept, fun _ _ hidle => absurd hidle (by simp [boot]), fun _ => load_of_valid hkept ?_⟩
    obtain hopened | herased | hnone := horderly
    · exact .inl hopened
    · exact .inr (if_pos herased)
    · rw [hnone, ite_self]
      exact .inr rfl

end Saved

/-- In every interleaving of the commands with the optimization task and with restarts, the interval
is one that a command may set, and the optimization task waits for it unless its wait is about to end. -/
theorem interval_bounded {events : List IntervalEvent} {last : IntervalState}
    (hrun : Run (fun before event after => before.next event = some after) factory events last) :
    isValidOptimizerIntervalSeconds last.getOptimizerIntervalSeconds ∧
      last.optimizerIntervalMilliseconds.toNat = last.getOptimizerIntervalSeconds.toNat * 1000 ∧
      ∀ timeout ∈ last.waiting, timeout = last.optimizerIntervalMilliseconds ∨ last.triggered ∨
        ∃ caller seconds, last.calls caller = .assigned seconds := by
  have hbounded : Bounded last :=
    hrun.invariant (fun before event after hbefore hnext => bounded_of_next hbefore hnext) bounded_factory
  obtain ⟨seconds, hvalid, hinterval⟩ := hbounded.interval
  rw [getOptimizerIntervalSeconds, hinterval, milliseconds_div hvalid]
  exact ⟨hvalid, toNat_milliseconds hvalid, hinterval ▸ hbounded.waiting⟩

/-- The flash takes everything and gives it back. -/
def goodFlash : SystemAnswers := ⟨.succeeding, true, true, true, true⟩

/-- The command with this number of seconds. -/
def setInterval (seconds : UInt32) : SystemCommandRequest :=
  ⟨1, .SET_OPTIMIZER_INTERVAL, .zero, Vector.replicate 6 0, false, true, seconds⟩

/-- The command that restores the factory settings. -/
def resetCentral : SystemCommandRequest :=
  ⟨2, .FACTORY_RESET_CENTRAL, CharBuffer.zero.print (ascii "RESET"), Vector.replicate 6 0, false, false, 0⟩

/-- A command from the broker shortens a wait of five minutes. -/
def shortened : List IntervalEvent :=
  [.boot ⟨false, false⟩, .wait, .command .mqtt (setInterval 60) goodFlash, .assign .mqtt]

theorem interval_bounded_shortened : ∃ last : IntervalState, last.waiting = some 300000 ∧
    last.getOptimizerIntervalSeconds = 60 ∧
    ∀ timeout ∈ last.waiting, timeout = last.optimizerIntervalMilliseconds ∨ last.triggered ∨
      ∃ caller seconds, last.calls caller = .assigned seconds := by
  have hends : (shortened.foldlM next factory).any (fun (last : IntervalState) =>
      decide (last.waiting = some 300000 ∧ last.getOptimizerIntervalSeconds = 60)) = true := by decide +kernel
  obtain ⟨last, hlast, hshort⟩ := (Option.any_eq_true _ _).mp hends
  have hstep : ∀ (before : IntervalState) event after, before.next event = some after → before.next event = some after :=
    fun _ _ _ => id
  have hbounded := interval_bounded (Run.of_foldlM hstep hlast)
  obtain ⟨hwaiting, hseconds⟩ := of_decide_eq_true hshort
  exact ⟨last, hwaiting, hseconds, hbounded.2.2⟩

/-- Between the commands the interval in memory is the one that was saved last, also after restarts at any
moment. Needs `Orderly`: a flash that keeps what it confirms and can be read again, and no two tasks that
save at once. -/
theorem interval_saved {events : List IntervalEvent} {last : IntervalState}
    (hrun : Run (fun before event after => before.next event = some after ∧ before.Orderly event) factory events last)
    (hsettled : last.Settled) :
    last.getOptimizerIntervalSeconds = (events.foldl savedSeconds none).getD 300 := by
  have hstored : last.storedSeconds = events.foldl savedSeconds none := by
    clear hsettled
    induction hrun with
    | nil => rfl
    | snoc _ hstep ih =>
      rw [List.foldl_append, ← ih]
      exact storedSeconds_of_next hstep.2 hstep.1
  have hrecorded : Recorded last := by
    refine hrun.invariant (fun before event after hbefore hstep => ?_) recorded_factory
    exact recorded_of_next hstep.2 hbefore hstep.1
  rw [getOptimizerIntervalSeconds, hrecorded.settled hsettled, hstored]
  refine milliseconds_div ?_
  cases hsaved : events.foldl savedSeconds none with
  | none => decide
  | some seconds => exact hrecorded.valid seconds (hstored.trans hsaved)

/-- A factory reset from the console, a new interval from the broker while Central is about to
restart, and the restart. -/
def savedAfterReset : List IntervalEvent :=
  [.boot ⟨false, false⟩, .command .mqtt (setInterval 60) goodFlash, .assign .mqtt, .give .mqtt,
    .command .console resetCentral goodFlash, .command .mqtt (setInterval 90) goodFlash, .boot ⟨false, true⟩]

theorem interval_saved_restarted :
    ∃ last : IntervalState, last.Settled ∧ last.getOptimizerIntervalSeconds = 90 ∧
      last.getOptimizerIntervalSeconds = (savedAfterReset.foldl savedSeconds none).getD 300 := by
  have hends : (savedAfterReset.foldlM (fun (before : IntervalState) event =>
      if before.Orderly event then before.next event else none) factory).any (fun (last : IntervalState) =>
      decide (last.Settled ∧ last.getOptimizerIntervalSeconds = 90)) = true := by decide +kernel
  obtain ⟨last, hlast, hsaved⟩ := (Option.any_eq_true _ _).mp hends
  have hstep : ∀ (before : IntervalState) event after,
      (if before.Orderly event then before.next event else none) = some after →
        before.next event = some after ∧ before.Orderly event := by
    intro before event after hnext
    obtain ⟨horderly, hnext⟩ := Option.ite_none_right_eq_some.mp hnext
    exact ⟨hnext, horderly⟩
  obtain ⟨hsettled, hseconds⟩ := of_decide_eq_true hsaved
  exact ⟨last, hsettled, hseconds, interval_saved (Run.of_foldlM hstep hlast) hsettled⟩

end IntervalState

end kilowatts.OptimizerInterval
