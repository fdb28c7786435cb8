import Kilowatts.Central.PlanningCycle
import Kilowatts.Library.Countdown
import Kilowatts.Library.Run
import Mathlib.Algebra.Order.Field.Rat
import Mathlib.Algebra.Order.Field.Basic
import Mathlib.Tactic.NormNum

namespace kilowatts

namespace RuntimeCountdown

/-- The arguments of one call. -/
structure RuntimeCall where
  configuredRequiredRuntimeHours : Rat
  currentTimeValid : Bool
  nowEpochSeconds : Int

/-- The globals after a history of calls. `previous` is the last call with its result, and
`countedTarget` the target whose countdown has begun and has not been given up since. -/
structure CountdownState where
  reference : RuntimeTargetReference
  previous : Option (RuntimeCall × Rat)
  countedTarget : Option Rat

/-- Negative if the clock went back. -/
def elapsedHours (fromEpochSeconds toEpochSeconds : Int) : Rat :=
  (toEpochSeconds - fromEpochSeconds : Int) / 3600

/-- The clock did not go back. -/
theorem elapsedHours_nonneg_iff {fromEpochSeconds toEpochSeconds : Int} :
    0 ≤ elapsedHours fromEpochSeconds toEpochSeconds ↔ fromEpochSeconds ≤ toEpochSeconds := by
  rw [elapsedHours, le_div_iff₀ (by norm_num), zero_mul, Int.cast_nonneg_iff, sub_nonneg]

theorem elapsedHours_eq_zero_iff {fromEpochSeconds toEpochSeconds : Int} :
    elapsedHours fromEpochSeconds toEpochSeconds = 0 ↔ toEpochSeconds = fromEpochSeconds := by
  rw [elapsedHours, div_eq_zero_iff, or_iff_left (by norm_num), Int.cast_eq_zero, sub_eq_zero]

/-- Hours add up over calls. -/
theorem elapsedHours_add (first second third : Int) :
    elapsedHours first second + elapsedHours second third = elapsedHours first third := by
  rw [elapsedHours, elapsedHours, elapsedHours, ← add_div, ← Int.cast_add]
  congr 2
  omega

/-- What a call answers. -/
def remainingHours (reference : RuntimeTargetReference) (call : RuntimeCall) : Rat :=
  (computeRemainingRequiredRuntimeHours reference call.configuredRequiredRuntimeHours call.currentTimeValid
    call.nowEpochSeconds).1

/-- One call, with what it leaves for the next. -/
def CountdownState.next (before : CountdownState) (call : RuntimeCall) : CountdownState where
  reference := (computeRemainingRequiredRuntimeHours before.reference call.configuredRequiredRuntimeHours
    call.currentTimeValid call.nowEpochSeconds).2
  previous := some (call, remainingHours before.reference call)
  countedTarget :=
    if call.currentTimeValid || before.countedTarget = some call.configuredRequiredRuntimeHours then
      some call.configuredRequiredRuntimeHours
    else none

/-- No reference yet. -/
def CountdownState.boot : CountdownState := ⟨⟨0, 0, false⟩, none, none⟩

/-- The call counts on from a reference that is there already. -/
structure CountsOn (reference : RuntimeTargetReference) (call : RuntimeCall) : Prop where
  valid : reference.valid = true
  hours : reference.hours = call.configuredRequiredRuntimeHours
  active : 0 < call.configuredRequiredRuntimeHours
  currentTimeValid : call.currentTimeValid = true

section Call

variable {reference : RuntimeTargetReference} {call : RuntimeCall}

/-- Without a target nothing remains. -/
theorem remainingHours_of_inactive (hinactive : call.configuredRequiredRuntimeHours ≤ 0) :
    remainingHours reference call = 0 := by
  rw [remainingHours, computeRemainingRequiredRuntimeHours, if_pos hinactive]

/-- A call that counts on keeps the reference. -/
theorem compute_of_countsOn (hcounts : CountsOn reference call) :
    computeRemainingRequiredRuntimeHours reference call.configuredRequiredRuntimeHours call.currentTimeValid
        call.nowEpochSeconds =
      (countdown call.configuredRequiredRuntimeHours (elapsedHours reference.epochSeconds call.nowEpochSeconds),
        reference) := by
  obtain ⟨hvalid, hhours, hactive, htime⟩ := hcounts
  simp only [computeRemainingRequiredRuntimeHours, if_neg (not_le.mpr hactive), htime, hvalid, hhours, bne_self_eq_false,
    Bool.not_true, Bool.or_false, Bool.false_eq_true, if_false, countdown, elapsedHours, Prod.mk.injEq, and_true]
  split
  · next hleft => exact (max_eq_right hleft.le).symm
  · next hover => exact (max_eq_left (not_lt.mp hover)).symm

/-- A first call takes the time as the new reference. -/
theorem compute_of_not_countsOn (hactive : 0 < call.configuredRequiredRuntimeHours)
    (htime : call.currentTimeValid = true) (hcounts : ¬CountsOn reference call) :
    computeRemainingRequiredRuntimeHours reference call.configuredRequiredRuntimeHours call.currentTimeValid
        call.nowEpochSeconds =
      (call.configuredRequiredRuntimeHours, ⟨call.configuredRequiredRuntimeHours, call.nowEpochSeconds, true⟩) := by
  have hrestarts : (!reference.valid || reference.hours != call.configuredRequiredRuntimeHours) = true := by
    rw [Bool.or_eq_true, Bool.not_eq_true', bne_iff_ne]
    by_contra hkept
    obtain ⟨hvalid, hhours⟩ := not_or.mp hkept
    exact hcounts ⟨Bool.eq_true_of_not_eq_false hvalid, not_not.mp hhours, hactive, htime⟩
  simp only [computeRemainingRequiredRuntimeHours, if_neg (not_le.mpr hactive), htime, hrestarts, Bool.not_true,
    Bool.false_eq_true, if_false, if_true, sub_self, Int.cast_zero, zero_div, sub_zero, if_pos hactive]

/-- After a call with valid time, the result is what the reference leaves. -/
theorem remainingHours_of_active (hactive : 0 < call.configuredRequiredRuntimeHours)
    (htime : call.currentTimeValid = true) (before : CountdownState) :
    CountsOn (before.next call).reference call ∧
      remainingHours before.reference call = countdown call.configuredRequiredRuntimeHours
        (elapsedHours (before.next call).reference.epochSeconds call.nowEpochSeconds) := by
  by_cases hcounts : CountsOn before.reference call
  · rw [CountdownState.next, remainingHours, compute_of_countsOn hcounts]
    exact ⟨hcounts, rfl⟩
  · rw [CountdownState.next, remainingHours, compute_of_not_countsOn hactive htime hcounts]
    refine ⟨⟨rfl, rfl, hactive, htime⟩, ?_⟩
    rw [elapsedHours_eq_zero_iff.mpr rfl, countdown.zero hactive.le]

end Call

section Steps

variable (before : CountdownState) (call : RuntimeCall) (after : CountdownState)

/-- What is asked of one call. -/
structure CountdownStep : Prop where
  next : after = before.next call
  target : 0 ≤ call.configuredRequiredRuntimeHours
  bounds : 0 ≤ remainingHours before.reference call ∧
    remainingHours before.reference call ≤ call.configuredRequiredRuntimeHours
  counted : ∀ earlier result, before.previous = some (earlier, result) →
    earlier.configuredRequiredRuntimeHours = call.configuredRequiredRuntimeHours →
    earlier.currentTimeValid = true → call.currentTimeValid = true →
    earlier.nowEpochSeconds ≤ call.nowEpochSeconds →
    remainingHours before.reference call ≤ result ∧ remainingHours before.reference call =
      countdown result (elapsedHours earlier.nowEpochSeconds call.nowEpochSeconds)
  full : call.currentTimeValid = true → before.countedTarget ≠ some call.configuredRequiredRuntimeHours →
    remainingHours before.reference call = call.configuredRequiredRuntimeHours

/-- A call that counts on from a reference comes no earlier than it. If the countdown of the
target has not begun, the reference is of this second. -/
structure ReferencedStep : Prop where
  next : after = before.next call
  target : 0 ≤ call.configuredRequiredRuntimeHours
  notBefore : CountsOn before.reference call → before.reference.epochSeconds ≤ call.nowEpochSeconds
  fresh : CountsOn before.reference call → before.countedTarget ≠ some call.configuredRequiredRuntimeHours →
    call.nowEpochSeconds = before.reference.epochSeconds

end Steps

/-- The last result is what the reference leaves of the target of the last call. -/
def Referenced (state : CountdownState) : Prop :=
  ∀ call result, state.previous = some (call, result) →
    (call.configuredRequiredRuntimeHours ≤ 0 → result = 0) ∧
    (0 < call.configuredRequiredRuntimeHours → call.currentTimeValid = true →
      CountsOn state.reference call ∧ result = countdown call.configuredRequiredRuntimeHours
        (elapsedHours state.reference.epochSeconds call.nowEpochSeconds))

/-- Each call leaves a reference that explains its result, whatever the state before. -/
theorem referenced_next (before : CountdownState) (call : RuntimeCall) : Referenced (before.next call) := by
  intro last result hlast
  cases hlast
  refine ⟨remainingHours_of_inactive, ?_⟩
  intro hactive htime
  exact remainingHours_of_active hactive htime before

section Conditions

variable {before : CountdownState} {call : RuntimeCall}

/-- Without valid time a call answers the target itself. -/
theorem remainingHours_of_invalid (htarget : 0 ≤ call.configuredRequiredRuntimeHours)
    (htime : call.currentTimeValid = false) :
    remainingHours before.reference call = call.configuredRequiredRuntimeHours := by
  rw [remainingHours, computeRemainingRequiredRuntimeHours]
  split
  · next hinactive => exact le_antisymm htarget hinactive
  · rw [if_pos (by rw [htime]; rfl)]

/-- A call that does not count on from a reference answers the target itself. -/
theorem remainingHours_of_not_countsOn (htarget : 0 ≤ call.configuredRequiredRuntimeHours)
    (hcounts : ¬CountsOn before.reference call) :
    remainingHours before.reference call = call.configuredRequiredRuntimeHours := by
  cases htime : call.currentTimeValid with
  | false => exact remainingHours_of_invalid htarget htime
  | true =>
    obtain hzero | hactive := htarget.eq_or_lt
    · rw [remainingHours_of_inactive hzero.ge, hzero]
    · rw [remainingHours, compute_of_not_countsOn hactive htime hcounts]

/-- The answer is out of bounds exactly if the call comes before its reference. -/
theorem bounds_iff (htarget : 0 ≤ call.configuredRequiredRuntimeHours) :
    (0 ≤ remainingHours before.reference call ∧
        remainingHours before.reference call ≤ call.configuredRequiredRuntimeHours) ↔
      (CountsOn before.reference call → before.reference.epochSeconds ≤ call.nowEpochSeconds) := by
  by_cases hcounts : CountsOn before.reference call
  · rw [remainingHours, compute_of_countsOn hcounts, countdown.le_target_iff htarget, elapsedHours_nonneg_iff]
    exact ⟨fun hbounds _ => hbounds.2, fun hcalled => ⟨countdown.nonneg, hcalled hcounts⟩⟩
  · rw [remainingHours_of_not_countsOn htarget hcounts]
    exact ⟨fun _ hcounted => absurd hcounted hcounts, fun _ => ⟨htarget, le_rfl⟩⟩

/-- The answer is the whole target exactly if no time has gone by since a reference that counts. -/
theorem full_iff (htarget : 0 ≤ call.configuredRequiredRuntimeHours) :
    (call.currentTimeValid = true → remainingHours before.reference call = call.configuredRequiredRuntimeHours) ↔
      (CountsOn before.reference call → call.nowEpochSeconds = before.reference.epochSeconds) := by
  by_cases hcounts : CountsOn before.reference call
  · rw [remainingHours, compute_of_countsOn hcounts, countdown.eq_target_iff hcounts.active, elapsedHours_eq_zero_iff]
    exact ⟨fun hfull _ => hfull hcounts.currentTimeValid, fun hcalled _ => hcalled hcounts⟩
  · exact ⟨fun _ hcounted => absurd hcounted hcounts,
      fun _ _ => remainingHours_of_not_countsOn htarget hcounts⟩

/-- Two calls in a row with one target count on, whatever came before them. -/
theorem counted_of_referenced (hreferenced : Referenced before) (htarget : 0 ≤ call.configuredRequiredRuntimeHours)
    {earlier : RuntimeCall} {result : Rat} (hprevious : before.previous = some (earlier, result))
    (hsame : earlier.configuredRequiredRuntimeHours = call.configuredRequiredRuntimeHours)
    (hearlier : earlier.currentTimeValid = true) (htime : call.currentTimeValid = true)
    (hclock : earlier.nowEpochSeconds ≤ call.nowEpochSeconds) :
    remainingHours before.reference call ≤ result ∧ remainingHours before.reference call =
      countdown result (elapsedHours earlier.nowEpochSeconds call.nowEpochSeconds) := by
  obtain ⟨hinactive, hactive⟩ := hreferenced earlier result hprevious
  rw [hsame] at hinactive hactive
  have helapsed := elapsedHours_nonneg_iff.mpr hclock
  obtain hzero | htarget := htarget.eq_or_lt
  · obtain rfl := hinactive hzero.ge
    rw [remainingHours_of_inactive hzero.ge, countdown, zero_sub, max_eq_left (neg_nonpos.mpr helapsed)]
    exact ⟨le_rfl, rfl⟩
  · obtain ⟨⟨hvalid, hhours, -, -⟩, rfl⟩ := hactive htarget hearlier
    have hcounts : CountsOn before.reference call := ⟨hvalid, hhours.trans hsame, htarget, htime⟩
    have hcounted : remainingHours before.reference call =
        countdown (countdown call.configuredRequiredRuntimeHours
          (elapsedHours before.reference.epochSeconds earlier.nowEpochSeconds))
          (elapsedHours earlier.nowEpochSeconds call.nowEpochSeconds) := by
      rw [remainingHours, compute_of_countsOn hcounts, countdown.add helapsed, elapsedHours_add]
    rw [hcounted]
    exact ⟨countdown.le_target helapsed countdown.nonneg, rfl⟩

/-- One call counts down as it should exactly if it meets the condition. -/
theorem countdownStep_iff (hreferenced : Referenced before) (after : CountdownState) :
    CountdownStep before call after ↔ ReferencedStep before call after := by
  constructor
  · intro hstep
    refine ⟨hstep.next, hstep.target, (bounds_iff hstep.target).mp hstep.bounds, ?_⟩
    intro hcounts hnew
    exact (full_iff hstep.target).mp (fun htime => hstep.full htime hnew) hcounts
  · intro hstep
    refine ⟨hstep.next, hstep.target, (bounds_iff hstep.target).mpr hstep.notBefore, ?_, ?_⟩
    · intro earlier result hprevious hsame hearlier htime hclock
      exact counted_of_referenced hreferenced hstep.target hprevious hsame hearlier htime hclock
    · intro htime hnew
      exact (full_iff hstep.target).mpr (fun hcounts => hstep.fresh hcounts hnew) htime

end Conditions

/-- Each cycle makes one call, and nothing else writes the reference. -/
theorem runOptimizationCycle_reference (state : CentralState) (clock : CycleClock) (history : CountdownState)
    (hreference : history.reference = state.runtimeTargetReference) :
    (state.runOptimizationCycle clock).state.runtimeTargetReference =
      (history.next ⟨state.configuration.powerPlanning.requiredRuntimeHours, clock.currentTimeValid,
        clock.epochSeconds⟩).reference := by
  rw [CountdownState.next, hreference]
  rfl

/-- A history of calls from the boot on counts down as it should just if every call that counts on from an
earlier reference comes no earlier than it, and for a target whose countdown has begun. -/
theorem runtime_countdown (calls : List RuntimeCall) (last : CountdownState) :
    Run CountdownStep .boot calls last ↔ Run ReferencedStep .boot calls last := by
  have hboot : Referenced .boot := by
    intro call result hprevious
    cases hprevious
  refine Run.congr (fun before call after _ (hstep : CountdownStep before call after) => ?_)
    (fun before call after hbefore => countdownStep_iff hbefore after) hboot
  rw [hstep.next]
  exact referenced_next before call

/-- Five hours, the target removed an hour later, and set to five hours again. -/
def reactivated : List RuntimeCall := [⟨5, true, 0⟩, ⟨0, true, 3600⟩, ⟨5, true, 7200⟩]

/-- The clock is set back by an hour after the first call. -/
def setBack : List RuntimeCall := [⟨5, true, 3600⟩, ⟨5, true, 0⟩]

/-- The target that is set again has three hours left, and six of five hours are left after the
clock was set back. -/
theorem runtime_countdown_fails :
    ((∀ call ∈ reactivated, 0 ≤ call.configuredRequiredRuntimeHours) ∧
      ¬∃ last, Run CountdownStep .boot reactivated last) ∧
    (∀ call ∈ setBack, 0 ≤ call.configuredRequiredRuntimeHours) ∧ ¬∃ last, Run CountdownStep .boot setBack last := by
  refine ⟨⟨by decide +kernel, ?_⟩, ⟨by decide +kernel, ?_⟩⟩
  · rintro ⟨last, hrun⟩
    change Run CountdownStep .boot ([⟨5, true, 0⟩, ⟨0, true, 3600⟩] ++ [⟨5, true, 7200⟩]) last at hrun
    have hfull := (hrun.step_of_snoc fun _ _ _ hstep => hstep.next).full rfl (by decide +kernel)
    exact absurd hfull (by decide +kernel)
  · rintro ⟨last, hrun⟩
    change Run CountdownStep .boot ([⟨5, true, 3600⟩] ++ [⟨5, true, 0⟩]) last at hrun
    have hbounds := (hrun.step_of_snoc fun _ _ _ hstep => hstep.next).bounds
    exact absurd hbounds.2 (by decide +kernel)

end RuntimeCountdown

end kilowatts
