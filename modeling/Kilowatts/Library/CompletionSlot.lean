import Kilowatts.Library.Run

/-!
Requests that one caller after the other hands to a driver. The driver's callback stores the status
of a request and then gives a binary semaphore, for which the caller waits, but not for ever. So the
callback of a request may come when the next caller is waiting already.
-/

/-- What the caller is about to do. -/
inductive SlotPhase where
  | free
  | draining
  | drained
  | ready
  | waiting (serial : Nat)
  | woken (serial : Nat)
deriving DecidableEq

/-- The status is reset, or one that was stored since. -/
def SlotPhase.isFresh : SlotPhase → Bool
  | .ready | .waiting _ | .woken _ => true
  | _ => false

/-- The request that the caller waits for. -/
def SlotPhase.current : SlotPhase → Option Nat
  | .waiting serial | .woken serial => some serial
  | _ => none

/-- `reported` and `returned` are what the driver said of the requests and what the callers made of
it. `none` stands for a request that was not waited for long enough. -/
structure CompletionSlot where
  phase : SlotPhase
  given : Bool
  status : Bool
  started : Nat
  inDriver : List Nat
  callback : Bool
  reported : List (Nat × Bool)
  returned : List (Nat × Option Bool)
deriving DecidableEq

inductive SlotEvent where
  | enter
  | drainOne
  | drainDone
  | reset
  | start
  | refuse
  | store (serial : Nat) (success : Bool)
  | give
  | wake
  | read
  | expire
deriving DecidableEq

namespace CompletionSlot

def empty : CompletionSlot := ⟨.free, false, false, 0, [], false, [], []⟩

section Steps

variable (slot : CompletionSlot)

def finish (serial : Nat) (outcome : Option Bool) : CompletionSlot :=
  { slot with phase := .free, returned := slot.returned ++ [(serial, outcome)] }

/-- The callback stores and gives in this order, for one request at a time. The caller finds the
semaphore empty before it starts its request. -/
def next : SlotEvent → Option CompletionSlot
  | .enter => if slot.phase = .free then some { slot with phase := .draining } else none
  | .drainOne => if slot.phase = .draining ∧ slot.given then some { slot with given := false } else none
  | .drainDone => if slot.phase = .draining ∧ !slot.given then some { slot with phase := .drained } else none
  | .reset => if slot.phase = .drained then some { slot with phase := .ready, status := false } else none
  | .start =>
    if slot.phase = .ready then
      some { slot with
        phase := .waiting slot.started
        started := slot.started + 1
        inDriver := slot.inDriver ++ [slot.started] }
    else none
  | .refuse => if slot.phase = .ready then some { slot with phase := .free } else none
  | .store serial success =>
    if serial ∈ slot.inDriver ∧ !slot.callback then
      some { slot with
        status := success
        inDriver := slot.inDriver.erase serial
        callback := true
        reported := slot.reported ++ [(serial, success)] }
    else none
  | .give => if slot.callback then some { slot with given := true, callback := false } else none
  | .wake =>
    match slot.phase with
    | .waiting serial => if slot.given then some { slot with phase := .woken serial, given := false } else none
    | _ => none
  | .read =>
    match slot.phase with
    | .woken serial => some (slot.finish serial (some slot.status))
    | _ => none
  | .expire =>
    match slot.phase with
    | .waiting serial => if !slot.given then some (slot.finish serial none) else none
    | _ => none

end Steps

/-- What one step can do. -/
inductive Moves (before : CompletionSlot) : SlotEvent → CompletionSlot → Prop where
  | entered (hphase : before.phase = .free) : Moves before .enter { before with phase := .draining }
  | drainedOne (hphase : before.phase = .draining) : Moves before .drainOne { before with given := false }
  | drained (hphase : before.phase = .draining) (hempty : before.given = false) :
      Moves before .drainDone { before with phase := .drained }
  | reset (hphase : before.phase = .drained) : Moves before .reset { before with phase := .ready, status := false }
  | started (hphase : before.phase = .ready) :
      Moves before .start { before with
        phase := .waiting before.started
        started := before.started + 1
        inDriver := before.inDriver ++ [before.started] }
  | refused (hphase : before.phase = .ready) : Moves before .refuse { before with phase := .free }
  | stored (serial : Nat) (success : Bool) (hserial : serial ∈ before.inDriver) (hcallback : before.callback = false) :
      Moves before (.store serial success) { before with
        status := success
        inDriver := before.inDriver.erase serial
        callback := true
        reported := before.reported ++ [(serial, success)] }
  | given (hcallback : before.callback = true) : Moves before .give { before with given := true, callback := false }
  | woken (serial : Nat) (hphase : before.phase = .waiting serial) (hgiven : before.given = true) :
      Moves before .wake { before with phase := .woken serial, given := false }
  | read (serial : Nat) (hphase : before.phase = .woken serial) :
      Moves before .read (before.finish serial (some before.status))
  | expired (serial : Nat) (hphase : before.phase = .waiting serial) :
      Moves before .expire (before.finish serial none)

section Moves

variable {before after : CompletionSlot} {event : SlotEvent}

theorem moves_of_next (hnext : before.next event = some after) : Moves before event after := by
  cases event with
  | enter =>
    simp only [next, Option.ite_none_right_eq_some, Option.some.injEq] at hnext
    exact hnext.2 ▸ .entered hnext.1
  | drainOne =>
    simp only [next, Option.ite_none_right_eq_some, Option.some.injEq] at hnext
    exact hnext.2 ▸ .drainedOne hnext.1.1
  | drainDone =>
    simp only [next, Option.ite_none_right_eq_some, Option.some.injEq, Bool.not_eq_true'] at hnext
    exact hnext.2 ▸ .drained hnext.1.1 hnext.1.2
  | reset =>
    simp only [next, Option.ite_none_right_eq_some, Option.some.injEq] at hnext
    exact hnext.2 ▸ .reset hnext.1
  | start =>
    simp only [next, Option.ite_none_right_eq_some, Option.some.injEq] at hnext
    exact hnext.2 ▸ .started hnext.1
  | refuse =>
    simp only [next, Option.ite_none_right_eq_some, Option.some.injEq] at hnext
    exact hnext.2 ▸ .refused hnext.1
  | store serial success =>
    simp only [next, Option.ite_none_right_eq_some, Option.some.injEq, Bool.not_eq_true'] at hnext
    exact hnext.2 ▸ .stored serial success hnext.1.1 hnext.1.2
  | give =>
    simp only [next, Option.ite_none_right_eq_some, Option.some.injEq] at hnext
    exact hnext.2 ▸ .given hnext.1
  | wake =>
    rw [next] at hnext
    split at hnext
    · rename_i serial hphase
      obtain ⟨hgiven, hafter⟩ := Option.ite_none_right_eq_some.mp hnext
      exact Option.some.inj hafter ▸ .woken serial hphase hgiven
    · cases hnext
  | read =>
    rw [next] at hnext
    split at hnext
    · rename_i serial hphase
      exact Option.some.inj hnext ▸ .read serial hphase
    · cases hnext
  | expire =>
    rw [next] at hnext
    split at hnext
    · rename_i serial hphase
      exact Option.some.inj (Option.ite_none_right_eq_some.mp hnext).2 ▸ .expired serial hphase
    · cases hnext

/-- A step that neither starts a request nor returns to the caller of one. -/
def IsInner : SlotEvent → Prop
  | .drainOne | .drainDone | .reset | .store _ _ | .give | .wake => True
  | _ => False

/-- Such a step leaves what the requests are told apart by. -/
theorem next_inner (hinner : IsInner event) (hnext : before.next event = some after) :
    after.phase.current = before.phase.current ∧ after.started = before.started ∧
      after.returned = before.returned := by
  cases moves_of_next hnext with
  | drainedOne hphase => exact ⟨rfl, rfl, rfl⟩
  | drained hphase hempty => exact ⟨hphase ▸ rfl, rfl, rfl⟩
  | reset hphase => exact ⟨hphase ▸ rfl, rfl, rfl⟩
  | stored serial success hserial hcallback => exact ⟨rfl, rfl, rfl⟩
  | given hcallback => exact ⟨rfl, rfl, rfl⟩
  | woken serial hphase hgiven => exact ⟨hphase ▸ rfl, rfl, rfl⟩
  | entered => exact hinner.elim
  | started => exact hinner.elim
  | refused => exact hinner.elim
  | read => exact hinner.elim
  | expired => exact hinner.elim

theorem returned_subset (hnext : before.next event = some after) : before.returned ⊆ after.returned := by
  cases moves_of_next hnext with
  | read serial hphase => exact List.subset_append_left ..
  | expired serial hphase => exact List.subset_append_left ..
  | _ => exact List.Subset.refl _

end Moves

section Successes

/-- The callers that were told of a success. -/
def delivered (slot : CompletionSlot) : Nat := slot.returned.countP fun entry => entry.2 = some true

def succeeded (slot : CompletionSlot) : Nat := slot.reported.countP Prod.snd

/-- A success that is stored and not returned yet. -/
def pending (slot : CompletionSlot) : Nat := if slot.phase.isFresh && slot.status then 1 else 0

variable {before after : CompletionSlot} {event : SlotEvent}

theorem succeeded_stored (slot : CompletionSlot) (serial : Nat) (success : Bool) :
    (slot.reported ++ [(serial, success)]).countP Prod.snd = slot.succeeded + if success then 1 else 0 := by
  rw [List.countP_append, List.countP_singleton, succeeded]

theorem delivered_finish (slot : CompletionSlot) (serial : Nat) (outcome : Option Bool) :
    (slot.finish serial outcome).delivered = slot.delivered + if outcome = some true then 1 else 0 := by
  rw [delivered, finish, List.countP_append, List.countP_singleton, delivered]
  congr 1
  by_cases houtcome : outcome = some true <;> simp [houtcome]

theorem pending_of_fresh {slot : CompletionSlot} (hfresh : slot.phase.isFresh = true) :
    slot.pending = if slot.status then 1 else 0 := by
  rw [pending, hfresh, Bool.true_and]

theorem pending_le (slot : CompletionSlot) : slot.pending ≤ if slot.status then 1 else 0 := by
  cases hfresh : slot.phase.isFresh
  · rw [pending, hfresh]
    exact Nat.zero_le _
  · exact Nat.le_of_eq (pending_of_fresh hfresh)

theorem pending_finish (slot : CompletionSlot) (serial : Nat) (outcome : Option Bool) :
    (slot.finish serial outcome).pending = 0 := rfl

theorem delivered_add_pending_next (hbefore : before.delivered + before.pending ≤ before.succeeded)
    (hnext : before.next event = some after) : after.delivered + after.pending ≤ after.succeeded := by
  have hdelivered : before.delivered ≤ before.succeeded := Nat.le_of_add_right_le hbefore
  cases moves_of_next hnext with
  | entered hphase => exact hdelivered
  | drainedOne hphase => exact hbefore
  | drained hphase => exact hdelivered
  | reset hphase => exact hdelivered
  | started hphase =>
    rw [pending_of_fresh (hphase ▸ rfl)] at hbefore
    exact hbefore
  | refused hphase => exact hdelivered
  | stored serial success hserial hcallback =>
    have hpending := pending_le { before with
      status := success
      inDriver := before.inDriver.erase serial
      callback := true
      reported := before.reported ++ [(serial, success)] }
    have hsucceeded := succeeded_stored before serial success
    exact Nat.le_trans (Nat.add_le_add hdelivered hpending) (Nat.le_of_eq hsucceeded.symm)
  | given hcallback => exact hbefore
  | woken serial hphase hgiven =>
    rw [pending_of_fresh (hphase ▸ rfl)] at hbefore
    exact hbefore
  | read serial hphase =>
    rw [pending_of_fresh (hphase ▸ rfl)] at hbefore
    rw [delivered_finish, pending_finish, Nat.add_zero]
    simp only [Option.some.injEq]
    exact hbefore
  | expired serial hphase =>
    rw [delivered_finish, pending_finish, if_neg (Option.some_ne_none _).symm]
    exact hdelivered

theorem delivered_next (hnext : before.next event = some after) :
    after.delivered = before.delivered + if event = .read ∧ before.status then 1 else 0 := by
  cases moves_of_next hnext with
  | read serial hphase => simp [delivered_finish]
  | expired serial hphase => simp [delivered_finish]
  | _ => simp [delivered]

/-- Whatever comes late: no success is returned twice. -/
theorem delivered_le_succeeded {events : List SlotEvent} {last : CompletionSlot}
    (hrun : Run (fun before event after => before.next event = some after) empty events last) :
    last.delivered ≤ last.succeeded := by
  have hlast : last.delivered + last.pending ≤ last.succeeded :=
    hrun.invariant (fun before event after hbefore hnext => delivered_add_pending_next hbefore hnext) (Nat.le_refl _)
  exact Nat.le_of_add_right_le hlast

end Successes

section Reports

/-- A caller that is about to start a request finds nothing left in the driver. -/
def Orderly (before : CompletionSlot) (event : SlotEvent) : Prop :=
  event = .drainDone → before.inDriver = [] ∧ before.callback = false

instance (before : CompletionSlot) (event : SlotEvent) : Decidable (before.Orderly event) :=
  inferInstanceAs (Decidable (event = .drainDone → before.inDriver = [] ∧ before.callback = false))

/-- What a caller knows in its phase. -/
def Known (slot : CompletionSlot) : SlotPhase → Prop
  | .free | .draining => True
  | .drained | .ready => slot.inDriver = [] ∧ slot.callback = false ∧ slot.given = false
  | .waiting serial =>
    (slot.inDriver = [serial] ∧ slot.callback = false ∧ slot.given = false) ∨
      (slot.inDriver = [] ∧ slot.given = !slot.callback ∧ (serial, slot.status) ∈ slot.reported)
  | .woken serial =>
    slot.inDriver = [] ∧ slot.callback = false ∧ (serial, slot.status) ∈ slot.reported

structure Matched (slot : CompletionSlot) : Prop where
  known : slot.Known slot.phase
  returned : ∀ serial success, (serial, some success) ∈ slot.returned → (serial, success) ∈ slot.reported

variable {before after : CompletionSlot} {event : SlotEvent}

theorem matched_empty : Matched empty where
  known := trivial
  returned _ _ hmem := absurd hmem List.not_mem_nil

theorem matched_finish {serial : Nat} {outcome : Option Bool} (hmatched : Matched before)
    (houtcome : ∀ success, outcome = some success → (serial, success) ∈ before.reported) :
    Matched (before.finish serial outcome) where
  known := trivial
  returned other success hmem := by
    obtain hold | hnew := List.mem_append.mp hmem
    · exact hmatched.returned other success hold
    · obtain ⟨rfl, hsuccess⟩ := Prod.mk.inj (List.mem_singleton.mp hnew)
      exact houtcome success hsuccess.symm

theorem matched_stored {serial : Nat} {success : Bool} (hmatched : Matched before) (hserial : serial ∈ before.inDriver) :
    Matched { before with
      status := success
      inDriver := before.inDriver.erase serial
      callback := true
      reported := before.reported ++ [(serial, success)] } := by
  refine ⟨?_, fun other found hmem => List.mem_append_left _ (hmatched.returned other found hmem)⟩
  have hknown := hmatched.known
  have hnonempty : before.inDriver ≠ [] := List.ne_nil_of_mem hserial
  change Known _ before.phase
  cases hphase : before.phase with
  | free => exact trivial
  | draining => exact trivial
  | drained =>
    rw [hphase] at hknown
    exact absurd hknown.1 hnonempty
  | ready =>
    rw [hphase] at hknown
    exact absurd hknown.1 hnonempty
  | waiting current =>
    rw [hphase] at hknown
    obtain ⟨hinDriver, -, hgiven⟩ | ⟨hinDriver, -⟩ := hknown
    · rw [hinDriver, List.mem_singleton] at hserial
      subst hserial
      refine .inr ⟨?_, hgiven, List.mem_append_right _ (List.mem_singleton_self _)⟩
      exact (congrArg (·.erase serial) hinDriver).trans (List.erase_cons_head ..)
    · exact absurd hinDriver hnonempty
  | woken current =>
    rw [hphase] at hknown
    exact absurd hknown.1 hnonempty

theorem matched_given (hmatched : Matched before) (hcallback : before.callback = true) :
    Matched { before with given := true, callback := false } := by
  refine ⟨?_, hmatched.returned⟩
  have hknown := hmatched.known
  change Known _ before.phase
  cases hphase : before.phase with
  | free => exact trivial
  | draining => exact trivial
  | drained =>
    rw [hphase] at hknown
    exact absurd (hknown.2.1.symm.trans hcallback) Bool.false_ne_true
  | ready =>
    rw [hphase] at hknown
    exact absurd (hknown.2.1.symm.trans hcallback) Bool.false_ne_true
  | waiting serial =>
    rw [hphase] at hknown
    obtain ⟨-, hnone, -⟩ | ⟨hinDriver, -, hreported⟩ := hknown
    · exact absurd (hnone.symm.trans hcallback) Bool.false_ne_true
    · exact .inr ⟨hinDriver, rfl, hreported⟩
  | woken serial =>
    rw [hphase] at hknown
    exact absurd (hknown.2.1.symm.trans hcallback) Bool.false_ne_true

theorem matched_next (horderly : before.Orderly event) (hmatched : Matched before)
    (hnext : before.next event = some after) : Matched after := by
  have hknown := hmatched.known
  cases moves_of_next hnext with
  | entered hphase => exact ⟨trivial, hmatched.returned⟩
  | drainedOne hphase =>
    refine ⟨?_, hmatched.returned⟩
    change Known _ before.phase
    rw [hphase]
    exact trivial
  | drained hphase hempty =>
    obtain ⟨hinDriver, hcallback⟩ := horderly rfl
    exact ⟨⟨hinDriver, hcallback, hempty⟩, hmatched.returned⟩
  | reset hphase =>
    rw [hphase] at hknown
    exact ⟨hknown, hmatched.returned⟩
  | started hphase =>
    rw [hphase] at hknown
    obtain ⟨hinDriver, hcallback, hgiven⟩ := hknown
    exact ⟨.inl ⟨congrArg (· ++ [before.started]) hinDriver, hcallback, hgiven⟩, hmatched.returned⟩
  | refused hphase => exact ⟨trivial, hmatched.returned⟩
  | stored serial success hserial hcallback => exact matched_stored hmatched hserial
  | given hcallback => exact matched_given hmatched hcallback
  | woken serial hphase hgiven =>
    rw [hphase] at hknown
    obtain ⟨-, -, hnone⟩ | ⟨hinDriver, hcallback, hreported⟩ := hknown
    · exact absurd (hnone.symm.trans hgiven) Bool.false_ne_true
    · rw [hgiven, eq_comm, Bool.not_eq_true'] at hcallback
      exact ⟨⟨hinDriver, hcallback, hreported⟩, hmatched.returned⟩
  | read serial hphase =>
    rw [hphase] at hknown
    refine matched_finish hmatched fun success hsuccess => ?_
    exact Option.some.inj hsuccess ▸ hknown.2.2
  | expired serial hphase =>
    exact matched_finish hmatched fun _ hnone => absurd hnone (Option.some_ne_none _).symm

/-- The requests are told apart by their numbers. -/
structure Numbered (slot : CompletionSlot) : Prop where
  nodup : (slot.reported.map Prod.fst ++ slot.inDriver).Nodup
  below : ∀ serial ∈ slot.reported.map Prod.fst ++ slot.inDriver, serial < slot.started

theorem numbered_empty : Numbered empty where
  nodup := List.nodup_nil
  below _ hmem := absurd hmem List.not_mem_nil

theorem numbered_next (hnumbered : Numbered before) (hnext : before.next event = some after) : Numbered after := by
  obtain ⟨hnodup, hbelow⟩ := hnumbered
  cases moves_of_next hnext with
  | started hphase =>
    constructor
    · rw [← List.append_assoc]
      refine (List.perm_append_singleton before.started _).nodup_iff.mpr ?_
      refine List.nodup_cons.mpr ⟨fun hmem => ?_, hnodup⟩
      exact Nat.lt_irrefl _ (hbelow _ hmem)
    · intro serial hmem
      rw [← List.append_assoc] at hmem
      obtain hold | hnew := List.mem_append.mp hmem
      · exact Nat.lt_succ_of_lt (hbelow serial hold)
      · exact List.mem_singleton.mp hnew ▸ Nat.lt_succ_self _
  | stored serial success hserial hcallback =>
    have hperm : ((before.reported ++ [(serial, success)]).map Prod.fst ++ before.inDriver.erase serial).Perm
        (before.reported.map Prod.fst ++ before.inDriver) := by
      rw [List.map_append, List.append_assoc]
      exact List.Perm.append_left _ (List.perm_cons_erase hserial).symm
    exact ⟨hperm.nodup_iff.mpr hnodup, fun other hmem => hbelow other (hperm.mem_iff.mp hmem)⟩
  | _ => exact ⟨hnodup, hbelow⟩

/-- As long as no request is left in the driver when the next one starts, a caller is told what the
driver reported of its own request, and the driver reports once. -/
theorem returned_reported {events : List SlotEvent} {last : CompletionSlot}
    (hrun : Run (fun before event after => before.next event = some after ∧ before.Orderly event) empty events last) :
    (last.reported.map Prod.fst).Nodup ∧
      ∀ serial success, (serial, some success) ∈ last.returned → (serial, success) ∈ last.reported := by
  have hnumbered : Numbered last := by
    refine hrun.invariant (fun before event after hbefore hstep => ?_) numbered_empty
    exact numbered_next hbefore hstep.1
  have hmatched : Matched last := by
    refine hrun.invariant (fun before event after hbefore hstep => ?_) matched_empty
    exact matched_next hstep.2 hbefore hstep.1
  exact ⟨(List.nodup_append.mp hnumbered.nodup).1, hmatched.returned⟩

end Reports

end CompletionSlot
