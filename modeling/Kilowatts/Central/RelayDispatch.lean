import Kilowatts.Library.Run
import Kilowatts.RelayManager.PendingCommands

namespace kilowatts

/-- What a Node tells of a relay command. -/
structure RelayCommandAcknowledgementPacket where
  relayPin : UInt8
  commandId : UInt32
  requestedState : UInt8
  success : UInt8

namespace RelayDispatch

/-- `RelayCommandState::ON`. -/
def RELAY_COMMAND_STATE_ON : UInt8 := 1

/-- Where a call of `dispatchRelayTargetAndWait` for a remote relay is, with the id of its
command. -/
inductive DispatchPhase where
  | starting
  | sending (commandId : UInt32)
  | unsent (commandId : UInt32)
  | waiting (commandId : UInt32)
  | settled (commandId : UInt32)
  | timedOut (commandId : UInt32)
  | returned (success : Bool)
deriving DecidableEq

namespace DispatchPhase

/-- The command that the call has begun and not returned from. -/
def commandId : DispatchPhase → Option UInt32
  | .starting | .returned _ => none
  | .sending commandId | .unsent commandId | .waiting commandId | .settled commandId | .timedOut commandId =>
    some commandId

/-- The command whose outcome the call still wants to know. -/
def watched : DispatchPhase → Option UInt32
  | .sending commandId | .waiting commandId | .settled commandId => some commandId
  | _ => none

/-- The command whose acknowledgement the call still waits for. -/
def awaited : DispatchPhase → Option UInt32
  | .sending commandId | .waiting commandId => some commandId
  | _ => none

end DispatchPhase

/-- `acknowledged` tells that an acknowledgement of success was consumed that is about the
command, the relay and the state of this call, before the call stopped waiting. -/
structure DispatchLoop where
  target : RelayTarget
  phase : DispatchPhase
  acknowledged : Bool

/-- The globals under `stateMutex`, and every call so far. -/
structure DispatchState where
  relayCommandDispatcher : RelayCommandDispatcher
  relayCommandErrorCount : UInt32
  loops : List DispatchLoop

/-- One step of a call, or an acknowledgement. `lockTaken` tells whether `stateMutex` was
obtained in time. -/
inductive DispatchEvent where
  | call (target : RelayTarget)
  | begin (index : Nat) (lockTaken routeFound : Bool)
  | send (index : Nat) (sent : Bool)
  | completeUnsent (index : Nat) (lockTaken : Bool)
  | poll (index : Nat) (lockTaken : Bool)
  | readOutcome (index : Nat) (lockTaken : Bool)
  | deadline (index : Nat)
  | completeTimedOut (index : Nat) (lockTaken : Bool)
  | acknowledge (originMac : MacAddress) (acknowledgement : RelayCommandAcknowledgementPacket) (lockTaken : Bool)

/-- The last step of a call whose command was begun. -/
def DispatchEvent.concludes : DispatchEvent → Bool
  | .completeUnsent _ _ | .readOutcome _ _ | .completeTimedOut _ _ => true
  | _ => false

/-- The acknowledgement is about the relay and the state of this command. -/
def matchesAcknowledgement (originMac : MacAddress) (acknowledgement : RelayCommandAcknowledgementPacket)
    (pending : PendingCommand) : Bool :=
  pending.nodeMacAddress = originMac && pending.relayPin = acknowledgement.relayPin &&
    pending.desiredOn == (acknowledgement.requestedState = RELAY_COMMAND_STATE_ON)

/-- The acknowledgement reports the success of what this call waits for. -/
def DispatchLoop.hears (loop : DispatchLoop) (originMac : MacAddress)
    (acknowledgement : RelayCommandAcknowledgementPacket) : Bool :=
  loop.phase.awaited = some acknowledgement.commandId &&
    matchesAcknowledgement originMac acknowledgement (loop.target.pending acknowledgement.commandId) &&
    acknowledgement.success != 0

namespace DispatchState

variable (state : DispatchState)

/-- The acknowledgement is about a pending command, which `handleRelayAcknowledgement` completes. -/
def consumes (originMac : MacAddress) (acknowledgement : RelayCommandAcknowledgementPacket) : Bool :=
  (state.relayCommandDispatcher.findPendingCommand acknowledgement.commandId).any
    (matchesAcknowledgement originMac acknowledgement)

/-- An acknowledgement of anything that is not pending does nothing. -/
def handleRelayAcknowledgement (originMac : MacAddress) (acknowledgement : RelayCommandAcknowledgementPacket) :
    DispatchState :=
  if state.consumes originMac acknowledgement then
    let success := acknowledgement.success != 0
    { relayCommandDispatcher :=
        (state.relayCommandDispatcher.completeCommand acknowledgement.commandId success).1
      relayCommandErrorCount :=
        if success then state.relayCommandErrorCount else state.relayCommandErrorCount + 1
      loops := state.loops.map fun loop =>
        { loop with acknowledged := loop.acknowledged || loop.hears originMac acknowledgement } }
  else state

/-- The call moves on; nothing else changes. -/
def enter (index : Nat) (phase : DispatchPhase) : DispatchState :=
  { state with loops := state.loops.modify index ({ · with phase }) }

/-- The bodies of the locked sections that complete a command as failed. -/
def fail (commandId : UInt32) (lockTaken countsAlways : Bool) : DispatchState :=
  if lockTaken then
    let (relayCommandDispatcher, completed) := state.relayCommandDispatcher.completeCommand commandId false
    { state with
      relayCommandDispatcher
      relayCommandErrorCount :=
        if completed || countsAlways then state.relayCommandErrorCount + 1 else state.relayCommandErrorCount }
  else state

/-- The body of `dispatchRelayTargetAndWait` in pieces, cut wherever the lock is given back. -/
def next : DispatchEvent → Option DispatchState
  | .call target => some { state with loops := state.loops ++ [⟨target, .starting, false⟩] }
  | .begin index lockTaken routeFound =>
    match state.loops[index]? with
    | some ⟨target, .starting, _⟩ =>
      if !lockTaken then some (state.enter index (.returned false))
      else
        let (relayCommandDispatcher, commandId) :=
          if routeFound then state.relayCommandDispatcher.beginCommand target
          else (state.relayCommandDispatcher, 0)
        if !routeFound || commandId = 0 then
          some ({ state with
            relayCommandDispatcher
            relayCommandErrorCount := state.relayCommandErrorCount + 1 }.enter index (.returned false))
        else some ({ state with relayCommandDispatcher }.enter index (.sending commandId))
    | _ => none
  | .send index sent =>
    match state.loops[index]? with
    | some ⟨_, .sending commandId, _⟩ =>
      some (state.enter index (if sent then .waiting commandId else .unsent commandId))
    | _ => none
  | .completeUnsent index lockTaken =>
    match state.loops[index]? with
    | some ⟨_, .unsent commandId, _⟩ => some ((state.fail commandId lockTaken true).enter index (.returned false))
    | _ => none
  | .poll index lockTaken =>
    match state.loops[index]? with
    | some ⟨_, .waiting commandId, _⟩ =>
      let pending := !lockTaken || state.relayCommandDispatcher.isPending commandId
      some (if pending then state else state.enter index (.settled commandId))
    | _ => none
  | .readOutcome index lockTaken =>
    match state.loops[index]? with
    | some ⟨_, .settled commandId, _⟩ =>
      some (state.enter index
        (.returned (lockTaken && state.relayCommandDispatcher.wasCommandSuccessful commandId)))
    | _ => none
  | .deadline index =>
    match state.loops[index]? with
    | some ⟨_, .waiting commandId, _⟩ => some (state.enter index (.timedOut commandId))
    | _ => none
  | .completeTimedOut index lockTaken =>
    match state.loops[index]? with
    | some ⟨_, .timedOut commandId, _⟩ => some ((state.fail commandId lockTaken false).enter index (.returned false))
    | _ => none
  | .acknowledge originMac acknowledgement lockTaken =>
    some (if lockTaken then state.handleRelayAcknowledgement originMac acknowledgement else state)

/-- No call has been made. -/
def boot : DispatchState := ⟨.initial, 0, []⟩

/-- Neither a pending command nor a call that has not returned has the id. -/
structure Unused (commandId : UInt32) : Prop where
  notPending : state.relayCommandDispatcher.isPending commandId = false
  noCall : ∀ loop ∈ state.loops, loop.phase.commandId ≠ some commandId

/-- Every call that has returned has told whether its command was acknowledged. -/
def Correct : Prop :=
  ∀ loop ∈ state.loops, ∀ success, loop.phase = .returned success → (success = true ↔ loop.acknowledged = true)

end DispatchState

section Steps

variable (before : DispatchState) (event : DispatchEvent) (after : DispatchState)

/-- Every outcome that is returned is that of the own command. -/
structure OutcomeStep : Prop where
  next : before.next event = some after
  correct : after.Correct

/-- The id of a new command is in use nowhere, as it is until the counter has come round. -/
def FreshStep : Prop :=
  ∀ index, event = .begin index true true → before.Unused before.relayCommandDispatcher.nextCommandId

/-- A call whose command was acknowledged finds that out before it gives up, gets the lock for
the outcome, and no other command is completed before it has read it. -/
structure Undisturbed : Prop where
  unsent : ∀ index lockTaken loop, event = .completeUnsent index lockTaken → before.loops[index]? = some loop →
    loop.acknowledged = false
  timedOut : ∀ index lockTaken loop, event = .completeTimedOut index lockTaken → before.loops[index]? = some loop →
    loop.acknowledged = false
  read : ∀ index lockTaken loop commandId, event = .readOutcome index lockTaken → before.loops[index]? = some loop →
    loop.phase = .settled commandId → loop.acknowledged = true →
      lockTaken = true ∧ before.relayCommandDispatcher.lastCompletedCommandId = commandId

/-- A step with a fresh id that meets the condition. -/
structure UndisturbedStep : Prop where
  next : before.next event = some after
  fresh : FreshStep before event
  undisturbed : Undisturbed before event

end Steps

/-- As long as the command is pending, its entry is that of the call and it was not
acknowledged; later, the slot tells the outcome if it is about the command at all. -/
structure Tracked (dispatcher : RelayCommandDispatcher) (target : RelayTarget) (acknowledged : Bool)
    (commandId : UInt32) : Prop where
  pending : ∀ pending, dispatcher.findPendingCommand commandId = some pending →
    pending = target.pending commandId ∧ acknowledged = false
  completed : dispatcher.isPending commandId = false → dispatcher.lastCompletedCommandId = commandId →
    dispatcher.lastCompletedCommandSuccess = acknowledged

/-- What is known of one call: whose command it watches, and whether it was acknowledged. -/
structure LoopSound (dispatcher : RelayCommandDispatcher) (loop : DispatchLoop) : Prop where
  starting : loop.phase = .starting → loop.acknowledged = false
  tracked : ∀ commandId, loop.phase.watched = some commandId →
    Tracked dispatcher loop.target loop.acknowledged commandId
  settled : ∀ commandId, loop.phase = .settled commandId → dispatcher.isPending commandId = false

/-- Ids are distinct, and every call is sound. -/
structure Sound (state : DispatchState) : Prop where
  idsNodup : state.relayCommandDispatcher.IdsNodup
  loops : ∀ loop ∈ state.loops, LoopSound state.relayCommandDispatcher loop

section Dispatcher

variable {dispatcher : RelayCommandDispatcher} {target : RelayTarget} {acknowledged : Bool} {commandId : UInt32}

/-- A command of another call does not matter; its id must be new. -/
theorem Tracked.beginCommand (htracked : Tracked dispatcher target acknowledged commandId) {begun : RelayTarget}
    (hunused : dispatcher.isPending dispatcher.nextCommandId = false) (hother : commandId ≠ dispatcher.nextCommandId) :
    Tracked (dispatcher.beginCommand begun).1 target acknowledged commandId := by
  have hfind : (dispatcher.beginCommand begun).1.findPendingCommand commandId = dispatcher.findPendingCommand commandId := by
    rw [RelayCommandDispatcher.beginCommand_find hunused, if_neg hother]
  refine ⟨fun pending hpending => htracked.pending pending (hfind ▸ hpending), ?_⟩
  rw [RelayCommandDispatcher.isPending, hfind]
  exact htracked.completed

/-- A command that was just begun is pending for its call. -/
theorem tracked_begun (hunused : dispatcher.isPending dispatcher.nextCommandId = false)
    (hacknowledged : acknowledged = false) :
    Tracked (dispatcher.beginCommand target).1 target acknowledged (dispatcher.beginCommand target).2 := by
  have hfind : (dispatcher.beginCommand target).1.findPendingCommand dispatcher.nextCommandId =
      some (target.pending dispatcher.nextCommandId) := by
    rw [RelayCommandDispatcher.beginCommand_find hunused, if_pos rfl]
  refine ⟨fun pending hpending => ⟨Option.some.inj (hpending.symm.trans hfind), hacknowledged⟩, fun hnone => ?_⟩
  exact nomatch hfind.symm.trans (RelayCommandDispatcher.findPendingCommand_eq_none_iff.mpr hnone)

/-- A completion tells the call that watches the command, and no other call. -/
theorem Tracked.completeCommand (htracked : Tracked dispatcher target acknowledged commandId)
    (hnodup : dispatcher.IdsNodup) {completed : UInt32} (hpending : dispatcher.isPending completed = true)
    (success : Bool) :
    Tracked (dispatcher.completeCommand completed success).1 target
      (acknowledged || (decide (commandId = completed) && success)) commandId := by
  obtain ⟨hid, hlast⟩ := RelayCommandDispatcher.completeCommand_last hpending success
  have hfind := RelayCommandDispatcher.completeCommand_find hnodup completed commandId success
  by_cases hsame : commandId = completed
  · subst hsame
    rw [if_pos rfl] at hfind
    refine ⟨fun pending hstill => (nomatch hfind.symm.trans hstill), fun _ _ => ?_⟩
    obtain ⟨pending, hfound⟩ := Option.isSome_iff_exists.mp hpending
    rw [hlast, (htracked.pending pending hfound).2, Bool.false_or, decide_eq_true rfl, Bool.true_and]
  · rw [if_neg hsame] at hfind
    rw [decide_eq_false hsame, Bool.false_and, Bool.or_false]
    refine ⟨fun pending hstill => htracked.pending pending (hfind ▸ hstill), fun _ hother => ?_⟩
    exact absurd (hother.symm.trans hid) hsame

end Dispatcher

section Invariant

variable {state : DispatchState}

theorem awaited_of_watched {phase : DispatchPhase} {commandId : UInt32} (hawaited : phase.awaited = some commandId) :
    phase.watched = some commandId := by
  cases phase with
  | sending | waiting => exact hawaited
  | _ => cases hawaited

theorem commandId_of_watched {phase : DispatchPhase} {commandId : UInt32} (hwatched : phase.watched = some commandId) :
    phase.commandId = some commandId := by
  cases phase with
  | sending | waiting | settled => exact hwatched
  | _ => cases hwatched

/-- A call that watches a command waits for it, or has seen that it is no longer pending. -/
theorem awaited_or_settled {phase : DispatchPhase} {commandId : UInt32} (hwatched : phase.watched = some commandId) :
    phase.awaited = some commandId ∨ phase = .settled commandId := by
  cases phase with
  | sending | waiting => exact .inl hwatched
  | settled => exact .inr (congrArg _ (Option.some.inj hwatched))
  | _ => cases hwatched

theorem Sound.count (hsound : Sound state) (relayCommandErrorCount : UInt32) :
    Sound { state with relayCommandErrorCount } :=
  ⟨hsound.idsNodup, hsound.loops⟩

/-- A call that moves on is sound if it is where it goes. -/
theorem Sound.enter (hsound : Sound state) {index : Nat} {phase : DispatchPhase}
    (hphase : ∀ loop, state.loops[index]? = some loop →
      LoopSound state.relayCommandDispatcher { loop with phase }) : Sound (state.enter index phase) := by
  refine ⟨hsound.idsNodup, fun loop hloop => ?_⟩
  obtain ⟨position, hposition⟩ := List.mem_iff_getElem?.mp hloop
  rw [DispatchState.enter, List.getElem?_modify] at hposition
  obtain ⟨old, hold, rfl⟩ := Option.map_eq_some_iff.mp hposition
  by_cases hindex : index = position
  · rw [if_pos hindex]
    exact hphase old (hindex ▸ hold)
  · rw [if_neg hindex]
    exact hsound.loops old (List.mem_of_getElem? hold)

/-- A command that is completed as failed was not acknowledged. -/
theorem Sound.fail (hsound : Sound state) (commandId : UInt32) (lockTaken countsAlways : Bool) :
    Sound (state.fail commandId lockTaken countsAlways) := by
  cases lockTaken with
  | false => exact hsound
  | true =>
    cases hpending : state.relayCommandDispatcher.isPending commandId with
    | false =>
      simp only [DispatchState.fail, if_true, RelayCommandDispatcher.completeCommand_of_not_isPending hpending]
      exact hsound.count _
    | true =>
      refine ⟨RelayCommandDispatcher.completeCommand_idsNodup hsound.idsNodup commandId false, fun loop hloop => ?_⟩
      obtain ⟨hstarting, htracked, hsettled⟩ := hsound.loops loop hloop
      refine ⟨hstarting, fun watched hwatched => ?_, fun settled hphase => ?_⟩
      · have hkept := (htracked watched hwatched).completeCommand hsound.idsNodup hpending false
        rwa [Bool.and_false, Bool.or_false] at hkept
      · exact RelayCommandDispatcher.completeCommand_not_isPending hsound.idsNodup commandId false
          (hsettled settled hphase)

/-- A call hears an acknowledgement that is consumed just if it watches the command, and if
success is reported. -/
theorem hears_of_consumes {loop : DispatchLoop} (hloop : LoopSound state.relayCommandDispatcher loop)
    {originMac : MacAddress} {acknowledgement : RelayCommandAcknowledgementPacket}
    (hconsumes : state.consumes originMac acknowledgement = true) {commandId : UInt32}
    (hwatched : loop.phase.watched = some commandId) :
    loop.hears originMac acknowledgement =
      (decide (commandId = acknowledgement.commandId) && acknowledgement.success != 0) := by
  obtain ⟨pending, hpending, hmatches⟩ := (Option.any_eq_true _ _).mp hconsumes
  by_cases hsame : commandId = acknowledgement.commandId
  · subst hsame
    obtain rfl := ((hloop.tracked _ hwatched).pending pending hpending).1
    obtain hawaited | hsettled := awaited_or_settled hwatched
    · rw [DispatchLoop.hears, hawaited, hmatches, decide_eq_true rfl, decide_eq_true rfl, Bool.true_and]
    · have hnone := RelayCommandDispatcher.findPendingCommand_eq_none_iff.mpr (hloop.settled _ hsettled)
      exact nomatch hnone.symm.trans hpending
  · have hother : loop.phase.awaited ≠ some acknowledgement.commandId := by
      intro hawaited
      exact hsame (Option.some.inj (hwatched.symm.trans (awaited_of_watched hawaited)))
    rw [DispatchLoop.hears, decide_eq_false hother, decide_eq_false hsame, Bool.false_and, Bool.false_and]

theorem hears_of_awaited_none {loop : DispatchLoop} (hawaited : loop.phase.awaited = none) (originMac : MacAddress)
    (acknowledgement : RelayCommandAcknowledgementPacket) : loop.hears originMac acknowledgement = false := by
  rw [DispatchLoop.hears, hawaited, decide_eq_false (by simp), Bool.false_and, Bool.false_and]

/-- An acknowledgement tells just the call whose command it is about. -/
theorem Sound.acknowledge (hsound : Sound state) (originMac : MacAddress)
    (acknowledgement : RelayCommandAcknowledgementPacket) :
    Sound (state.handleRelayAcknowledgement originMac acknowledgement) := by
  unfold DispatchState.handleRelayAcknowledgement
  split
  · next hconsumes =>
    refine ⟨RelayCommandDispatcher.completeCommand_idsNodup hsound.idsNodup _ _, fun after hafter => ?_⟩
    obtain ⟨loop, hloop, rfl⟩ := List.mem_map.mp hafter
    have hloop := hsound.loops loop hloop
    have hpending : state.relayCommandDispatcher.isPending acknowledgement.commandId = true := by
      obtain ⟨pending, hpending, -⟩ := (Option.any_eq_true _ _).mp hconsumes
      exact Option.isSome_iff_exists.mpr ⟨pending, hpending⟩
    refine ⟨fun hphase => ?_, fun watched hwatched => ?_, fun settled hphase => ?_⟩
    · change (loop.acknowledged || loop.hears originMac acknowledgement) = false
      change loop.phase = .starting at hphase
      rw [hloop.starting hphase, hears_of_awaited_none (by rw [hphase]; rfl)]
      rfl
    · change Tracked _ loop.target (loop.acknowledged || loop.hears originMac acknowledgement) watched
      rw [hears_of_consumes hloop hconsumes hwatched]
      exact (hloop.tracked watched hwatched).completeCommand hsound.idsNodup hpending _
    · exact RelayCommandDispatcher.completeCommand_not_isPending hsound.idsNodup _ _ (hloop.settled settled hphase)
  · exact hsound

/-- Beginning a command leaves the calls alone that have begun theirs. -/
theorem Sound.beginCommand (hsound : Sound state) (hunused : state.Unused state.relayCommandDispatcher.nextCommandId)
    (target : RelayTarget) :
    Sound { state with relayCommandDispatcher := (state.relayCommandDispatcher.beginCommand target).1 } := by
  refine ⟨RelayCommandDispatcher.beginCommand_idsNodup hsound.idsNodup hunused.notPending, fun loop hloop => ?_⟩
  obtain ⟨hstarting, htracked, hsettled⟩ := hsound.loops loop hloop
  have hother : ∀ commandId, loop.phase.watched = some commandId →
      commandId ≠ state.relayCommandDispatcher.nextCommandId := by
    rintro commandId hwatched rfl
    exact hunused.noCall loop hloop (commandId_of_watched hwatched)
  refine ⟨hstarting, fun commandId hwatched => ?_, fun commandId hphase => ?_⟩
  · exact (htracked commandId hwatched).beginCommand hunused.notPending (hother commandId hwatched)
  · have hnone := RelayCommandDispatcher.findPendingCommand_eq_none_iff.mpr (hsettled commandId hphase)
    rw [← RelayCommandDispatcher.findPendingCommand_eq_none_iff,
      RelayCommandDispatcher.beginCommand_find hunused.notPending, if_neg (hother commandId (by rw [hphase]; rfl))]
    exact hnone

end Invariant

section Step

variable {before after : DispatchState} {event : DispatchEvent}

/-- A call that has given up its command has nothing to keep. -/
theorem loopSound_of_unwatched {dispatcher : RelayCommandDispatcher} {loop : DispatchLoop}
    (hstarting : loop.phase ≠ .starting) (hwatched : loop.phase.watched = none) : LoopSound dispatcher loop := by
  refine ⟨fun hphase => absurd hphase hstarting, fun commandId hsome => ?_, fun commandId hphase => ?_⟩
  · exact nomatch hwatched.symm.trans hsome
  · rw [hphase] at hwatched
    cases hwatched

theorem loopSound_returned (dispatcher : RelayCommandDispatcher) (loop : DispatchLoop) (success : Bool) :
    LoopSound dispatcher { loop with phase := .returned success } :=
  loopSound_of_unwatched (fun hphase => (nomatch hphase)) rfl

/-- What each step leaves, and where the call stood that took it. -/
inductive Moves (before : DispatchState) : DispatchEvent → DispatchState → Prop where
  | called (target : RelayTarget) :
      Moves before (.call target) { before with loops := before.loops ++ [⟨target, .starting, false⟩] }
  | refused (index : Nat) (lockTaken routeFound : Bool) (loop : DispatchLoop)
      (hindex : before.loops[index]? = some loop) (hphase : loop.phase = .starting)
      (relayCommandDispatcher : RelayCommandDispatcher) (relayCommandErrorCount : UInt32)
      (hdispatcher : relayCommandDispatcher = before.relayCommandDispatcher ∨
        (lockTaken = true ∧ routeFound = true ∧
          relayCommandDispatcher = (before.relayCommandDispatcher.beginCommand loop.target).1)) :
      Moves before (.begin index lockTaken routeFound)
        (DispatchState.enter { before with relayCommandDispatcher, relayCommandErrorCount } index (.returned false))
  | begun (index : Nat) (loop : DispatchLoop) (hindex : before.loops[index]? = some loop)
      (hphase : loop.phase = .starting) :
      Moves before (.begin index true true)
        (DispatchState.enter
          { before with relayCommandDispatcher := (before.relayCommandDispatcher.beginCommand loop.target).1 }
          index (.sending (before.relayCommandDispatcher.beginCommand loop.target).2))
  | sent (index : Nat) (sent : Bool) (loop : DispatchLoop) (commandId : UInt32)
      (hindex : before.loops[index]? = some loop) (hphase : loop.phase = .sending commandId) :
      Moves before (.send index sent) (before.enter index (if sent then .waiting commandId else .unsent commandId))
  | failedUnsent (index : Nat) (lockTaken : Bool) (loop : DispatchLoop) (commandId : UInt32)
      (hindex : before.loops[index]? = some loop) :
      Moves before (.completeUnsent index lockTaken)
        ((before.fail commandId lockTaken true).enter index (.returned false))
  | waited (index : Nat) (lockTaken : Bool) : Moves before (.poll index lockTaken) before
  | settled (index : Nat) (lockTaken : Bool) (loop : DispatchLoop) (commandId : UInt32)
      (hindex : before.loops[index]? = some loop) (hphase : loop.phase = .waiting commandId)
      (hsettled : before.relayCommandDispatcher.isPending commandId = false) :
      Moves before (.poll index lockTaken) (before.enter index (.settled commandId))
  | read (index : Nat) (lockTaken : Bool) (loop : DispatchLoop) (commandId : UInt32)
      (hindex : before.loops[index]? = some loop) (hphase : loop.phase = .settled commandId) :
      Moves before (.readOutcome index lockTaken)
        (before.enter index (.returned (lockTaken && before.relayCommandDispatcher.wasCommandSuccessful commandId)))
  | expired (index : Nat) (loop : DispatchLoop) (commandId : UInt32) (hindex : before.loops[index]? = some loop) :
      Moves before (.deadline index) (before.enter index (.timedOut commandId))
  | failedTimedOut (index : Nat) (lockTaken : Bool) (loop : DispatchLoop) (commandId : UInt32)
      (hindex : before.loops[index]? = some loop) :
      Moves before (.completeTimedOut index lockTaken)
        ((before.fail commandId lockTaken false).enter index (.returned false))
  | acknowledged (originMac : MacAddress) (acknowledgement : RelayCommandAcknowledgementPacket) :
      Moves before (.acknowledge originMac acknowledgement true)
        (before.handleRelayAcknowledgement originMac acknowledgement)
  | unheard (originMac : MacAddress) (acknowledgement : RelayCommandAcknowledgementPacket) :
      Moves before (.acknowledge originMac acknowledgement false) before

/-- Every step is one of `Moves`. -/
theorem moves_of_next (hnext : before.next event = some after) : Moves before event after := by
  cases event with
  | call target =>
    obtain rfl := Option.some.inj hnext
    exact .called target
  | begin index lockTaken routeFound =>
    simp only [DispatchState.next] at hnext
    split at hnext
    · next target acknowledged hindex =>
      cases lockTaken with
      | false =>
        obtain rfl := Option.some.inj hnext
        exact .refused index false routeFound _ hindex rfl _ _ (.inl rfl)
      | true =>
        cases routeFound with
        | false =>
          simp only [Bool.not_true, Bool.false_eq_true, if_false, Bool.not_false, Bool.true_or, if_true,
            Option.some.injEq] at hnext
          subst hnext
          exact .refused index true false _ hindex rfl _ _ (.inl rfl)
        | true =>
          simp only [Bool.not_true, Bool.false_eq_true, if_false, if_true, Bool.false_or] at hnext
          split at hnext
          · obtain rfl := Option.some.inj hnext
            exact .refused index true true _ hindex rfl _ _ (.inr ⟨rfl, rfl, rfl⟩)
          · obtain rfl := Option.some.inj hnext
            exact .begun index _ hindex rfl
    · cases hnext
  | send index sent =>
    simp only [DispatchState.next] at hnext
    split at hnext
    · next target commandId acknowledged hindex =>
      obtain rfl := Option.some.inj hnext
      exact .sent index sent _ commandId hindex rfl
    · cases hnext
  | completeUnsent index lockTaken =>
    simp only [DispatchState.next] at hnext
    split at hnext
    · next target commandId acknowledged hindex =>
      obtain rfl := Option.some.inj hnext
      exact .failedUnsent index lockTaken _ commandId hindex
    · cases hnext
  | poll index lockTaken =>
    simp only [DispatchState.next] at hnext
    split at hnext
    · next target commandId acknowledged hindex =>
      obtain rfl := Option.some.inj hnext
      split
      · exact .waited index lockTaken
      · next hpending =>
        have hsettled := (Bool.or_eq_false_iff.mp (Bool.eq_false_of_not_eq_true hpending)).2
        exact .settled index lockTaken _ commandId hindex rfl hsettled
    · cases hnext
  | readOutcome index lockTaken =>
    simp only [DispatchState.next] at hnext
    split at hnext
    · next target commandId acknowledged hindex =>
      obtain rfl := Option.some.inj hnext
      exact .read index lockTaken _ commandId hindex rfl
    · cases hnext
  | deadline index =>
    simp only [DispatchState.next] at hnext
    split at hnext
    · next target commandId acknowledged hindex =>
      obtain rfl := Option.some.inj hnext
      exact .expired index _ commandId hindex
    · cases hnext
  | completeTimedOut index lockTaken =>
    simp only [DispatchState.next] at hnext
    split at hnext
    · next target commandId acknowledged hindex =>
      obtain rfl := Option.some.inj hnext
      exact .failedTimedOut index lockTaken _ commandId hindex
    · cases hnext
  | acknowledge originMac acknowledgement lockTaken =>
    obtain rfl := Option.some.inj hnext
    cases lockTaken with
    | true => exact .acknowledged originMac acknowledgement
    | false => exact .unheard originMac acknowledgement

/-- Needs the id of a new command to be fresh. -/
theorem Sound.step (hsound : Sound before) (hfresh : FreshStep before event) (hnext : before.next event = some after) :
    Sound after := by
  cases moves_of_next hnext with
  | called target =>
    refine ⟨hsound.idsNodup, fun loop hloop => ?_⟩
    obtain hold | hnew := List.mem_append.mp hloop
    · exact hsound.loops loop hold
    · obtain rfl := List.mem_singleton.mp hnew
      exact ⟨fun _ => rfl, fun _ hwatched => (nomatch hwatched), fun _ hphase => (nomatch hphase)⟩
  | refused index lockTaken routeFound loop hindex hphase dispatcher errorCount hdispatcher =>
    refine Sound.enter ?_ fun loop _ => loopSound_returned _ loop false
    obtain rfl | ⟨rfl, rfl, rfl⟩ := hdispatcher
    · exact hsound.count _
    · exact (hsound.beginCommand (hfresh index rfl) loop.target).count _
  | begun index loop hindex hphase =>
    have hunused := hfresh index rfl
    refine (hsound.beginCommand hunused loop.target).enter fun other hother => ?_
    obtain rfl := Option.some.inj (hindex.symm.trans hother)
    refine ⟨fun hphase => (nomatch hphase), fun commandId hwatched => ?_, fun _ hphase => (nomatch hphase)⟩
    obtain rfl := Option.some.inj hwatched
    exact tracked_begun hunused.notPending ((hsound.loops _ (List.mem_of_getElem? hindex)).starting hphase)
  | sent index sent loop commandId hindex hphase =>
    have htracked := (hsound.loops _ (List.mem_of_getElem? hindex)).tracked
    refine hsound.enter fun other hother => ?_
    obtain rfl := Option.some.inj (hindex.symm.trans hother)
    cases sent with
    | false => exact loopSound_of_unwatched (fun hphase => (nomatch hphase)) rfl
    | true =>
      refine ⟨fun hphase => (nomatch hphase), fun watched hwatched => ?_, fun _ hphase => (nomatch hphase)⟩
      exact htracked watched (by rw [hphase]; exact hwatched)
  | settled index lockTaken loop commandId hindex hphase hsettled =>
    have htracked := (hsound.loops _ (List.mem_of_getElem? hindex)).tracked
    refine hsound.enter fun other hother => ?_
    obtain rfl := Option.some.inj (hindex.symm.trans hother)
    refine ⟨fun hphase => (nomatch hphase), fun watched hwatched => ?_, fun other hother => ?_⟩
    · exact htracked watched (by rw [hphase]; exact hwatched)
    · obtain rfl := DispatchPhase.settled.inj hother
      exact hsettled
  | failedUnsent index lockTaken loop commandId =>
    exact (hsound.fail commandId lockTaken true).enter fun loop _ => loopSound_returned _ loop false
  | failedTimedOut index lockTaken loop commandId =>
    exact (hsound.fail commandId lockTaken false).enter fun loop _ => loopSound_returned _ loop false
  | read => exact hsound.enter fun loop _ => loopSound_returned _ loop _
  | expired => exact hsound.enter fun loop _ => loopSound_of_unwatched (fun hphase => (nomatch hphase)) rfl
  | acknowledged originMac acknowledgement => exact hsound.acknowledge originMac acknowledgement
  | waited => exact hsound
  | unheard => exact hsound

/-- What a call answers is right just if it is right for the call that moves. -/
theorem correct_enter_iff {state : DispatchState} (hcorrect : state.Correct) {index : Nat} {phase : DispatchPhase}
    {loop : DispatchLoop} (hindex : state.loops[index]? = some loop) :
    (state.enter index phase).Correct ↔
      ∀ success, phase = .returned success → (success = true ↔ loop.acknowledged = true) := by
  constructor
  · intro hafter success hphase
    refine hafter { loop with phase } (List.mem_of_getElem? (i := index) ?_) success hphase
    rw [DispatchState.enter, List.getElem?_modify, hindex]
    simp
  · intro hreturned after hafter success hphase
    obtain ⟨position, hposition⟩ := List.mem_iff_getElem?.mp hafter
    rw [DispatchState.enter, List.getElem?_modify] at hposition
    obtain ⟨old, hold, rfl⟩ := Option.map_eq_some_iff.mp hposition
    by_cases hsame : index = position
    · obtain rfl := Option.some.inj (hindex.symm.trans (hsame ▸ hold))
      rw [if_pos hsame] at hphase ⊢
      exact hreturned success hphase
    · rw [if_neg hsame] at hphase ⊢
      exact hcorrect old (List.mem_of_getElem? hold) success hphase

/-- Acknowledgements do not change what has been returned. -/
theorem correct_acknowledge {state : DispatchState} (hcorrect : state.Correct) (originMac : MacAddress)
    (acknowledgement : RelayCommandAcknowledgementPacket) :
    (state.handleRelayAcknowledgement originMac acknowledgement).Correct := by
  unfold DispatchState.handleRelayAcknowledgement
  split
  · intro after hafter success hphase
    obtain ⟨loop, hloop, rfl⟩ := List.mem_map.mp hafter
    change loop.phase = .returned success at hphase
    have hdeaf : loop.hears originMac acknowledgement = false := hears_of_awaited_none (by rw [hphase]; rfl) _ _
    change success = true ↔ (loop.acknowledged || loop.hears originMac acknowledgement) = true
    rw [hdeaf, Bool.or_false]
    exact hcorrect loop hloop success hphase
  · exact hcorrect

/-- The outcome that is read is right just if it is there to be read. -/
theorem outcome_iff (hsound : Sound before) {index : Nat} {loop : DispatchLoop} {commandId : UInt32}
    (hindex : before.loops[index]? = some loop) (hsettled : loop.phase = .settled commandId) (lockTaken : Bool) :
    ((lockTaken && before.relayCommandDispatcher.wasCommandSuccessful commandId) = true ↔ loop.acknowledged = true) ↔
      (loop.acknowledged = true →
        lockTaken = true ∧ before.relayCommandDispatcher.lastCompletedCommandId = commandId) := by
  have hloop := hsound.loops loop (List.mem_of_getElem? hindex)
  have htold := (hloop.tracked commandId (by rw [hsettled]; rfl)).completed (hloop.settled commandId hsettled)
  rw [Bool.and_eq_true, RelayCommandDispatcher.wasCommandSuccessful_iff]
  constructor
  · intro hright hacknowledged
    obtain ⟨htaken, hlast, -⟩ := hright.mpr hacknowledged
    exact ⟨htaken, hlast.symm⟩
  · intro hthere
    constructor
    · rintro ⟨-, hlast, hsuccess⟩
      exact (htold hlast.symm).symm.trans hsuccess
    · intro hacknowledged
      obtain ⟨htaken, hlast⟩ := hthere hacknowledged
      exact ⟨htaken, hlast.symm, (htold hlast).trans hacknowledged⟩

/-- Only a last step can go wrong. -/
theorem undisturbed_of_not_concludes (hevent : event.concludes = false) : Undisturbed before event := by
  refine ⟨?_, ?_, ?_⟩
  · rintro index lockTaken loop rfl
    cases hevent
  · rintro index lockTaken loop rfl
    cases hevent
  · rintro index lockTaken loop commandId rfl
    cases hevent

/-- The answer of a call that gives up is right just if its command was not acknowledged. -/
theorem correct_fail_iff {state : DispatchState} (hcorrect : state.Correct) {index : Nat} {loop : DispatchLoop}
    (hindex : state.loops[index]? = some loop) (commandId : UInt32) (lockTaken countsAlways : Bool) :
    ((state.fail commandId lockTaken countsAlways).enter index (.returned false)).Correct ↔
      loop.acknowledged = false := by
  have hloops : (state.fail commandId lockTaken countsAlways).loops = state.loops := by
    unfold DispatchState.fail
    split
    · rfl
    · rfl
  have hkept : (state.fail commandId lockTaken countsAlways).Correct := by
    rw [DispatchState.Correct, hloops]
    exact hcorrect
  rw [correct_enter_iff hkept (hloops ▸ hindex)]
  constructor
  · intro hright
    exact Bool.eq_false_iff.mpr fun hacknowledged => (nomatch (hright false rfl).mpr hacknowledged)
  · rintro hdeaf success hphase
    obtain rfl := DispatchPhase.returned.inj hphase
    rw [hdeaf]

/-- From a sound and correct state, one step stays correct exactly if it is undisturbed. -/
theorem correct_iff (hsound : Sound before) (hcorrect : before.Correct) (hnext : before.next event = some after) :
    after.Correct ↔ Undisturbed before event := by
  cases moves_of_next hnext with
  | called target =>
    refine iff_of_true (fun loop hloop success hphase => ?_) (undisturbed_of_not_concludes rfl)
    obtain hold | hnew := List.mem_append.mp hloop
    · exact hcorrect loop hold success hphase
    · obtain rfl := List.mem_singleton.mp hnew
      cases hphase
  | refused index lockTaken routeFound loop hindex hphase dispatcher errorCount =>
    refine iff_of_true ?_ (undisturbed_of_not_concludes rfl)
    have hdeaf := (hsound.loops _ (List.mem_of_getElem? hindex)).starting hphase
    refine (correct_enter_iff ?_ hindex).mpr fun success hreturned => ?_
    · exact hcorrect
    · rw [← DispatchPhase.returned.inj hreturned, hdeaf]
  | begun index loop hindex hphase =>
    refine iff_of_true ?_ (undisturbed_of_not_concludes rfl)
    refine (correct_enter_iff ?_ hindex).mpr fun success hreturned => (nomatch hreturned)
    exact hcorrect
  | sent index sent loop commandId hindex hphase =>
    refine iff_of_true ?_ (undisturbed_of_not_concludes rfl)
    refine (correct_enter_iff hcorrect hindex).mpr fun success hreturned => ?_
    cases sent with
    | true => cases hreturned
    | false => cases hreturned
  | settled index lockTaken loop commandId hindex =>
    refine iff_of_true ?_ (undisturbed_of_not_concludes rfl)
    exact (correct_enter_iff hcorrect hindex).mpr fun success hreturned => (nomatch hreturned)
  | expired index loop commandId hindex =>
    refine iff_of_true ?_ (undisturbed_of_not_concludes rfl)
    exact (correct_enter_iff hcorrect hindex).mpr fun success hreturned => (nomatch hreturned)
  | failedUnsent index lockTaken loop commandId hindex =>
    rw [correct_fail_iff hcorrect hindex]
    constructor
    · intro hdeaf
      refine ⟨?_, fun _ _ _ hevent => (nomatch hevent), fun _ _ _ _ hevent => (nomatch hevent)⟩
      rintro other taken called hevent hcalled
      obtain ⟨rfl, rfl⟩ := DispatchEvent.completeUnsent.inj hevent
      exact Option.some.inj (hindex.symm.trans hcalled) ▸ hdeaf
    · intro hundisturbed
      exact hundisturbed.unsent index lockTaken _ rfl hindex
  | failedTimedOut index lockTaken loop commandId hindex =>
    rw [correct_fail_iff hcorrect hindex]
    constructor
    · intro hdeaf
      refine ⟨fun _ _ _ hevent => (nomatch hevent), ?_, fun _ _ _ _ hevent => (nomatch hevent)⟩
      rintro other taken called hevent hcalled
      obtain ⟨rfl, rfl⟩ := DispatchEvent.completeTimedOut.inj hevent
      exact Option.some.inj (hindex.symm.trans hcalled) ▸ hdeaf
    · intro hundisturbed
      exact hundisturbed.timedOut index lockTaken _ rfl hindex
  | read index lockTaken loop commandId hindex hsettled =>
    have hiff := outcome_iff hsound hindex hsettled lockTaken
    rw [correct_enter_iff hcorrect hindex]
    constructor
    · intro hright
      refine ⟨fun _ _ _ hevent => (nomatch hevent), fun _ _ _ hevent => (nomatch hevent), ?_⟩
      rintro other taken called settled hevent hcalled hphase
      obtain ⟨rfl, rfl⟩ := DispatchEvent.readOutcome.inj hevent
      obtain rfl := Option.some.inj (hindex.symm.trans hcalled)
      obtain rfl := DispatchPhase.settled.inj (hsettled.symm.trans hphase)
      exact hiff.mp (hright _ rfl)
    · rintro hundisturbed success hphase
      rw [← DispatchPhase.returned.inj hphase]
      exact hiff.mpr (hundisturbed.read index lockTaken _ commandId rfl hindex hsettled)
  | acknowledged originMac acknowledgement =>
    exact iff_of_true (correct_acknowledge hcorrect originMac acknowledgement) (undisturbed_of_not_concludes rfl)
  | waited => exact iff_of_true hcorrect (undisturbed_of_not_concludes rfl)
  | unheard => exact iff_of_true hcorrect (undisturbed_of_not_concludes rfl)

end Step

/-- Over every interleaving of calls, acknowledgements and failed lock attempts: if no call is
disturbed, as `UndisturbedStep` asks, then a call returns true just if its own command was
acknowledged before it stopped waiting. As long as ids are fresh, that is so only then. -/
theorem dispatch_outcome (events : List DispatchEvent) (last : DispatchState) :
    (Run UndisturbedStep .boot events last → Run OutcomeStep .boot events last) ∧
    (Run (fun before event after => OutcomeStep before event after ∧ FreshStep before event) .boot events last →
      Run UndisturbedStep .boot events last) := by
  have hboot : Sound .boot ∧ DispatchState.boot.Correct :=
    ⟨⟨List.nodup_nil, fun loop hloop => (nomatch hloop)⟩, fun loop hloop => (nomatch hloop)⟩
  have hundisturbed : ∀ before event after, (Sound before ∧ before.Correct) → UndisturbedStep before event after →
      OutcomeStep before event after := by
    rintro before event after ⟨hsound, hcorrect⟩ hstep
    exact ⟨hstep.next, (correct_iff hsound hcorrect hstep.next).mpr hstep.undisturbed⟩
  constructor
  · intro hrun
    refine hrun.mono (fun before event after hbefore hstep => ?_) hundisturbed hboot
    exact ⟨hbefore.1.step hstep.fresh hstep.next, (hundisturbed before event after hbefore hstep).correct⟩
  · intro hrun
    have hpreserved : ∀ before event after, (Sound before ∧ before.Correct) →
        (OutcomeStep before event after ∧ FreshStep before event) → Sound after ∧ after.Correct :=
      fun before event after hbefore hstep => ⟨hbefore.1.step hstep.2 hstep.1.next, hstep.1.correct⟩
    refine hrun.mono hpreserved (fun before event after hbefore hstep => ?_) hboot
    exact ⟨hstep.1.next, hstep.2, (correct_iff hbefore.1 hbefore.2 hstep.1.next).mp hstep.1.correct⟩

section Overtaken

/-- A relay of the Smart Node is to be switched ON. -/
def fanTarget (relayPin : UInt8) : RelayTarget := ⟨Vector.replicate 6 2, relayPin, true⟩

/-- The Node has switched the relay ON. -/
def fanAcknowledged (relayPin : UInt8) (commandId : UInt32) : DispatchEvent :=
  .acknowledge (Vector.replicate 6 2) ⟨relayPin, commandId, RELAY_COMMAND_STATE_ON, 1⟩ true

/-- The condition of `UndisturbedStep`, evaluated before the step is taken. -/
def undisturbedNext (before : DispatchState) (event : DispatchEvent) : Option DispatchState :=
  let commandId := before.relayCommandDispatcher.nextCommandId
  let undisturbed : Bool :=
    match event with
    | .begin _ true true =>
      !before.relayCommandDispatcher.isPending commandId &&
        before.loops.all fun loop => loop.phase.commandId ≠ some commandId
    | .completeUnsent index _ | .completeTimedOut index _ => before.loops[index]?.all fun loop => !loop.acknowledged
    | .readOutcome index lockTaken =>
      before.loops[index]?.all fun loop => !loop.acknowledged ||
        lockTaken && loop.phase = .settled before.relayCommandDispatcher.lastCompletedCommandId
    | _ => true
  if undisturbed then before.next event else none

theorem undisturbedStep_of_undisturbedNext (before : DispatchState) (event : DispatchEvent) (after : DispatchState)
    (hnext : undisturbedNext before event = some after) : UndisturbedStep before event after := by
  obtain ⟨hundisturbed, hafter⟩ := Option.ite_none_right_eq_some.mp hnext
  refine ⟨hafter, ?_, ?_, ?_, ?_⟩
  · rintro index rfl
    simp only [Bool.and_eq_true, Bool.not_eq_true', List.all_eq_true, decide_eq_true_eq] at hundisturbed
    exact ⟨hundisturbed.1, hundisturbed.2⟩
  · rintro index lockTaken loop rfl hloop
    simpa [hloop] using hundisturbed
  · rintro index lockTaken loop rfl hloop
    simpa [hloop] using hundisturbed
  · rintro index lockTaken loop commandId rfl hloop hphase hacknowledged
    simp only [hloop, Option.all_some, hacknowledged, Bool.not_true, Bool.false_or, Bool.and_eq_true,
      decide_eq_true_eq] at hundisturbed
    exact ⟨hundisturbed.1, DispatchPhase.settled.inj (hundisturbed.2.symm.trans hphase)⟩

/-- Two tasks switch one relay each, and the commands are acknowledged in the other order. A third
command is never answered. -/
def interleaved : List DispatchEvent :=
  [.call (fanTarget 4), .begin 0 true true, .send 0 true, .call (fanTarget 5), .begin 1 true true, .send 1 true,
    fanAcknowledged 5 2, .poll 0 true, .poll 1 true, .readOutcome 1 true, fanAcknowledged 4 1, .poll 0 true,
    .readOutcome 0 true, .call (fanTarget 6), .begin 2 true true, .send 2 true, .poll 2 true, .deadline 2,
    .completeTimedOut 2 true]

/-- The two calls answer true, the third one false. -/
theorem dispatch_outcome_interleaved :
    ∃ last, Run UndisturbedStep .boot interleaved last ∧ Run OutcomeStep .boot interleaved last ∧
      last.loops.map (fun loop => (loop.phase, loop.acknowledged)) =
        [(.returned true, true), (.returned true, true), (.returned false, false)] := by
  have hends : (interleaved.foldlM undisturbedNext .boot).any (fun (last : DispatchState) =>
      decide (last.loops.map (fun loop => (loop.phase, loop.acknowledged)) =
        [(.returned true, true), (.returned true, true), (.returned false, false)])) = true := by decide +kernel
  obtain ⟨last, hlast, hloops⟩ := (Option.any_eq_true _ _).mp hends
  have hrun : Run UndisturbedStep .boot interleaved last := .of_foldlM undisturbedStep_of_undisturbedNext hlast
  exact ⟨last, hrun, (dispatch_outcome interleaved last).1 hrun, of_decide_eq_true hloops⟩

/-- Two tasks switch one relay each, and both are acknowledged. The second acknowledgement comes
between the two locks of the first call. -/
def overtaken : List DispatchEvent :=
  [.call (fanTarget 4), .begin 0 true true, .send 0 true, .call (fanTarget 5), .begin 1 true true, .send 1 true,
    fanAcknowledged 4 1, .poll 0 true, fanAcknowledged 5 2]

/-- One task alone, whose command is acknowledged after it has looked for the last time. -/
def late : List DispatchEvent :=
  [.call (fanTarget 4), .begin 0 true true, .send 0 true, .poll 0 true, fanAcknowledged 4 1, .deadline 0]

/-- A run cannot end with a call that answers false for an acknowledged command. -/
theorem not_outcome_of_eval {events : List DispatchEvent} {event : DispatchEvent}
    (heval : ((events.foldlM DispatchState.next .boot).bind fun before => before.next event).any (fun last =>
      last.loops.any fun loop => decide (loop.phase = .returned false) && loop.acknowledged) = true) :
    ¬∃ last, Run OutcomeStep .boot (events ++ [event]) last := by
  rintro ⟨last, hrun⟩
  obtain ⟨ended, hended, hwrong⟩ := (Option.any_eq_true _ _).mp heval
  obtain ⟨before, hbefore, hnext⟩ := Option.bind_eq_some_iff.mp hended
  obtain ⟨hlast, hcorrect⟩ := hrun.step_of_foldlM (fun _ _ _ hstep => hstep.next) hbefore
  obtain rfl := Option.some.inj (hnext.symm.trans hlast)
  obtain ⟨loop, hloop, hreturned⟩ := List.any_eq_true.mp hwrong
  rw [Bool.and_eq_true, decide_eq_true_eq] at hreturned
  exact nomatch (hcorrect loop hloop false hreturned.1).mpr hreturned.2

/-- Either call returns false for a command that was acknowledged. -/
theorem dispatch_outcome_lost :
    ((overtaken ++ [DispatchEvent.readOutcome 0 true]).foldlM DispatchState.next .boot).isSome = true ∧
      (¬∃ last, Run OutcomeStep .boot (overtaken ++ [.readOutcome 0 true]) last) ∧
    ((late ++ [DispatchEvent.completeTimedOut 0 true]).foldlM DispatchState.next .boot).isSome = true ∧
      ¬∃ last, Run OutcomeStep .boot (late ++ [.completeTimedOut 0 true]) last :=
  ⟨by decide +kernel, not_outcome_of_eval (by decide +kernel), by decide +kernel,
    not_outcome_of_eval (by decide +kernel)⟩

end Overtaken

end RelayDispatch

end kilowatts
