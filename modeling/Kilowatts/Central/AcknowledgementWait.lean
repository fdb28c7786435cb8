import Kilowatts.Central.RelayDispatch
import Kilowatts.Library.DeadlinePolling

namespace kilowatts.AcknowledgementWait

open RelayDispatch DeadlinePolling

/-! `RelayDispatch` says what a call of `dispatchRelayTargetAndWait` does, and here is when.
The ticks of a call are counted from the moment when its command has been sent. -/

/-- `CONFIG_FREERTOS_HZ`. -/
def TICK_RATE_HZ : Nat := 100

/-- The macro of FreeRTOS, which rounds down. -/
def pdMS_TO_TICKS (milliseconds : Nat) : Nat := milliseconds * TICK_RATE_HZ / 1000

def RELAY_COMMAND_ACK_TIMEOUT_MILLISECONDS : Nat := 3000

/-- How long a dispatch waits for its acknowledgement. -/
def timeoutTicks : Nat := pdMS_TO_TICKS RELAY_COMMAND_ACK_TIMEOUT_MILLISECONDS

/-- The pause between two looks at the pending commands. -/
def pollingTicks : Nat := pdMS_TO_TICKS 20

/-- How long each look may wait for `stateMutex`. -/
def lockTicks : Nat := pdMS_TO_TICKS 100

/-- One attempt of the loop to take `stateMutex`. -/
structure LockAttempt where
  wait : Nat
  taken : Bool
  inTime : wait ≤ lockTicks

/-- An acknowledgement for which `handleRelayAcknowledgement` obtains `stateMutex`. -/
structure Arrival where
  originMac : MacAddress
  acknowledgement : RelayCommandAcknowledgementPacket

/-- The acknowledgements are handled in the order in which they arrive. -/
def receive (arrivals : List Arrival) (state : DispatchState) : DispatchState :=
  arrivals.foldl (fun state arrival => state.handleRelayAcknowledgement arrival.originMac arrival.acknowledgement) state

/-- The state after the acknowledgements of a tick and of all ticks before it. -/
def stateAt (arrivals : Nat → List Arrival) (waiting : DispatchState) : Nat → DispatchState
  | 0 => receive (arrivals 0) waiting
  | tick + 1 => receive (arrivals (tick + 1)) (stateAt arrivals waiting tick)

/-- `xTaskGetTickCount() < deadline`, where both are numbers of 32 bits. -/
def beforeDeadline (start : UInt32) (elapsed : Nat) : Bool :=
  start + UInt32.ofNat elapsed < start + UInt32.ofNat timeoutTicks

/-- The loop of the call. It finds out that its command is not pending any more. -/
def waitLoop (start commandId : UInt32) (attempts : Nat → LockAttempt) (arrivals : Nat → List Arrival)
    (waiting : DispatchState) (fuel : Nat) : Option Outcome :=
  poll (beforeDeadline start) (fun index => (attempts index).wait)
    (fun index tick =>
      let pending := !(attempts index).taken ||
        (stateAt arrivals waiting tick).relayCommandDispatcher.isPending commandId
      !pending)
    pollingTicks fuel 0 0

/-- The acknowledgement is about the command, the relay and the state of the call. -/
def Arrival.answers (target : RelayTarget) (commandId : UInt32) (arrival : Arrival) : Bool :=
  arrival.acknowledgement.commandId = commandId &&
    matchesAcknowledgement arrival.originMac arrival.acknowledgement (target.pending commandId)

/-- The command with the id, if it is still pending, is that of the call. -/
structure Awaits (target : RelayTarget) (commandId : UInt32) (state : DispatchState) : Prop where
  idsNodup : state.relayCommandDispatcher.IdsNodup
  pending : ∀ pending ∈ state.relayCommandDispatcher.findPendingCommand commandId, pending = target.pending commandId

section Arrivals

variable {target : RelayTarget} {commandId : UInt32} {state waiting : DispatchState}

/-- An acknowledgement that is consumed removes its own command and no other. -/
theorem handleRelayAcknowledgement_find (hnodup : state.relayCommandDispatcher.IdsNodup) (originMac : MacAddress)
    (acknowledgement : RelayCommandAcknowledgementPacket) (commandId : UInt32) :
    (state.handleRelayAcknowledgement originMac acknowledgement).relayCommandDispatcher.findPendingCommand commandId =
      if state.consumes originMac acknowledgement = true ∧ commandId = acknowledgement.commandId then none
      else state.relayCommandDispatcher.findPendingCommand commandId := by
  unfold DispatchState.handleRelayAcknowledgement
  by_cases hconsumes : state.consumes originMac acknowledgement = true
  · rw [if_pos hconsumes]
    simp only [RelayCommandDispatcher.completeCommand_find hnodup, hconsumes, true_and]
  · rw [if_neg hconsumes, if_neg fun hand => hconsumes hand.1]

theorem handleRelayAcknowledgement_idsNodup (hnodup : state.relayCommandDispatcher.IdsNodup) (originMac : MacAddress)
    (acknowledgement : RelayCommandAcknowledgementPacket) :
    (state.handleRelayAcknowledgement originMac acknowledgement).relayCommandDispatcher.IdsNodup := by
  unfold DispatchState.handleRelayAcknowledgement
  split
  · exact RelayCommandDispatcher.completeCommand_idsNodup hnodup _ _
  · exact hnodup

/-- Needs only that the ids are distinct, which `Awaits` has. -/
theorem Awaits.handleRelayAcknowledgement (hawaits : Awaits target commandId state) (originMac : MacAddress)
    (acknowledgement : RelayCommandAcknowledgementPacket) :
    Awaits target commandId (state.handleRelayAcknowledgement originMac acknowledgement) := by
  refine ⟨handleRelayAcknowledgement_idsNodup hawaits.idsNodup originMac acknowledgement, fun pending hpending => ?_⟩
  rw [handleRelayAcknowledgement_find hawaits.idsNodup] at hpending
  split at hpending
  · cases hpending
  · exact hawaits.pending pending hpending

/-- The answer to a command ends its wait, whether it tells of success or not. -/
theorem Awaits.answered (hawaits : Awaits target commandId state) {arrival : Arrival}
    (hanswers : arrival.answers target commandId = true) :
    (state.handleRelayAcknowledgement arrival.originMac arrival.acknowledgement).relayCommandDispatcher.isPending
      commandId = false := by
  rw [Arrival.answers, Bool.and_eq_true, decide_eq_true_eq] at hanswers
  obtain ⟨hid, hmatches⟩ := hanswers
  rw [← RelayCommandDispatcher.findPendingCommand_eq_none_iff, handleRelayAcknowledgement_find hawaits.idsNodup]
  cases hfind : state.relayCommandDispatcher.findPendingCommand commandId with
  | none => rw [ite_self]
  | some pending =>
    have hpending := hawaits.pending pending hfind
    refine if_pos ⟨?_, hid.symm⟩
    rw [DispatchState.consumes, hid, hfind, Option.any_some, hpending, hmatches]

theorem Awaits.receive (hawaits : Awaits target commandId state) (arrivals : List Arrival) :
    Awaits target commandId (receive arrivals state) := by
  induction arrivals generalizing state with
  | nil => exact hawaits
  | cons arrival arrivals ih => exact ih (hawaits.handleRelayAcknowledgement _ _)

theorem Awaits.stateAt (hawaits : Awaits target commandId waiting) (arrivals : Nat → List Arrival) (tick : Nat) :
    Awaits target commandId (stateAt arrivals waiting tick) := by
  induction tick with
  | zero => exact hawaits.receive _
  | succ tick ih => exact ih.receive _

end Arrivals

section Simulation

variable {position : Nat} {target : RelayTarget} {commandId start : UInt32} {state waiting : DispatchState}
  {attempts : Nat → LockAttempt} {arrivals : Nat → List Arrival}

/-- The call at the position is in its loop. -/
def Waits (position : Nat) (target : RelayTarget) (commandId : UInt32) (state : DispatchState) : Prop :=
  ∃ acknowledged, state.loops[position]? = some ⟨target, .waiting commandId, acknowledged⟩

/-- Nothing that arrives moves the call on; it has to look for itself. -/
theorem Waits.receive (hwaits : Waits position target commandId state) (arrivals : List Arrival) :
    Waits position target commandId (receive arrivals state) := by
  induction arrivals generalizing state with
  | nil => exact hwaits
  | cons arrival arrivals ih =>
    have hnext : Waits position target commandId
        (state.handleRelayAcknowledgement arrival.originMac arrival.acknowledgement) := by
      obtain ⟨acknowledged, hloop⟩ := hwaits
      unfold DispatchState.handleRelayAcknowledgement
      split
      · exact ⟨_, by rw [List.getElem?_map, hloop]; rfl⟩
      · exact ⟨acknowledged, hloop⟩
    exact ih hnext

theorem Waits.stateAt (hwaits : Waits position target commandId waiting) (arrivals : Nat → List Arrival) (tick : Nat) :
    Waits position target commandId (stateAt arrivals waiting tick) := by
  induction tick with
  | zero => exact hwaits.receive _
  | succ tick ih => exact ih.receive _

/-- The steps of `RelayDispatch`. -/
def Next (before : DispatchState) (event : DispatchEvent) (after : DispatchState) : Prop :=
  before.next event = some after

theorem receive_run (arrivals : List Arrival) (state : DispatchState) :
    ∃ events, Run Next state events (receive arrivals state) := by
  induction arrivals generalizing state with
  | nil => exact ⟨[], .nil state⟩
  | cons arrival arrivals ih =>
    obtain ⟨events, hrun⟩ := ih (state.handleRelayAcknowledgement arrival.originMac arrival.acknowledgement)
    have hfirst : Next state (.acknowledge arrival.originMac arrival.acknowledgement true)
        (state.handleRelayAcknowledgement arrival.originMac arrival.acknowledgement) := rfl
    exact ⟨_, (Run.single hfirst).append hrun⟩

/-- What the calls see at a later tick, they reach by steps from what they see at an earlier one. -/
theorem stateAt_run {tick later : Nat} (hlater : tick ≤ later) :
    ∃ events, Run Next (stateAt arrivals waiting tick) events (stateAt arrivals waiting later) := by
  induction later, hlater using Nat.le_induction with
  | base => exact ⟨[], .nil _⟩
  | succ later _ ih =>
    obtain ⟨events, hrun⟩ := ih
    obtain ⟨received, hreceived⟩ := receive_run (arrivals (later + 1)) (stateAt arrivals waiting later)
    exact ⟨_, hrun.append hreceived⟩

/-- The phase in which a loop leaves its call. -/
def phaseOf (commandId : UInt32) (outcome : Outcome) : DispatchPhase :=
  if outcome.found then .settled commandId else .timedOut commandId

/-- Every loop is a run of the calls and acknowledgements of `RelayDispatch`. -/
theorem waitLoop_run (hwaits : Waits position target commandId waiting) {fuel : Nat} {outcome : Outcome}
    (hloop : waitLoop start commandId attempts arrivals waiting fuel = some outcome) :
    ∃ events, Run Next waiting events
      ((stateAt arrivals waiting outcome.elapsed).enter position (phaseOf commandId outcome)) := by
  have hrounds : ∀ fuel index elapsed,
      poll (beforeDeadline start) (fun index => (attempts index).wait)
        (fun index tick => !(!(attempts index).taken ||
          (stateAt arrivals waiting tick).relayCommandDispatcher.isPending commandId))
        pollingTicks fuel index elapsed = some outcome →
      ∃ events, Run Next (stateAt arrivals waiting elapsed) events
        ((stateAt arrivals waiting outcome.elapsed).enter position (phaseOf commandId outcome)) := by
    intro fuel
    induction fuel with
    | zero =>
      intro index elapsed hnone
      cases hnone
    | succ fuel ih =>
      intro index elapsed hpoll
      rw [poll] at hpoll
      split at hpoll
      · obtain ⟨received, hreceived⟩ := @stateAt_run waiting arrivals _ _
          (Nat.le_add_right elapsed (attempts index).wait)
        obtain ⟨acknowledged, hposition⟩ := hwaits.stateAt arrivals (elapsed + (attempts index).wait)
        split at hpoll
        · rename_i hdone
          rw [Bool.not_eq_true'] at hdone
          obtain rfl := Option.some.inj hpoll
          have hsettled : Next (stateAt arrivals waiting (elapsed + (attempts index).wait))
              (.poll position (attempts index).taken)
              ((stateAt arrivals waiting (elapsed + (attempts index).wait)).enter position (.settled commandId)) := by
            rw [Next, DispatchState.next, hposition]
            dsimp only
            rw [hdone, if_neg Bool.false_ne_true]
          exact ⟨_, hreceived.snoc hsettled⟩
        · rename_i hpending
          rw [Bool.not_eq_true', Bool.not_eq_false] at hpending
          have hstays : Next (stateAt arrivals waiting (elapsed + (attempts index).wait))
              (.poll position (attempts index).taken)
              (stateAt arrivals waiting (elapsed + (attempts index).wait)) := by
            rw [Next, DispatchState.next, hposition]
            dsimp only
            rw [hpending, if_pos rfl]
          obtain ⟨paused, hpaused⟩ := @stateAt_run waiting arrivals _ _
            (Nat.le_add_right (elapsed + (attempts index).wait) pollingTicks)
          obtain ⟨events, hrun⟩ := ih _ _ hpoll
          exact ⟨_, ((hreceived.snoc hstays).append hpaused).append hrun⟩
      · obtain rfl := Option.some.inj hpoll
        obtain ⟨acknowledged, hposition⟩ := hwaits.stateAt arrivals elapsed
        have hover : Next (stateAt arrivals waiting elapsed) (.deadline position)
            ((stateAt arrivals waiting elapsed).enter position (.timedOut commandId)) := by
          rw [Next, DispatchState.next, hposition]
        exact ⟨_, .single hover⟩
  obtain ⟨received, hreceived⟩ := receive_run (arrivals 0) waiting
  obtain ⟨events, hrun⟩ := hrounds fuel 0 0 hloop
  exact ⟨_, hreceived.append hrun⟩

end Simulation

section Timing

variable {start : UInt32}

def hallMac : MacAddress := Vector.replicate 6 2

end Timing

end kilowatts.AcknowledgementWait
