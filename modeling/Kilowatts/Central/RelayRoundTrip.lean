import Kilowatts.Smart.RelayCommandTasks

namespace kilowatts.RelayRoundTrip

open RelayDispatch
open RelayTasks (packetCommand)
open WireFormat (RawReceivedPacket)

/-- A relay command that a call of `dispatchRelayTargetAndWait` has put on the air. -/
structure SentCommand where
  index : Nat
  target : RelayTarget
  commandId : UInt32
deriving DecidableEq

/-- `RelayCommandState::OFF`. -/
def RELAY_COMMAND_STATE_OFF : UInt8 := 0

/-- What `sendTo` is given for a command. -/
def SentCommand.packet (sent : SentCommand) : RelayCommandPacket where
  relayPin := sent.target.relayPin
  desiredState := if sent.target.desiredOn then RELAY_COMMAND_STATE_ON else RELAY_COMMAND_STATE_OFF
  commandId := sent.commandId

/-- Central, its Smart Nodes, and the relay commands that were on the air so far. -/
structure RelaySystem where
  central : DispatchState
  nodes : MacAddress → RelayTasks
  sent : List SentCommand

/-- Central's calls, the radio, and every Node with its tasks. -/
inductive SystemEvent where
  | central (event : DispatchEvent)
  | transmit (index : Nat)
  | node (nodeMac : MacAddress) (event : RelayTaskEvent)

namespace RelaySystem

/-- No Node has heard anything, and Central has called nobody. -/
def boot : RelaySystem := ⟨.boot, fun nodeMac => RelayTasks.boot nodeMac [] [], []⟩

/-- The radio may lose a message, deliver it late, or more than once, but it makes none up. -/
inductive Step (before : RelaySystem) : SystemEvent → RelaySystem → Prop where
  | central (event : DispatchEvent) (central : DispatchState)
      (hgiven : ∀ originMac acknowledgement lockTaken, event = .acknowledge originMac acknowledgement lockTaken →
        ∃ given ∈ (before.nodes originMac).acknowledgements,
          given.toRelayCommandAcknowledgementPacket = acknowledgement)
      (hnext : before.central.next event = some central) :
      Step before (.central event) { before with central }
  | transmit (index : Nat) (loop : DispatchLoop) (commandId : UInt32)
      (hindex : before.central.loops[index]? = some loop) (hphase : loop.phase = .sending commandId) :
      Step before (.transmit index) { before with sent := before.sent ++ [⟨index, loop.target, commandId⟩] }
  | node (nodeMac : MacAddress) (event : RelayTaskEvent) (tasks : RelayTasks)
      (hsent : ∀ packet command, event = .receiveCallback packet → packetCommand nodeMac packet = some command →
        ∃ sent ∈ before.sent, sent.target.nodeMacAddress = nodeMac ∧ sent.packet = command)
      (hnext : (before.nodes nodeMac).next event = some tasks) :
      Step before (.node nodeMac event) { before with nodes := Function.update before.nodes nodeMac tasks }

/-- The acknowledgement was given by the Node that it names. -/
def gives (system : RelaySystem) : DispatchEvent → Bool
  | .acknowledge originMac acknowledgement _ =>
    (system.nodes originMac).acknowledgements.any (·.toRelayCommandAcknowledgementPacket = acknowledgement)
  | _ => true

/-- A relay command in the packet was sent to the Node. -/
def carries (system : RelaySystem) (nodeMac : MacAddress) : RelayTaskEvent → Bool
  | .receiveCallback packet =>
    (packetCommand nodeMac packet).all fun command =>
      system.sent.any fun sent => sent.target.nodeMacAddress = nodeMac ∧ sent.packet = command
  | _ => true

/-- The step that an event takes, if it can. -/
def next (system : RelaySystem) : SystemEvent → Option RelaySystem
  | .central event =>
    if system.gives event then (system.central.next event).map fun central => { system with central } else none
  | .transmit index =>
    match system.central.loops[index]? with
    | some ⟨target, .sending commandId, _⟩ => some { system with sent := system.sent ++ [⟨index, target, commandId⟩] }
    | _ => none
  | .node nodeMac event =>
    if system.carries nodeMac event then
      ((system.nodes nodeMac).next event).map fun tasks =>
        { system with nodes := Function.update system.nodes nodeMac tasks }
    else none

/-- What the evaluated step allows, the relation allows. -/
theorem step_of_next {before after : RelaySystem} {event : SystemEvent} (hnext : before.next event = some after) :
    Step before event after := by
  cases event with
  | central event =>
    obtain ⟨hgives, hnext⟩ := Option.ite_none_right_eq_some.mp hnext
    obtain ⟨central, hcentral, rfl⟩ := Option.map_eq_some_iff.mp hnext
    refine .central event central ?_ hcentral
    rintro originMac acknowledgement lockTaken rfl
    obtain ⟨given, hgiven, hsame⟩ := List.any_eq_true.mp hgives
    exact ⟨given, hgiven, of_decide_eq_true hsame⟩
  | transmit index =>
    simp only [next] at hnext
    split at hnext
    · next target commandId acknowledged hindex =>
      obtain rfl := Option.some.inj hnext
      exact .transmit index _ commandId hindex rfl
    · cases hnext
  | node nodeMac event =>
    obtain ⟨hcarries, hnext⟩ := Option.ite_none_right_eq_some.mp hnext
    obtain ⟨tasks, htasks, rfl⟩ := Option.map_eq_some_iff.mp hnext
    refine .node nodeMac event tasks ?_ htasks
    rintro packet command rfl hcommand
    rw [carries, hcommand] at hcarries
    obtain ⟨sent, hsent, hfound⟩ := List.any_eq_true.mp hcarries
    exact ⟨sent, hsent, of_decide_eq_true hfound⟩

end RelaySystem

/-- The event may begin a command. -/
def SystemEvent.begins : SystemEvent → Bool
  | .central (.begin _ true true) => true
  | _ => false

/-- What a step does to a call of `dispatchRelayTargetAndWait`. -/
inductive LoopMove (before : DispatchState) (event : DispatchEvent) (index : Nat) :
    DispatchLoop → DispatchLoop → Prop where
  | same (loop : DispatchLoop) : LoopMove before event index loop loop
  | heard (loop : DispatchLoop) (originMac : MacAddress) (acknowledgement : RelayCommandAcknowledgementPacket)
      (hevent : event = .acknowledge originMac acknowledgement true) :
      LoopMove before event index loop
        { loop with acknowledged := loop.acknowledged || loop.hears originMac acknowledgement }
  | begun (loop : DispatchLoop) (hevent : event = .begin index true true) :
      LoopMove before event index loop { loop with phase := .sending before.relayCommandDispatcher.nextCommandId }
  | moved (loop : DispatchLoop) (phase : DispatchPhase) (hid : phase.commandId = loop.phase.commandId)
      (hphase : ∀ success, phase ≠ .returned success) : LoopMove before event index loop { loop with phase }
  | failed (loop : DispatchLoop) : LoopMove before event index loop { loop with phase := .returned false }
  | read (loop : DispatchLoop) (commandId : UInt32) (lockTaken : Bool) (hphase : loop.phase = .settled commandId) :
      LoopMove before event index loop
        { loop with phase := .returned (lockTaken && before.relayCommandDispatcher.wasCommandSuccessful commandId) }

section Calls

variable {before after : DispatchState} {event : DispatchEvent}

theorem getElem?_enter {state : DispatchState} {index position : Nat} {phase : DispatchPhase} {loop : DispatchLoop}
    (hloop : (state.enter index phase).loops[position]? = some loop) :
    ∃ old, state.loops[position]? = some old ∧ loop = if index = position then { old with phase } else old := by
  rw [DispatchState.enter, List.getElem?_modify] at hloop
  obtain ⟨old, hold, rfl⟩ := Option.map_eq_some_iff.mp hloop
  refine ⟨old, hold, ?_⟩
  split <;> rfl

/-- Completing a command does not move its call. -/
theorem loops_fail (state : DispatchState) (commandId : UInt32) (lockTaken countsAlways : Bool) :
    (state.fail commandId lockTaken countsAlways).loops = state.loops := by
  unfold DispatchState.fail
  split <;> rfl

/-- The call that enters the phase moves, and the others stay. -/
theorem loopMove_enter {state : DispatchState} {index position : Nat} {phase : DispatchPhase} {loop : DispatchLoop}
    (hloops : state.loops = before.loops)
    (hmove : ∀ old, before.loops[index]? = some old → LoopMove before event index old { old with phase })
    (hloop : (state.enter index phase).loops[position]? = some loop) :
    ∃ old, before.loops[position]? = some old ∧ LoopMove before event position old loop := by
  obtain ⟨old, hold, rfl⟩ := getElem?_enter hloop
  rw [hloops] at hold
  refine ⟨old, hold, ?_⟩
  split
  · next hsame => exact hsame ▸ hmove old (hsame ▸ hold)
  · exact .same old

theorem deadline_next {index : Nat} (hnext : before.next (.deadline index) = some after) :
    ∃ loop commandId, before.loops[index]? = some loop ∧ loop.phase = .waiting commandId ∧
      after = before.enter index (.timedOut commandId) := by
  simp only [DispatchState.next] at hnext
  split at hnext
  · next target commandId acknowledged hindex => exact ⟨_, commandId, hindex, rfl, (Option.some.inj hnext).symm⟩
  · cases hnext

/-- Where a call can be after a step. -/
theorem loop_next (hnext : before.next event = some after) {index : Nat} {loop : DispatchLoop}
    (hloop : after.loops[index]? = some loop) :
    (∃ old, before.loops[index]? = some old ∧ LoopMove before event index old loop) ∨
      (loop.phase = .starting ∧ loop.acknowledged = false) := by
  cases moves_of_next hnext with
  | called target =>
    rw [List.getElem?_append] at hloop
    split at hloop
    · exact .inl ⟨loop, hloop, .same loop⟩
    · obtain rfl := List.mem_singleton.mp (List.mem_of_getElem? hloop)
      exact .inr ⟨rfl, rfl⟩
  | refused position lockTaken routeFound old hindex hphase dispatcher errorCount hdispatcher =>
    exact .inl (loopMove_enter rfl (fun old _ => .failed old) hloop)
  | begun position old hindex hphase =>
    exact .inl (loopMove_enter rfl (fun old _ => .begun old rfl) hloop)
  | sent position sent old commandId hindex hphase =>
    refine .inl (loopMove_enter rfl (fun other hother => .moved other _ ?_ ?_) hloop)
    · obtain rfl := Option.some.inj (hindex.symm.trans hother)
      rw [hphase]
      cases sent <;> rfl
    · cases sent <;> exact fun _ hreturned => nomatch hreturned
  | settled position lockTaken old commandId hindex hphase =>
    refine .inl (loopMove_enter rfl (fun other hother => .moved other _ ?_ ?_) hloop)
    · obtain rfl := Option.some.inj (hindex.symm.trans hother)
      rw [hphase]
      rfl
    · exact fun _ hreturned => nomatch hreturned
  | failedUnsent position lockTaken old commandId | failedTimedOut position lockTaken old commandId =>
    exact .inl (loopMove_enter (loops_fail _ _ _ _) (fun old _ => .failed old) hloop)
  | read position lockTaken old commandId hindex hphase =>
    refine .inl (loopMove_enter rfl (fun other hother => .read other commandId lockTaken ?_) hloop)
    obtain rfl := Option.some.inj (hindex.symm.trans hother)
    exact hphase
  | expired position =>
    obtain ⟨old, commandId, hindex, hphase, hexpired⟩ := deadline_next hnext
    rw [hexpired] at hloop
    refine .inl (loopMove_enter rfl (fun other hother => .moved other _ ?_ ?_) hloop)
    · obtain rfl := Option.some.inj (hindex.symm.trans hother)
      rw [hphase]
      rfl
    · exact fun _ hreturned => nomatch hreturned
  | acknowledged originMac acknowledgement =>
    unfold DispatchState.handleRelayAcknowledgement at hloop
    split at hloop
    · rw [List.getElem?_map] at hloop
      obtain ⟨old, hold, rfl⟩ := Option.map_eq_some_iff.mp hloop
      exact .inl ⟨old, hold, .heard old originMac acknowledgement rfl⟩
    · exact .inl ⟨loop, hloop, .same loop⟩
  | waited | unheard => exact .inl ⟨loop, hloop, .same loop⟩

theorem begin_next {index : Nat} (hnext : before.next (.begin index true true) = some after) :
    ∃ target, after.relayCommandDispatcher = (before.relayCommandDispatcher.beginCommand target).1 := by
  simp only [DispatchState.next, Bool.not_true, Bool.false_eq_true, if_false, if_true, Bool.false_or] at hnext
  split at hnext
  · next target acknowledged hindex =>
    refine ⟨target, ?_⟩
    split at hnext <;> exact Option.some.inj hnext ▸ rfl
  · cases hnext

/-- A completion uses up no id and adds no command. -/
theorem pendingCommands_completeCommand (dispatcher : RelayCommandDispatcher) (commandId : UInt32) (success : Bool) :
    (dispatcher.completeCommand commandId success).1.nextCommandId = dispatcher.nextCommandId ∧
      (dispatcher.completeCommand commandId success).1.pendingCommands ⊆ dispatcher.pendingCommands := by
  unfold RelayCommandDispatcher.completeCommand
  split
  · exact ⟨rfl, (KeyedList.remove_sublist _ _).subset⟩
  · exact ⟨rfl, List.Subset.refl _⟩

/-- Only the beginning of a command takes an id and makes something pending. -/
theorem dispatcher_next (hnext : before.next event = some after) (hother : ∀ index, event ≠ .begin index true true) :
    after.relayCommandDispatcher.nextCommandId = before.relayCommandDispatcher.nextCommandId ∧
      after.relayCommandDispatcher.pendingCommands ⊆ before.relayCommandDispatcher.pendingCommands := by
  have hfail : ∀ commandId lockTaken countsAlways,
      (before.fail commandId lockTaken countsAlways).relayCommandDispatcher.nextCommandId =
          before.relayCommandDispatcher.nextCommandId ∧
        (before.fail commandId lockTaken countsAlways).relayCommandDispatcher.pendingCommands ⊆
          before.relayCommandDispatcher.pendingCommands := by
    intro commandId lockTaken countsAlways
    unfold DispatchState.fail
    split
    · exact pendingCommands_completeCommand _ _ _
    · exact ⟨rfl, List.Subset.refl _⟩
  cases moves_of_next hnext with
  | refused index lockTaken routeFound loop hindex hphase dispatcher errorCount hdispatcher =>
    obtain rfl | ⟨rfl, rfl, -⟩ := hdispatcher
    · exact ⟨rfl, List.Subset.refl _⟩
    · exact absurd rfl (hother index)
  | begun index => exact absurd rfl (hother index)
  | failedUnsent index lockTaken loop commandId => exact hfail commandId lockTaken true
  | failedTimedOut index lockTaken loop commandId => exact hfail commandId lockTaken false
  | acknowledged originMac acknowledgement =>
    unfold DispatchState.handleRelayAcknowledgement
    split
    · exact pendingCommands_completeCommand _ _ _
    · exact ⟨rfl, List.Subset.refl _⟩
  | _ => exact ⟨rfl, List.Subset.refl _⟩

end Calls

/-- Ids are handed out one after the other. None in use is newer than the last of them, and no two
calls have the same. -/
structure Counted (number : Nat) (state : DispatchState) : Prop where
  next : state.relayCommandDispatcher.nextCommandId = UInt32.ofNat (number + 1)
  pending : ∀ pending ∈ state.relayCommandDispatcher.pendingCommands, pending.commandId.toNat ≤ number
  calls : ∀ loop ∈ state.loops, ∀ commandId, loop.phase.commandId = some commandId → commandId.toNat ≤ number
  distinct : ∀ (index position : Nat) (loop other : DispatchLoop) commandId, state.loops[index]? = some loop →
    state.loops[position]? = some other → loop.phase.commandId = some commandId →
      other.phase.commandId = some commandId → index = position

section Counting

variable {before after : DispatchState} {event : DispatchEvent} {number : Nat}

/-- The next id is one more than the calls so far, as long as it has not come round. -/
theorem Counted.next_toNat (hcounted : Counted number before) (hroom : number + 1 < UInt32.size) :
    before.relayCommandDispatcher.nextCommandId.toNat = number + 1 := by
  rw [hcounted.next]
  exact UInt32.toNat_ofNat_of_lt' hroom

/-- So it is in use nowhere. -/
theorem Counted.unused (hcounted : Counted number before) (hroom : number + 1 < UInt32.size) :
    before.Unused before.relayCommandDispatcher.nextCommandId := by
  have hnext := hcounted.next_toNat hroom
  constructor
  · rw [← RelayCommandDispatcher.findPendingCommand_eq_none_iff]
    refine KeyedList.lookup_eq_none_iff.mpr fun hpending => ?_
    obtain ⟨pending, hmem, hid⟩ := List.mem_map.mp hpending
    have hold := hcounted.pending pending hmem
    rw [hid] at hold
    omega
  · intro loop hloop hid
    have hold := hcounted.calls loop hloop _ hid
    omega

/-- A call that has an id after the step had it before, or has just begun its command. -/
theorem commandId_next (hnext : before.next event = some after) {index : Nat} {loop : DispatchLoop}
    (hloop : after.loops[index]? = some loop) {commandId : UInt32} (hid : loop.phase.commandId = some commandId) :
    (∃ old, before.loops[index]? = some old ∧ old.target = loop.target ∧ old.phase.commandId = some commandId) ∨
      event = .begin index true true ∧ commandId = before.relayCommandDispatcher.nextCommandId := by
  obtain ⟨old, hold, hmove⟩ | ⟨hstarting, -⟩ := loop_next hnext hloop
  · cases hmove with
    | same => exact .inl ⟨_, hold, rfl, hid⟩
    | heard => exact .inl ⟨_, hold, rfl, hid⟩
    | begun hevent => exact .inr ⟨hevent, (Option.some.inj hid).symm⟩
    | moved phase hsame => exact .inl ⟨_, hold, rfl, hsame ▸ hid⟩
    | failed => cases hid
    | read => cases hid
  · rw [hstarting] at hid
    cases hid

theorem Counted.step (hcounted : Counted number before) (hnext : before.next event = some after)
    (hroom : number + 1 < UInt32.size) :
    Counted number after ∨ (∃ index, event = .begin index true true) ∧ Counted (number + 1) after := by
  have hnumber := hcounted.next_toNat hroom
  have hdistinct : ∀ (index position : Nat) (loop other : DispatchLoop) commandId, after.loops[index]? = some loop →
      after.loops[position]? = some other → loop.phase.commandId = some commandId →
        other.phase.commandId = some commandId → index = position := by
    intro index position loop other commandId hloop hother hid hsame
    obtain ⟨old, hold, -, holdId⟩ | ⟨hevent, hnew⟩ := commandId_next hnext hloop hid
    · have holdest := hcounted.calls old (List.mem_of_getElem? hold) commandId holdId
      obtain ⟨older, holder, -, holderId⟩ | ⟨-, hnew⟩ := commandId_next hnext hother hsame
      · exact hcounted.distinct index position old older commandId hold holder holdId holderId
      · rw [hnew] at holdest
        omega
    · obtain ⟨older, holder, -, holderId⟩ | ⟨hagain, -⟩ := commandId_next hnext hother hsame
      · have holdest := hcounted.calls older (List.mem_of_getElem? holder) commandId holderId
        rw [hnew] at holdest
        omega
      · exact DispatchEvent.begin.inj (hevent.symm.trans hagain) |>.1
  by_cases hbegins : ∃ index, event = .begin index true true
  · obtain ⟨index, rfl⟩ := hbegins
    obtain ⟨target, hdispatcher⟩ := begin_next hnext
    refine .inr ⟨⟨index, rfl⟩, ?_, ?_, ?_, hdistinct⟩
    · rw [hdispatcher]
      change before.relayCommandDispatcher.nextCommandId + 1 = _
      rw [hcounted.next, ← UInt32.toNat_inj]
      simp
    · intro pending hpending
      rw [hdispatcher] at hpending
      obtain hold | hnew := List.mem_append.mp hpending
      · exact Nat.le_succ_of_le (hcounted.pending pending hold)
      · rw [List.mem_singleton.mp hnew, RelayTarget.pending_commandId, hnumber]
    · intro loop hloop commandId hid
      obtain ⟨position, hposition⟩ := List.mem_iff_getElem?.mp hloop
      obtain ⟨old, hold, -, holdId⟩ | ⟨-, rfl⟩ := commandId_next hnext hposition hid
      · exact Nat.le_succ_of_le (hcounted.calls old (List.mem_of_getElem? hold) commandId holdId)
      · exact hnumber.le
  · have hother : ∀ index, event ≠ .begin index true true := fun index hevent => hbegins ⟨index, hevent⟩
    obtain ⟨hsame, hpending⟩ := dispatcher_next hnext hother
    refine .inl ⟨hsame.trans hcounted.next, fun pending hmem => hcounted.pending pending (hpending hmem), ?_,
      hdistinct⟩
    intro loop hloop commandId hid
    obtain ⟨position, hposition⟩ := List.mem_iff_getElem?.mp hloop
    obtain ⟨old, hold, -, holdId⟩ | ⟨hevent, -⟩ := commandId_next hnext hposition hid
    · exact hcounted.calls old (List.mem_of_getElem? hold) commandId holdId
    · exact absurd hevent (hother position)

end Counting

namespace RelaySystem

/-- The command that the call sent was acknowledged by its Node, with success. -/
def Confirmed (system : RelaySystem) (index : Nat) (target : RelayTarget) : Prop :=
  ∃ sent ∈ system.sent, sent.index = index ∧ sent.target = target ∧
    ∃ given ∈ (system.nodes target.nodeMacAddress).acknowledgements, given.command = sent.packet ∧ given.success ≠ 0

/-- What holds of Central, of the air and of the Nodes after some commands were begun. -/
structure Invariant (number : Nat) (system : RelaySystem) : Prop where
  sound : RelayDispatch.Sound system.central
  counted : Counted number system.central
  sent : ∀ sent ∈ system.sent, sent.commandId.toNat ≤ number
  owner : ∀ sent ∈ system.sent, ∀ (index : Nat) (loop : DispatchLoop), system.central.loops[index]? = some loop →
    loop.phase.commandId = some sent.commandId → sent.index = index ∧ sent.target = loop.target
  unique : ∀ sent ∈ system.sent, ∀ other ∈ system.sent, other.commandId = sent.commandId → other = sent
  address : ∀ nodeMac, (system.nodes nodeMac).localMac = nodeMac
  received : ∀ nodeMac, ∀ command ∈ (system.nodes nodeMac).line,
    ∃ sent ∈ system.sent, sent.target.nodeMacAddress = nodeMac ∧ sent.packet = command
  acknowledged : ∀ (index : Nat) (loop : DispatchLoop), system.central.loops[index]? = some loop →
    loop.acknowledged = true → system.Confirmed index loop.target
  returned : ∀ loop ∈ system.central.loops, loop.phase = .returned true → loop.acknowledged = true

variable {before after : RelaySystem} {event : SystemEvent} {number : Nat}

/-- What was sent and acknowledged stays so. -/
theorem Confirmed.mono {index : Nat} {target : RelayTarget} (hconfirmed : before.Confirmed index target)
    (hsent : before.sent ⊆ after.sent)
    (hgiven : ∀ nodeMac, (before.nodes nodeMac).acknowledgements ⊆ (after.nodes nodeMac).acknowledgements) :
    after.Confirmed index target := by
  obtain ⟨sent, hmem, hindex, htarget, given, hacknowledged, hsame⟩ := hconfirmed
  exact ⟨sent, hsent hmem, hindex, htarget, given, hgiven _ hacknowledged, hsame⟩

/-- A command that is acknowledged to a call which waits for it is that of the call. -/
theorem Invariant.confirmed_of_hears (hinv : Invariant number before) {index : Nat} {loop : DispatchLoop}
    (hloop : before.central.loops[index]? = some loop) {originMac : MacAddress} {given : RelayAcknowledgement}
    (hgiven : given ∈ (before.nodes originMac).acknowledgements)
    (hhears : loop.hears originMac given.toRelayCommandAcknowledgementPacket = true) :
    before.Confirmed index loop.target := by
  simp only [DispatchLoop.hears, Bool.and_eq_true, decide_eq_true_eq, bne_iff_ne] at hhears
  obtain ⟨⟨hawaited, hmatches⟩, hsuccess⟩ := hhears
  have hcommand : given.command ∈ (before.nodes originMac).line :=
    List.mem_append_left _ (List.mem_map_of_mem hgiven)
  obtain ⟨sent, hsent, hnode, hpacket⟩ := hinv.received originMac _ hcommand
  have hid : loop.phase.commandId = some sent.commandId := by
    rw [commandId_of_watched (awaited_of_watched hawaited)]
    exact congrArg some (congrArg RelayCommandPacket.commandId hpacket).symm
  obtain ⟨hindex, htarget⟩ := hinv.owner sent hsent index loop hloop hid
  refine ⟨sent, hsent, hindex, htarget, given, ?_, hpacket.symm, hsuccess⟩
  rw [← htarget, hnode]
  exact hgiven

/-- Success is only read of a command that was acknowledged. -/
theorem acknowledged_of_read {state : DispatchState} (hsound : RelayDispatch.Sound state) {loop : DispatchLoop}
    (hloop : loop ∈ state.loops) {commandId : UInt32} (hphase : loop.phase = .settled commandId)
    (hread : state.relayCommandDispatcher.wasCommandSuccessful commandId = true) : loop.acknowledged = true := by
  obtain ⟨-, htracked, hsettled⟩ := hsound.loops loop hloop
  obtain ⟨hlast, hsuccess⟩ := RelayCommandDispatcher.wasCommandSuccessful_iff.mp hread
  exact ((htracked commandId (by rw [hphase]; rfl)).completed (hsettled commandId hphase) hlast.symm).symm.trans hsuccess

/-- A step of Central that takes an acknowledgement takes one that a Node has given. -/
theorem Invariant.central (hinv : Invariant number before) {called : DispatchEvent} {central : DispatchState}
    (hgiven : ∀ originMac acknowledgement lockTaken, called = .acknowledge originMac acknowledgement lockTaken →
      ∃ given ∈ (before.nodes originMac).acknowledgements,
        given.toRelayCommandAcknowledgementPacket = acknowledgement)
    (hnext : before.central.next called = some central) (hroom : number + 1 < UInt32.size) {later : Nat}
    (hcounted : Counted later central) (hlater : number ≤ later) :
    Invariant later { before with central } where
  sound := hinv.sound.step (fun _ _ => hinv.counted.unused hroom) hnext
  counted := hcounted
  sent sent hsent := (hinv.sent sent hsent).trans hlater
  owner := by
    intro sent hsent index loop hloop hid
    obtain ⟨old, hold, htarget, holdId⟩ | ⟨-, hnew⟩ := commandId_next hnext hloop hid
    · rw [← htarget]
      exact hinv.owner sent hsent index old hold holdId
    · have hnumber := hinv.counted.next_toNat hroom
      have hsentId := hinv.sent sent hsent
      rw [hnew] at hsentId
      omega
  unique := hinv.unique
  address := hinv.address
  received := hinv.received
  acknowledged := by
    intro index loop hloop hacknowledged
    obtain ⟨old, hold, hmove⟩ | ⟨-, hfresh⟩ := loop_next hnext hloop
    · have hkept : old.acknowledged = true → before.Confirmed index old.target := hinv.acknowledged index old hold
      cases hmove with
      | heard originMac acknowledgement hevent =>
        obtain hbefore | hhears := Bool.or_eq_true_iff.mp hacknowledged
        · exact hkept hbefore
        · obtain ⟨given, hmem, rfl⟩ := hgiven originMac acknowledgement true hevent
          have hconfirmed : before.Confirmed index old.target := hinv.confirmed_of_hears hold hmem hhears
          exact hconfirmed
      | _ => exact hkept hacknowledged
    · exact nomatch hfresh.symm.trans hacknowledged
  returned := by
    intro loop hmem hreturned
    obtain ⟨index, hloop⟩ := List.mem_iff_getElem?.mp hmem
    obtain ⟨old, hold, hmove⟩ | ⟨hstarting, -⟩ := loop_next hnext hloop
    · have holdMem := List.mem_of_getElem? hold
      cases hmove with
      | same => exact hinv.returned _ holdMem hreturned
      | heard => exact Bool.or_eq_true_iff.mpr (.inl (hinv.returned _ holdMem hreturned))
      | begun => cases hreturned
      | moved phase hid hphase => exact absurd hreturned (hphase true)
      | failed => cases hreturned
      | read commandId lockTaken hphase =>
        have hread := (Bool.and_eq_true_iff.mp (DispatchPhase.returned.inj hreturned)).2
        exact (acknowledged_of_read hinv.sound holdMem hphase hread :)
    · exact nomatch hstarting.symm.trans hreturned

/-- The packet that goes out is kept with the call that sent it. -/
theorem Invariant.transmit (hinv : Invariant number before) {index : Nat} {loop : DispatchLoop} {commandId : UInt32}
    (hindex : before.central.loops[index]? = some loop) (hphase : loop.phase = .sending commandId) :
    Invariant number { before with sent := before.sent ++ [⟨index, loop.target, commandId⟩] } where
  sound := hinv.sound
  counted := hinv.counted
  sent := by
    intro sent hsent
    obtain hold | hnew := List.mem_append.mp hsent
    · exact hinv.sent sent hold
    · rw [List.mem_singleton.mp hnew]
      exact hinv.counted.calls loop (List.mem_of_getElem? hindex) commandId (by rw [hphase]; rfl)
  owner := by
    intro sent hsent position other hother hid
    obtain hold | hnew := List.mem_append.mp hsent
    · exact hinv.owner sent hold position other hother hid
    · obtain rfl := List.mem_singleton.mp hnew
      obtain rfl := hinv.counted.distinct index position loop other commandId hindex hother (by rw [hphase]; rfl) hid
      exact ⟨rfl, congrArg DispatchLoop.target (Option.some.inj (hindex.symm.trans hother))⟩
  unique := by
    have hsame : ∀ sent ∈ before.sent, sent.commandId = commandId → sent = ⟨index, loop.target, commandId⟩ := by
      intro sent hsent hid
      obtain ⟨hsentIndex, htarget⟩ := hinv.owner sent hsent index loop hindex (by rw [hphase, hid]; rfl)
      rw [← hsentIndex, ← htarget, ← hid]
    intro sent hsent other hother hid
    obtain hold | hnew := List.mem_append.mp hsent <;> obtain holder | hnewer := List.mem_append.mp hother
    · exact hinv.unique sent hold other holder hid
    · obtain rfl := List.mem_singleton.mp hnewer
      exact (hsame sent hold hid.symm).symm
    · obtain rfl := List.mem_singleton.mp hnew
      exact hsame other holder hid
    · rw [List.mem_singleton.mp hnew, List.mem_singleton.mp hnewer]
  address := hinv.address
  received := by
    intro nodeMac command hcommand
    obtain ⟨sent, hsent, hfound⟩ := hinv.received nodeMac command hcommand
    exact ⟨sent, List.mem_append_left _ hsent, hfound⟩
  acknowledged position other hother hacknowledged :=
    (hinv.acknowledged position other hother hacknowledged).mono (List.subset_append_left _ _)
      fun _ => List.Subset.refl _
  returned := hinv.returned

/-- Needs every command that the Node receives to have been sent to it. Losses and repetitions do not
matter. -/
theorem Invariant.node (hinv : Invariant number before) {nodeMac : MacAddress} {taskEvent : RelayTaskEvent}
    {tasks : RelayTasks}
    (hsent : ∀ packet command, taskEvent = .receiveCallback packet → packetCommand nodeMac packet = some command →
      ∃ sent ∈ before.sent, sent.target.nodeMacAddress = nodeMac ∧ sent.packet = command)
    (hnext : (before.nodes nodeMac).next taskEvent = some tasks) :
    Invariant number { before with nodes := Function.update before.nodes nodeMac tasks } := by
  refine ⟨hinv.sound, hinv.counted, hinv.sent, hinv.owner, hinv.unique, fun other => ?_,
    fun other command hcommand => ?_, fun index loop hloop hacknowledged => ?_, hinv.returned⟩
  · change (Function.update before.nodes nodeMac tasks other).localMac = other
    obtain rfl | hother := eq_or_ne other nodeMac
    · rw [Function.update_self, RelayTasks.localMac_next hnext, hinv.address]
    · rw [Function.update_of_ne hother, hinv.address]
  · change command ∈ (Function.update before.nodes nodeMac tasks other).line at hcommand
    obtain rfl | hother := eq_or_ne other nodeMac
    · rw [Function.update_self] at hcommand
      have hline : tasks.line ⊆ (before.nodes other).line ++ RelayTasks.received (before.nodes other).localMac taskEvent := by
        obtain hkept | ⟨-, hlost⟩ := RelayTasks.line_next hnext
        · exact hkept ▸ List.Subset.refl _
        · exact hlost.subset
      rw [hinv.address] at hline
      obtain hold | harrived := List.mem_append.mp (hline hcommand)
      · exact hinv.received other command hold
      · cases taskEvent with
        | receiveCallback packet => exact hsent packet command rfl (Option.mem_toList.mp harrived)
        | _ => cases harrived
    · rw [Function.update_of_ne hother] at hcommand
      exact hinv.received other command hcommand
  · refine (hinv.acknowledged index loop hloop hacknowledged).mono (List.Subset.refl _) fun other => ?_
    change _ ⊆ (Function.update before.nodes nodeMac tasks other).acknowledgements
    obtain rfl | hother := eq_or_ne other nodeMac
    · rw [Function.update_self]
      exact RelayTasks.acknowledgements_next hnext
    · rw [Function.update_of_ne hother]
      exact List.Subset.refl _

theorem invariant_boot : Invariant 0 boot where
  sound := ⟨List.nodup_nil, nofun⟩
  counted := by
    refine ⟨rfl, nofun, nofun, fun index position loop other commandId hloop => ?_⟩
    rw [show boot.central.loops = [] from rfl, List.getElem?_nil] at hloop
    cases hloop
  sent := nofun
  owner := nofun
  unique := nofun
  address _ := rfl
  received := nofun
  acknowledged := nofun
  returned := nofun

/-- A step keeps the invariant, and counts if it begins a command. -/
theorem Invariant.step (hinv : Invariant number before) (hstep : Step before event after)
    (hroom : number + 1 < UInt32.size) :
    Invariant number after ∨ event.begins = true ∧ Invariant (number + 1) after := by
  cases hstep with
  | central called central hgiven hnext =>
    obtain hsame | ⟨⟨index, rfl⟩, hmore⟩ := hinv.counted.step hnext hroom
    · exact .inl (hinv.central hgiven hnext hroom hsame (Nat.le_refl _))
    · exact .inr ⟨rfl, hinv.central hgiven hnext hroom hmore (Nat.le_succ _)⟩
  | transmit index loop commandId hindex hphase => exact .inl (hinv.transmit hindex hphase)
  | node nodeMac taskEvent tasks hsent hnext => exact .inl (hinv.node hsent hnext)

/-- Needs fewer commands than ids. -/
theorem invariant_of_run {events : List SystemEvent} {last : RelaySystem} (hrun : Run Step boot events last)
    (hcount : events.countP SystemEvent.begins + 1 < UInt32.size) :
    ∃ number ≤ events.countP SystemEvent.begins, Invariant number last := by
  induction hrun with
  | nil => exact ⟨0, Nat.zero_le _, invariant_boot⟩
  | @snoc mid last events event _ hstep ih =>
    rw [List.countP_append, List.countP_singleton] at hcount ⊢
    obtain ⟨number, hnumber, hinv⟩ := ih (by omega)
    obtain hsame | ⟨hbegins, hmore⟩ := hinv.step hstep (by omega)
    · exact ⟨number, by omega, hsame⟩
    · exact ⟨number + 1, by rw [if_pos hbegins]; omega, hmore⟩

/-- What happened to the tasks of one Node. -/
def nodeEvent (nodeMac : MacAddress) : SystemEvent → Option RelayTaskEvent
  | .node other event => if other = nodeMac then some event else none
  | _ => none

/-- Seen from one Node, a run of the system is a run of its tasks. -/
theorem node_run (nodeMac : MacAddress) {start last : RelaySystem} {events : List SystemEvent}
    (hrun : Run Step start events last) :
    Run RelayTasks.Step (start.nodes nodeMac) (events.filterMap (nodeEvent nodeMac)) (last.nodes nodeMac) := by
  refine hrun.simulate (fun system => system.nodes nodeMac) (nodeEvent nodeMac) fun before event after hstep => ?_
  cases hstep with
  | central event central hgiven hnext => rfl
  | transmit index loop commandId hindex hphase => rfl
  | node other event tasks hsent hnext =>
    rw [nodeEvent]
    obtain rfl | hother := eq_or_ne other nodeMac
    · rw [if_pos rfl]
      change (before.nodes other).next event = some (Function.update before.nodes other tasks other)
      rw [Function.update_self]
      exact hnext
    · rw [if_neg hother]
      exact Function.update_of_ne hother.symm tasks before.nodes

end RelaySystem

/-- The packet asks for the state of the target. -/
theorem SentCommand.packet_desiredOn (sent : SentCommand) : sent.packet.desiredOn = sent.target.desiredOn := by
  rw [RelayCommandPacket.desiredOn, packet]
  cases sent.target.desiredOn <;> rfl

/-- Whatever the radio loses, delays or repeats, and whenever Nodes restart: as long as the command
ids have not come round, a call that returns true has sent a command of its own, with an id that no
other call has sent. For just this command, its Node wrote the level to the pin, the pin took it, and
the next acknowledgement of the Node was the one of this command. -/
theorem dispatch_true_was_switched {events : List SystemEvent} {last : RelaySystem}
    (hrun : Run RelaySystem.Step .boot events last)
    (hcount : events.countP SystemEvent.begins + 1 < UInt32.size) {loop : DispatchLoop}
    {index : Nat} (hloop : last.central.loops[index]? = some loop) (hreturned : loop.phase = .returned true) :
    ∃ sent ∈ last.sent, sent.index = index ∧ sent.target = loop.target ∧
      (∀ other ∈ last.sent, other.commandId = sent.commandId → other = sent) ∧
      sent.packet.relayPin = loop.target.relayPin ∧ sent.packet.desiredOn = loop.target.desiredOn ∧
      ∃ position given, (last.nodes loop.target.nodeMacAddress).acknowledgements[position]? = some given ∧
        given.command = sent.packet ∧ given.success ≠ 0 ∧
        RelayTasks.Switched loop.target.nodeMacAddress
          (events.filterMap (RelaySystem.nodeEvent loop.target.nodeMacAddress))
          (last.nodes loop.target.nodeMacAddress) position sent.packet := by
  obtain ⟨number, -, hinv⟩ := RelaySystem.invariant_of_run hrun hcount
  have hacknowledged := hinv.returned loop (List.mem_of_getElem? hloop) hreturned
  obtain ⟨sent, hsent, hindex, htarget, given, hgiven, hcommand, hsuccess⟩ :=
    hinv.acknowledged index loop hloop hacknowledged
  obtain ⟨position, hposition⟩ := List.mem_iff_getElem?.mp hgiven
  have hnode := RelayTasks.sound_of_run (RelaySystem.node_run loop.target.nodeMacAddress hrun)
  have hswitched := (hnode.acknowledgements position given hposition).written hsuccess
  rw [hcommand] at hswitched
  have hpin : sent.packet.relayPin = loop.target.relayPin := congrArg RelayTarget.relayPin htarget
  have hon : sent.packet.desiredOn = loop.target.desiredOn :=
    sent.packet_desiredOn.trans (congrArg RelayTarget.desiredOn htarget)
  exact ⟨sent, hsent, hindex, htarget, hinv.unique sent hsent, hpin, hon, position, given, hposition, hcommand,
    hsuccess, hswitched⟩

section Switched

/-- The first command of Central asks for the relay at pin 4 of the Node to be ON. -/
def firstPacket : RawReceivedPacket :=
  ⟨Vector.replicate 6 1, -60, [1, MessageType.RELAY_COMMAND.toByte, 8, 0, 0, 0, 0, 0] ++ List.replicate 6 1 ++
    List.replicate 6 2 ++ [16, 0, 0, 0] ++ [4, 1, 0, 0, 1, 0, 0, 0]⟩

/-- One call, and what the Node does in between. -/
def switchedEvents : List SystemEvent :=
  [.node (Vector.replicate 6 2) (.otherTask (.addRelay ⟨4, true, false⟩ .succeeding)), .central (.call (fanTarget 4)),
    .central (.begin 0 true true), .transmit 0] ++
  ([.receiveCallback firstPacket, .serviceReceives, .serviceProcesses, .communicationReceives, .communicationHandles,
    .controlReceives, .controlChecks, .controlSwitches true,
    .controlAcknowledges].map (SystemEvent.node (Vector.replicate 6 2))) ++
  [.central (fanAcknowledged 4 1), .central (.send 0 true), .central (.poll 0 true), .central (.readOutcome 0 true)]

/-- The call returns true, and the relay has been switched ON. -/
theorem dispatch_true_was_switched_fan :
    ∃ last, Run RelaySystem.Step .boot switchedEvents last ∧
      ∃ (sent : SentCommand) (position : Nat), sent.packet.relayPin = 4 ∧ sent.packet.desiredOn = true ∧
        RelayTasks.Switched (Vector.replicate 6 2)
          (switchedEvents.filterMap (RelaySystem.nodeEvent (Vector.replicate 6 2)))
          (last.nodes (Vector.replicate 6 2)) position sent.packet := by
  have hends : (switchedEvents.foldlM RelaySystem.next .boot).any (fun (last : RelaySystem) =>
      last.central.loops[0]?.any fun (loop : DispatchLoop) =>
        decide (loop.target = fanTarget 4 ∧ loop.phase = .returned true)) = true := by decide +kernel
  obtain ⟨last, hlast, hreturned⟩ := (Option.any_eq_true _ _).mp hends
  obtain ⟨loop, hloop, hreturned⟩ := (Option.any_eq_true _ _).mp hreturned
  obtain ⟨htarget, hphase⟩ := of_decide_eq_true hreturned
  have hstep : ∀ (before : RelaySystem) event after, before.next event = some after →
      RelaySystem.Step before event after := fun _ _ _ => RelaySystem.step_of_next
  have hrun : Run RelaySystem.Step .boot switchedEvents last := Run.of_foldlM hstep hlast
  have hcount : switchedEvents.countP SystemEvent.begins = 1 := rfl
  have hroom : switchedEvents.countP SystemEvent.begins + 1 < UInt32.size := hcount ▸ (by omega : 1 + 1 < 4294967296)
  obtain ⟨sent, -, -, -, -, hpin, hon, position, -, -, -, -, hswitched⟩ :=
    dispatch_true_was_switched hrun hroom hloop hphase
  rw [htarget] at hpin hon hswitched
  exact ⟨last, hrun, sent, position, hpin, hon, hswitched⟩

end Switched

end kilowatts.RelayRoundTrip
