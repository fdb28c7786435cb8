import Kilowatts.EspNowCommunication.WireFormat
import Kilowatts.Library.CompletionSlot

namespace kilowatts.SendCompletion

open EspNowCommunication (MAX_PAYLOAD_SIZE PROTOCOL_VERSION DEFAULT_HOP_LIMIT)

/-- The arguments of `sendMessageTo`, with the bytes that stand between the fields of the header. -/
structure SendCall where
  nextHopMacAddress : MacAddress
  message : WireFormat.Message
  padding : WireFormat.MessageHeader.Padding
deriving DecidableEq

/-- What `esp_now_send` was called with. -/
structure Packet where
  nextHopMacAddress : MacAddress
  data : List UInt8
deriving DecidableEq

namespace SendCall

/-- The bytes after the payload stay off the air. -/
def packet (call : SendCall) : Packet :=
  ⟨call.nextHopMacAddress,
    (call.message.bytes call.padding).take (WireFormat.MessageHeader.layout.size + call.message.header.payloadLength.toNat)⟩

end SendCall

/-- The tasks that send, of which `active` has the mutex. `packets` are those that the radio accepted,
by the numbers of `slot`. -/
structure SendState (Task : Type) where
  initialized : Bool
  peers : List MacAddress
  waiting : Task → Option SendCall
  active : Option (Task × SendCall)
  slot : CompletionSlot
  packets : List Packet
  results : List (Task × SendCall × Bool)

/-- The steps of the tasks, and those of the radio task, which stores a status and gives the
semaphore. -/
inductive SendEvent (Task : Type) where
  | call (task : Task) (call : SendCall) (peerAdded : Bool)
  | mutexTaken (task : Task)
  | mutexTimeout (task : Task)
  | drainOne
  | drainDone
  | reset
  | send (accepted : Bool)
  | store (serial : Nat) (success : Bool)
  | give
  | wake
  | read
  | expire

namespace SendState

variable {Task : Type} [DecidableEq Task]

/-- The radio is initialized, no peer is known and no packet has been sent. -/
def boot : SendState Task := ⟨true, [], fun _ => none, none, .empty, [], []⟩

variable (state : SendState Task)

/-- `sendMessageTo` returns to the task. -/
def answer (task : Task) (call : SendCall) (delivered : Bool) : SendState Task :=
  { state with results := state.results ++ [(task, call, delivered)] }

/-- `sendMessageTo` in front of the mutex. -/
def sendMessageTo (task : Task) (call : SendCall) (peerAdded : Bool) : SendState Task :=
  if !state.initialized then state.answer task call false
  else if MAX_PAYLOAD_SIZE < call.message.header.payloadLength.toNat then state.answer task call false
  else if call.nextHopMacAddress ≠ BROADCAST_MAC_ADDRESS ∧ !state.peers.contains call.nextHopMacAddress then
    if !peerAdded then state.answer task call false
    else
      { state with
        peers := state.peers ++ [call.nextHopMacAddress]
        waiting := Function.update state.waiting task (some call) }
  else { state with waiting := Function.update state.waiting task (some call) }

/-- The task that has the mutex gives it back. -/
def finish (task : Task) (call : SendCall) (slot : CompletionSlot) (delivered : Bool) : SendState Task :=
  { state with active := none, slot }.answer task call delivered

/-- A step of the slot that returns to no task. -/
def stepSlot (event : SlotEvent) : Option (SendState Task) :=
  (state.slot.next event).map fun slot => { state with slot }

/-- A task calls `sendMessageTo` again when the call before has returned. -/
def next : SendEvent Task → Option (SendState Task)
  | .call task call peerAdded =>
    if state.waiting task = none ∧ (state.active.map Prod.fst) ≠ some task then
      some (state.sendMessageTo task call peerAdded)
    else none
  | .mutexTaken task =>
    match state.waiting task, state.active with
    | some call, none => (state.slot.next .enter).map fun slot =>
      { state with waiting := Function.update state.waiting task none, active := some (task, call), slot }
    | _, _ => none
  | .mutexTimeout task =>
    match state.waiting task with
    | some call => some ({ state with waiting := Function.update state.waiting task none }.answer task call false)
    | none => none
  | .drainOne => state.stepSlot .drainOne
  | .drainDone => state.stepSlot .drainDone
  | .reset => state.stepSlot .reset
  | .send accepted =>
    match state.active with
    | some (task, call) =>
      if accepted then
        (state.slot.next .start).map fun slot => { state with slot, packets := state.packets ++ [call.packet] }
      else (state.slot.next .refuse).map fun slot => state.finish task call slot false
    | none => none
  | .store serial success => state.stepSlot (.store serial success)
  | .give => state.stepSlot .give
  | .wake => state.stepSlot .wake
  | .read =>
    match state.active with
    | some (task, call) => (state.slot.next .read).map fun slot => state.finish task call slot state.slot.status
    | none => none
  | .expire =>
    match state.active with
    | some (task, call) => (state.slot.next .expire).map fun slot => state.finish task call slot false
    | none => none

/-- The step of the slot that an event is. -/
def slotEvent : SendEvent Task → Option SlotEvent
  | .call _ _ _ | .mutexTimeout _ => none
  | .mutexTaken _ => some .enter
  | .drainOne => some .drainOne
  | .drainDone => some .drainDone
  | .reset => some .reset
  | .send accepted => some (if accepted then .start else .refuse)
  | .store serial success => some (.store serial success)
  | .give => some .give
  | .wake => some .wake
  | .read => some .read
  | .expire => some .expire

/-- What one step can do. -/
inductive Moves (before : SendState Task) : SendEvent Task → SendState Task → Prop where
  | refused (event : SendEvent Task) (waiting : Task → Option SendCall) (task : Task) (call : SendCall)
      (hevent : slotEvent event = none) : Moves before event ({ before with waiting }.answer task call false)
  | waits (event : SendEvent Task) (peers : List MacAddress) (waiting : Task → Option SendCall)
      (hevent : slotEvent event = none) : Moves before event { before with peers, waiting }
  | entered (task : Task) (call : SendCall) (waiting : Task → Option SendCall) (slot : CompletionSlot)
      (hslot : before.slot.next .enter = some slot) :
      Moves before (.mutexTaken task) { before with waiting, active := some (task, call), slot }
  | stepped (event : SendEvent Task) (inner : SlotEvent) (slot : CompletionSlot) (hevent : slotEvent event = some inner)
      (hinner : CompletionSlot.IsInner inner) (hslot : before.slot.next inner = some slot) : Moves before event { before with slot }
  | sent (task : Task) (call : SendCall) (slot : CompletionSlot) (hactive : before.active = some (task, call))
      (hslot : before.slot.next .start = some slot) :
      Moves before (.send true) { before with slot, packets := before.packets ++ [call.packet] }
  | failed (event : SendEvent Task) (outer : SlotEvent) (task : Task) (call : SendCall) (slot : CompletionSlot)
      (hevent : slotEvent event = some outer) (houter : outer = .refuse ∨ outer = .expire)
      (hslot : before.slot.next outer = some slot) : Moves before event (before.finish task call slot false)
  | returned (task : Task) (call : SendCall) (slot : CompletionSlot) (hactive : before.active = some (task, call))
      (hslot : before.slot.next .read = some slot) :
      Moves before .read (before.finish task call slot before.slot.status)

section Steps

variable {before after : SendState Task} {event : SendEvent Task}

omit [DecidableEq Task] in
/-- An inner step of the slot leaves the tasks as they were. -/
theorem moves_of_stepSlot {inner : SlotEvent} (hevent : slotEvent event = some inner) (hinner : CompletionSlot.IsInner inner)
    (hnext : before.stepSlot inner = some after) : Moves before event after := by
  obtain ⟨slot, hslot, rfl⟩ := Option.map_eq_some_iff.mp hnext
  exact .stepped event inner slot hevent hinner hslot

/-- In front of the mutex a call is refused, or it waits. -/
theorem moves_of_sendMessageTo (task : Task) (call : SendCall) (peerAdded : Bool) :
    Moves before (.call task call peerAdded) (before.sendMessageTo task call peerAdded) := by
  rw [sendMessageTo]
  split_ifs
  · exact .refused _ before.waiting task call rfl
  · exact .refused _ before.waiting task call rfl
  · exact .refused _ before.waiting task call rfl
  · exact .waits _ _ _ rfl
  · exact .waits _ before.peers _ rfl

/-- Every step is one of the moves. -/
theorem moves_of_next (hnext : before.next event = some after) : Moves before event after := by
  cases event with
  | call task call peerAdded =>
    simp only [next, Option.ite_none_right_eq_some, Option.some.injEq] at hnext
    exact hnext.2 ▸ moves_of_sendMessageTo task call peerAdded
  | mutexTaken task =>
    rw [next] at hnext
    split at hnext
    · rename_i call _ _
      obtain ⟨slot, hslot, rfl⟩ := Option.map_eq_some_iff.mp hnext
      exact .entered task call _ slot hslot
    · cases hnext
  | mutexTimeout task =>
    rw [next] at hnext
    split at hnext
    · rename_i call _
      exact Option.some.inj hnext ▸ .refused _ _ task call rfl
    · cases hnext
  | drainOne => exact moves_of_stepSlot rfl trivial hnext
  | drainDone => exact moves_of_stepSlot rfl trivial hnext
  | reset => exact moves_of_stepSlot rfl trivial hnext
  | send accepted =>
    rw [next] at hnext
    split at hnext
    · rename_i task call hactive
      cases accepted
      · obtain ⟨slot, hslot, rfl⟩ := Option.map_eq_some_iff.mp hnext
        exact .failed _ .refuse task call slot rfl (.inl rfl) hslot
      · obtain ⟨slot, hslot, rfl⟩ := Option.map_eq_some_iff.mp hnext
        exact .sent task call slot hactive hslot
    · cases hnext
  | store serial success => exact moves_of_stepSlot rfl trivial hnext
  | give => exact moves_of_stepSlot rfl trivial hnext
  | wake => exact moves_of_stepSlot rfl trivial hnext
  | read =>
    rw [next] at hnext
    split at hnext
    · rename_i task call hactive
      obtain ⟨slot, hslot, rfl⟩ := Option.map_eq_some_iff.mp hnext
      exact .returned task call slot hactive hslot
    · cases hnext
  | expire =>
    rw [next] at hnext
    split at hnext
    · rename_i task call hactive
      obtain ⟨slot, hslot, rfl⟩ := Option.map_eq_some_iff.mp hnext
      exact .failed _ .expire task call slot rfl (.inr rfl) hslot
    · cases hnext

/-- The tasks that take turns with the mutex are the callers of one slot. -/
theorem follows_slot (hnext : before.next event = some after) :
    Run.Follows (fun before event after => before.next event = some after) before.slot (slotEvent event) after.slot := by
  cases moves_of_next hnext with
  | refused event waiting task call hevent =>
    rw [hevent]
    rfl
  | waits event peers waiting hevent =>
    rw [hevent]
    rfl
  | entered task call waiting slot hslot => exact hslot
  | stepped event inner slot hevent hinner hslot =>
    rw [hevent]
    exact hslot
  | sent task call slot hactive hslot => exact hslot
  | failed event outer task call slot hevent houter hslot =>
    rw [hevent]
    exact hslot
  | returned task call slot hactive hslot => exact hslot

/-- How the tasks and the slot see the same requests. -/
structure Linked (state : SendState Task) : Prop where
  started : state.packets.length = state.slot.started
  current : ∀ task call serial, state.active = some (task, call) → state.slot.phase.current = some serial →
    state.packets[serial]? = some call.packet
  delivered : ∀ task call, (task, call, true) ∈ state.results →
    ∃ serial, (serial, some true) ∈ state.slot.returned ∧ state.packets[serial]? = some call.packet

omit [DecidableEq Task] in
/-- Nothing has been sent and nothing is answered. -/
theorem linked_boot : Linked (boot : SendState Task) where
  started := rfl
  current _ _ _ hactive := absurd hactive (Option.some_ne_none _).symm
  delivered _ _ hmem := absurd hmem List.not_mem_nil

omit [DecidableEq Task] in
/-- A call that returns `false` shows nothing about the packets. -/
theorem Linked.answer (hlinked : Linked before) (task : Task) (call : SendCall) : Linked (before.answer task call false) where
  started := hlinked.started
  current := hlinked.current
  delivered other otherCall hmem := by
    obtain hold | hnew := List.mem_append.mp hmem
    · exact hlinked.delivered other otherCall hold
    · exact absurd (congrArg (·.2.2) (List.mem_singleton.mp hnew)) Bool.noConfusion

/-- Each move keeps packets, answers and slot linked. -/
theorem linked_next (hlinked : Linked before) (hnext : before.next event = some after) : Linked after := by
  obtain ⟨hstarted, hcurrent, hdelivered⟩ := hlinked
  cases moves_of_next hnext with
  | refused event waiting task call hevent =>
    have hwaiting : Linked { before with waiting } := ⟨hstarted, hcurrent, hdelivered⟩
    exact hwaiting.answer task call
  | waits event peers waiting hevent => exact ⟨hstarted, hcurrent, hdelivered⟩
  | entered task call waiting slot hslot =>
    cases CompletionSlot.moves_of_next hslot with
    | entered hphase =>
      exact ⟨hstarted, fun _ _ _ _ hnone => absurd hnone (Option.some_ne_none _).symm, hdelivered⟩
  | stepped event inner slot hevent hinner hslot =>
    obtain ⟨hphase, hsame, hreturned⟩ := CompletionSlot.next_inner hinner hslot
    exact ⟨hstarted.trans hsame.symm, fun other otherCall serial hactive hserial =>
      hcurrent other otherCall serial hactive (hphase ▸ hserial), hreturned ▸ hdelivered⟩
  | sent task call slot hactive hslot =>
    cases CompletionSlot.moves_of_next hslot with
    | started hphase =>
      refine ⟨?_, fun other otherCall serial hother hserial => ?_, fun other otherCall hmem => ?_⟩
      · rw [List.length_append, List.length_singleton, hstarted]
      · obtain rfl := Option.some.inj hserial
        obtain ⟨rfl, rfl⟩ := Prod.mk.inj (Option.some.inj (hactive.symm.trans hother))
        rw [← hstarted, List.getElem?_concat_length]
      · obtain ⟨serial, hreturned, hpacket⟩ := hdelivered other otherCall hmem
        obtain ⟨hlt, -⟩ := List.getElem?_eq_some_iff.mp hpacket
        exact ⟨serial, hreturned, (List.getElem?_append_left hlt).trans hpacket⟩
  | failed event outer task call slot hevent houter hslot =>
    have hfailed : Linked { before with active := none, slot } := by
      refine ⟨?_, fun _ _ _ hnone => absurd hnone (Option.some_ne_none _).symm, fun other otherCall hmem => ?_⟩
      · obtain rfl | rfl := houter
        · cases CompletionSlot.moves_of_next hslot with
          | refused hphase => exact hstarted
        · cases CompletionSlot.moves_of_next hslot with
          | expired serial hphase => exact hstarted
      · obtain ⟨serial, hreturned, hpacket⟩ := hdelivered other otherCall hmem
        exact ⟨serial, CompletionSlot.returned_subset hslot hreturned, hpacket⟩
    exact hfailed.answer task call
  | returned task call slot hactive hslot =>
    cases CompletionSlot.moves_of_next hslot with
    | read serial hphase =>
      refine ⟨hstarted, fun _ _ _ hnone => absurd hnone (Option.some_ne_none _).symm, fun other otherCall hmem => ?_⟩
      obtain hold | hnew := List.mem_append.mp hmem
      · obtain ⟨earlier, hreturned, hpacket⟩ := hdelivered other otherCall hold
        exact ⟨earlier, List.mem_append_left _ hreturned, hpacket⟩
      · obtain ⟨rfl, hcall⟩ := Prod.mk.inj (List.mem_singleton.mp hnew)
        obtain ⟨rfl, hstatus⟩ := Prod.mk.inj hcall
        have hread : (serial, some true) ∈ before.slot.returned ++ [(serial, some before.slot.status)] := by
          rw [← hstatus]
          exact List.mem_append_right _ (List.mem_singleton_self _)
        exact ⟨serial, hread, hcurrent other otherCall serial hactive (hphase ▸ rfl)⟩

/-- The calls that returned `true`. -/
def deliveredCalls (state : SendState Task) : Nat := state.results.countP fun result => result.2.2

omit [DecidableEq Task] in
/-- An answer counts if it is `true`. -/
theorem deliveredCalls_answer (state : SendState Task) (task : Task) (call : SendCall) (delivered : Bool) :
    (state.answer task call delivered).deliveredCalls = state.deliveredCalls + if delivered then 1 else 0 := by
  rw [deliveredCalls, answer, List.countP_append, List.countP_singleton, deliveredCalls]

/-- The tasks are told of a delivery exactly when the slot counts one. -/
theorem deliveredCalls_next (hbefore : before.deliveredCalls = before.slot.delivered)
    (hnext : before.next event = some after) : after.deliveredCalls = after.slot.delivered := by
  cases moves_of_next hnext with
  | refused event waiting task call hevent =>
    exact (deliveredCalls_answer _ task call false).trans hbefore
  | waits event peers waiting hevent => exact hbefore
  | entered task call waiting slot hslot => exact hbefore.trans (CompletionSlot.delivered_next hslot).symm
  | stepped event inner slot hevent hinner hslot =>
    rw [CompletionSlot.delivered_next hslot, if_neg]
    · exact hbefore
    · rintro ⟨rfl, -⟩
      exact hinner
  | sent task call slot hactive hslot => exact hbefore.trans (CompletionSlot.delivered_next hslot).symm
  | failed event outer task call slot hevent houter hslot =>
    have hsame : slot.delivered = before.slot.delivered := by
      rw [CompletionSlot.delivered_next hslot, if_neg]
      · exact Nat.add_zero _
      · rintro ⟨rfl, -⟩
        obtain houter | houter := houter
        · cases houter
        · cases houter
    exact (deliveredCalls_answer _ task call false).trans (hbefore.trans hsame.symm)
  | returned task call slot hactive hslot =>
    have hread : slot.delivered = before.slot.delivered + if before.slot.status then 1 else 0 := by
      simpa using CompletionSlot.delivered_next hslot
    exact (deliveredCalls_answer _ task call before.slot.status).trans (hread ▸ congrArg (· + _) hbefore)

end Steps

section Runs

/-- The radio task is done with the packets before when a task is about to send. -/
def Orderly (before : SendState Task) (event : SendEvent Task) : Prop :=
  ∀ inner ∈ slotEvent event, before.slot.Orderly inner

instance (before : SendState Task) (event : SendEvent Task) : Decidable (before.Orderly event) :=
  inferInstanceAs (Decidable (∀ inner ∈ slotEvent event, before.slot.Orderly inner))

variable {events : List (SendEvent Task)} {last : SendState Task}

/-- The events that the slot sees are a run of the slot. -/
theorem run_slot (hrun : Run (fun before event after => before.next event = some after) boot events last) :
    Run (fun before event after => before.next event = some after) .empty (events.filterMap slotEvent) last.slot :=
  hrun.simulate slot slotEvent fun _ _ _ => follows_slot

/-- An orderly run of the tasks is an orderly run of the slot. -/
theorem run_slot_orderly
    (hrun : Run (fun before event after => before.next event = some after ∧ before.Orderly event) boot events last) :
    Run (fun before event after => before.next event = some after ∧ before.Orderly event) .empty
      (events.filterMap slotEvent) last.slot := by
  refine hrun.simulate slot slotEvent fun before event after hstep => ?_
  have hfollows := follows_slot hstep.1
  have horderly := hstep.2
  unfold Orderly at horderly
  cases hevent : slotEvent event with
  | none =>
    rw [hevent] at hfollows
    exact hfollows
  | some inner =>
    rw [hevent] at hfollows
    exact ⟨hfollows, horderly inner hevent⟩

/-- In every interleaving of the tasks with the radio, late callbacks included: not more calls return `true`
than the radio reported successes. -/
theorem deliveredCalls_le (hrun : Run (fun before event after => before.next event = some after) boot events last) :
    last.deliveredCalls ≤ last.slot.succeeded := by
  have hcount : last.deliveredCalls = last.slot.delivered :=
    hrun.invariant (fun before event after hbefore hnext => deliveredCalls_next hbefore hnext) rfl
  exact hcount.trans_le (CompletionSlot.delivered_le_succeeded (run_slot hrun))

/-- A neighbour. -/
def nearMac : MacAddress := Vector.replicate 6 1

/-- A report without pages, with the given message id. -/
def emptyReport (messageId : UInt32) : SendCall where
  nextHopMacAddress := nearMac
  message :=
    { header := ⟨PROTOCOL_VERSION, MessageType.NODE_REPORT.toByte, 0, messageId, Vector.replicate 6 2, nearMac,
        DEFAULT_HOP_LIMIT⟩
      payload := Vector.replicate _ 0 }
  padding := Vector.replicate _ 0

/-- The first of two tasks gives up, and the second one takes the late callback for its own. -/
def mixedUp : List (SendEvent Bool) :=
  [.call false (emptyReport 1) true, .mutexTaken false, .drainDone, .reset, .send true, .expire,
    .call true (emptyReport 2) false, .mutexTaken true, .drainDone, .reset, .send true, .store 0 true, .give, .wake, .read]

/-- Two calls, where the first times out and its late status answers the second. -/
theorem deliveredCalls_le_mixedUp :
    ∃ last : SendState Bool, last.results.map (·.2.2) = [false, true] ∧ last.slot.reported = [(0, true)] ∧
      last.deliveredCalls ≤ last.slot.succeeded := by
  have hends : (mixedUp.foldlM next boot).any (fun (last : SendState Bool) =>
      decide (last.results.map (·.2.2) = [false, true] ∧ last.slot.reported = [(0, true)])) = true := by
    decide +kernel
  obtain ⟨last, hlast, hresults⟩ := (Option.any_eq_true _ _).mp hends
  have hstep : ∀ (before : SendState Bool) event after, before.next event = some after →
      before.next event = some after := fun _ _ _ => id
  have hle := deliveredCalls_le (Run.of_foldlM hstep hlast)
  obtain ⟨hreturned, hreported⟩ := of_decide_eq_true hresults
  exact ⟨last, hreturned, hreported, hle⟩

/-- As long as no callback comes so late that the next packet is on its way already: the call of a
task returns `true` only if the radio reported, once and with no failure before or after, that its own
packet has reached the next hop. Without `Orderly` a task may take a late callback for its own. -/
theorem true_was_delivered
    (hrun : Run (fun before event after => before.next event = some after ∧ before.Orderly event) boot events last)
    {task : Task} {call : SendCall} (hresult : (task, call, true) ∈ last.results) :
    ∃ serial, last.packets[serial]? = some call.packet ∧ (serial, true) ∈ last.slot.reported ∧
      (serial, false) ∉ last.slot.reported ∧ (last.slot.reported.map Prod.fst).count serial = 1 := by
  have hlinked : Linked last := by
    refine hrun.invariant (fun before event after hbefore hstep => ?_) linked_boot
    exact linked_next hbefore hstep.1
  obtain ⟨serial, hreturned, hpacket⟩ := hlinked.delivered task call hresult
  obtain ⟨hnodup, hreported⟩ := CompletionSlot.returned_reported (run_slot_orderly hrun)
  have hsuccess := hreported serial true hreturned
  refine ⟨serial, hpacket, hsuccess, fun hfailure => ?_, ?_⟩
  · have hsame := List.inj_on_of_nodup_map hnodup hsuccess hfailure rfl
    exact Bool.noConfusion (Prod.mk.inj hsame).2
  · exact List.count_eq_one_of_mem hnodup (List.mem_map_of_mem hsuccess)

/-- The second task waits for the mutex until the first one has its callback. -/
def oneByOne : List (SendEvent Bool) :=
  [.call false (emptyReport 1) true, .mutexTaken false, .call true (emptyReport 2) false, .drainDone, .reset, .send true,
    .store 0 false, .give, .wake, .read, .mutexTaken true, .drainDone, .reset, .send true, .store 1 true, .give, .wake,
    .read]

/-- Two calls, where the first fails and the second is delivered. -/
theorem true_was_delivered_oneByOne :
    ∃ (last : SendState Bool) (serial : Nat), last.packets[serial]? = some (emptyReport 2).packet ∧
      (serial, true) ∈ last.slot.reported ∧ (serial, false) ∉ last.slot.reported ∧
        (last.slot.reported.map Prod.fst).count serial = 1 := by
  have hends : (oneByOne.foldlM (fun (before : SendState Bool) event =>
      if before.Orderly event then before.next event else none) boot).any (fun (last : SendState Bool) =>
      decide ((true, emptyReport 2, true) ∈ last.results)) = true := by decide +kernel
  obtain ⟨last, hlast, hresult⟩ := (Option.any_eq_true _ _).mp hends
  have hstep : ∀ (before : SendState Bool) event after,
      (if before.Orderly event then before.next event else none) = some after →
        before.next event = some after ∧ before.Orderly event := by
    intro before event after hnext
    obtain ⟨horderly, hnext⟩ := Option.ite_none_right_eq_some.mp hnext
    exact ⟨hnext, horderly⟩
  exact ⟨last, true_was_delivered (Run.of_foldlM hstep hlast) (of_decide_eq_true hresult)⟩

end Runs

end SendState

end kilowatts.SendCompletion
