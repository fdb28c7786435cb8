import Kilowatts.Central.HardwareCommands
import Kilowatts.Library.Run
import Mathlib.Data.List.Perm.Subperm

namespace kilowatts

namespace RemoteCommands

/-- The pending commands, and those that are about to become pending. -/
def outstanding (system : RemoteCommands) : List PendingHardwareCommand :=
  system.central.pendingHardwareCommands ++ system.dispatching

/-- An acknowledgement of the command has reached Central. -/
def Answered (system : RemoteCommands) (command : RemoteCommand) : Prop :=
  ∃ acknowledgement ∈ system.received, acknowledgement.Matches command.entry

/-- How many final results were published for a command. -/
def finalResults (system : RemoteCommands) (command : RemoteCommand) : Nat :=
  (system.published.map PublishedAcknowledgement.commandId).count command.commandId

/-- Every accepted command whose acknowledgement has reached Central has one final
result. -/
def Resolved (system : RemoteCommands) : Prop :=
  ∀ command ∈ system.sent, system.Answered command → system.finalResults command = 1

end RemoteCommands

open RemoteCommands

/-- No two commands get the same id. -/
def FreshIds (before : RemoteCommands) : RemoteEvent → Prop
  | .configureLoad request => ∀ command ∈ before.sent, command.commandId ≠ request.commandId
  | .removeLoad request => ∀ command ∈ before.sent, command.commandId ≠ request.commandId
  | _ => True

/-- The first acknowledgement of each command is matched: its final result is published,
and the load that it removed is removed with its entry. -/
structure ResolvedStep (localMac : MacAddress) (before : RemoteCommands) (event : RemoteEvent)
    (after : RemoteCommands) : Prop where
  step : RemoteStep localMac before event after
  fresh : FreshIds before event
  resolved : Resolved after
  published : ∀ acknowledgement stateTaken flash, event = .acknowledge acknowledgement stateTaken flash →
    ∀ command ∈ before.sent, acknowledgement.Matches command.entry → ¬ before.Answered command →
      after.published = before.published ++ [HardwareCommandState.finalAcknowledgement acknowledgement.originMac
        acknowledgement.packet command.message.isRemoval]
  removed : ∀ acknowledgement stateTaken flash, event = .acknowledge acknowledgement stateTaken flash →
    ∀ command ∈ before.sent, acknowledgement.Matches command.entry → ¬ before.Answered command →
      command.message.isRemoval = true → acknowledgement.packet.success ≠ 0 →
        after.central.commandState.registry.findLoad command.nodeMacAddress command.message.relayPin = none ∧
          after.central.commandState.centralLoadConfigurationStore.memory.findConfiguration command.nodeMacAddress
            command.message.relayPin = none

/-- The first acknowledgement of each command obtains `stateMutex` in time, and finds
the pending entry of the command. -/
structure MatchedStep (localMac : MacAddress) (before : RemoteCommands) (event : RemoteEvent)
    (after : RemoteCommands) : Prop where
  step : RemoteStep localMac before event after
  fresh : FreshIds before event
  matched : ∀ acknowledgement stateTaken flash, event = .acknowledge acknowledgement stateTaken flash →
    ∀ command ∈ before.sent, acknowledgement.Matches command.entry → ¬ before.Answered command →
      stateTaken = true ∧ command.entry ∈ before.central.pendingHardwareCommands

/-- What holds of the bookkeeping as long as the ids are distinct. -/
structure Tracked (system : RemoteCommands) : Prop where
  ids_nodup : (system.sent.map RemoteCommand.commandId).Nodup
  outstanding_nodup : (system.outstanding.map PendingHardwareCommand.commandId).Nodup
  outstanding_sent : ∀ pending ∈ system.outstanding, ∃ command ∈ system.sent, command.entry = pending
  outstanding_remove : ∀ pending ∈ system.outstanding, pending.remove = true
  published_nodup : (system.published.map PublishedAcknowledgement.commandId).Nodup
  published_answered : ∀ published ∈ system.published,
    ∃ command ∈ system.sent, command.commandId = published.commandId ∧ system.Answered command
  published_settled : ∀ published ∈ system.published, ∀ pending ∈ system.outstanding,
    pending.commandId ≠ published.commandId
  acknowledgements_sent : ∀ acknowledgement ∈ system.acknowledgements,
    ∃ command ∈ system.sent, acknowledgement.Matches command.entry
  received_sent : ∀ acknowledgement ∈ system.received, ∃ command ∈ system.sent, acknowledgement.Matches command.entry
  distinct : system.central.commandState.centralLoadConfigurationStore.memory.Distinct

section Bookkeeping

variable {localMac : MacAddress} {before after : RemoteCommands} {event : RemoteEvent}

/-- Without commands under way there is nothing to keep track of. -/
theorem Idle.tracked (hidle : Idle before) : Tracked before := by
  have houtstanding : before.outstanding = [] := by
    rw [outstanding, hidle.pending, hidle.dispatching, List.append_nil]
  refine ⟨?_, ?_, ?_, ?_, ?_, ?_, ?_, ?_, ?_, hidle.distinct⟩
  · simp [hidle.sent]
  · simp [houtstanding]
  · simp [houtstanding]
  · simp [houtstanding]
  · simp [hidle.published]
  · simp [hidle.published]
  · simp [hidle.published]
  · simp [hidle.acknowledgements]
  · simp [hidle.received]

theorem Idle.resolved (hidle : Idle before) : Resolved before := by
  intro command hcommand
  rw [hidle.sent] at hcommand
  cases hcommand

/-- A command that is found by its id is the only one. -/
theorem Tracked.eq_of_commandId (htracked : Tracked before) {first second : RemoteCommand} (hfirst : first ∈ before.sent)
    (hsecond : second ∈ before.sent) (hid : first.commandId = second.commandId) : first = second :=
  List.inj_on_of_nodup_map htracked.ids_nodup hfirst hsecond hid

/-- An acknowledgement settles a command that it matches exactly if the command is
pending and the lock is obtained. -/
theorem Tracked.settles_iff (htracked : Tracked before) {acknowledgement : SentAcknowledgement} {stateTaken : Bool}
    {command : RemoteCommand} (hcommand : command ∈ before.sent) (hmatches : acknowledgement.Matches command.entry)
    (pending : PendingHardwareCommand) :
    Settles before.central stateTaken acknowledgement pending ↔
      pending = command.entry ∧ stateTaken = true ∧ command.entry ∈ before.central.pendingHardwareCommands := by
  constructor
  · intro hsettles
    obtain ⟨other, hother, rfl⟩ := htracked.outstanding_sent pending (List.mem_append_left _ hsettles.mem)
    obtain rfl := htracked.eq_of_commandId hother hcommand (hsettles.matching.1.trans hmatches.1.symm)
    exact ⟨rfl, hsettles.stateTaken, hsettles.mem⟩
  · rintro ⟨rfl, htaken, hpending⟩
    refine ⟨htaken, ?_, hmatches⟩
    have hnodup : (before.central.pendingHardwareCommands.map PendingHardwareCommand.commandId).Nodup :=
      ((List.sublist_append_left _ _).map _).nodup htracked.outstanding_nodup
    exact (KeyedList.lookup_eq_some_iff hnodup).mpr ⟨hpending, hmatches.1⟩

/-- Every command that an acknowledgement settles was sent. -/
theorem Tracked.sent_of_settles (htracked : Tracked before) {acknowledgement : SentAcknowledgement} {stateTaken : Bool}
    {pending : PendingHardwareCommand} (hsettles : Settles before.central stateTaken acknowledgement pending) :
    ∃ command ∈ before.sent, command.entry = pending :=
  htracked.outstanding_sent pending (List.mem_append_left _ hsettles.mem)

/-- A step that sends and publishes nothing and makes no more commands outstanding. -/
theorem Tracked.of_subperm (htracked : Tracked before) (hsent : after.sent = before.sent)
    (houtstanding : after.outstanding.Subperm before.outstanding)
    (hacknowledgements : ∀ acknowledgement ∈ after.acknowledgements,
      ∃ command ∈ before.sent, acknowledgement.Matches command.entry)
    (hreceived : after.received = before.received) (hpublished : after.published = before.published)
    (hdistinct : after.central.commandState.centralLoadConfigurationStore.memory.Distinct) : Tracked after := by
  obtain ⟨kept, hperm, hsublist⟩ := houtstanding
  have hsubset : ∀ pending ∈ after.outstanding, pending ∈ before.outstanding := fun pending hpending =>
    hsublist.mem (hperm.mem_iff.mpr hpending)
  refine ⟨hsent ▸ htracked.ids_nodup, ?_, fun pending hpending => ?_, fun pending hpending => ?_, ?_,
    fun published hmem => ?_, fun published hmem pending hpending => ?_, ?_, ?_, hdistinct⟩
  · exact (hperm.map _).nodup_iff.mp ((hsublist.map _).nodup htracked.outstanding_nodup)
  · rw [hsent]
    exact htracked.outstanding_sent pending (hsubset pending hpending)
  · exact htracked.outstanding_remove pending (hsubset pending hpending)
  · exact hpublished ▸ htracked.published_nodup
  · obtain ⟨command, hcommand, hid, hanswered⟩ := htracked.published_answered published (hpublished ▸ hmem)
    refine ⟨command, hsent ▸ hcommand, hid, ?_⟩
    rw [Answered, hreceived]
    exact hanswered
  · exact htracked.published_settled published (hpublished ▸ hmem) pending (hsubset pending hpending)
  · rw [hsent]
    exact hacknowledgements
  · rw [hsent, hreceived]
    exact htracked.received_sent

/-- Only a removal is remembered, and so only a removal can be answered. -/
theorem send_outstanding (command : RemoteCommand) (system : RemoteCommands) :
    (system.send command).outstanding =
      system.outstanding ++ if command.message.isRemoval then [command.entry] else [] := by
  rw [outstanding, send, outstanding]
  dsimp only
  split
  · rw [List.append_assoc]
  · rw [List.append_nil]

/-- A new command becomes outstanding if it is a removal. -/
theorem mem_send_outstanding {command : RemoteCommand} {system : RemoteCommands} {pending : PendingHardwareCommand}
    (hpending : pending ∈ (system.send command).outstanding) :
    pending ∈ system.outstanding ∨ (pending = command.entry ∧ command.message.isRemoval = true) := by
  rw [send_outstanding, List.mem_append] at hpending
  refine hpending.imp_right fun hnew => ?_
  split at hnew
  · rename_i hremoval
    exact ⟨List.mem_singleton.mp hnew, hremoval⟩
  · cases hnew

/-- Needs an id that no command before had. -/
theorem Tracked.send (htracked : Tracked before) {command : RemoteCommand}
    (hfresh : ∀ other ∈ before.sent, other.commandId ≠ command.commandId) : Tracked (before.send command) := by
  have hkept : ∀ other ∈ before.sent, other ∈ (before.send command).sent := fun other hother =>
    List.mem_append_left _ hother
  have hnew : command ∈ (before.send command).sent := List.mem_append_right _ (List.mem_singleton_self command)
  have hfreshOutstanding : ∀ pending ∈ before.outstanding, pending.commandId ≠ command.commandId := by
    intro pending hpending
    obtain ⟨other, hother, rfl⟩ := htracked.outstanding_sent pending hpending
    exact hfresh other hother
  refine ⟨?_, ?_, fun pending hpending => ?_, fun pending hpending => ?_, htracked.published_nodup,
    fun published hmem => ?_, fun published hmem pending hpending => ?_, fun acknowledgement hmem => ?_,
    fun acknowledgement hmem => ?_, htracked.distinct⟩
  · rw [RemoteCommands.send, List.map_append, List.map_singleton, ← List.concat_eq_append]
    refine htracked.ids_nodup.concat fun hmem => ?_
    obtain ⟨other, hother, hid⟩ := List.mem_map.mp hmem
    exact hfresh other hother hid
  · rw [send_outstanding]
    split
    · rw [List.map_append, List.map_singleton, ← List.concat_eq_append]
      refine htracked.outstanding_nodup.concat fun hmem => ?_
      obtain ⟨pending, hpending, hid⟩ := List.mem_map.mp hmem
      exact hfreshOutstanding pending hpending hid
    · rw [List.append_nil]
      exact htracked.outstanding_nodup
  · obtain hold | ⟨rfl, -⟩ := mem_send_outstanding hpending
    · obtain ⟨other, hother, hentry⟩ := htracked.outstanding_sent pending hold
      exact ⟨other, hkept other hother, hentry⟩
    · exact ⟨command, hnew, rfl⟩
  · obtain hold | ⟨rfl, hremoval⟩ := mem_send_outstanding hpending
    · exact htracked.outstanding_remove pending hold
    · exact hremoval
  · obtain ⟨other, hother, hid, hanswered⟩ := htracked.published_answered published hmem
    exact ⟨other, hkept other hother, hid, hanswered⟩
  · obtain hold | ⟨rfl, -⟩ := mem_send_outstanding hpending
    · exact htracked.published_settled published hmem pending hold
    · obtain ⟨other, hother, hid, -⟩ := htracked.published_answered published hmem
      exact fun hsame => hfresh other hother (hid.trans hsame.symm)
  · obtain ⟨other, hother, hmatches⟩ := htracked.acknowledgements_sent acknowledgement hmem
    exact ⟨other, hkept other hother, hmatches⟩
  · obtain ⟨other, hother, hmatches⟩ := htracked.received_sent acknowledgement hmem
    exact ⟨other, hkept other hother, hmatches⟩

/-- An entry only moves when it becomes pending. -/
theorem pushPending_outstanding {pending : PendingHardwareCommand} {system : RemoteCommands}
    (hdispatching : pending ∈ system.dispatching) (stateTaken : Bool) :
    (system.pushPending pending stateTaken).outstanding.Subperm system.outstanding := by
  cases stateTaken with
  | false => exact ((List.erase_sublist).append_left _).subperm
  | true =>
    refine List.Perm.subperm ?_
    rw [outstanding, pushPending, if_pos rfl, List.append_assoc]
    exact (List.perm_cons_erase hdispatching).symm.append_left _

/-- A settled command is not outstanding any more, and nor is another one with its id
that is pending. -/
theorem settled_outstanding {acknowledgement : SentAcknowledgement} {stateTaken : Bool}
    {pending : PendingHardwareCommand} (hsettles : Settles before.central stateTaken acknowledgement pending)
    (flash : FlashAnswers) :
    (before.acknowledge acknowledgement stateTaken flash).outstanding =
      before.central.pendingHardwareCommands.filter (fun item => item.commandId != acknowledgement.packet.commandId) ++
        before.dispatching := by
  rw [outstanding, acknowledge, hsettles.handleHardwareConfigurationAcknowledgement flash]
  dsimp only
  split
  · rfl
  · rfl

/-- An acknowledgement that settles nothing is only received. -/
theorem acknowledge_of_not_settles {acknowledgement : SentAcknowledgement} {stateTaken : Bool} (flash : FlashAnswers)
    (hunknown : ∀ pending, ¬ Settles before.central stateTaken acknowledgement pending) :
    before.acknowledge acknowledgement stateTaken flash =
      { before with received := before.received ++ [acknowledgement] } := by
  rw [acknowledge, handleHardwareConfigurationAcknowledgement_of_not_settles hunknown flash]
  simp

/-- An acknowledgement makes nothing outstanding. -/
theorem acknowledge_outstanding (acknowledgement : SentAcknowledgement) (stateTaken : Bool) (flash : FlashAnswers)
    (before : RemoteCommands) :
    (before.acknowledge acknowledgement stateTaken flash).outstanding.Sublist before.outstanding := by
  by_cases hsettles : ∃ pending, Settles before.central stateTaken acknowledgement pending
  · obtain ⟨pending, hsettles⟩ := hsettles
    rw [settled_outstanding hsettles flash]
    exact List.filter_sublist.append_right _
  · rw [acknowledge_of_not_settles flash (not_exists.mp hsettles)]
    exact List.Sublist.refl _

/-- What a matched acknowledgement publishes and removes. -/
theorem acknowledge_of_settles {acknowledgement : SentAcknowledgement} {stateTaken : Bool} {command : RemoteCommand}
    (hsettles : Settles before.central stateTaken acknowledgement command.entry) (flash : FlashAnswers) :
    (before.acknowledge acknowledgement stateTaken flash).published = before.published ++
      [HardwareCommandState.finalAcknowledgement acknowledgement.originMac acknowledgement.packet
        command.message.isRemoval] ∧
      (command.message.isRemoval = true → acknowledgement.packet.success ≠ 0 →
        (before.acknowledge acknowledgement stateTaken flash).central.commandState =
          (before.central.removeLoad flash command.nodeMacAddress command.message.relayPin).commandState) := by
  rw [acknowledge, hsettles.handleHardwareConfigurationAcknowledgement flash]
  refine ⟨rfl, fun hremoval hsuccess => ?_⟩
  have hremove : command.entry.remove = true := hremoval
  obtain ⟨-, hmac, hpin⟩ := hsettles.matching
  dsimp only
  rw [hremove, if_pos (by simpa using hsuccess), ← hmac, ← hpin]
  rfl

/-- A settled command is not outstanding any more. -/
theorem Tracked.of_settles (htracked : Tracked before) {acknowledgement : SentAcknowledgement} {stateTaken : Bool}
    {flash : FlashAnswers} {pending : PendingHardwareCommand}
    (hsettles : Settles before.central stateTaken acknowledgement pending) :
    Tracked (before.acknowledge acknowledgement stateTaken flash) := by
  obtain ⟨command, hcommand, rfl⟩ := htracked.sent_of_settles hsettles
  have hid : command.entry.commandId = acknowledgement.packet.commandId := hsettles.matching.1
  have hentry : command.entry ∈ before.outstanding := List.mem_append_left _ hsettles.mem
  have hpublished := (acknowledge_of_settles hsettles flash).1
  have hsublist := acknowledge_outstanding acknowledgement stateTaken flash before
  have hothers : ∀ other ∈ (before.acknowledge acknowledgement stateTaken flash).outstanding,
      other.commandId ≠ acknowledgement.packet.commandId := by
    intro other hother
    rw [settled_outstanding hsettles, List.mem_append, List.mem_filter] at hother
    obtain ⟨-, hne⟩ | hdispatching := hother
    · simpa using hne
    · intro hsame
      have hnodup := htracked.outstanding_nodup
      rw [outstanding, List.map_append, List.nodup_append] at hnodup
      refine hnodup.2.2 _ (List.mem_map_of_mem hsettles.mem) _ (List.mem_map_of_mem hdispatching) ?_
      exact hid.trans hsame.symm
  have hanswered : ∀ other, before.Answered other → (before.acknowledge acknowledgement stateTaken flash).Answered other := by
    rintro other ⟨received, hreceived, hmatches⟩
    exact ⟨received, List.mem_append_left _ hreceived, hmatches⟩
  refine ⟨htracked.ids_nodup, (hsublist.map _).nodup htracked.outstanding_nodup, fun other hother =>
    htracked.outstanding_sent other (hsublist.mem hother), fun other hother =>
    htracked.outstanding_remove other (hsublist.mem hother), ?_, fun published hmem => ?_,
    fun published hmem other hother => ?_, htracked.acknowledgements_sent, fun received hreceived => ?_, ?_⟩
  · rw [hpublished, List.map_append, List.map_singleton, ← List.concat_eq_append]
    refine htracked.published_nodup.concat fun hmem => ?_
    obtain ⟨published, hmem, hsame⟩ := List.mem_map.mp hmem
    exact htracked.published_settled published hmem _ hentry (hid.trans hsame.symm)
  · rw [hpublished, List.mem_append, List.mem_singleton] at hmem
    obtain hold | rfl := hmem
    · obtain ⟨other, hother, hsame, hreceived⟩ := htracked.published_answered published hold
      exact ⟨other, hother, hsame, hanswered other hreceived⟩
    · refine ⟨command, hcommand, hid, acknowledgement, ?_, hsettles.matching⟩
      exact List.mem_append_right _ (List.mem_singleton_self acknowledgement)
  · rw [hpublished, List.mem_append, List.mem_singleton] at hmem
    obtain hold | rfl := hmem
    · exact htracked.published_settled published hold other (hsublist.mem hother)
    · exact hothers other hother
  · obtain hold | rfl := (List.mem_append.mp hreceived).imp_right List.mem_singleton.mp
    · exact htracked.received_sent received hold
    · exact ⟨command, hcommand, hsettles.matching⟩
  · rw [acknowledge, hsettles.handleHardwareConfigurationAcknowledgement flash]
    dsimp only
    split
    · exact htracked.distinct.removeConfiguration _ _
    · exact htracked.distinct

/-- The acknowledgement must have been sent by a Node; its content is arbitrary. -/
theorem Tracked.acknowledge (htracked : Tracked before) {acknowledgement : SentAcknowledgement}
    (hsent : acknowledgement ∈ before.acknowledgements) (stateTaken : Bool) (flash : FlashAnswers) :
    Tracked (before.acknowledge acknowledgement stateTaken flash) := by
  by_cases hsettles : ∃ pending, Settles before.central stateTaken acknowledgement pending
  · obtain ⟨pending, hsettles⟩ := hsettles
    exact htracked.of_settles hsettles
  · rw [acknowledge_of_not_settles flash (not_exists.mp hsettles)]
    refine { htracked with published_answered := fun published hmem => ?_, received_sent := fun received hreceived => ?_ }
    · obtain ⟨command, hcommand, hid, received, hreceived, hmatches⟩ := htracked.published_answered published hmem
      exact ⟨command, hcommand, hid, received, List.mem_append_left _ hreceived, hmatches⟩
    · obtain hold | rfl := (List.mem_append.mp hreceived).imp_right List.mem_singleton.mp
      · exact htracked.received_sent received hold
      · exact htracked.acknowledgements_sent received hsent

theorem Tracked.step (htracked : Tracked before) (hstep : RemoteStep localMac before event after)
    (hfresh : FreshIds before event) : Tracked after := by
  cases hstep with
  | configureLoad haction =>
    obtain rfl := handleConfigureLoad_packet haction
    exact htracked.send hfresh
  | removeLoad haction =>
    obtain rfl := handleRemoveLoad_packet haction
    exact htracked.send hfresh
  | pushPending hdispatching =>
    exact htracked.of_subperm rfl (pushPending_outstanding hdispatching _) htracked.acknowledgements_sent rfl rfl
      htracked.distinct
  | @execute command answers hsent =>
    refine htracked.of_subperm rfl (List.Perm.refl _).subperm (fun acknowledgement hmem => ?_) rfl rfl htracked.distinct
    obtain hold | rfl := (List.mem_append.mp hmem).imp_right List.mem_singleton.mp
    · exact htracked.acknowledgements_sent acknowledgement hold
    · exact ⟨command, hsent, rfl, rfl, rfl⟩
  | configureOnConsole =>
    exact htracked.of_subperm rfl (List.Perm.refl _).subperm htracked.acknowledgements_sent rfl rfl htracked.distinct
  | acknowledge hsent => exact htracked.acknowledge hsent _ _
  | restart hdistinct =>
    exact htracked.of_subperm rfl (List.nil_sublist _).subperm htracked.acknowledgements_sent rfl rfl hdistinct
  | other hdistinct =>
    exact htracked.of_subperm rfl (List.Perm.refl _).subperm htracked.acknowledgements_sent rfl rfl hdistinct

/-- At most one result is published for a command, so one is the same as some. -/
theorem Tracked.finalResults_eq_one_iff (htracked : Tracked before) (command : RemoteCommand) :
    before.finalResults command = 1 ↔ command.commandId ∈ before.published.map PublishedAcknowledgement.commandId := by
  constructor
  · intro hone
    rw [← List.count_pos_iff]
    rw [finalResults] at hone
    omega
  · intro hmem
    exact List.count_eq_one_of_mem htracked.published_nodup hmem

/-- Only an acknowledgement can leave an answered command without its result. -/
theorem resolved_of_same (hresolved : Resolved before) (hreceived : after.received = before.received)
    (hpublished : after.published = before.published)
    (hsent : ∀ command ∈ after.sent, before.Answered command → command ∈ before.sent) : Resolved after := by
  intro command hcommand hanswered
  rw [Answered, hreceived] at hanswered
  rw [finalResults, hpublished]
  exact hresolved command (hsent command hcommand hanswered) hanswered

/-- A command whose id is fresh was not answered yet. -/
theorem Tracked.resolved_send (htracked : Tracked before) (hresolved : Resolved before) {command : RemoteCommand}
    (hfresh : ∀ other ∈ before.sent, other.commandId ≠ command.commandId) : Resolved (before.send command) := by
  refine resolved_of_same hresolved rfl rfl fun other hother hanswered => ?_
  obtain hold | rfl := (List.mem_append.mp hother).imp_right List.mem_singleton.mp
  · exact hold
  · obtain ⟨acknowledgement, hreceived, hmatches⟩ := hanswered
    obtain ⟨first, hfirst, hsame⟩ := htracked.received_sent acknowledgement hreceived
    exact absurd (hsame.1.trans hmatches.1.symm) (hfresh first hfirst)

/-- An acknowledgement answers just the commands that it matches. -/
theorem answered_acknowledge {acknowledgement : SentAcknowledgement} {stateTaken : Bool} {flash : FlashAnswers}
    {command : RemoteCommand} :
    (before.acknowledge acknowledgement stateTaken flash).Answered command ↔
      before.Answered command ∨ acknowledgement.Matches command.entry := by
  have hreceived : (before.acknowledge acknowledgement stateTaken flash).received =
      before.received ++ [acknowledgement] := rfl
  rw [Answered, hreceived]
  simp [Answered, or_and_right, exists_or]

/-- The first acknowledgement of a command that is published is matched. -/
theorem ResolvedStep.matchedStep (htracked : Tracked before) (hstep : ResolvedStep localMac before event after) :
    MatchedStep localMac before event after := by
  refine ⟨hstep.step, hstep.fresh, ?_⟩
  rintro acknowledgement stateTaken flash rfl command hcommand hmatches hfirst
  have hpublished := hstep.published acknowledgement stateTaken flash rfl command hcommand hmatches hfirst
  have hremote := hstep.step
  cases hremote with
  | acknowledge hsent =>
    by_cases hsettles : ∃ pending, Settles before.central stateTaken acknowledgement pending
    · obtain ⟨pending, hsettles⟩ := hsettles
      exact ((htracked.settles_iff hcommand hmatches pending).mp hsettles).2
    · rw [acknowledge_of_not_settles flash (not_exists.mp hsettles)] at hpublished
      have hlength := congrArg List.length hpublished
      simp at hlength

/-- The first acknowledgement of a command that obtains the lock publishes its result. -/
theorem MatchedStep.settles (htracked : Tracked before) {acknowledgement : SentAcknowledgement} {stateTaken : Bool}
    {flash : FlashAnswers} (hstep : MatchedStep localMac before (.acknowledge acknowledgement stateTaken flash) after)
    {command : RemoteCommand} (hcommand : command ∈ before.sent) (hmatches : acknowledgement.Matches command.entry)
    (hfirst : ¬ before.Answered command) : Settles before.central stateTaken acknowledgement command.entry := by
  have hmatched := hstep.matched acknowledgement stateTaken flash rfl command hcommand hmatches hfirst
  exact (htracked.settles_iff hcommand hmatches command.entry).mpr ⟨rfl, hmatched⟩

/-- With matched steps only, every answered command is resolved. -/
theorem MatchedStep.resolved (htracked : Tracked before) (hresolved : Resolved before)
    (hstep : MatchedStep localMac before event after) : Resolved after := by
  have htrackedAfter := htracked.step hstep.step hstep.fresh
  have hremote := hstep.step
  cases hremote with
  | configureLoad haction =>
    obtain rfl := handleConfigureLoad_packet haction
    exact htracked.resolved_send hresolved hstep.fresh
  | removeLoad haction =>
    obtain rfl := handleRemoveLoad_packet haction
    exact htracked.resolved_send hresolved hstep.fresh
  | pushPending hdispatching => exact resolved_of_same hresolved rfl rfl fun _ hcommand _ => hcommand
  | execute hsent => exact resolved_of_same hresolved rfl rfl fun _ hcommand _ => hcommand
  | configureOnConsole => exact resolved_of_same hresolved rfl rfl fun _ hcommand _ => hcommand
  | restart hdistinct => exact resolved_of_same hresolved rfl rfl fun _ hcommand _ => hcommand
  | other hdistinct => exact resolved_of_same hresolved rfl rfl fun _ hcommand _ => hcommand
  | @acknowledge acknowledgement stateTaken flash hsent =>
    intro command hcommand hanswered
    rw [htrackedAfter.finalResults_eq_one_iff]
    by_cases hfirst : before.Answered command
    · have hone := (htracked.finalResults_eq_one_iff command).mp (hresolved command hcommand hfirst)
      rw [RemoteCommands.acknowledge, List.map_append]
      exact List.mem_append_left _ hone
    · have hmatches := (answered_acknowledge.mp hanswered).resolve_left hfirst
      have hsettles := hstep.settles htracked hcommand hmatches hfirst
      rw [(acknowledge_of_settles hsettles flash).1, List.map_append, List.mem_append]
      exact .inr (List.mem_singleton.mpr hmatches.1)

theorem MatchedStep.resolvedStep (htracked : Tracked before) (hresolved : Resolved before)
    (hstep : MatchedStep localMac before event after) : ResolvedStep localMac before event after := by
  refine ⟨hstep.step, hstep.fresh, hstep.resolved htracked hresolved, ?_, ?_⟩
  · rintro acknowledgement stateTaken flash rfl command hcommand hmatches hfirst
    have hsettles := hstep.settles htracked hcommand hmatches hfirst
    have hremote := hstep.step
    cases hremote with
    | acknowledge hsent => exact (acknowledge_of_settles hsettles flash).1
  · rintro acknowledgement stateTaken flash rfl command hcommand hmatches hfirst hremoval hsuccess
    have hsettles := hstep.settles htracked hcommand hmatches hfirst
    have hremote := hstep.step
    cases hremote with
    | acknowledge hsent =>
      rw [(acknowledge_of_settles hsettles flash).2 hremoval hsuccess]
      refine ⟨(CentralNodeRegistry.removeLoad_findLoad _ command.loadId command.loadId).trans (if_pos rfl), ?_⟩
      exact (LoadConfigurationStore.removeConfiguration_findConfiguration htracked.distinct command.loadId
        command.loadId).trans (if_pos rfl)

/-- A configuration of a Smart Node's load is never pending, so its acknowledgement is
never matched. -/
theorem Tracked.configureLoad_not_pending (htracked : Tracked before) {command : RemoteCommand}
    (hconfigure : command.message.isRemoval = false) :
    command.entry ∉ before.central.pendingHardwareCommands := by
  intro hpending
  have hremove := htracked.outstanding_remove command.entry (List.mem_append_left _ hpending)
  rw [RemoteCommand.entry, hconfigure] at hremove
  cases hremove

end Bookkeeping

/-- Every accepted command is resolved in a run exactly if the first acknowledgement of each command obtains
the lock and finds the command pending. Needs a start at which nothing is pending. -/
theorem commands_resolved_iff {localMac : MacAddress} {start last : RemoteCommands} {events : List RemoteEvent}
    (hidle : Idle start) :
    Run (ResolvedStep localMac) start events last ↔ Run (MatchedStep localMac) start events last := by
  have hpreserved : ∀ before event after, Tracked before ∧ Resolved before →
      ResolvedStep localMac before event after → Tracked after ∧ Resolved after := by
    rintro before event after ⟨htracked, -⟩ hstep
    exact ⟨htracked.step hstep.step hstep.fresh, hstep.resolved⟩
  refine Run.congr hpreserved ?_ ⟨hidle.tracked, hidle.resolved⟩
  rintro before event after ⟨htracked, hbefore⟩
  exact ⟨fun hstep => hstep.matchedStep htracked, fun hstep => hstep.resolvedStep htracked hbefore⟩

section Runs

/-- The Smart Node next to Central, with a pump on pin 4. -/
def pumpHardware (macAddress : MacAddress) : NodeHardware :=
  (NodeHardware.configureNewLoad .succeeding (pumpRequest .none).loadConfiguration
    ⟨⟨.empty, .empty⟩, .empty, .make macAddress⟩).1

/-- A Smart Node with a pump, and nothing under way. -/
def pumpCommands : RemoteCommands where
  central := ⟨⟨oneHopRegistry, oneHopCommissioning, ⟨⟨[]⟩, ⟨[]⟩⟩⟩, []⟩
  dispatching := []
  sent := []
  nodes := pumpHardware
  acknowledgements := []
  received := []
  published := []
  configurations := fun _ => 0

theorem pumpCommands_idle : Idle pumpCommands := ⟨rfl, rfl, rfl, rfl, rfl, rfl, List.nodup_nil⟩

def pumpRemovalRequest : RemoveLoadRequest := ⟨7, Vector.replicate 6 2, true, 4⟩

/-- The removal of the pump as it is sent. -/
def pumpRemoval : RemoteCommand := ⟨Vector.replicate 6 2, .removeLoad ⟨7, 4⟩⟩

/-- A configuration of the pump as it is sent. -/
def pumpConfiguration : RemoteCommand :=
  ⟨Vector.replicate 6 2, .configureLoad (pumpRequest .none).configureLoadCommandPacket⟩

/-- The Node has removed the pump and persisted that. -/
def pumpRemoved : SentAcknowledgement := ⟨Vector.replicate 6 2, ⟨7, 4, 1, 0⟩, true, 0⟩

/-- The Node answers that the pin is configured already. -/
def pumpRefused : SentAcknowledgement := ⟨Vector.replicate 6 2, ⟨1, 4, 0, 3⟩, false, 0⟩

theorem pumpCommands_removeLoad :
    handleRemoveLoad (Vector.replicate 6 1) oneHopRegistry oneHopCommissioning true pumpRemovalRequest =
      .send (Vector.replicate 6 2) ⟨7, 4⟩ := by
  decide +kernel

theorem pumpCommands_configureLoad :
    handleConfigureLoad (Vector.replicate 6 1) oneHopRegistry oneHopCommissioning true (pumpRequest .none) =
      .send (Vector.replicate 6 2) (pumpRequest .none).configureLoadCommandPacket := by
  decide +kernel

/-- The pump is removed: its entry is pending before the acknowledgement arrives. -/
theorem commands_resolved_iff_pump :
    Run (ResolvedStep (Vector.replicate 6 1)) pumpCommands
      [.removeLoad pumpRemovalRequest, .pushPending pumpRemoval.entry true, .execute pumpRemoval .succeeding,
        .acknowledge pumpRemoved true .succeeding]
      (((((pumpCommands.send pumpRemoval).pushPending pumpRemoval.entry true).execute pumpRemoval .succeeding)
        ).acknowledge pumpRemoved true .succeeding) := by
  refine (commands_resolved_iff pumpCommands_idle).mpr ?_
  refine .snoc (.snoc (.snoc (.snoc (.nil _) ⟨.removeLoad pumpCommands_removeLoad, nofun, nofun⟩)
    ⟨.pushPending (by decide +kernel), trivial, nofun⟩) ⟨.execute (by decide +kernel), trivial, nofun⟩)
    ⟨.acknowledge (by decide +kernel), trivial, ?_⟩
  rintro _ _ _ heq command hcommand - -
  cases heq
  obtain rfl := List.mem_singleton.mp hcommand
  exact ⟨rfl, by decide +kernel⟩

/-- A removal is not resolved if its acknowledgement arrives before its entry is
pending, and a configuration never is. -/
theorem accepted_commands_not_resolved :
    (∃ last, Run (fun before event after => RemoteStep (Vector.replicate 6 1) before event after ∧ FreshIds before event)
        pumpCommands [.removeLoad pumpRemovalRequest, .execute pumpRemoval .succeeding,
          .acknowledge pumpRemoved true .succeeding, .pushPending pumpRemoval.entry true] last ∧ ¬ Resolved last) ∧
      ∃ last, Run (fun before event after => RemoteStep (Vector.replicate 6 1) before event after ∧ FreshIds before event)
        pumpCommands [.configureLoad (pumpRequest .none), .execute pumpConfiguration .succeeding,
          .acknowledge pumpRefused true .succeeding] last ∧ ¬ Resolved last := by
  constructor
  · refine ⟨(((pumpCommands.send pumpRemoval).execute pumpRemoval .succeeding).acknowledge pumpRemoved true
      .succeeding).pushPending pumpRemoval.entry true, ?_, fun hresolved => ?_⟩
    · exact .snoc (.snoc (.snoc (.snoc (.nil _) ⟨.removeLoad pumpCommands_removeLoad, nofun⟩)
        ⟨.execute (by decide +kernel), trivial⟩) ⟨.acknowledge (by decide +kernel), trivial⟩)
        ⟨.pushPending (by decide +kernel), trivial⟩
    · have hone := hresolved pumpRemoval (by decide +kernel) ⟨pumpRemoved, by decide +kernel, by decide +kernel⟩
      revert hone
      decide +kernel
  · refine ⟨((pumpCommands.send pumpConfiguration).execute pumpConfiguration .succeeding).acknowledge pumpRefused true
      .succeeding, ?_, fun hresolved => ?_⟩
    · exact .snoc (.snoc (.snoc (.nil _) ⟨.configureLoad pumpCommands_configureLoad, nofun⟩)
        ⟨.execute (by decide +kernel), trivial⟩) ⟨.acknowledge (by decide +kernel), trivial⟩
    · have hone := hresolved pumpConfiguration (by decide +kernel) ⟨pumpRefused, by decide +kernel, by decide +kernel⟩
      revert hone
      decide +kernel

end Runs

end kilowatts
