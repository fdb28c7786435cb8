import Kilowatts.Central.CommandResolution

namespace kilowatts

namespace SentAcknowledgement

/-- The acknowledgement confirms the pending command. -/
structure Confirms (acknowledgement : SentAcknowledgement) (pending : PendingHardwareCommand) : Prop where
  matching : acknowledgement.Matches pending
  success : acknowledgement.packet.success ≠ 0

/-- The acknowledgement is that of a removal, and no load was configured on the pin
since the removal was executed. -/
structure UpToDate (acknowledgement : SentAcknowledgement) (system : RemoteCommands) : Prop where
  removal : acknowledgement.removal = true
  configurations : acknowledgement.configurations = system.configurations acknowledgement.loadId

end SentAcknowledgement

namespace RemoteCommands

/-- The entry of a removal that was sent is confirmed by an acknowledgement on its way. -/
def Confirmed (system : RemoteCommands) (pending : PendingHardwareCommand) : Prop :=
  ∃ acknowledgement ∈ system.acknowledgements, acknowledgement.Confirms pending

end RemoteCommands

open RemoteCommands

def PendingHardwareCommand.loadId (pending : PendingHardwareCommand) : Load.Id :=
  ⟨pending.nodeMacAddress, pending.relayPin⟩

/-- An acknowledgement only removes a load, with its entry, if no load was configured
on the pin since the removal that it acknowledges. -/
structure SafeStep (localMac : MacAddress) (before : RemoteCommands) (event : RemoteEvent) (after : RemoteCommands) :
    Prop where
  step : RemoteStep localMac before event after
  safe : ∀ acknowledgement stateTaken flash, event = .acknowledge acknowledgement stateTaken flash →
    ∀ pending, Settles before.central stateTaken acknowledgement pending → pending.remove = true →
      acknowledgement.packet.success ≠ 0 → acknowledgement.UpToDate before

/-- A load is only configured on a pin when no outstanding removal of the pin is
confirmed yet, or has the id of the command that configures it. And a removal is only
sent when the acknowledgements that would confirm it are those of removals after which
no load was configured on the pin. -/
structure GuardedStep (localMac : MacAddress) (before : RemoteCommands) (event : RemoteEvent) (after : RemoteCommands) :
    Prop where
  step : RemoteStep localMac before event after
  unconfirmed : ∀ pending ∈ before.outstanding, before.configures event = some pending.loadId →
    ¬ before.Confirmed pending
  otherId : ∀ pending ∈ before.outstanding, before.configures event = some pending.loadId →
    ∀ command answers, event = .execute command answers → pending.commandId ≠ command.commandId
  sent : ∀ request, event = .removeLoad request → ∀ acknowledgement ∈ before.acknowledgements,
    acknowledgement.Confirms ⟨request.commandId, request.nodeMacAddress, request.relayPin, true⟩ →
      acknowledgement.UpToDate before

/-- Whatever confirms an outstanding removal is up to date. -/
def Confirmable (system : RemoteCommands) : Prop :=
  ∀ pending ∈ system.outstanding, ∀ acknowledgement ∈ system.acknowledgements, acknowledgement.Confirms pending →
    acknowledgement.UpToDate system

section Guarded

variable {localMac : MacAddress} {before after : RemoteCommands} {event : RemoteEvent}

/-- Nothing is under way that could be confirmed wrongly. -/
theorem Idle.confirmable (hidle : Idle before) : Confirmable before := by
  intro pending _ acknowledgement hmem
  rw [hidle.acknowledgements] at hmem
  cases hmem

theorem upToDate_congr {acknowledgement : SentAcknowledgement} (hupToDate : acknowledgement.UpToDate before)
    (hconfigurations : after.configurations acknowledgement.loadId = before.configurations acknowledgement.loadId) :
    acknowledgement.UpToDate after :=
  ⟨hupToDate.removal, hupToDate.configurations.trans hconfigurations.symm⟩

/-- A step that configures nothing, acknowledges nothing and makes nothing outstanding. -/
theorem Confirmable.of_subset (hconfirmable : Confirmable before)
    (houtstanding : ∀ pending ∈ after.outstanding, pending ∈ before.outstanding)
    (hacknowledgements : after.acknowledgements = before.acknowledgements)
    (hconfigurations : after.configurations = before.configurations) : Confirmable after := by
  intro pending hpending acknowledgement hmem hconfirms
  refine upToDate_congr ?_ (congrFun hconfigurations _)
  exact hconfirmable pending (houtstanding pending hpending) acknowledgement (hacknowledgements ▸ hmem) hconfirms

/-- A confirmed removal is of another pin than the one that is configured. -/
theorem GuardedStep.ne_of_confirms (hstep : GuardedStep localMac before event after) {id : Load.Id}
    (hconfigures : before.configures event = some id) {pending : PendingHardwareCommand}
    (hpending : pending ∈ before.outstanding) {acknowledgement : SentAcknowledgement}
    (hmem : acknowledgement ∈ before.acknowledgements) (hconfirms : acknowledgement.Confirms pending) :
    acknowledgement.loadId ≠ id := by
  rintro rfl
  have hid : pending.loadId = acknowledgement.loadId :=
    Load.Id.ext hconfirms.matching.2.1 hconfirms.matching.2.2
  exact hstep.unconfirmed pending hpending (hid ▸ hconfigures) ⟨acknowledgement, hmem, hconfirms⟩

/-- The invariant of the runs: guarded steps keep it. -/
theorem GuardedStep.confirmable (hconfirmable : Confirmable before) (hstep : GuardedStep localMac before event after) :
    Confirmable after := by
  have hremote := hstep.step
  cases hremote with
  | configureLoad haction =>
    refine hconfirmable.of_subset (fun pending hpending => ?_) rfl rfl
    exact (mem_send_outstanding hpending).resolve_right nofun
  | removeLoad haction =>
    obtain rfl := handleRemoveLoad_packet haction
    intro pending hpending acknowledgement hmem hconfirms
    refine upToDate_congr (?_ : acknowledgement.UpToDate before) rfl
    obtain hold | ⟨rfl, -⟩ := mem_send_outstanding hpending
    · exact hconfirmable pending hold acknowledgement hmem hconfirms
    · exact hstep.sent _ rfl acknowledgement hmem hconfirms
  | pushPending hdispatching =>
    exact hconfirmable.of_subset (fun pending hpending => (pushPending_outstanding hdispatching _).subset hpending) rfl rfl
  | acknowledge hsent =>
    exact hconfirmable.of_subset (fun pending hpending => (acknowledge_outstanding _ _ _ before).mem hpending) rfl rfl
  | restart hdistinct => exact hconfirmable.of_subset nofun rfl rfl
  | other hdistinct => exact hconfirmable.of_subset (fun pending hpending => hpending) rfl rfl
  | @configureOnConsole id hardware =>
    intro pending hpending acknowledgement hmem hconfirms
    have hother := hstep.ne_of_confirms rfl hpending hmem hconfirms
    exact upToDate_congr (hconfirmable pending hpending acknowledgement hmem hconfirms) (Function.update_of_ne hother _ _)
  | @execute command answers hsent =>
    intro pending hpending acknowledgement hmem hconfirms
    obtain hold | rfl := (List.mem_append.mp hmem).imp_right List.mem_singleton.mp
    · refine upToDate_congr (hconfirmable pending hpending acknowledgement hold hconfirms) ?_
      rw [RemoteCommands.execute]
      dsimp only
      cases hconfigures : before.configures (.execute command answers) with
      | some id => exact Function.update_of_ne (hstep.ne_of_confirms hconfigures hpending hold hconfirms) _ _
      | none => rfl
    · -- the new acknowledgement is that of the command itself
      obtain ⟨⟨hid, hmac, hpin⟩, hsuccess⟩ := hconfirms
      have hconfigures : before.configures (.execute command answers) =
          if command.message.isRemoval then none else some command.loadId := by
        rw [configures, show ((before.outcome command answers).2.success != 0) = true by simpa using hsuccess]
        cases command.message.isRemoval <;> rfl
      cases hremoval : command.message.isRemoval with
      | true =>
        rw [hremoval] at hconfigures
        refine ⟨rfl, ?_⟩
        rw [RemoteCommands.execute, hconfigures]
        rfl
      | false =>
        have hload : pending.loadId = command.loadId := Load.Id.ext hmac hpin
        rw [hremoval] at hconfigures
        exact absurd hid (hstep.otherId pending hpending (hload ▸ hconfigures) command answers rfl)

/-- From a state with the invariant, a guarded step is safe. -/
theorem GuardedStep.safeStep (hconfirmable : Confirmable before) (hstep : GuardedStep localMac before event after) :
    SafeStep localMac before event after := by
  refine ⟨hstep.step, ?_⟩
  rintro acknowledgement stateTaken flash rfl pending hsettles - hsuccess
  have hremote := hstep.step
  cases hremote with
  | acknowledge hsent =>
    exact hconfirmable pending (List.mem_append_left _ hsettles.mem) acknowledgement hsent ⟨hsettles.matching, hsuccess⟩

end Guarded

/-- No acknowledgement removes a load that was configured after the removal, in any run that configures no
load on the pin of a confirmed removal and reuses no command id for a removal that is confirmed or
outstanding. Needs a start at which nothing is pending. -/
theorem removals_up_to_date {localMac : MacAddress} {start last : RemoteCommands} {events : List RemoteEvent}
    (hidle : Idle start) (hrun : Run (GuardedStep localMac) start events last) :
    Run (SafeStep localMac) start events last := by
  have hpreserved : ∀ before event after, Confirmable before → GuardedStep localMac before event after →
      Confirmable after := fun before event after hconfirmable hstep => hstep.confirmable hconfirmable
  have hsafe : ∀ before event after, Confirmable before → GuardedStep localMac before event after →
      SafeStep localMac before event after := fun before event after hconfirmable hstep => hstep.safeStep hconfirmable
  exact hrun.mono hpreserved hsafe hidle.confirmable

section Runs

/-- A step that configures nothing, or finds no removal outstanding, and sends no
removal once a Node has acknowledged something. -/
theorem guardedStep_of_quiet {localMac : MacAddress} {before after : RemoteCommands} {event : RemoteEvent}
    (hstep : RemoteStep localMac before event after)
    (hquiet : before.configures event = none ∨ before.outstanding = [])
    (hsent : before.acknowledgements = [] ∨ ∀ request, event ≠ .removeLoad request) :
    GuardedStep localMac before event after := by
  have hnone : ∀ pending ∈ before.outstanding, before.configures event ≠ some pending.loadId := by
    intro pending hpending
    obtain hconfigures | houtstanding := hquiet
    · rw [hconfigures]
      exact nofun
    · rw [houtstanding] at hpending
      cases hpending
  refine ⟨hstep, fun pending hpending hconfigures => absurd hconfigures (hnone pending hpending),
    fun pending hpending hconfigures => absurd hconfigures (hnone pending hpending), ?_⟩
  rintro request rfl acknowledgement hmem
  obtain hnothing | hother := hsent
  · rw [hnothing] at hmem
    cases hmem
  · exact absurd rfl (hother request)

/-- The Node has removed the pump; its answer is still in flight. -/
def pumpRemovalExecuted : RemoteCommands :=
  ((pumpCommands.send pumpRemoval).pushPending pumpRemoval.entry true).execute pumpRemoval .succeeding

theorem pumpRemovalExecuted_run :
    Run (GuardedStep (Vector.replicate 6 1)) pumpCommands
      [.removeLoad pumpRemovalRequest, .pushPending pumpRemoval.entry true, .execute pumpRemoval .succeeding]
      pumpRemovalExecuted :=
  .snoc (.snoc (.snoc (.nil _)
    (guardedStep_of_quiet (.removeLoad pumpCommands_removeLoad) (.inl rfl) (.inl rfl)))
    (guardedStep_of_quiet (.pushPending (by decide +kernel)) (.inl rfl) (.inr nofun)))
    (guardedStep_of_quiet (.execute (by decide +kernel)) (.inl (by decide +kernel)) (.inr nofun))

/-- The pump is removed, and once that is confirmed it is configured again. A copy of
the acknowledgement arrives after that. -/
theorem removals_up_to_date_pump :
    ∃ last, Run (SafeStep (Vector.replicate 6 1)) pumpCommands
      [.removeLoad pumpRemovalRequest, .pushPending pumpRemoval.entry true, .execute pumpRemoval .succeeding,
        .acknowledge pumpRemoved true .succeeding, .configureLoad (pumpRequest .none),
        .execute pumpConfiguration .succeeding, .acknowledge pumpRemoved true .succeeding] last := by
  have hsend : handleConfigureLoad (Vector.replicate 6 1)
      (pumpRemovalExecuted.acknowledge pumpRemoved true .succeeding).central.commandState.registry
      (pumpRemovalExecuted.acknowledge pumpRemoved true .succeeding).central.commandState.commissioningRegistry true
      (pumpRequest .none) = .send (Vector.replicate 6 2) (pumpRequest .none).configureLoadCommandPacket := by
    decide +kernel
  refine ⟨(((pumpRemovalExecuted.acknowledge pumpRemoved true .succeeding).send pumpConfiguration).execute
    pumpConfiguration .succeeding).acknowledge pumpRemoved true .succeeding, removals_up_to_date pumpCommands_idle ?_⟩
  exact .snoc (.snoc (.snoc (.snoc pumpRemovalExecuted_run
    (guardedStep_of_quiet (.acknowledge (by decide +kernel)) (.inl rfl) (.inr nofun)))
    (guardedStep_of_quiet (.configureLoad hsend) (.inl rfl) (.inr nofun)))
    (guardedStep_of_quiet (.execute (by decide +kernel)) (.inr (by decide +kernel)) (.inr nofun)))
    (guardedStep_of_quiet (.acknowledge (by decide +kernel)) (.inl rfl) (.inr nofun))

/-- The pump is configured again before the acknowledgement of its removal arrives, and
the user has set its mode. -/
def pumpReconfigured : RemoteCommands :=
  let configured := (pumpRemovalExecuted.send pumpConfiguration).execute pumpConfiguration .succeeding
  { configured with
    central := { configured.central with
      commandState := ⟨oneHopRegistry, oneHopCommissioning,
        ⟨⟨[⟨Vector.replicate 6 2, 4, 5, .FIXED_ON, .none⟩]⟩, ⟨[]⟩⟩⟩ } }

theorem pumpReconfigured_run :
    Run (RemoteStep (Vector.replicate 6 1)) pumpCommands
      [.removeLoad pumpRemovalRequest, .pushPending pumpRemoval.entry true, .execute pumpRemoval .succeeding,
        .configureLoad (pumpRequest .none), .execute pumpConfiguration .succeeding,
        .other pumpReconfigured.central.commandState pumpReconfigured.nodes] pumpReconfigured := by
  have hstart : Run (RemoteStep (Vector.replicate 6 1)) pumpCommands
      [.removeLoad pumpRemovalRequest, .pushPending pumpRemoval.entry true, .execute pumpRemoval .succeeding]
      pumpRemovalExecuted :=
    pumpRemovalExecuted_run.mono (fun _ _ _ _ _ => trivial) (fun _ _ _ _ hstep => hstep.step) trivial
  exact .snoc (.snoc (.snoc hstart (.configureLoad pumpCommands_configureLoad)) (.execute (by decide +kernel)))
    (.other (List.nodup_singleton _))

/-- The Node does not get the packet of the removal, and its pump is removed on its
console. Then the id of the removal is used again, to configure the pump. -/
def pumpRemovalLost : RemoteCommands :=
  { (pumpCommands.send pumpRemoval).pushPending pumpRemoval.entry true with
    nodes := fun macAddress => ⟨⟨.empty, .empty⟩, .empty, .make macAddress⟩ }

def pumpRequestAgain : ConfigCommandRequest := { pumpRequest .none with commandId := 7 }

def pumpConfigurationAgain : RemoteCommand :=
  ⟨Vector.replicate 6 2, .configureLoad pumpRequestAgain.configureLoadCommandPacket⟩

def pumpConfigured : SentAcknowledgement := ⟨Vector.replicate 6 2, ⟨7, 4, 1, 0⟩, false, 0⟩

theorem pumpConfiguredAgain_run :
    Run (RemoteStep (Vector.replicate 6 1)) pumpCommands
      [.removeLoad pumpRemovalRequest, .pushPending pumpRemoval.entry true,
        .other pumpRemovalLost.central.commandState pumpRemovalLost.nodes, .configureLoad pumpRequestAgain,
        .execute pumpConfigurationAgain .succeeding]
      ((pumpRemovalLost.send pumpConfigurationAgain).execute pumpConfigurationAgain .succeeding) := by
  have hsend : handleConfigureLoad (Vector.replicate 6 1) oneHopRegistry oneHopCommissioning true pumpRequestAgain =
      .send (Vector.replicate 6 2) pumpRequestAgain.configureLoadCommandPacket := by
    decide +kernel
  exact .snoc (.snoc (.snoc (.snoc (.snoc (.nil _) (.removeLoad pumpCommands_removeLoad))
    (.pushPending (by decide +kernel))) (.other List.nodup_nil)) (.configureLoad hsend)) (.execute (by decide +kernel))

/-- A late acknowledgement deletes the settings of the pump that was configured after
the removal and is still there. And the acknowledgement of a configuration is taken for
that of a removal with its id which no Node ever executed. -/
theorem removal_acknowledgement_deletes_newer_load :
    (∃ events before, Run (RemoteStep (Vector.replicate 6 1)) pumpCommands events before ∧
        pumpRemoved ∈ before.acknowledgements ∧
        ¬ SafeStep (Vector.replicate 6 1) before (.acknowledge pumpRemoved true .succeeding)
          (before.acknowledge pumpRemoved true .succeeding) ∧
        ((before.nodes (Vector.replicate 6 2)).node.getLoadByRelayPin 4).isSome ∧
        (before.central.commandState.centralLoadConfigurationStore.memory.findConfiguration
          (Vector.replicate 6 2) 4).isSome ∧
        (before.acknowledge pumpRemoved true
          .succeeding).central.commandState.centralLoadConfigurationStore.memory.findConfiguration
            (Vector.replicate 6 2) 4 = none) ∧
      ∃ events before, Run (RemoteStep (Vector.replicate 6 1)) pumpCommands events before ∧
        pumpConfigured ∈ before.acknowledgements ∧
        ¬ SafeStep (Vector.replicate 6 1) before (.acknowledge pumpConfigured true .succeeding)
          (before.acknowledge pumpConfigured true .succeeding) ∧
        ((before.nodes (Vector.replicate 6 2)).node.getLoadByRelayPin 4).isSome := by
  refine ⟨⟨_, pumpReconfigured, pumpReconfigured_run, by decide +kernel, fun hsafe => ?_, by decide +kernel,
    by decide +kernel, by decide +kernel⟩, ⟨_, _, pumpConfiguredAgain_run, by decide +kernel, fun hsafe => ?_,
    by decide +kernel⟩⟩
  · have hupToDate := hsafe.safe pumpRemoved true .succeeding rfl pumpRemoval.entry
      ⟨rfl, by decide +kernel, by decide +kernel⟩ rfl (by decide)
    have hconfigurations := hupToDate.configurations
    revert hconfigurations
    decide +kernel
  · have hupToDate := hsafe.safe pumpConfigured true .succeeding rfl pumpRemoval.entry
      ⟨rfl, by decide +kernel, by decide +kernel⟩ rfl (by decide)
    cases hupToDate.removal

end Runs

end kilowatts
