import Kilowatts.NodeManager.CommissionAcknowledgements

namespace kilowatts.CommissioningRegistry

/-- The record stands for a Node in commission. -/
def regards (record : Option CommissioningEntry) : Bool :=
  record.any fun entry => isCommissionedLifecycle entry.lifecycleState

/-- Only a record that is being configured or renamed waits for an answer. -/
def AwaitsWhileConfiguring (record : Option CommissioningEntry) : Prop :=
  ∀ entry, record = some entry → entry.syncState = .PENDING →
    entry.lifecycleState = .CONFIGURING ∨ entry.isRename = true

section RecordStep

variable {before after : Option CommissioningEntry}

theorem isRename_eq (entry : CommissioningEntry) : entry.isRename = isCommissionedLifecycle entry.lifecycleState := rfl

theorem RecordStep.awaitsWhileConfiguring {event : Event} (hstep : RecordStep before event after)
    (hbefore : AwaitsWhileConfiguring before) : AwaitsWhileConfiguring after := by
  intro entry hentry hpending
  cases hstep with
  | rejected => exact hbefore entry hentry hpending
  | discovered => cases hentry; cases hpending
  | registered => cases hentry; cases hpending
  | rediscovered old macAddress identity =>
    cases hentry
    unfold CommissioningEntry.rediscover at hpending ⊢
    split at hpending
    · rename_i herased
      have hstate := hbefore old rfl hpending
      simp [CommissioningEntry.isRename, herased] at hstate
    · rename_i hkept
      rw [if_neg hkept]
      exact hbefore old rfl hpending
  | measured old macAddress diagnostics => cases hentry; exact hbefore old rfl hpending
  | requested old macAddress friendlyName commandId haccepts =>
    cases hentry
    by_cases hfirst : old.isFirstCommissioning = true
    · exact .inl (if_pos hfirst)
    · refine .inr ?_
      rw [isRename_eq, CommissioningEntry.request, if_neg hfirst]
      exact haccepts.resolve_left hfirst
  | confirmed old macAddress commandId success resultingState hawaits =>
    cases hentry
    cases success <;> cases hpending
  | decommissioned => cases hentry; cases hpending

variable {macAddress : MacAddress} {returned : Bool}

theorem RecordStep.of_request {friendlyName : List UInt8} {commandId : UInt32}
    (hstep : RecordStep before ⟨.requestCommissioning macAddress friendlyName commandId, returned⟩ after) :
    (returned = false ∧ after = before) ∨ (returned = true ∧ ∃ entry, before = some entry ∧
      after = some (entry.request friendlyName commandId) ∧
      (entry.isFirstCommissioning = true ∨ entry.isRename = true)) := by
  cases hstep with
  | rejected => exact .inl ⟨rfl, rfl⟩
  | requested entry mac name id haccepts => exact .inr ⟨rfl, entry, rfl, rfl, haccepts⟩

theorem RecordStep.of_decommission (hstep : RecordStep before ⟨.decommission macAddress, returned⟩ after) :
    (returned = false ∧ after = before) ∨
      (returned = true ∧ ∃ entry, after = some (CommissioningEntry.erase entry)) := by
  cases hstep with
  | rejected => exact .inl ⟨rfl, rfl⟩
  | decommissioned entry => exact .inr ⟨rfl, entry, rfl⟩

/-- A discovery changes neither what the record waits for nor how it regards the Node. -/
theorem RecordStep.of_discovery {identity : ReportedIdentity}
    (hstep : RecordStep before ⟨.recordDiscovered macAddress identity, returned⟩ after) :
    awaited after = awaited before ∧ regards after = regards before := by
  cases hstep with
  | rejected => exact ⟨rfl, rfl⟩
  | discovered => exact ⟨rfl, rfl⟩
  | rediscovered entry =>
    refine ⟨awaited_rediscover identity entry, ?_⟩
    unfold CommissioningEntry.rediscover
    split
    · rename_i herased
      simp [regards, CommissioningEntry.refresh, herased, isCommissionedLifecycle]
    · rfl

theorem RecordStep.of_measurement {diagnostics : Diagnostics}
    (hstep : RecordStep before ⟨.updateDiagnostics macAddress diagnostics, returned⟩ after) :
    awaited after = awaited before ∧ regards after = regards before := by
  cases hstep with
  | rejected => exact ⟨rfl, rfl⟩
  | measured => exact ⟨rfl, rfl⟩

end RecordStep

/-- An accepted request leaves the regard as it is, and only a commissioned record was waiting. -/
theorem request_regards {entry : CommissioningEntry} (hconfiguring : AwaitsWhileConfiguring (some entry))
    (haccepts : entry.isFirstCommissioning = true ∨ entry.isRename = true) (friendlyName : List UInt8)
    (commandId : UInt32) :
    regards (some (entry.request friendlyName commandId)) = regards (some entry) ∧
      (regards (some entry) = true ∨ awaited (some entry) = none) := by
  by_cases hfirst : entry.isFirstCommissioning = true
  · have hstate := hfirst
    simp only [CommissioningEntry.isFirstCommissioning, Bool.or_eq_true, decide_eq_true_eq] at hstate
    constructor
    · obtain hstate | hstate := hstate <;>
        simp [regards, CommissioningEntry.request, hfirst, hstate, isCommissionedLifecycle]
    · right
      by_contra hwaits
      have hpending : entry.syncState = .PENDING := by
        by_contra hsettled
        exact hwaits (if_neg hsettled)
      have hnamed := hconfiguring entry rfl hpending
      obtain hstate | hstate := hstate <;> simp [CommissioningEntry.isRename, hstate] at hnamed
  · constructor
    · simp [regards, CommissioningEntry.request, hfirst]
    · exact .inl (haccepts.resolve_left hfirst)

theorem confirm_regards (entry : CommissioningEntry) (success : Bool) (resultingState : NodeLifecycleState) :
    awaited (some (entry.confirm success resultingState)) = none ∧
      regards (some (entry.confirm success resultingState)) = isCommissionedLifecycle resultingState := by
  cases success <;> exact ⟨rfl, rfl⟩

theorem applyCommissionResult_of_awaited {registry : CommissioningRegistry} {macAddress : MacAddress}
    {commandId : UInt32} (hawaited : awaited (registry.findByMac macAddress) = some commandId) (success : Bool)
    (resultingState : NodeLifecycleState) :
    ∃ entry : CommissioningEntry,
      (registry.applyCommissionResult macAddress commandId success resultingState).1.findByMac macAddress =
        some (entry.confirm success resultingState) := by
  cases hfound : registry.findByMac macAddress with
  | none =>
    rw [hfound] at hawaited
    cases hawaited
  | some entry =>
    rw [hfound] at hawaited
    have hacts : ActsAt macAddress (some (entry.confirm success resultingState)) registry
        (registry.change macAddress (·.confirm success resultingState)) := actsAt_change (fun _ => rfl) hfound
    refine ⟨entry, ?_⟩
    simp only [applyCommissionResult, hfound, awaited_eq_some_iff.mp hawaited, Bool.not_true, Bool.false_eq_true,
      if_false]
    exact hacts.found

theorem applyCommissionResult_of_not_awaited {registry : CommissioningRegistry} {macAddress : MacAddress}
    {commandId : UInt32} (hawaited : awaited (registry.findByMac macAddress) ≠ some commandId) (success : Bool)
    (resultingState : NodeLifecycleState) :
    (registry.applyCommissionResult macAddress commandId success resultingState).1 = registry := by
  unfold applyCommissionResult
  cases hfound : registry.findByMac macAddress with
  | none => rfl
  | some entry =>
    rw [hfound, ne_eq, awaited_eq_some_iff] at hawaited
    simp [hawaited]

/-- A result that is taken decides how the record regards the Node. -/
theorem applyCommissionResult_regards {registry : CommissioningRegistry} {macAddress : MacAddress} {commandId : UInt32}
    {success : Bool} {resultingState : NodeLifecycleState}
    (happlied : (registry.applyCommissionResult macAddress commandId success resultingState).2 = true) :
    regards ((registry.applyCommissionResult macAddress commandId success resultingState).1.findByMac macAddress) =
      isCommissionedLifecycle resultingState := by
  have hawaited : awaited (registry.findByMac macAddress) = some commandId := by
    cases hfound : registry.findByMac macAddress with
    | none => simp [applyCommissionResult, hfound] at happlied
    | some record =>
      by_contra hother
      rw [awaited_eq_some_iff] at hother
      simp [applyCommissionResult, hfound, hother] at happlied
  obtain ⟨entry, hfound⟩ := applyCommissionResult_of_awaited hawaited success resultingState
  rw [hfound, (confirm_regards entry success resultingState).2]

/-- One call as a run. -/
theorem run_perform (registry : CommissioningRegistry) (operation : Operation) :
    Run Step registry [⟨operation, (registry.perform operation).2⟩] (registry.perform operation).1 :=
  .single rfl

theorem recordStep_perform (registry : CommissioningRegistry) (operation : Operation) :
    RecordStep (registry.findByMac operation.macAddress) ⟨operation, (registry.perform operation).2⟩
      ((registry.perform operation).1.findByMac operation.macAddress) := by
  have hstep : Step registry ⟨operation, (registry.perform operation).2⟩ (registry.perform operation).1 := rfl
  exact (recordStep_of_step hstep).1

end kilowatts.CommissioningRegistry
