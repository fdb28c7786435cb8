import Kilowatts.NodeManager.CommissionAcknowledgements

namespace kilowatts.CommissioningRegistry

/-- An accepted acknowledgement carries a declared state. -/
def Event.resultDeclared : Event → Bool
  | ⟨.applyCommissionResult _ _ _ resultingState, true⟩ => resultingState.isDeclared
  | _ => true

/-- A change of the state is legal, or it is what an accepted acknowledgement reports. -/
theorem RecordStep.transition {before after : CommissioningEntry} {event : Event}
    (hstep : RecordStep (some before) event (some after)) (hchanged : after.lifecycleState ≠ before.lifecycleState) :
    isValidNodeLifecycleTransition before.lifecycleState after.lifecycleState = true ∨
      ∃ macAddress commandId success, before.awaits commandId = true ∧
        event = ⟨.applyCommissionResult macAddress commandId success after.lifecycleState, true⟩ := by
  cases hstep with
  | rejected => exact absurd rfl hchanged
  | rediscovered old macAddress identity =>
    left
    unfold CommissioningEntry.rediscover at hchanged ⊢
    by_cases herased : before.lifecycleState = .DECOMMISSIONED
    · rw [if_pos herased, herased]
      rfl
    · rw [if_neg herased] at hchanged
      exact absurd rfl hchanged
  | measured => exact absurd rfl hchanged
  | requested old macAddress friendlyName commandId haccepts =>
    left
    by_cases hfirst : before.isFirstCommissioning = true
    · simp only [CommissioningEntry.request, hfirst, if_true]
      simp only [CommissioningEntry.isFirstCommissioning, Bool.or_eq_true, decide_eq_true_eq] at hfirst
      obtain hstate | hstate := hfirst
      · rw [hstate]
        rfl
      · rw [hstate]
        rfl
    · exact absurd (if_neg hfirst) hchanged
  | confirmed old macAddress commandId success resultingState hawaits =>
    exact .inr ⟨macAddress, commandId, success, hawaits, rfl⟩
  | decommissioned old macAddress hvalid => exact .inl hvalid

/-- A record comes into being in a declared state, and keeps to them. -/
theorem RecordStep.isDeclared {before : Option CommissioningEntry} {after : CommissioningEntry} {event : Event}
    (hstep : RecordStep before event (some after)) (hresult : event.resultDeclared = true)
    (hbefore : ∀ entry, before = some entry → entry.lifecycleState.isDeclared = true) :
    after.lifecycleState.isDeclared = true := by
  cases hstep with
  | rejected => exact hbefore after rfl
  | discovered => rfl
  | registered => rfl
  | measured old macAddress diagnostics => exact hbefore old rfl
  | rediscovered old macAddress identity =>
    unfold CommissioningEntry.rediscover
    split
    · rfl
    · exact hbefore old rfl
  | requested old macAddress friendlyName commandId haccepts =>
    simp only [CommissioningEntry.request]
    split
    · rfl
    · exact hbefore old rfl
  | confirmed => exact hresult
  | decommissioned => rfl

def AllDeclared (registry : CommissioningRegistry) : Prop :=
  ∀ entry ∈ registry.entries, entry.lifecycleState.isDeclared = true

theorem allDeclared_loadPersisted (persisted : List PersistedCommissioningRecord) :
    AllDeclared (loadPersisted persisted) := by
  intro entry hentry
  have hstate := (settled_of_mem_loadPersisted hentry).2
  simp only [isPersistedState, Bool.or_eq_true, decide_eq_true_eq] at hstate
  obtain (hstate | hstate) | hstate := hstate <;> rw [hstate] <;> rfl

theorem allDeclared_step {before after : CommissioningRegistry} {event : Event} (hstep : Step before event after)
    (hresult : event.resultDeclared = true) (hbefore : AllDeclared before) : AllDeclared after := by
  intro entry hentry
  obtain ⟨record, hrecord, hacts⟩ := actsAt_of_step hstep
  obtain hold | rfl := hacts.entries entry hentry
  · exact hbefore entry hold
  · exact hrecord.isDeclared hresult fun old hold => hbefore old (mem_of_findByMac hold)

theorem allDeclared_run {start registry : CommissioningRegistry} {history : List Event}
    (hrun : Run Step start history registry) (hresults : ∀ event ∈ history, event.resultDeclared = true)
    (hstart : AllDeclared start) : AllDeclared registry := by
  induction hrun with
  | nil => exact hstart
  | snoc _ hstep ih =>
    refine allDeclared_step hstep (hresults _ (by simp)) (ih ?_)
    exact fun event hevent => hresults event (List.mem_append_left _ hevent)

/-- In every reachable registry, a call changes the state of a record by a legal transition, or the record
waits for the acknowledgement that is applied and takes the state that it reports. As long as
acknowledgements report declared states, all records stand in such. The stored records are arbitrary. -/
theorem lifecycle_transitions {persisted : List PersistedCommissioningRecord} {history : List Event}
    {registry after : CommissioningRegistry} {event : Event}
    (hrun : Run Step (loadPersisted persisted) history registry) (hstep : Step registry event after) :
    (∀ macAddress record changed, registry.findByMac macAddress = some record →
      after.findByMac macAddress = some changed → changed.lifecycleState ≠ record.lifecycleState →
      isValidNodeLifecycleTransition record.lifecycleState changed.lifecycleState = true ∨
        ∃ commandId success, record.awaits commandId = true ∧
          event = ⟨.applyCommissionResult macAddress commandId success changed.lifecycleState, true⟩) ∧
    ((∀ earlier ∈ history ++ [event], earlier.resultDeclared = true) → AllDeclared after) := by
  constructor
  · intro macAddress record changed hfound hafter hchanged
    obtain ⟨hrecord, hothers⟩ := recordStep_of_step hstep
    by_cases hmac : macAddress = event.macAddress
    · rw [← hmac, hfound, hafter] at hrecord
      refine (hrecord.transition hchanged).imp_right ?_
      rintro ⟨acknowledged, commandId, success, hawaits, hevent⟩
      refine ⟨commandId, success, hawaits, ?_⟩
      rw [hevent] at hmac
      exact hmac ▸ hevent
    · rw [hothers macAddress hmac, hfound] at hafter
      exact absurd (congrArg (·.lifecycleState) (Option.some.inj hafter).symm) hchanged
  · intro hresults
    exact allDeclared_run (.snoc hrun hstep) hresults (allDeclared_loadPersisted persisted)

section Kitchen

/-- The node of the kitchen is commissioned, factory-reset and renamed. -/
def renamedHistory : List Event :=
  [⟨.recordDiscovered kitchenMac kitchenIdentity, true⟩,
    ⟨.requestCommissioning kitchenMac [75] 1, true⟩,
    ⟨.applyCommissionResult kitchenMac 1 true .COMMISSIONED, true⟩,
    ⟨.requestCommissioning kitchenMac [76] 2, true⟩]

/-- It could not store the name and is uncommissioned. -/
def rejectedRename : Event := ⟨.applyCommissionResult kitchenMac 2 false .UNCOMMISSIONED, true⟩

def renamedRegistry : CommissioningRegistry :=
  renamedHistory.foldl (fun registry event => (registry.perform event.operation).1) make

theorem renamed_run : Run Step (loadPersisted []) renamedHistory renamedRegistry :=
  .of_foldlM step_of_next (by decide +kernel)

theorem lifecycle_transitions_kitchen : AllDeclared (renamedRegistry.perform rejectedRename.operation).1 :=
  (lifecycle_transitions renamed_run (step_of_next _ rejectedRename _ (by decide +kernel))).2 (by decide +kernel)

/-- The record moves from COMMISSIONED back to UNCOMMISSIONED. -/
theorem illegal_transition_on_rejected_rename :
    ¬ ∀ (persisted : List PersistedCommissioningRecord) (history : List Event) (registry after : CommissioningRegistry)
      (event : Event), Run Step (loadPersisted persisted) history registry → Step registry event after →
      ∀ macAddress record changed, registry.findByMac macAddress = some record →
        after.findByMac macAddress = some changed → changed.lifecycleState ≠ record.lifecycleState →
        isValidNodeLifecycleTransition record.lifecycleState changed.lifecycleState = true := by
  intro hlegal
  have hstep : Step renamedRegistry rejectedRename (renamedRegistry.perform rejectedRename.operation).1 :=
    step_of_next _ _ _ (by decide +kernel)
  have hstates : (renamedRegistry.findByMac kitchenMac).map (·.lifecycleState) = some .COMMISSIONED ∧
      ((renamedRegistry.perform rejectedRename.operation).1.findByMac kitchenMac).map (·.lifecycleState) =
        some .UNCOMMISSIONED := by decide +kernel
  obtain ⟨record, hfound, hrecord⟩ := Option.map_eq_some_iff.mp hstates.1
  obtain ⟨changed, hafter, hchanged⟩ := Option.map_eq_some_iff.mp hstates.2
  have hvalid := hlegal [] renamedHistory _ _ _ renamed_run hstep kitchenMac record changed hfound hafter
  rw [hrecord, hchanged] at hvalid
  exact absurd (hvalid (by decide)) (by decide)

end Kitchen

end kilowatts.CommissioningRegistry
