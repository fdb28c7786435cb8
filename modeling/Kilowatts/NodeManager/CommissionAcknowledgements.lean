import Kilowatts.Library.RequestSlot
import Kilowatts.NodeManager.CommissioningRegistry

namespace kilowatts.CommissioningRegistry

/-- The command that a record waits for. -/
def awaited (record : Option CommissioningEntry) : Option UInt32 :=
  match record with
  | none => none
  | some entry => if entry.syncState = .PENDING then some entry.pendingCommandId else none

namespace Event

/-- The identifier of a request, accepted or not. -/
def requestedId (event : Event) : Option UInt32 :=
  match event.operation with
  | .requestCommissioning _ _ commandId => some commandId
  | _ => none

/-- The event as the slot of one MAC sees it. -/
def onSlot (macAddress : MacAddress) : Event → Option (RequestSlot.Event UInt32)
  | ⟨.requestCommissioning mac _ commandId, true⟩ => if mac = macAddress then some (.request commandId) else none
  | ⟨.applyCommissionResult mac commandId _ _, true⟩ => if mac = macAddress then some (.consume commandId) else none
  | ⟨.decommission mac, true⟩ => if mac = macAddress then some .cancel else none
  | _ => none

/-- A request for this MAC was accepted. -/
def requests (macAddress : MacAddress) (event : Event) : Prop :=
  ∃ friendlyName commandId, event = ⟨.requestCommissioning macAddress friendlyName commandId, true⟩

/-- The record of this MAC was decommissioned. -/
def decommissions (macAddress : MacAddress) (event : Event) : Prop :=
  event = ⟨.decommission macAddress, true⟩

/-- The event is an acknowledgement that the record of this MAC accepted. -/
def consumes (macAddress : MacAddress) (commandId : UInt32) : Event → Bool
  | ⟨.applyCommissionResult mac acknowledged _ _, true⟩ => mac = macAddress && acknowledged = commandId
  | _ => false

end Event

theorem awaited_eq_some_iff {entry : CommissioningEntry} {commandId : UInt32} :
    awaited (some entry) = some commandId ↔ entry.awaits commandId = true := by
  simp [awaited, CommissioningEntry.awaits]

/-- A decommissioned record waits for nothing. -/
def ErasedIsSettled (record : Option CommissioningEntry) : Prop :=
  ∀ entry, record = some entry → entry.lifecycleState = .DECOMMISSIONED → entry.syncState ≠ .PENDING

theorem RecordStep.erasedIsSettled {before after : Option CommissioningEntry} {event : Event}
    (hstep : RecordStep before event after) (hbefore : ErasedIsSettled before) : ErasedIsSettled after := by
  intro entry hentry hstate
  cases hstep with
  | rejected => exact hbefore entry hentry hstate
  | discovered => cases hentry; simp [CommissioningEntry.make, CommissioningEntry.refresh]
  | registered => cases hentry; simp [CommissioningEntry.make, CommissioningEntry.refresh]
  | rediscovered old macAddress identity =>
    cases hentry
    have hold := hbefore old rfl
    unfold CommissioningEntry.rediscover CommissioningEntry.refresh at hstate ⊢
    split at hstate
    · cases hstate
    · rename_i hother
      exact absurd hstate hother
  | measured old macAddress diagnostics => cases hentry; exact hbefore old rfl hstate
  | requested old macAddress friendlyName commandId haccepts =>
    cases hentry
    simp only [CommissioningEntry.request] at hstate
    split at hstate
    · cases hstate
    · rename_i hfirst
      simp [CommissioningEntry.isRename, hfirst, hstate] at haccepts
  | confirmed old macAddress commandId success resultingState hawaits =>
    cases hentry
    cases success <;> simp [CommissioningEntry.confirm]
  | decommissioned => cases hentry; simp [CommissioningEntry.erase]

theorem awaited_refresh (identity : ReportedIdentity) (entry : CommissioningEntry) :
    awaited (some (entry.refresh identity)) = awaited (some entry) := rfl

theorem awaited_rediscover (identity : ReportedIdentity) (entry : CommissioningEntry) :
    awaited (some (entry.rediscover identity)) = awaited (some entry) := by
  rw [CommissioningEntry.rediscover, awaited_refresh]
  split <;> rfl

/-- A record follows the slot of its outstanding request. -/
theorem RecordStep.onSlot {before after : Option CommissioningEntry} {event : Event}
    (hstep : RecordStep before event after) :
    Run.Follows RequestSlot.Step (awaited before) (event.onSlot event.macAddress) (awaited after) := by
  cases hstep with
  | rejected record operation =>
    have hnone : Event.onSlot operation.macAddress ⟨operation, false⟩ = none := by cases operation <;> rfl
    exact hnone ▸ rfl
  | discovered => exact rfl
  | rediscovered entry macAddress identity => exact awaited_rediscover identity entry
  | measured => exact rfl
  | registered => exact rfl
  | requested entry macAddress friendlyName commandId haccepts =>
    have hseen : Event.onSlot macAddress ⟨.requestCommissioning macAddress friendlyName commandId, true⟩ =
        some (.request commandId) := if_pos rfl
    exact hseen ▸ .request (awaited (some entry)) commandId
  | confirmed entry macAddress commandId success resultingState hawaits =>
    have hseen : Event.onSlot macAddress ⟨.applyCommissionResult macAddress commandId success resultingState, true⟩ =
        some (.consume commandId) := if_pos rfl
    have hafter : awaited (some (entry.confirm success resultingState)) = none := by cases success <;> rfl
    rw [awaited_eq_some_iff.mpr hawaits, hafter]
    exact hseen ▸ .consume commandId
  | decommissioned entry macAddress hvalid =>
    have hseen : Event.onSlot macAddress ⟨.decommission macAddress, true⟩ = some .cancel := if_pos rfl
    exact hseen ▸ .cancel (awaited (some entry))

theorem Event.onSlot_of_ne {macAddress : MacAddress} {event : Event} (hother : macAddress ≠ event.macAddress) :
    event.onSlot macAddress = none := by
  obtain ⟨operation, returned⟩ := event
  have hne : ¬ operation.macAddress = macAddress := fun hsame => hother hsame.symm
  cases returned with
  | false => cases operation <;> rfl
  | true =>
    cases operation with
    | requestCommissioning mac friendlyName commandId => exact if_neg hne
    | applyCommissionResult mac commandId success resultingState => exact if_neg hne
    | decommission mac => exact if_neg hne
    | _ => rfl

theorem Event.eq_of_onSlot_request {macAddress : MacAddress} {commandId : UInt32} {event : Event}
    (hseen : event.onSlot macAddress = some (.request commandId)) :
    ∃ friendlyName, event = ⟨.requestCommissioning macAddress friendlyName commandId, true⟩ := by
  unfold Event.onSlot at hseen
  split at hseen
  · rename_i mac friendlyName requested
    split at hseen
    · rename_i hmac
      subst hmac
      obtain rfl := RequestSlot.Event.request.inj (Option.some.inj hseen)
      exact ⟨friendlyName, rfl⟩
    · cases hseen
  · split at hseen <;> cases hseen
  · split at hseen <;> cases hseen
  · cases hseen

/-- Over any history the record of a MAC waits for what its slot holds. -/
theorem slot_run {start registry : CommissioningRegistry} {history : List Event} (hrun : Run Step start history registry)
    (macAddress : MacAddress) :
    Run RequestSlot.Step (awaited (start.findByMac macAddress)) (history.filterMap (·.onSlot macAddress))
      (awaited (registry.findByMac macAddress)) := by
  refine hrun.simulate (fun registry => awaited (registry.findByMac macAddress))
    (fun event => event.onSlot macAddress) ?_
  intro before event after hstep
  obtain ⟨hrecord, hothers⟩ := recordStep_of_step hstep
  by_cases hmac : macAddress = event.macAddress
  · subst hmac
    exact hrecord.onSlot
  · rw [Event.onSlot_of_ne hmac, hothers macAddress hmac]
    exact rfl

theorem mem_of_findByMac {registry : CommissioningRegistry} {macAddress : MacAddress} {entry : CommissioningEntry}
    (hfound : registry.findByMac macAddress = some entry) : entry ∈ registry.entries :=
  KeyedList.mem_of_lookup hfound

section History

variable {persisted : List PersistedCommissioningRecord} {history : List Event} {registry : CommissioningRegistry}

theorem slot_run_loadPersisted (hrun : Run Step (loadPersisted persisted) history registry) (macAddress : MacAddress) :
    Run RequestSlot.Step none (history.filterMap (·.onSlot macAddress)) (awaited (registry.findByMac macAddress)) := by
  have hstart : awaited ((loadPersisted persisted).findByMac macAddress) = none := by
    cases hfound : (loadPersisted persisted).findByMac macAddress with
    | none => rfl
    | some entry => simp [awaited, (settled_of_mem_loadPersisted (mem_of_findByMac hfound)).1]
  exact hstart ▸ slot_run hrun macAddress

theorem erasedIsSettled_of_run (hrun : Run Step (loadPersisted persisted) history registry) (macAddress : MacAddress) :
    ErasedIsSettled (registry.findByMac macAddress) := by
  have hpreserved : ∀ before event after, ErasedIsSettled (before.findByMac macAddress) →
      Step before event after → ErasedIsSettled (after.findByMac macAddress) := by
    intro before event after hbefore hstep
    obtain ⟨hrecord, hothers⟩ := recordStep_of_step hstep
    by_cases hmac : macAddress = event.macAddress
    · subst hmac
      exact hrecord.erasedIsSettled hbefore
    · exact (hothers macAddress hmac).symm ▸ hbefore
  refine hrun.invariant hpreserved fun entry hentry _ => ?_
  simp [(settled_of_mem_loadPersisted (mem_of_findByMac hentry)).1]

/-- A command that is awaited was the last one accepted for its record, and no
acknowledgement and no decommissioning came after it. -/
theorem latest_request_of_awaited (hrun : Run Step (loadPersisted persisted) history registry)
    {macAddress : MacAddress} {commandId : UInt32}
    (hawaited : awaited (registry.findByMac macAddress) = some commandId) :
    ∃ earlier friendlyName later,
      history = earlier ++ ⟨.requestCommissioning macAddress friendlyName commandId, true⟩ :: later ∧
      ∀ event ∈ later, ¬ event.requests macAddress ∧ ¬ event.decommissions macAddress := by
  have hslot := slot_run_loadPersisted hrun macAddress
  rw [hawaited] at hslot
  obtain ⟨before, hsplit⟩ := List.getLast?_eq_some_iff.mp (RequestSlot.getLast?_of_held hslot)
  obtain ⟨earlier, rest, rfl, _, hrest⟩ := List.filterMap_eq_append_iff.mp hsplit
  obtain ⟨silent, event, later, rfl, _, hevent, hlater⟩ := List.filterMap_eq_cons_iff.mp hrest
  obtain ⟨friendlyName, rfl⟩ := Event.eq_of_onSlot_request hevent
  refine ⟨earlier ++ silent, friendlyName, later, by rw [List.append_assoc], fun event hmem => ?_⟩
  have hnone := List.filterMap_eq_nil_iff.mp hlater event hmem
  constructor
  · rintro ⟨name, requested, rfl⟩
    simp [Event.onSlot] at hnone
  · rintro rfl
    simp [Event.onSlot] at hnone

/-- A request that is made once is answered at most once. -/
theorem countP_consumes_le_one (hrun : Run Step (loadPersisted persisted) history registry)
    (hdistinct : (history.filterMap Event.requestedId).Nodup) (macAddress : MacAddress) (commandId : UInt32) :
    history.countP (Event.consumes macAddress commandId) ≤ 1 := by
  have honce : (history.filterMap (·.onSlot macAddress)).count (.request commandId) ≤ 1 := by
    refine le_trans ?_ (List.nodup_iff_count_le_one.mp hdistinct commandId)
    rw [List.count_filterMap, List.count_filterMap]
    refine List.countP_mono_left fun event _ hevent => ?_
    obtain ⟨friendlyName, rfl⟩ := Event.eq_of_onSlot_request (beq_iff_eq.mp hevent)
    simp [Event.requestedId]
  refine le_trans ?_ (RequestSlot.count_consume_le_one (slot_run_loadPersisted hrun macAddress) honce)
  rw [List.count_filterMap]
  refine List.countP_mono_left fun event _ hevent => ?_
  unfold Event.consumes at hevent
  split at hevent
  · simp only [Bool.and_eq_true, decide_eq_true_eq] at hevent
    obtain ⟨rfl, rfl⟩ := hevent
    simp [Event.onSlot]
  · cases hevent

/-- A decommissioned record changes its state by a discovery only. -/
theorem RecordStep.discovery_of_leaves_erased {before after : CommissioningEntry} {event : Event}
    (hstep : RecordStep (some before) event (some after)) (hsettled : ErasedIsSettled (some before))
    (hbefore : before.lifecycleState = .DECOMMISSIONED) (hafter : after.lifecycleState ≠ .DECOMMISSIONED) :
    ∃ identity, event.operation = .recordDiscovered event.macAddress identity := by
  cases hstep with
  | rejected => exact absurd hbefore hafter
  | rediscovered entry macAddress identity => exact ⟨identity, rfl⟩
  | measured => exact absurd hbefore hafter
  | requested entry macAddress friendlyName commandId haccepts =>
    simp [CommissioningEntry.isFirstCommissioning, CommissioningEntry.isRename, hbefore] at haccepts
  | confirmed entry macAddress commandId success resultingState hawaits =>
    simp only [CommissioningEntry.awaits, Bool.and_eq_true, decide_eq_true_eq] at hawaits
    exact absurd hawaits.1 (hsettled before rfl hbefore)
  | decommissioned => exact absurd rfl hafter

/-- An acknowledgement changes a record only if the record waits for it. -/
theorem RecordStep.awaited_of_changed {before after : CommissioningEntry} {event : Event}
    (hstep : RecordStep (some before) event (some after)) {macAddress : MacAddress} {commandId : UInt32}
    {success : Bool} {resultingState : NodeLifecycleState}
    (hacknowledgement : event.operation = .applyCommissionResult macAddress commandId success resultingState)
    (hchanged : after ≠ before) : awaited (some before) = some commandId := by
  cases hstep with
  | rejected => exact absurd rfl hchanged
  | confirmed entry mac acknowledged succeeded result hawaits =>
    obtain ⟨rfl, rfl, rfl, rfl⟩ := Operation.applyCommissionResult.inj hacknowledgement
    exact awaited_eq_some_iff.mpr hawaits
  | _ => cases hacknowledgement

theorem RecordStep.exists_after {before : CommissioningEntry} {after : Option CommissioningEntry} {event : Event}
    (hstep : RecordStep (some before) event after) : ∃ entry, after = some entry := by
  cases hstep <;> exact ⟨_, rfl⟩

/-- After any interleaving of calls: a record leaves DECOMMISSIONED through a discovery only, an
acknowledgement changes it only with the identifier of the latest request that was accepted for it and
before any decommissioning, and no request is consumed by two acknowledgements. Needs distinct identifiers
of the accepted requests; the stored records are arbitrary. -/
theorem stale_acknowledgements_ignored {event : Event} {after : CommissioningRegistry}
    (hrun : Run Step (loadPersisted persisted) history registry) (hstep : Step registry event after)
    (hdistinct : ((history ++ [event]).filterMap Event.requestedId).Nodup)
    {macAddress : MacAddress} {record : CommissioningEntry} (hfound : registry.findByMac macAddress = some record) :
    (∃ changed, after.findByMac macAddress = some changed ∧
      (record.lifecycleState = .DECOMMISSIONED → changed.lifecycleState ≠ .DECOMMISSIONED →
        ∃ identity, event.operation = .recordDiscovered macAddress identity) ∧
      (∀ acknowledged commandId success resultingState,
        event.operation = .applyCommissionResult acknowledged commandId success resultingState →
        changed.lifecycleState ≠ record.lifecycleState ∨ changed.friendlyName ≠ record.friendlyName →
        acknowledged = macAddress ∧ ∃ earlier friendlyName later,
          history = earlier ++ ⟨.requestCommissioning macAddress friendlyName commandId, true⟩ :: later ∧
          ∀ since ∈ later, ¬ since.requests macAddress ∧ ¬ since.decommissions macAddress)) ∧
    ∀ commandId, (history ++ [event]).countP (Event.consumes macAddress commandId) ≤ 1 := by
  refine ⟨?_, countP_consumes_le_one (.snoc hrun hstep) hdistinct macAddress⟩
  obtain ⟨hrecord, hothers⟩ := recordStep_of_step hstep
  by_cases hmac : macAddress = event.macAddress
  · subst hmac
    rw [hfound] at hrecord
    obtain ⟨changed, hchanged⟩ := hrecord.exists_after
    rw [hchanged] at hrecord
    refine ⟨changed, hchanged, fun hbefore hafter => ?_, ?_⟩
    · exact hrecord.discovery_of_leaves_erased (hfound ▸ erasedIsSettled_of_run hrun event.macAddress) hbefore hafter
    · intro acknowledged commandId success resultingState hoperation hdiffers
      have hne : changed ≠ record := by
        rintro rfl
        exact hdiffers.elim (fun hstate => hstate rfl) (fun hname => hname rfl)
      have hawaited := hrecord.awaited_of_changed hoperation hne
      refine ⟨by simp [Event.macAddress, hoperation, Operation.macAddress], ?_⟩
      exact latest_request_of_awaited hrun (hfound ▸ hawaited)
  · refine ⟨record, (hothers macAddress hmac).trans hfound, fun hbefore hafter => absurd hbefore hafter, ?_⟩
    intro acknowledged commandId success resultingState _ hdiffers
    exact absurd hdiffers (by simp)

end History

section Kitchen

def kitchenMac : MacAddress := Vector.replicate 6 2

def kitchenIdentity : ReportedIdentity := ⟨.SMART, [49], [69], [], 0, 100⟩

/-- The Node is commissioned, decommissioned and commissioned again. The acknowledgements
of the first command come back late. -/
def kitchenHistory : List Event :=
  [⟨.recordDiscovered kitchenMac kitchenIdentity, true⟩,
    ⟨.requestCommissioning kitchenMac [75] 1, true⟩,
    ⟨.decommission kitchenMac, true⟩,
    ⟨.recordDiscovered kitchenMac kitchenIdentity, false⟩,
    ⟨.requestCommissioning kitchenMac [76] 2, true⟩,
    ⟨.applyCommissionResult kitchenMac 1 true .COMMISSIONED, false⟩]

def kitchenAcknowledgement : Event := ⟨.applyCommissionResult kitchenMac 2 true .COMMISSIONED, true⟩

def next (before : CommissioningRegistry) (event : Event) : Option CommissioningRegistry :=
  let (after, returned) := before.perform event.operation
  if returned = event.returned then some after else none

theorem step_of_next (before : CommissioningRegistry) (event : Event) (after : CommissioningRegistry)
    (hnext : next before event = some after) : Step before event after := by
  unfold next at hnext
  dsimp only at hnext
  split at hnext
  · rename_i hreturned
    exact Prod.ext (Option.some.inj hnext) hreturned
  · cases hnext

def kitchenRegistry : CommissioningRegistry :=
  kitchenHistory.foldl (fun registry event => (registry.perform event.operation).1) make

/-- The late acknowledgement was refused, the second one names the node. -/
theorem stale_acknowledgements_ignored_kitchen :
    ∃ changed, (kitchenRegistry.perform kitchenAcknowledgement.operation).1.findByMac kitchenMac = some changed ∧
      changed.friendlyName = [76] ∧
      (∃ earlier friendlyName later,
        kitchenHistory = earlier ++ ⟨.requestCommissioning kitchenMac friendlyName 2, true⟩ :: later) ∧
      (kitchenHistory ++ [kitchenAcknowledgement]).countP (Event.consumes kitchenMac 2) ≤ 1 := by
  have hrun : Run Step (loadPersisted []) kitchenHistory kitchenRegistry := .of_foldlM step_of_next (by decide +kernel)
  have hstep : Step kitchenRegistry kitchenAcknowledgement (kitchenRegistry.perform kitchenAcknowledgement.operation).1 :=
    step_of_next _ _ _ (by decide +kernel)
  have hsome : (kitchenRegistry.findByMac kitchenMac).isSome = true := by decide +kernel
  obtain ⟨record, hfound⟩ := Option.isSome_iff_exists.mp hsome
  obtain ⟨⟨changed, hchanged, _, hlatest⟩, honce⟩ :=
    stale_acknowledgements_ignored hrun hstep (by decide +kernel) hfound
  have hnames : (kitchenRegistry.findByMac kitchenMac).map (·.friendlyName) = some [] ∧
      ((kitchenRegistry.perform kitchenAcknowledgement.operation).1.findByMac kitchenMac).map (·.friendlyName) =
        some [76] := by decide +kernel
  rw [hfound, hchanged, Option.map_some, Option.map_some, Option.some.injEq, Option.some.injEq] at hnames
  have hdiffers : changed.friendlyName ≠ record.friendlyName := by simp [hnames]
  obtain ⟨_, earlier, friendlyName, later, hhistory, _⟩ := hlatest kitchenMac 2 true .COMMISSIONED rfl (.inr hdiffers)
  exact ⟨changed, hchanged, hnames.2, ⟨earlier, friendlyName, later, hhistory⟩, honce 2⟩

end Kitchen

end kilowatts.CommissioningRegistry
