import Kilowatts.Central.DispatchedPlan
import Kilowatts.Library.Run

namespace kilowatts

namespace CentralState

open Central

variable (state : CentralState) (clock : CycleClock)

/-- The power that a plan may switch on. -/
def plannedLimitWatts : Rat :=
  state.configuration.powerPlanning.P_budget - state.configuration.powerPlanning.P_reserve

/-- The relays that a cycle commands ON. -/
def onTargets : Finset Load.Id :=
  (((state.runOptimizationCycle clock).dispatchOrder.filter (·.desiredOn)).map RelayTarget.id).toFinset

/-- The relays that the order switches ON. -/
theorem mem_onTargets {id : Load.Id} :
    id ∈ state.onTargets clock ↔
      ∃ target ∈ (state.runOptimizationCycle clock).dispatchOrder, target.desiredOn = true ∧ target.id = id := by
  simp [onTargets, and_assoc]

/-- They are the fixed ones and the selected ones. -/
theorem onTargets_subset :
    state.onTargets clock ⊆
      (state.loadFilter clock).fixedOnLoads.toFinset ∪ (state.selectedAutoLoads clock).toFinset := by
  intro id hid
  obtain ⟨target, htarget, hon, rfl⟩ := (state.mem_onTargets clock).mp hid
  obtain ⟨load, hload, hmode, rfl⟩ := (state.mem_dispatchOrder clock).mp htarget
  rw [RelayTarget.ofLoad_desiredOn] at hon
  rw [RelayTarget.ofLoad_id, (state.cycleUpdate clock).id_apply, Finset.mem_union, List.mem_toFinset, List.mem_toFinset]
  cases hauto : load.isAuto with
  | true =>
    rw [state.cycleUpdate_isOn_of_auto clock hload hauto, List.contains_iff_mem] at hon
    exact .inr hon
  | false =>
    rw [state.cycleUpdate_isOn_of_not_auto clock hauto] at hon
    have hfixedOn : load.mode = .FIXED_ON := by
      obtain hmode | hmode | hmode := hmode
      · simp [Load.isOn, hmode] at hon
      · simp [hauto] at hmode
      · exact hmode
    exact .inl ((state.mem_fixedOnLoads clock).mpr ⟨load, hload, hfixedOn, rfl⟩)

/-- Fixed loads within the limit leave the selection within it, with or without
a valid budget. -/
theorem fixed_add_selected_le_limit (hfixed : state.fixedPowerWatts clock ≤ state.plannedLimitWatts) :
    state.fixedPowerWatts clock + ((state.selectedAutoLoads clock).map (ratingOf state.plannedRegistry)).sum ≤
      state.plannedLimitWatts := by
  cases hfirst : (state.firstBudgetUpdate clock).2 with
  | false =>
    have hselected : state.selectedAutoLoads clock = [] := if_neg (by simp [hfirst])
    rw [hselected, List.map_nil, List.sum_nil, add_zero]
    exact hfixed
  | true =>
    obtain ⟨hprepared, hfirstEq⟩ := state.firstBudgetUpdate_of_success clock hfirst
    obtain ⟨hinputs, -, -, -, hresult⟩ := PowerManager.updatePowerBudget_of_success hprepared
    have hle := state.autoPass_P_auto_le clock hfirst
    rw [state.autoPass_P_auto_eq clock hfirst, hfirstEq, hresult] at hle
    exact PowerManager.add_le_of_le_remaining hle (PowerManager.planningAllowanceWatts_le_afterReserve hinputs) hfixed

/-- The relays a cycle commands ON stay within the limit. -/
theorem onTargets_power_le (hfixed : state.fixedPowerWatts clock ≤ state.plannedLimitWatts) :
    ∑ id ∈ state.onTargets clock, ratingOf state.plannedRegistry id ≤ state.plannedLimitWatts := by
  have hsub := Finset.sum_le_sum_of_subset_of_nonneg (state.onTargets_subset clock)
    fun id _ _ => ratingOf_nonneg state.plannedRegistry id
  have hunion : ∑ id ∈ (state.loadFilter clock).fixedOnLoads.toFinset ∪ (state.selectedAutoLoads clock).toFinset,
        ratingOf state.plannedRegistry id +
      ∑ id ∈ (state.loadFilter clock).fixedOnLoads.toFinset ∩ (state.selectedAutoLoads clock).toFinset,
        ratingOf state.plannedRegistry id =
      ∑ id ∈ (state.loadFilter clock).fixedOnLoads.toFinset, ratingOf state.plannedRegistry id +
        ∑ id ∈ (state.selectedAutoLoads clock).toFinset, ratingOf state.plannedRegistry id :=
    Finset.sum_union_inter
  have hinter : 0 ≤ ∑ id ∈ (state.loadFilter clock).fixedOnLoads.toFinset ∩ (state.selectedAutoLoads clock).toFinset,
      ratingOf state.plannedRegistry id := Finset.sum_nonneg fun id _ => ratingOf_nonneg state.plannedRegistry id
  have hfixedSum : ∑ id ∈ (state.loadFilter clock).fixedOnLoads.toFinset, ratingOf state.plannedRegistry id =
      state.fixedPowerWatts clock := by
    have hratings : ratingOf (state.preparedRegistry clock) = ratingOf state.plannedRegistry :=
      funext (state.ratingOf_preparedRegistry clock)
    rw [fixedPowerWatts, sumFixedOnPowerWatts_eq, hratings, List.sum_toFinset _ (state.fixedOnLoads_nodup clock)]
  have hselectedSum := List.sum_toFinset (ratingOf state.plannedRegistry) (state.selectedAutoLoads_spec clock).1
  have hlimit := state.fixed_add_selected_le_limit clock hfixed
  linarith

end CentralState

namespace RelaySafety

/-- What becomes of one command: the relay is written while Central waits, it is
not written at all, or the wait times out and the command is executed later. A
lost acknowledgement belongs to the first case. -/
inductive WriteOutcome where
  | written
  | failed
  | late
deriving DecidableEq

/-- Central, the rest of the order it is dispatching, the commands whose wait
timed out but which are still under way, and the relays that are really ON. -/
structure Plant where
  central : CentralState
  dispatchOrder : List RelayTarget
  delayed : List RelayTarget
  relaysOn : Finset Load.Id

/-- What can happen to the relays: a plan, a write or its loss, a late write, and other changes of
Central. -/
inductive Event where
  | plan (clock : CycleClock)
  | dispatch (outcome : WriteOutcome)
  | arrive (target : RelayTarget)
  | change (central : CentralState)

/-- What a write leaves ON. -/
def writeRelay (relaysOn : Finset Load.Id) (target : RelayTarget) : Finset Load.Id :=
  if target.desiredOn then insert target.id relaysOn else relaysOn.erase target.id

/-- One planning cycle after the other under a fixed power plan and fixed
ratings. Between cycles Central may change in any way: reports, commands, Nodes
that go silent or come back. `dispatch` never looks at the outcome of the write
before it, as `dispatchRelayOrderWithOnStagger` discards every result. -/
inductive Step (planning : PowerPlanningConfiguration) (rating : Load.Id → Rat) : Plant → Event → Plant → Prop where
  | plan {plant : Plant} {clock : CycleClock} (hidle : plant.dispatchOrder = [])
      (hplanning : plant.central.configuration.powerPlanning = planning)
      (hrating : ∀ load ∈ plant.central.registry.loads, load.powerRatingWatts = rating load.id)
      (hfixed : plant.central.fixedPowerWatts clock ≤ planning.P_budget - planning.P_reserve) :
      Step planning rating plant (.plan clock)
        { plant with
          central := (plant.central.runOptimizationCycle clock).state
          dispatchOrder := (plant.central.runOptimizationCycle clock).dispatchOrder }
  | written {plant : Plant} {target : RelayTarget} {rest : List RelayTarget}
      (hnext : plant.dispatchOrder = target :: rest) :
      Step planning rating plant (.dispatch .written)
        { plant with dispatchOrder := rest, relaysOn := writeRelay plant.relaysOn target }
  | failed {plant : Plant} {target : RelayTarget} {rest : List RelayTarget}
      (hnext : plant.dispatchOrder = target :: rest) :
      Step planning rating plant (.dispatch .failed) { plant with dispatchOrder := rest }
  | late {plant : Plant} {target : RelayTarget} {rest : List RelayTarget}
      (hnext : plant.dispatchOrder = target :: rest) :
      Step planning rating plant (.dispatch .late)
        { plant with dispatchOrder := rest, delayed := plant.delayed ++ [target] }
  | arrive {plant : Plant} {target : RelayTarget} (hdelayed : target ∈ plant.delayed) :
      Step planning rating plant (.arrive target)
        { plant with delayed := plant.delayed.erase target, relaysOn := writeRelay plant.relaysOn target }
  | change {plant : Plant} (central : CentralState) :
      Step planning rating plant (.change central) { plant with central }

/-- When a step releases capacity as the plan assumes: a plan is made only while
no ON command is under way and every relay that is ON is one of its targets, and
an OFF command to a relay that is ON takes effect while Central waits for it. -/
def Releases (plant : Plant) : Event → Prop
  | .plan clock =>
    (∀ target ∈ plant.delayed, target.desiredOn = false) ∧
      ∀ id ∈ plant.relaysOn, id ∈ (plant.central.runOptimizationCycle clock).dispatchOrder.map RelayTarget.id
  | .dispatch outcome =>
    ∀ target rest, plant.dispatchOrder = target :: rest → target.desiredOn = false → target.id ∈ plant.relaysOn →
      outcome = .written
  | .arrive _ => True
  | .change _ => True

/-- The rating of all relays that are really ON. -/
def totalOnWatts (rating : Load.Id → Rat) (plant : Plant) : Rat := ∑ id ∈ plant.relaysOn, rating id

/-- The state of a plan being carried out. `planned` is the set of relays it
commands ON. -/
structure CarriedOut (limit : Rat) (rating : Load.Id → Rat) (planned : Finset Load.Id) (plant : Plant) : Prop where
  on_le : totalOnWatts rating plant ≤ limit
  planned_le : ∑ id ∈ planned, rating id ≤ limit
  order : ∃ offs ons : List RelayTarget, plant.dispatchOrder = offs ++ ons ∧
    (∀ target ∈ offs, target.desiredOn = false) ∧ ∀ target ∈ ons, target.desiredOn = true
  order_planned : ∀ target ∈ plant.dispatchOrder, target.desiredOn = true → target.id ∈ planned
  delayed_planned : ∀ target ∈ plant.delayed, target.desiredOn = true → target.id ∈ planned
  on_planned : ∀ id ∈ plant.relaysOn, id ∈ planned ∨
    ∃ target ∈ plant.dispatchOrder, target.id = id ∧ target.desiredOn = false
  off_first : (∃ target ∈ plant.dispatchOrder, target.desiredOn = false) →
    ∀ target ∈ plant.delayed, target.desiredOn = false

variable {planning : PowerPlanningConfiguration} {rating : Load.Id → Rat}

/-- Fewer relays take no more power. It needs ratings that are not negative. -/
theorem totalOnWatts_mono (hnonneg : ∀ id, 0 ≤ rating id) {before after : Finset Load.Id} (hsub : after ⊆ before) :
    ∑ id ∈ after, rating id ≤ ∑ id ∈ before, rating id :=
  Finset.sum_le_sum_of_subset_of_nonneg hsub fun id _ _ => hnonneg id

theorem writeRelay_off {relaysOn : Finset Load.Id} {target : RelayTarget} (hoff : target.desiredOn = false) :
    writeRelay relaysOn target = relaysOn.erase target.id := by
  simp [writeRelay, hoff]

theorem writeRelay_on {relaysOn : Finset Load.Id} {target : RelayTarget} (hon : target.desiredOn = true) :
    writeRelay relaysOn target = insert target.id relaysOn := by
  simp [writeRelay, hon]

/-- Once no OFF command is left, only planned relays are ON. -/
theorem CarriedOut.on_subset_planned {limit : Rat} {planned : Finset Load.Id} {plant : Plant}
    (hcarried : CarriedOut limit rating planned plant)
    (hnoOff : ∀ target ∈ plant.dispatchOrder, target.desiredOn = true) : plant.relaysOn ⊆ planned := by
  intro id hid
  obtain hplanned | ⟨target, htarget, -, hoff⟩ := hcarried.on_planned id hid
  · exact hplanned
  · rw [hnoOff target htarget] at hoff
    cases hoff

/-- The rest of an order that starts with an ON command holds no OFF command. -/
theorem CarriedOut.all_on_of_head {limit : Rat} {planned : Finset Load.Id} {plant : Plant} {target : RelayTarget}
    {rest : List RelayTarget} (hcarried : CarriedOut limit rating planned plant)
    (hnext : plant.dispatchOrder = target :: rest) (hon : target.desiredOn = true) :
    ∀ other ∈ plant.dispatchOrder, other.desiredOn = true := by
  obtain ⟨offs, ons, horder, hoffs, hons⟩ := hcarried.order
  cases offs with
  | nil =>
    rw [horder, List.nil_append]
    exact hons
  | cons off offs =>
    rw [horder, List.cons_append, List.cons.injEq] at hnext
    have hoff := hoffs off List.mem_cons_self
    rw [hnext.1, hon] at hoff
    cases hoff

/-- After an OFF command, the rest still begins with the OFF commands. -/
theorem CarriedOut.order_tail {limit : Rat} {planned : Finset Load.Id} {plant : Plant} {target : RelayTarget}
    {rest : List RelayTarget} (hcarried : CarriedOut limit rating planned plant)
    (hnext : plant.dispatchOrder = target :: rest) :
    ∃ offs ons : List RelayTarget, rest = offs ++ ons ∧
      (∀ target ∈ offs, target.desiredOn = false) ∧ ∀ target ∈ ons, target.desiredOn = true := by
  obtain ⟨offs, ons, horder, hoffs, hons⟩ := hcarried.order
  cases offs with
  | nil =>
    rw [horder, List.nil_append] at hnext
    subst hnext
    exact ⟨[], rest, rfl, by simp, fun other hother => hons other (List.mem_cons_of_mem _ hother)⟩
  | cons off offs =>
    rw [horder, List.cons_append, List.cons.injEq] at hnext
    exact ⟨offs, ons, hnext.2.symm, fun other hother => hoffs other (List.mem_cons_of_mem _ hother), hons⟩

/-- A write of a planned ON command keeps the bound, since by then only planned
relays are ON. -/
theorem CarriedOut.write_on {limit : Rat} {planned : Finset Load.Id} {plant : Plant} (hnonneg : ∀ id, 0 ≤ rating id)
    (hcarried : CarriedOut limit rating planned plant)
    (hnoOff : ∀ target ∈ plant.dispatchOrder, target.desiredOn = true) {target : RelayTarget}
    (hon : target.desiredOn = true) (hplanned : target.id ∈ planned) :
    writeRelay plant.relaysOn target ⊆ planned ∧ ∑ id ∈ writeRelay plant.relaysOn target, rating id ≤ limit := by
  have hsub : writeRelay plant.relaysOn target ⊆ planned := by
    rw [writeRelay_on hon]
    exact Finset.insert_subset hplanned (hcarried.on_subset_planned hnoOff)
  exact ⟨hsub, (totalOnWatts_mono hnonneg hsub).trans hcarried.planned_le⟩

/-- A write that takes effect keeps the limit. -/
theorem CarriedOut.written {limit : Rat} {planned : Finset Load.Id} {plant : Plant} (hnonneg : ∀ id, 0 ≤ rating id)
    (hcarried : CarriedOut limit rating planned plant) {target : RelayTarget} {rest : List RelayTarget}
    (hnext : plant.dispatchOrder = target :: rest) :
    CarriedOut limit rating planned
      { plant with dispatchOrder := rest, relaysOn := writeRelay plant.relaysOn target } := by
  have hrest : ∀ other ∈ rest, other ∈ plant.dispatchOrder := fun other hother => by
    rw [hnext]
    exact List.mem_cons_of_mem target hother
  have hmem : target ∈ plant.dispatchOrder := hnext ▸ List.mem_cons_self
  cases hon : target.desiredOn with
  | true =>
    have hnoOff := hcarried.all_on_of_head hnext hon
    obtain ⟨hsub, hle⟩ := hcarried.write_on hnonneg hnoOff hon (hcarried.order_planned target hmem hon)
    exact ⟨hle, hcarried.planned_le, hcarried.order_tail hnext,
      fun other hother => hcarried.order_planned other (hrest other hother), hcarried.delayed_planned,
      fun id hid => .inl (hsub hid),
      fun ⟨other, hother, hoff⟩ => hcarried.off_first ⟨other, hrest other hother, hoff⟩⟩
  | false =>
    have hwrite : writeRelay plant.relaysOn target = plant.relaysOn.erase target.id := writeRelay_off hon
    refine ⟨?_, hcarried.planned_le, hcarried.order_tail hnext,
      fun other hother => hcarried.order_planned other (hrest other hother), hcarried.delayed_planned, ?_,
      fun ⟨other, hother, hoff⟩ => hcarried.off_first ⟨other, hrest other hother, hoff⟩⟩
    · refine le_trans ?_ hcarried.on_le
      exact totalOnWatts_mono hnonneg (hwrite ▸ Finset.erase_subset _ _)
    · intro id hid
      rw [hwrite, Finset.mem_erase] at hid
      obtain hplanned | ⟨other, hother, hid', hoff⟩ := hcarried.on_planned id hid.2
      · exact .inl hplanned
      · rw [hnext] at hother
        obtain rfl | hother := List.mem_cons.mp hother
        · exact absurd hid'.symm hid.1
        · exact .inr ⟨other, hother, hid', hoff⟩

/-- A command that does not reach its relay while Central waits leaves the plan
carried out, unless it should have switched a relay OFF. -/
theorem CarriedOut.unwritten {limit : Rat} {planned : Finset Load.Id} {plant : Plant}
    (hcarried : CarriedOut limit rating planned plant) {target : RelayTarget} {rest : List RelayTarget}
    (hnext : plant.dispatchOrder = target :: rest)
    (hoff : target.desiredOn = false → target.id ∉ plant.relaysOn) {delayed : List RelayTarget}
    (hdelayed : ∀ other ∈ delayed, other ∈ plant.delayed ∨ other = target) :
    CarriedOut limit rating planned { plant with dispatchOrder := rest, delayed } := by
  have hrest : ∀ other ∈ rest, other ∈ plant.dispatchOrder := fun other hother => by
    rw [hnext]
    exact List.mem_cons_of_mem target hother
  have hmem : target ∈ plant.dispatchOrder := hnext ▸ List.mem_cons_self
  refine ⟨hcarried.on_le, hcarried.planned_le, hcarried.order_tail hnext,
    fun other hother => hcarried.order_planned other (hrest other hother), ?_, ?_, ?_⟩
  · intro other hother hon
    obtain hother | rfl := hdelayed other hother
    · exact hcarried.delayed_planned other hother hon
    · exact hcarried.order_planned other hmem hon
  · intro id hid
    obtain hplanned | ⟨other, hother, hid', hotherOff⟩ := hcarried.on_planned id hid
    · exact .inl hplanned
    · rw [hnext] at hother
      obtain rfl | hother := List.mem_cons.mp hother
      · exact absurd (hid' ▸ hid) (hoff hotherOff)
      · exact .inr ⟨other, hother, hid', hotherOff⟩
  · rintro ⟨other, hother, hotherOff⟩ late hlate
    obtain hlate | rfl := hdelayed late hlate
    · exact hcarried.off_first ⟨other, hrest other hother, hotherOff⟩ late hlate
    · by_contra hon
      have hall := hcarried.all_on_of_head hnext (by simpa using hon)
      rw [hall other (hrest other hother)] at hotherOff
      cases hotherOff

/-- So does a late one, as it was part of the plan. -/
theorem CarriedOut.arrive {limit : Rat} {planned : Finset Load.Id} {plant : Plant} (hnonneg : ∀ id, 0 ≤ rating id)
    (hcarried : CarriedOut limit rating planned plant) {target : RelayTarget} (htarget : target ∈ plant.delayed) :
    CarriedOut limit rating planned
      { plant with delayed := plant.delayed.erase target, relaysOn := writeRelay plant.relaysOn target } := by
  have hdelayed : ∀ other ∈ plant.delayed.erase target, other ∈ plant.delayed := fun _ => List.mem_of_mem_erase
  cases hon : target.desiredOn with
  | true =>
    have hnoOff : ∀ other ∈ plant.dispatchOrder, other.desiredOn = true := by
      intro other hother
      by_contra hoff
      have hlate := hcarried.off_first ⟨other, hother, by simpa using hoff⟩ target htarget
      rw [hon] at hlate
      cases hlate
    obtain ⟨hsub, hle⟩ := hcarried.write_on hnonneg hnoOff hon (hcarried.delayed_planned target htarget hon)
    exact ⟨hle, hcarried.planned_le, hcarried.order, hcarried.order_planned,
      fun other hother => hcarried.delayed_planned other (hdelayed other hother), fun id hid => .inl (hsub hid),
      fun hoff other hother => hcarried.off_first hoff other (hdelayed other hother)⟩
  | false =>
    have hsub : writeRelay plant.relaysOn target ⊆ plant.relaysOn := by
      rw [writeRelay_off hon]
      exact Finset.erase_subset _ _
    exact ⟨(totalOnWatts_mono hnonneg hsub).trans hcarried.on_le, hcarried.planned_le, hcarried.order,
      hcarried.order_planned, fun other hother => hcarried.delayed_planned other (hdelayed other hother),
      fun id hid => hcarried.on_planned id (hsub hid),
      fun hoff other hother => hcarried.off_first hoff other (hdelayed other hother)⟩

/-- Overrides and plans change no rating. -/
theorem ratingOf_plannedRegistry {central : CentralState} {clock : CycleClock}
    (hrating : ∀ load ∈ central.registry.loads, load.powerRatingWatts = rating load.id) {id : Load.Id}
    (hid : id ∈ central.onTargets clock) : Central.ratingOf central.plannedRegistry id = rating id := by
  obtain ⟨target, htarget, -, rfl⟩ := (central.mem_onTargets clock).mp hid
  obtain ⟨load, hload, -, rfl⟩ := (central.mem_dispatchOrder clock).mp htarget
  have hmem := central.mem_plannedRegistry_of_mem_plannedLoads clock hload
  rw [RelayTarget.ofLoad_id, (central.cycleUpdate clock).id_apply, Central.ratingOf, Central.deref_of_mem hmem]
  rw [central.plannedRegistry_eq, CentralNodeRegistry.mapLoads_loads] at hmem
  obtain ⟨before, hbefore, rfl⟩ := List.mem_map.mp hmem
  have hsame : (central.centralLoadConfigurationStore.applyToLoad before).1.powerRatingWatts =
      before.powerRatingWatts := LoadConfigurationStore.applyToLoad_powerRatingWatts _ _
  exact hsame.trans ((hrating before hbefore).trans
    (congrArg rating (central.centralLoadConfigurationStore.applyToLoad_id before).symm))

/-- A new plan takes over while the relays that are ON are all among its targets. -/
theorem CarriedOut.plan {planned : Finset Load.Id} {plant : Plant} {clock : CycleClock}
    (hcarried : CarriedOut (planning.P_budget - planning.P_reserve) rating planned plant)
    (hplanning : plant.central.configuration.powerPlanning = planning)
    (hrating : ∀ load ∈ plant.central.registry.loads, load.powerRatingWatts = rating load.id)
    (hfixed : plant.central.fixedPowerWatts clock ≤ planning.P_budget - planning.P_reserve)
    (hreleases : Releases plant (.plan clock)) :
    CarriedOut (planning.P_budget - planning.P_reserve) rating (plant.central.onTargets clock)
      { plant with
        central := (plant.central.runOptimizationCycle clock).state
        dispatchOrder := (plant.central.runOptimizationCycle clock).dispatchOrder } := by
  obtain ⟨hdelayed, htargets⟩ := hreleases
  have hlimit : plant.central.plannedLimitWatts = planning.P_budget - planning.P_reserve := by
    rw [CentralState.plannedLimitWatts, hplanning]
  refine ⟨hcarried.on_le, ?_, ?_, ?_, ?_, ?_, fun _ => hdelayed⟩
  · have hle := plant.central.onTargets_power_le clock (hlimit.symm ▸ hfixed)
    rw [hlimit] at hle
    refine le_trans (Finset.sum_le_sum fun id hid => ?_) hle
    exact (ratingOf_plannedRegistry hrating hid).ge
  · exact RelayCommandDispatcher.buildDispatchOrder_phases _
  · intro target htarget hon
    exact (plant.central.mem_onTargets clock).mpr ⟨target, htarget, hon, rfl⟩
  · intro target htarget hon
    rw [hdelayed target htarget] at hon
    cases hon
  · intro id hid
    obtain ⟨target, htarget, rfl⟩ := List.mem_map.mp (htargets id hid)
    cases hon : target.desiredOn with
    | true => exact .inl ((plant.central.mem_onTargets clock).mpr ⟨target, htarget, hon, rfl⟩)
    | false => exact .inr ⟨target, htarget, rfl, hon⟩

/-- One step that releases capacity keeps some plan carried out. -/
theorem CarriedOut.step (hnonneg : ∀ id, 0 ≤ rating id) {before after : Plant} {event : Event}
    (hstep : Step planning rating before event after) (hreleases : Releases before event)
    (hcarried : ∃ planned, CarriedOut (planning.P_budget - planning.P_reserve) rating planned before) :
    ∃ planned, CarriedOut (planning.P_budget - planning.P_reserve) rating planned after := by
  obtain ⟨planned, hcarried⟩ := hcarried
  cases hstep with
  | plan hidle hplanning hrating hfixed => exact ⟨_, hcarried.plan hplanning hrating hfixed hreleases⟩
  | written hnext => exact ⟨planned, hcarried.written hnonneg hnext⟩
  | failed hnext =>
    refine ⟨planned, hcarried.unwritten hnext (fun hoff hon => ?_) fun other hother => .inl hother⟩
    cases hreleases _ _ hnext hoff hon
  | late hnext =>
    refine ⟨planned, hcarried.unwritten hnext (fun hoff hon => ?_) fun other hother => ?_⟩
    · cases hreleases _ _ hnext hoff hon
    · exact (List.mem_append.mp hother).imp_right List.mem_singleton.mp
  | arrive hdelayed => exact ⟨planned, hcarried.arrive hnonneg hdelayed⟩
  | change central => exact ⟨planned, hcarried.on_le, hcarried.planned_le, hcarried.order, hcarried.order_planned,
      hcarried.delayed_planned, hcarried.on_planned, hcarried.off_first⟩

/-- In every run whose steps release capacity, the relays that are really ON stay within the limit after
every write. Each plan is made once the order of the one before has been dispatched. ON commands may fail or
come late, relays that are OFF may miss their commands, and acknowledgements do not matter. Needs ratings
that are not negative, and a start within the limit with nothing on the way. -/
theorem totalOnWatts_le_limit (hnonneg : ∀ id, 0 ≤ rating id) {start last : Plant} {events : List Event}
    (hrun : Run (fun before event after => Step planning rating before event after ∧ Releases before event)
      start events last)
    (hidle : start.dispatchOrder = []) (hdelayed : start.delayed = [])
    (hstart : totalOnWatts rating start ≤ planning.P_budget - planning.P_reserve) :
    totalOnWatts rating last ≤ planning.P_budget - planning.P_reserve := by
  have hinitial : CarriedOut (planning.P_budget - planning.P_reserve) rating start.relaysOn start := by
    refine ⟨hstart, hstart, ⟨[], [], hidle, by simp, by simp⟩, ?_, ?_, fun id hid => .inl hid, ?_⟩
    · simp [hidle]
    · simp [hdelayed]
    · simp [hdelayed]
  have hpreserved : ∀ before event after,
      (∃ planned, CarriedOut (planning.P_budget - planning.P_reserve) rating planned before) →
      Step planning rating before event after ∧ Releases before event →
      ∃ planned, CarriedOut (planning.P_budget - planning.P_reserve) rating planned after :=
    fun before event after hinv hstep => CarriedOut.step hnonneg hstep.1 hstep.2 hinv
  obtain ⟨planned, hcarried⟩ := hrun.invariant hpreserved ⟨start.relaysOn, hinitial⟩
  exact hcarried.on_le

section Runs

open CentralState

/-- The ratings of the three loads. -/
def threeLoadRating (id : Load.Id) : Rat :=
  if id.relayPin = 4 then 30 else if id.relayPin = 5 then 60 else 80

/-- The 60 W load is ON when the plan for the 80 W load is made. -/
def threeLoadStart : Plant := ⟨threeLoadPlant, [], [], {⟨Vector.replicate 6 1, 5⟩}⟩

/-- Right after the first plan. -/
def threeLoadPlanned : Plant :=
  { threeLoadStart with
    central := (threeLoadPlant.runOptimizationCycle noonClock).state
    dispatchOrder := (threeLoadPlant.runOptimizationCycle noonClock).dispatchOrder }

/-- The FIXED_ON load of 30 W. -/
def fixedTarget : RelayTarget := ⟨Vector.replicate 6 1, 4, true⟩

/-- The load of 80 W that is selected. -/
def heavyTarget : RelayTarget := ⟨Vector.replicate 6 1, 12, true⟩

/-- The load of 60 W that was ON and is not selected. -/
def lightOffTarget : RelayTarget := ⟨Vector.replicate 6 1, 5, false⟩

/-- The 60 W load is switched OFF while Central waits, the command to the 80 W load times out, the
FIXED_ON load is switched ON, and the late command arrives. -/
def lateOnEvents : List Event :=
  [.plan noonClock, .dispatch .written, .dispatch .late, .dispatch .written, .arrive heavyTarget]

/-- After every OFF and ON write, 110 W are ON in the end. -/
theorem totalOnWatts_le_limit_threeLoadPlant :
    ∃ last, Run (fun before event after =>
        Step threeLoadPlant.configuration.powerPlanning threeLoadRating before event after ∧ Releases before event)
      threeLoadStart lateOnEvents last ∧
      last.relaysOn = {heavyTarget.id, fixedTarget.id} ∧ totalOnWatts threeLoadRating last ≤ 150 - 20 := by
  have horder : threeLoadPlanned.dispatchOrder = [lightOffTarget, heavyTarget, fixedTarget] := by decide +kernel
  have hplan : Step threeLoadPlant.configuration.powerPlanning threeLoadRating threeLoadStart (.plan noonClock)
      threeLoadPlanned :=
    .plan rfl rfl (by decide +kernel) (by decide +kernel)
  have hplanReleases : Releases threeLoadStart (.plan noonClock) := ⟨by simp [threeLoadStart], by decide +kernel⟩
  have hoffReleases : Releases threeLoadPlanned (.dispatch .written) := fun _ _ _ _ _ => rfl
  have hon : ∀ {plant : Plant} {target : RelayTarget} {rest : List RelayTarget} (outcome : WriteOutcome),
      plant.dispatchOrder = target :: rest → target.desiredOn = true → Releases plant (.dispatch outcome) := by
    intro plant target rest outcome hnext hon other others hother hoff
    obtain ⟨rfl, -⟩ := List.cons.inj (hnext.symm.trans hother)
    rw [hon] at hoff
    cases hoff
  have hnonneg : ∀ id, 0 ≤ threeLoadRating id := by
    intro id
    unfold threeLoadRating
    split_ifs <;> norm_num
  have hplanned : Run (fun before event after =>
      Step threeLoadPlant.configuration.powerPlanning threeLoadRating before event after ∧ Releases before event)
      threeLoadStart [.plan noonClock] threeLoadPlanned := .single ⟨hplan, hplanReleases⟩
  have hoff := hplanned.snoc ⟨.written horder, hoffReleases⟩
  have hlate := hoff.snoc ⟨.late rfl, hon .late rfl rfl⟩
  have hfixed := hlate.snoc ⟨.written rfl, hon .written rfl rfl⟩
  have harrived := hfixed.snoc ⟨.arrive List.mem_cons_self, trivial⟩
  exact ⟨_, harrived, by decide +kernel, totalOnWatts_le_limit hnonneg harrived rfl rfl (by decide +kernel)⟩

/-- Central with an AUTO load of 60 W, and a Smart Node with another one that was
last heard of 20 seconds ago. 100 W are planned without a reserve. -/
def silentNodePlant : CentralState :=
  { threeLoadPlant with
    registry :=
      { planningNodes := [
          { node := {
              macAddress := Vector.replicate 6 1
              loads := [.make ⟨Vector.replicate 6 1, 12⟩ [66] (.finite 60) 7 .AC .AUTO_OFF]
              loads_mac := by decide +kernel
              pins_nodup := by decide +kernel }
            nodeName := [67]
            nextHopToCentralMacAddress := Vector.replicate 6 1
            hopCountToCentral := 0
            isCentralNode := true
            lastSeenMilliseconds := 0
            pendingReport := .none },
          { node := {
              macAddress := Vector.replicate 6 2
              loads := [.make ⟨Vector.replicate 6 2, 5⟩ [65] (.finite 60) 7 .AC .AUTO_ON]
              loads_mac := by decide +kernel
              pins_nodup := by decide +kernel }
            nodeName := [83]
            nextHopToCentralMacAddress := Vector.replicate 6 1
            hopCountToCentral := 1
            isCentralNode := false
            lastSeenMilliseconds := 0
            pendingReport := .none }]
        macs_nodup := by decide +kernel }
    commissioningRegistry := ⟨[⟨Vector.replicate 6 2, .SMART, .OPERATIONAL⟩]⟩
    configuration := { threeLoadPlant.configuration with powerPlanning := ⟨true, 100, 0, 0, 0⟩ } }

/-- The last report of the Node is too old by then. -/
def silentNodeClock : CycleClock := { noonClock with nowMilliseconds := 20000 }

def silentNodeStart : Plant := ⟨silentNodePlant, [], [], {⟨Vector.replicate 6 2, 5⟩}⟩

def silentNodePlanned : Plant :=
  { silentNodeStart with
    central := (silentNodePlant.runOptimizationCycle silentNodeClock).state
    dispatchOrder := (silentNodePlant.runOptimizationCycle silentNodeClock).dispatchOrder }

def silentNodeLast : Plant :=
  { silentNodePlanned with
    dispatchOrder := []
    relaysOn := writeRelay silentNodeStart.relaysOn ⟨Vector.replicate 6 1, 12, true⟩ }

/-- The relay of the silent Node stays ON outside the plan, and the plan fills
the limit without it: 120 W are ON although every write succeeded. -/
theorem totalOnWatts_silentNode_gt_limit :
    Run (Step silentNodePlant.configuration.powerPlanning fun _ => 60) silentNodeStart
      [.plan silentNodeClock, .dispatch .written] silentNodeLast ∧
    silentNodeStart.dispatchOrder = [] ∧ silentNodeStart.delayed = [] ∧
    totalOnWatts (fun _ => 60) silentNodeStart ≤ 100 - 0 ∧
    ¬ totalOnWatts (fun _ => 60) silentNodeLast ≤ 100 - 0 := by
  have hplan : Step silentNodePlant.configuration.powerPlanning (fun _ => 60) silentNodeStart (.plan silentNodeClock)
      silentNodePlanned :=
    .plan rfl rfl (by decide +kernel) (by decide +kernel)
  have horder : silentNodePlanned.dispatchOrder = [⟨Vector.replicate 6 1, 12, true⟩] := by decide +kernel
  have hwrite : Step silentNodePlant.configuration.powerPlanning (fun _ => 60) silentNodePlanned
      (.dispatch .written) silentNodeLast := .written horder
  exact ⟨.snoc (.single hplan) hwrite, rfl, rfl, by decide +kernel, by decide +kernel⟩

end Runs

end RelaySafety

end kilowatts
