import Kilowatts.BestFirstSearch.Optimality

namespace kilowatts

namespace BestFirstSearch

variable {Pointer : Type}

/-- Whether the schedule of a load is found active at one reading of the clock. -/
def scheduleActive (search : BestFirstSearch Pointer) (currentTimeProvider : CurrentTimeProvider)
    (load : Pointer) : Bool :=
  match search.deref load with
  | none => false
  | some load =>
    match LoadScheduleEvaluator.evaluateSchedule load currentTimeProvider with
    | none => false
    | some scheduleEvaluation => scheduleEvaluation.isScheduleActive

/-- The boost is all that an active schedule adds. -/
theorem effectivePriorityOf_eq (search : BestFirstSearch Pointer) (currentTimeProvider : CurrentTimeProvider)
    (load : Pointer) :
    search.effectivePriorityOf currentTimeProvider load =
      search.configuredPriorityOf load +
        if search.scheduleActive currentTimeProvider load then ACTIVE_SCHEDULE_PRIORITY_BOOST else 0 := by
  unfold effectivePriorityOf configuredPriorityOf scheduleActive
  cases search.deref load with
  | none => rfl
  | some load =>
    cases hevaluate : LoadScheduleEvaluator.evaluateSchedule load currentTimeProvider with
    | none => simp [hevaluate]
    | some scheduleEvaluation => cases hactive : scheduleEvaluation.isScheduleActive <;> simp [hevaluate, hactive]

/-- Every reading of the clock during one run finds the schedules of the loads as
`active` has them. A clock that stands still does so, and so does one that
passes no start or end of a schedule. -/
def ReadsActivity (search : BestFirstSearch Pointer) (active : Pointer → Bool) : Prop :=
  ∀ combination load, search.scheduleActive (search.currentTimeProvider combination load) load = active load

/-- The priority of a load in a run whose readings find `active`. -/
def priorityWith (search : BestFirstSearch Pointer) (active : Pointer → Bool) (load : Pointer) : Nat :=
  search.configuredPriorityOf load + if active load then ACTIVE_SCHEDULE_PRIORITY_BOOST else 0

/-- The merit of a set of loads in a run whose readings find `active`. -/
def meritWith (search : BestFirstSearch Pointer) (active : Pointer → Bool) (chosen : Finset Pointer) : Merit :=
  toLex (∑ load ∈ chosen, search.priorityWith active load,
    toLex (∑ load ∈ chosen, search.configuredPriorityOf load,
      toLex (chosen.card, OrderDual.toDual (∑ load ∈ chosen, search.powerRatingOf load))))

variable [DecidableEq Pointer]

/-- Where the clock tells the same of a load at each reading, the order of the readings does not
matter. -/
theorem calculateTotalEffectivePriority_eq_priorityWith {search : BestFirstSearch Pointer} {active : Pointer → Bool}
    (hreads : search.ReadsActivity active) {combination : List Pointer} (hnodup : combination.Nodup) :
    search.calculateTotalEffectivePriority combination =
      ∑ load ∈ combination.toFinset, search.priorityWith active load := by
  have hread : ∀ load, search.effectivePriorityOf (search.currentTimeProvider combination load) load =
      search.priorityWith active load := fun load => by
    rw [effectivePriorityOf_eq, hreads combination load, priorityWith]
  simp only [calculateTotalEffectivePriority, hread]
  rw [List.sum_toFinset _ hnodup, List.sum_eq_foldl, List.foldl_map]

theorem meritOf_childState_eq_meritWith {search : BestFirstSearch Pointer} {active : Pointer → Bool}
    (hreads : search.ReadsActivity active) {combination : List Pointer} (hnodup : combination.Nodup) :
    meritOf (search.childState combination) = search.meritWith active combination.toFinset := by
  simp only [meritOf, meritWith, childState, search.calculateTotalPowerWatts_eq_sum hnodup,
    search.calculateTotalConfiguredPriority_eq_sum hnodup,
    calculateTotalEffectivePriority_eq_priorityWith hreads hnodup, List.toFinset_card_of_nodup hnodup]

/-- Optimality needs no steady clock, only readings that agree on the schedules. -/
theorem meritWith_le_getBestCombination {search : BestFirstSearch Pointer} {active : Pointer → Bool}
    (hreads : search.ReadsActivity active) (hbudget : 0 ≤ search.availablePowerWatts) {chosen : Finset Pointer}
    (hcandidates : chosen ⊆ search.candidates) (hfeasible : search.Feasible chosen) :
    search.meritWith active chosen ≤ search.meritWith active search.getBestCombination.toFinset := by
  obtain ⟨combination, -, hnodup, rfl, hle⟩ := search.exists_evaluated hbudget hcandidates hfeasible
  rwa [meritOf_childState_eq_meritWith hreads hnodup,
    meritOf_childState_eq_meritWith hreads search.getBestCombination_candidates.1] at hle

/-- `second` differs from `first` only in one load, which is raised: its priority
is higher or its schedule is active where it was not. -/
structure RaisesLoad (first second : BestFirstSearch Pointer) (firstActive secondActive : Pointer → Bool)
    (raised : Pointer) : Prop where
  automaticLoads : second.automaticLoads = first.automaticLoads
  availablePowerWatts : second.availablePowerWatts = first.availablePowerWatts
  others : ∀ load, load ≠ raised → second.deref load = first.deref load ∧ secondActive load = firstActive load
  auto : second.isAutoCandidate raised = true
  rating : second.powerRatingOf raised = first.powerRatingOf raised
  priority : first.configuredPriorityOf raised ≤ second.configuredPriorityOf raised
  active : firstActive raised = true → secondActive raised = true
  strictly : first.configuredPriorityOf raised < second.configuredPriorityOf raised ∨
    (firstActive raised = false ∧ secondActive raised = true)

variable {first second : BestFirstSearch Pointer} {firstActive secondActive : Pointer → Bool} {raised : Pointer}

theorem RaisesLoad.powerRatingOf (hraises : RaisesLoad first second firstActive secondActive raised)
    (load : Pointer) : second.powerRatingOf load = first.powerRatingOf load := by
  by_cases hload : load = raised
  · rw [hload, hraises.rating]
  · rw [BestFirstSearch.powerRatingOf, (hraises.others load hload).1]
    rfl

omit [DecidableEq Pointer] in
theorem RaisesLoad.configuredPriorityOf (hraises : RaisesLoad first second firstActive secondActive raised)
    {load : Pointer} (hload : load ≠ raised) : second.configuredPriorityOf load = first.configuredPriorityOf load := by
  rw [BestFirstSearch.configuredPriorityOf, (hraises.others load hload).1]
  rfl

omit [DecidableEq Pointer] in
/-- Only the raised load counts more. -/
theorem RaisesLoad.priorityWith (hraises : RaisesLoad first second firstActive secondActive raised)
    {load : Pointer} (hload : load ≠ raised) :
    second.priorityWith secondActive load = first.priorityWith firstActive load := by
  rw [BestFirstSearch.priorityWith, hraises.configuredPriorityOf hload, (hraises.others load hload).2]
  rfl

omit [DecidableEq Pointer] in
/-- And it counts strictly more. -/
theorem RaisesLoad.priorityWith_lt (hraises : RaisesLoad first second firstActive secondActive raised) :
    first.priorityWith firstActive raised < second.priorityWith secondActive raised := by
  have hpriority := hraises.priority
  have hactive := hraises.active
  unfold BestFirstSearch.priorityWith ACTIVE_SCHEDULE_PRIORITY_BOOST
  obtain hstrictly | ⟨hfirst, hsecond⟩ := hraises.strictly
  · cases hfirst : firstActive raised with
    | false => simpa using Nat.lt_add_right _ hstrictly
    | true => simpa [hactive hfirst] using hstrictly
  · simp only [hfirst, hsecond, Bool.false_eq_true, if_false, if_true]
    omega

/-- Ratings and budget are the same in both runs. -/
theorem RaisesLoad.feasible_iff (hraises : RaisesLoad first second firstActive secondActive raised)
    (chosen : Finset Pointer) : second.Feasible chosen ↔ first.Feasible chosen := by
  simp only [Feasible, hraises.powerRatingOf, hraises.availablePowerWatts]

/-- All other loads are candidates in both runs or in none. -/
theorem RaisesLoad.mem_candidates_iff (hraises : RaisesLoad first second firstActive secondActive raised)
    {load : Pointer} (hload : load ≠ raised) : load ∈ second.candidates ↔ load ∈ first.candidates := by
  simp only [candidates, List.mem_toFinset, List.mem_filter, hraises.automaticLoads, isAutoCandidate,
    (hraises.others load hload).1]

/-- A set without the raised load keeps its merit. -/
theorem RaisesLoad.meritWith_eq (hraises : RaisesLoad first second firstActive secondActive raised)
    {chosen : Finset Pointer} (hnew : raised ∉ chosen) :
    second.meritWith secondActive chosen = first.meritWith firstActive chosen := by
  have hne : ∀ load ∈ chosen, load ≠ raised := fun load hload heq => hnew (heq ▸ hload)
  simp only [meritWith, hraises.powerRatingOf]
  rw [Finset.sum_congr rfl fun load hload => hraises.priorityWith (hne load hload),
    Finset.sum_congr rfl fun load hload => hraises.configuredPriorityOf (hne load hload)]

/-- A set with the raised load gains merit. -/
theorem RaisesLoad.meritWith_lt (hraises : RaisesLoad first second firstActive secondActive raised)
    {chosen : Finset Pointer} (hmem : raised ∈ chosen) :
    first.meritWith firstActive chosen < second.meritWith secondActive chosen := by
  rw [meritWith, meritWith, Prod.Lex.toLex_lt_toLex]
  refine .inl (Finset.sum_lt_sum (fun load _ => ?_) ⟨raised, hmem, hraises.priorityWith_lt⟩)
  by_cases hload : load = raised
  · rw [hload]
    exact hraises.priorityWith_lt.le
  · rw [hraises.priorityWith hload]

/-- Raising a selected load never drops it. The two runs may expand the sets in different orders; a
combination without the load that wins the second run would have won the first. Needs that no schedule
starts or ends while either run reads the clock. -/
theorem mem_getBestCombination_of_raisesLoad
    (hfirst : first.ReadsActivity firstActive) (hsecond : second.ReadsActivity secondActive)
    (hraises : RaisesLoad first second firstActive secondActive raised)
    (hselected : raised ∈ first.getBestCombination) : raised ∈ second.getBestCombination := by
  by_cases hbudget : first.availablePowerWatts < 0
  · rw [getBestCombination, runSearch, if_pos hbudget] at hselected
    exact absurd hselected List.not_mem_nil
  · have hbudgetFirst : 0 ≤ first.availablePowerWatts := not_lt.mp hbudget
    have hbudgetSecond : 0 ≤ second.availablePowerWatts := hraises.availablePowerWatts ▸ hbudgetFirst
    by_contra hdropped
    have hnew : raised ∉ second.getBestCombination.toFinset := fun hmem => hdropped (List.mem_toFinset.mp hmem)
    have hmem : raised ∈ first.getBestCombination.toFinset := List.mem_toFinset.mpr hselected
    -- the second result competes in the first run, since it does not hold the raised load
    have hsecondSub : second.getBestCombination.toFinset ⊆ first.candidates := fun load hload =>
      (hraises.mem_candidates_iff fun heq => hnew (heq ▸ hload)).mp (second.getBestCombination_candidates.2 hload)
    have hsecondFeasible : first.Feasible second.getBestCombination.toFinset := by
      rw [← hraises.feasible_iff]
      exact second.getBestCombination_feasibleSet hbudgetSecond
    have hfirstLe := meritWith_le_getBestCombination hfirst hbudgetFirst hsecondSub hsecondFeasible
    -- and the first result competes in the second run
    have hfirstSub : first.getBestCombination.toFinset ⊆ second.candidates := by
      intro load hload
      have hcandidate := first.getBestCombination_candidates.2 hload
      by_cases heq : load = raised
      · rw [candidates, List.mem_toFinset, List.mem_filter] at hcandidate ⊢
        exact ⟨hraises.automaticLoads ▸ hcandidate.1, heq ▸ hraises.auto⟩
      · exact (hraises.mem_candidates_iff heq).mpr hcandidate
    have hfirstFeasible : second.Feasible first.getBestCombination.toFinset :=
      (hraises.feasible_iff _).mpr (first.getBestCombination_feasibleSet hbudgetFirst)
    have hsecondLe := meritWith_le_getBestCombination hsecond hbudgetSecond hfirstSub hfirstFeasible
    rw [hraises.meritWith_eq hnew] at hsecondLe
    exact absurd (hsecondLe.trans hfirstLe) (not_le.mpr (hraises.meritWith_lt hmem))

/-- Loads of 60 W and 50 W of which one fits, the second with the given priority. -/
def raisedSearch (priority : UInt16) : BestFirstSearch Bool where
  availablePowerWatts := 100
  automaticLoads := [false, true]
  currentTimeProvider := fun _ _ => ⟨none, none⟩
  deref := fun pointer => some
    (if pointer then .make ⟨Vector.replicate 6 1, 5⟩ [] (.finite 50) priority .AC .AUTO_OFF
    else .make ⟨Vector.replicate 6 1, 4⟩ [] (.finite 60) 3 .AC .AUTO_OFF)

theorem mem_getBestCombination_of_raisesLoad_raisedSearch : true ∈ (raisedSearch 9).getBestCombination := by
  have hreads : ∀ priority, (raisedSearch priority).ReadsActivity fun _ => false := by
    intro priority combination load
    cases load <;> rfl
  have hraises : RaisesLoad (raisedSearch 4) (raisedSearch 9) (fun _ => false) (fun _ => false) true :=
    { automaticLoads := rfl
      availablePowerWatts := rfl
      others := fun load hload => by
        cases load with
        | false => exact ⟨rfl, rfl⟩
        | true => exact absurd rfl hload
      auto := by decide
      rating := by decide +kernel
      priority := by decide
      active := id
      strictly := .inl (by decide) }
  exact mem_getBestCombination_of_raisesLoad (hreads 4) (hreads 9) hraises (by decide +kernel)

end BestFirstSearch

end kilowatts
