import Kilowatts.BestFirstSearch
import Kilowatts.Library.Worklist
import Mathlib.Algebra.BigOperators.Group.Finset.Basic
import Mathlib.Algebra.Order.BigOperators.Group.Finset

namespace kilowatts

namespace BestFirstSearch

variable {Pointer : Type} [DecidableEq Pointer]

/-- Needs both to be free of duplicates, as the code compares lengths and membership one way. -/
theorem representsSameCombination_iff {first second : List Pointer} (hfirst : first.Nodup)
    (hsecond : second.Nodup) :
    representsSameCombination first second = true ↔ first.toFinset = second.toFinset := by
  simp only [representsSameCombination, containsLoad, Bool.and_eq_true, beq_iff_eq, List.all_eq_true,
    List.contains_iff_mem]
  constructor
  · intro ⟨hlength, hsub⟩
    apply Finset.eq_of_subset_of_card_le
    · intro load hload
      exact List.mem_toFinset.mpr (hsub load (List.mem_toFinset.mp hload))
    · rw [List.toFinset_card_of_nodup hfirst, List.toFinset_card_of_nodup hsecond, hlength]
  · intro heq
    refine ⟨?_, fun load hload => ?_⟩
    · rw [← List.toFinset_card_of_nodup hfirst, heq, List.toFinset_card_of_nodup hsecond]
    · exact List.mem_toFinset.mp (heq ▸ List.mem_toFinset.mpr hload)

theorem toFinset_append_singleton (combination : List Pointer) (load : Pointer) :
    (combination ++ [load]).toFinset = insert load combination.toFinset := by
  ext other
  simp

variable (search : BestFirstSearch Pointer)

omit [DecidableEq Pointer] in
theorem powerRatingOf_nonneg (load : Pointer) : 0 ≤ search.powerRatingOf load := by
  unfold powerRatingOf
  split
  · exact le_refl 0
  · rename_i load _
    exact load.powerRating_nonneg

/-- Without duplicates, the order does not matter. -/
theorem calculateTotalPowerWatts_eq_sum {combination : List Pointer} (hnodup : combination.Nodup) :
    search.calculateTotalPowerWatts combination = ∑ load ∈ combination.toFinset, search.powerRatingOf load := by
  rw [List.sum_toFinset _ hnodup, List.sum_eq_foldl, List.foldl_map]
  rfl

theorem calculateTotalConfiguredPriority_eq_sum {combination : List Pointer} (hnodup : combination.Nodup) :
    search.calculateTotalConfiguredPriority combination =
      ∑ load ∈ combination.toFinset, search.configuredPriorityOf load := by
  rw [List.sum_toFinset _ hnodup, List.sum_eq_foldl, List.foldl_map]
  rfl

/-- The clock does not move during the search. -/
def SteadyClock (clock : CurrentTimeProvider) : Prop :=
  ∀ combination load, search.currentTimeProvider combination load = clock

/-- Needs the clock to stand still, or each load would be read at a time of its own. -/
theorem calculateTotalEffectivePriority_eq_sum {clock : CurrentTimeProvider} (hsteady : search.SteadyClock clock)
    {combination : List Pointer} (hnodup : combination.Nodup) :
    search.calculateTotalEffectivePriority combination =
      ∑ load ∈ combination.toFinset, search.effectivePriorityOf clock load := by
  have hclock : ∀ load, search.currentTimeProvider combination load = clock := hsteady combination
  simp only [calculateTotalEffectivePriority, hclock]
  rw [List.sum_toFinset _ hnodup, List.sum_eq_foldl, List.foldl_map]

/-- The loads the search may choose from, as a set. -/
def candidates : Finset Pointer := (search.automaticLoads.filter search.isAutoCandidate).toFinset

/-- A set of loads fits into the budget. -/
def Feasible (chosen : Finset Pointer) : Prop :=
  ∑ load ∈ chosen, search.powerRatingOf load ≤ search.availablePowerWatts

instance : DecidablePred search.Feasible := fun chosen =>
  inferInstanceAs (Decidable (∑ load ∈ chosen, search.powerRatingOf load ≤ search.availablePowerWatts))

/-- The sets reached from `chosen` by one more load. -/
def successors (chosen : Finset Pointer) : Finset (Finset Pointer) :=
  Worklist.extensions search.candidates search.Feasible chosen

omit [DecidableEq Pointer] in
/-- Leaving loads out keeps a combination within the budget, as no rating is negative. -/
theorem Feasible.of_subset {small large : Finset Pointer} (hsub : small ⊆ large)
    (hlarge : search.Feasible large) : search.Feasible small :=
  (Finset.sum_le_sum_of_subset_of_nonneg hsub fun load _ _ => search.powerRatingOf_nonneg load).trans hlarge

/-- The check of the code is the feasibility of the set. -/
theorem isWithinAvailablePower_iff {combination : List Pointer} (hnodup : combination.Nodup) :
    search.isWithinAvailablePower combination = true ↔ search.Feasible combination.toFinset := by
  rw [isWithinAvailablePower, decide_eq_true_iff, search.calculateTotalPowerWatts_eq_sum hnodup]
  rfl

/-- A set of loads is reached by the search exactly when it is a feasible set of
candidates. Only a non-negative budget is assumed. -/
theorem reachable_iff (hbudget : 0 ≤ search.availablePowerWatts) (chosen : Finset Pointer) :
    Worklist.Reachable search.successors ∅ chosen ↔ chosen ⊆ search.candidates ∧ search.Feasible chosen := by
  have hempty : search.Feasible ∅ := by simpa [Feasible] using hbudget
  exact Worklist.reachable_extensions_iff hempty (fun _ _ hsub => Feasible.of_subset search hsub) chosen

/-- What the search keeps of its lists. Nothing is said here about the best
state or about the order of the open states. -/
structure Progress.WellFormed (progress : Progress Pointer) : Prop where
  open_nodup : ∀ state ∈ progress.openStates, state.combination.Nodup
  open_state : ∀ state ∈ progress.openStates, state = search.childState state.combination
  open_distinct : (progress.openStates.map (·.combination.toFinset)).Nodup
  closed_nodup : ∀ combination ∈ progress.closedCombinations, combination.Nodup

/-- The lists of the search, read as sets of sets of loads. -/
def Progress.toWorklist (progress : Progress Pointer) : Worklist (Finset Pointer) where
  opened := (progress.openStates.map (·.combination.toFinset)).toFinset
  closed := (progress.closedCombinations.map List.toFinset).toFinset

theorem Progress.mem_opened {progress : Progress Pointer} {chosen : Finset Pointer} :
    chosen ∈ progress.toWorklist.opened ↔ ∃ state ∈ progress.openStates, state.combination.toFinset = chosen := by
  simp [toWorklist]

theorem Progress.mem_closed {progress : Progress Pointer} {chosen : Finset Pointer} :
    chosen ∈ progress.toWorklist.closed ↔
      ∃ combination ∈ progress.closedCombinations, combination.toFinset = chosen := by
  simp [toWorklist]

variable {search}

/-- What the code looks for in its two lists is membership among the known sets. -/
theorem Progress.WellFormed.combinationAlreadyKnown_iff {progress : Progress Pointer}
    (hwf : progress.WellFormed search) {combination : List Pointer} (hnodup : combination.Nodup) :
    combinationAlreadyKnown combination progress.openStates progress.closedCombinations = true ↔
      combination.toFinset ∈ progress.toWorklist.known := by
  simp only [combinationAlreadyKnown, Bool.or_eq_true, List.any_eq_true, Worklist.mem_known,
    Progress.mem_opened, Progress.mem_closed]
  apply or_congr
  · refine exists_congr fun state => and_congr_right fun hstate => ?_
    rw [representsSameCombination_iff hnodup (hwf.open_nodup state hstate), eq_comm]
  · refine exists_congr fun closed => and_congr_right fun hclosed => ?_
    rw [representsSameCombination_iff hnodup (hwf.closed_nodup closed hclosed), eq_comm]

/-- `load` extends `chosen` to a feasible set. -/
def Extends (search : BestFirstSearch Pointer) (chosen : Finset Pointer) (load : Pointer) : Prop :=
  search.isAutoCandidate load = true ∧ load ∉ chosen ∧ search.Feasible (insert load chosen)

/-- All that the body of the inner loop can do: it queues the child when the
child is feasible and new, and it changes nothing otherwise. -/
theorem considerLoad_cases {currentState : SearchState Pointer} {progress : Progress Pointer}
    (hcurrent : currentState.combination.Nodup) (hwf : progress.WellFormed search) (load : Pointer) :
    ((Extends search currentState.combination.toFinset load ∧
        insert load currentState.combination.toFinset ∉ progress.toWorklist.known) ∧
      (currentState.combination ++ [load]).Nodup ∧
      search.considerLoad currentState progress load =
        { progress with
          openStates := progress.openStates ++ [search.childState (currentState.combination ++ [load])]
          bestState := betterOf (search.childState (currentState.combination ++ [load])) progress.bestState }) ∨
    (¬ (Extends search currentState.combination.toFinset load ∧
        insert load currentState.combination.toFinset ∉ progress.toWorklist.known) ∧
      search.considerLoad currentState progress load = progress) := by
  have hmem : containsLoad currentState.combination load = true ↔ load ∈ currentState.combination.toFinset := by
    simp [containsLoad]
  by_cases hskip : (!search.isAutoCandidate load || containsLoad currentState.combination load) = true
  · refine .inr ⟨?_, by simp [considerLoad, hskip]⟩
    rintro ⟨⟨hauto, hnew, -⟩, -⟩
    simp only [Bool.or_eq_true, hmem, hauto] at hskip
    simp_all
  · have hauto : search.isAutoCandidate load = true := by simp_all
    have hnew : load ∉ currentState.combination.toFinset := by
      rw [← hmem]
      simp_all
    have hchild : (currentState.combination ++ [load]).Nodup := by
      rw [← List.concat_eq_append]
      exact hcurrent.concat (by simpa using hnew)
    have hset := toFinset_append_singleton currentState.combination load
    by_cases hpower : search.isWithinAvailablePower (currentState.combination ++ [load]) = true
    · have hfeasible := (search.isWithinAvailablePower_iff hchild).mp hpower
      have hknown := hwf.combinationAlreadyKnown_iff hchild
      rw [hset] at hfeasible hknown
      by_cases hold : combinationAlreadyKnown (currentState.combination ++ [load]) progress.openStates
          progress.closedCombinations = true
      · exact .inr ⟨fun h => h.2 (hknown.mp hold), by simp [considerLoad, hskip, hpower, hold]⟩
      · exact .inl ⟨⟨⟨hauto, hnew, hfeasible⟩, fun h => hold (hknown.mpr h)⟩, hchild,
          by simp [considerLoad, hskip, hpower, hold]⟩
    · refine .inr ⟨?_, by simp [considerLoad, hskip, hpower]⟩
      rintro ⟨⟨-, -, hfeasible⟩, -⟩
      rw [← hset] at hfeasible
      exact hpower ((search.isWithinAvailablePower_iff hchild).mpr hfeasible)

theorem Progress.mem_known {progress : Progress Pointer} {chosen : Finset Pointer} :
    chosen ∈ progress.toWorklist.known ↔
      (∃ state ∈ progress.openStates, state.combination.toFinset = chosen) ∨
        ∃ combination ∈ progress.closedCombinations, combination.toFinset = chosen := by
  rw [Worklist.mem_known, Progress.mem_opened, Progress.mem_closed]

/-- One pass of the inner loop body, as sets: the extension by `load` is queued
if it is feasible and unknown. -/
theorem considerLoad_spec {currentState : SearchState Pointer} {progress : Progress Pointer}
    (hcurrent : currentState.combination.Nodup) (hwf : progress.WellFormed search) (load : Pointer) :
    (search.considerLoad currentState progress load).WellFormed search ∧
      (search.considerLoad currentState progress load).closedCombinations = progress.closedCombinations ∧
      ∀ chosen, chosen ∈ (search.considerLoad currentState progress load).toWorklist.opened ↔
        chosen ∈ progress.toWorklist.opened ∨
          (Extends search currentState.combination.toFinset load ∧
            chosen = insert load currentState.combination.toFinset ∧ chosen ∉ progress.toWorklist.known) := by
  obtain ⟨⟨hextends, hnew⟩, hchild, heq⟩ | ⟨hnot, heq⟩ := considerLoad_cases hcurrent hwf load
  · have hset := toFinset_append_singleton currentState.combination load
    rw [heq]
    refine ⟨⟨?_, ?_, ?_, hwf.closed_nodup⟩, rfl, ?_⟩
    · intro state hstate
      obtain hstate | hstate := List.mem_append.mp hstate
      · exact hwf.open_nodup state hstate
      · rw [List.mem_singleton.mp hstate]
        exact hchild
    · intro state hstate
      obtain hstate | hstate := List.mem_append.mp hstate
      · exact hwf.open_state state hstate
      · rw [List.mem_singleton.mp hstate]
        rfl
    · rw [List.map_append, List.map_singleton, ← List.concat_eq_append]
      refine hwf.open_distinct.concat ?_
      intro hmem
      obtain ⟨state, hstate, hsame⟩ := List.mem_map.mp hmem
      refine hnew (Worklist.mem_known.mpr (.inl (Progress.mem_opened.mpr ⟨state, hstate, ?_⟩)))
      rw [hsame, ← hset]
      rfl
    · intro chosen
      simp only [Progress.mem_opened, List.mem_append, List.mem_singleton, or_and_right, exists_or, exists_eq_left]
      apply or_congr_right
      change (currentState.combination ++ [load]).toFinset = chosen ↔ _
      rw [hset]
      constructor
      · rintro rfl
        exact ⟨hextends, rfl, hnew⟩
      · rintro ⟨-, rfl, -⟩
        rfl
  · rw [heq]
    refine ⟨hwf, rfl, fun chosen => ⟨.inl, ?_⟩⟩
    rintro (hopen | ⟨hextends, rfl, hnew⟩)
    · exact hopen
    · exact absurd ⟨hextends, hnew⟩ hnot

/-- The whole inner loop queues the unknown feasible extensions by the loads of
the list, whatever their order and however often one occurs. -/
theorem foldl_considerLoad_spec {currentState : SearchState Pointer}
    (hcurrent : currentState.combination.Nodup) (loads : List Pointer) {progress : Progress Pointer}
    (hwf : progress.WellFormed search) :
    (loads.foldl (search.considerLoad currentState) progress).WellFormed search ∧
      (loads.foldl (search.considerLoad currentState) progress).closedCombinations =
        progress.closedCombinations ∧
      ∀ chosen, chosen ∈ (loads.foldl (search.considerLoad currentState) progress).toWorklist.opened ↔
        chosen ∈ progress.toWorklist.opened ∨
          ∃ load ∈ loads, Extends search currentState.combination.toFinset load ∧
            chosen = insert load currentState.combination.toFinset ∧ chosen ∉ progress.toWorklist.known := by
  induction loads generalizing progress with
  | nil => exact ⟨hwf, rfl, fun chosen => by simp⟩
  | cons load loads ih =>
    obtain ⟨hstepWf, hstepClosed, hstepOpen⟩ := considerLoad_spec hcurrent hwf load
    obtain ⟨hrestWf, hrestClosed, hrestOpen⟩ := ih hstepWf
    refine ⟨hrestWf, hrestClosed.trans hstepClosed, fun chosen => ?_⟩
    have hclosed : chosen ∈ (search.considerLoad currentState progress load).toWorklist.closed ↔
        chosen ∈ progress.toWorklist.closed := by
      simp only [Progress.mem_closed, hstepClosed]
    rw [List.foldl_cons, hrestOpen chosen, hstepOpen chosen]
    simp only [Worklist.mem_known, hstepOpen chosen, hclosed, List.mem_cons, exists_eq_or_imp]
    constructor
    · rintro ((hopen | hfirst) | ⟨other, hother, hextends, hchosen, hnew⟩)
      · exact .inl hopen
      · exact .inr (.inl hfirst)
      · exact .inr (.inr ⟨other, hother, hextends, hchosen, fun h => hnew (h.imp .inl id)⟩)
    · rintro (hopen | hfirst | ⟨other, hother, hextends, hchosen, hnew⟩)
      · exact .inl (.inl hopen)
      · exact .inl (.inr hfirst)
      · by_cases hfirst : Extends search currentState.combination.toFinset load ∧
            chosen = insert load currentState.combination.toFinset
        · exact .inl (.inr ⟨hfirst.1, hfirst.2, hnew⟩)
        · refine .inr ⟨other, hother, hextends, hchosen, ?_⟩
          rintro ((hopen | ⟨hload, heq, -⟩) | hold)
          · exact hnew (.inl hopen)
          · exact hfirst ⟨hload, heq⟩
          · exact hnew (.inr hold)

omit [DecidableEq Pointer] in
theorem sortOpenStates_perm (openStates : List (SearchState Pointer)) :
    (sortOpenStates openStates).Perm openStates :=
  List.perm_insertionSort _ _

theorem Progress.WellFormed.of_perm {progress : Progress Pointer} (hwf : progress.WellFormed search)
    {openStates : List (SearchState Pointer)} (hperm : openStates.Perm progress.openStates)
    (bestState : SearchState Pointer) :
    Progress.WellFormed search { progress with openStates, bestState } where
  open_nodup := fun state hstate => hwf.open_nodup state (hperm.mem_iff.mp hstate)
  open_state := fun state hstate => hwf.open_state state (hperm.mem_iff.mp hstate)
  open_distinct := (hperm.map _).nodup_iff.mpr hwf.open_distinct
  closed_nodup := hwf.closed_nodup

theorem Progress.WellFormed.tail {currentState : SearchState Pointer} {openStates : List (SearchState Pointer)}
    {closedCombinations : List (List Pointer)} {bestState : SearchState Pointer}
    (hwf : Progress.WellFormed search ⟨currentState :: openStates, closedCombinations, bestState⟩) :
    Progress.WellFormed search ⟨openStates, closedCombinations, bestState⟩ where
  open_nodup := fun state hstate => hwf.open_nodup state (List.mem_cons_of_mem _ hstate)
  open_state := fun state hstate => hwf.open_state state (List.mem_cons_of_mem _ hstate)
  open_distinct := (List.nodup_cons.mp hwf.open_distinct).2
  closed_nodup := hwf.closed_nodup

variable (search) in
/-- What a round of the loop does: it takes one open state, runs the inner loop
without it and closes its combination. -/
theorem searchRound_cases (progress : Progress Pointer) :
    (progress.openStates = [] ∧ search.searchRound progress = none) ∨
      ∃ currentState openStates, (currentState :: openStates).Perm progress.openStates ∧
        search.searchRound progress = some
          { search.automaticLoads.foldl (search.considerLoad currentState)
              { progress with openStates, bestState := betterOf currentState progress.bestState } with
            closedCombinations :=
              (search.automaticLoads.foldl (search.considerLoad currentState)
                { progress with openStates, bestState := betterOf currentState progress.bestState
                  }).closedCombinations ++ [currentState.combination] } := by
  have hperm := sortOpenStates_perm progress.openStates
  unfold searchRound
  cases hsort : sortOpenStates progress.openStates with
  | nil =>
    rw [hsort] at hperm
    exact .inl ⟨hperm.symm.eq_nil, rfl⟩
  | cons currentState openStates =>
    rw [hsort] at hperm
    exact .inr ⟨currentState, openStates, hperm, rfl⟩

/-- One more load, if it may be added and fits. -/
theorem mem_successors {chosen next : Finset Pointer} :
    next ∈ search.successors chosen ↔
      ∃ load ∈ search.automaticLoads, Extends search chosen load ∧ next = insert load chosen := by
  rw [successors, Worklist.mem_extensions]
  constructor
  · rintro ⟨load, hload, hnew, rfl, hfeasible⟩
    rw [candidates, List.mem_toFinset, List.mem_filter] at hload
    exact ⟨load, hload.1, ⟨hload.2, hnew, hfeasible⟩, rfl⟩
  · rintro ⟨load, hload, ⟨hauto, hnew, hfeasible⟩, rfl⟩
    refine ⟨load, ?_, hnew, rfl, hfeasible⟩
    rw [candidates, List.mem_toFinset, List.mem_filter]
    exact ⟨hload, hauto⟩

/-- A round of the loop refines one expansion of the worklist. -/
theorem searchRound_refines_expand {progress next : Progress Pointer} (hwf : progress.WellFormed search)
    (hround : search.searchRound progress = some next) :
    next.WellFormed search ∧ ∃ node ∈ progress.toWorklist.opened,
      next.toWorklist = progress.toWorklist.expand search.successors node := by
  rcases searchRound_cases search progress with
    ⟨-, hnone⟩ | ⟨currentState, openStates, hperm, hsome⟩
  · simp [hround] at hnone
  · have hconsWf := hwf.of_perm hperm (betterOf currentState progress.bestState)
    have hcurrent : currentState.combination.Nodup := hconsWf.open_nodup currentState List.mem_cons_self
    have hnotOpen : ∀ state ∈ openStates, state.combination.toFinset ≠ currentState.combination.toFinset := by
      intro state hstate hsame
      exact (List.nodup_cons.mp hconsWf.open_distinct).1 (List.mem_map.mpr ⟨state, hstate, hsame⟩)
    obtain ⟨hinnerWf, hinnerClosed, hinnerOpen⟩ :=
      foldl_considerLoad_spec hcurrent search.automaticLoads hconsWf.tail
    have hmemOpen : ∀ chosen, chosen ∈ progress.toWorklist.opened ↔
        chosen = currentState.combination.toFinset ∨
          ∃ state ∈ openStates, state.combination.toFinset = chosen := by
      intro chosen
      rw [Progress.mem_opened]
      simp only [← hperm.mem_iff, List.mem_cons, exists_eq_or_imp]
      exact or_congr_left eq_comm
    rw [hround, Option.some.injEq] at hsome
    subst hsome
    refine ⟨⟨hinnerWf.open_nodup, hinnerWf.open_state, hinnerWf.open_distinct, ?_⟩,
      currentState.combination.toFinset, (hmemOpen _).mpr (.inl rfl), ?_⟩
    · intro combination hcombination
      obtain hold | hnew := List.mem_append.mp hcombination
      · exact hinnerWf.closed_nodup combination hold
      · rw [List.mem_singleton.mp hnew]
        exact hcurrent
    · apply Worklist.ext
      · ext chosen
        refine (hinnerOpen chosen).trans ?_
        simp only [Worklist.expand, Finset.mem_union, Finset.mem_erase, Finset.mem_sdiff, Worklist.mem_known,
          hmemOpen chosen, mem_successors, Progress.mem_opened, Progress.mem_closed]
        constructor
        · rintro (⟨state, hstate, rfl⟩ | ⟨load, hload, hextends, rfl, hnew⟩)
          · exact .inl ⟨hnotOpen state hstate, .inr ⟨state, hstate, rfl⟩⟩
          · refine .inr ⟨⟨load, hload, hextends, rfl⟩, ?_⟩
            rintro ((hself | hopen) | hclosed)
            · exact hextends.2.1 (hself ▸ Finset.mem_insert_self load _)
            · exact hnew (.inl hopen)
            · exact hnew (.inr hclosed)
        · rintro (⟨hne, hself | hopen⟩ | ⟨⟨load, hload, hextends, rfl⟩, hnew⟩)
          · exact absurd hself hne
          · exact .inl hopen
          · exact .inr ⟨load, hload, hextends, rfl, fun h => hnew (h.imp .inr id)⟩
      · ext chosen
        simp only [Worklist.expand, Finset.mem_insert, Progress.mem_closed, hinnerClosed, List.mem_append,
          List.mem_singleton, or_and_right, exists_or, exists_eq_left]
        rw [or_comm, eq_comm]

theorem initialProgress_wellFormed : search.initialProgress.WellFormed search where
  open_nodup := by simp [initialProgress, startState]
  open_state := by
    intro state hstate
    rw [List.mem_singleton.mp hstate]
    rfl
  open_distinct := by simp [initialProgress]
  closed_nodup := by simp [initialProgress]

theorem initialProgress_toWorklist : search.initialProgress.toWorklist = Worklist.start ∅ := by
  simp [initialProgress, Progress.toWorklist, startState, Worklist.start]

/-- What every round of the loop keeps: its lists are well formed and refine a
valid worklist rooted at the empty set. -/
structure Progress.Explored (search : BestFirstSearch Pointer) (progress : Progress Pointer) : Prop where
  wellFormed : progress.WellFormed search
  valid : progress.toWorklist.Valid search.successors ∅

variable (search) in
theorem initialProgress_explored : search.initialProgress.Explored search where
  wellFormed := initialProgress_wellFormed
  valid := by
    rw [initialProgress_toWorklist]
    exact Worklist.start_valid search.successors ∅

/-- One round keeps the invariant and closes exactly one set that was not closed before. -/
theorem Progress.Explored.searchRound {progress next : Progress Pointer} (hexplored : progress.Explored search)
    (hround : search.searchRound progress = some next) :
    next.Explored search ∧ next.toWorklist.closed.card = progress.toWorklist.closed.card + 1 := by
  obtain ⟨hwf, node, hnode, hexpand⟩ := searchRound_refines_expand hexplored.wellFormed hround
  refine ⟨⟨hwf, ?_⟩, ?_⟩
  · rw [hexpand]
    exact hexplored.valid.expand hnode
  · rw [hexpand]
    exact hexplored.valid.card_closed_expand hnode

/-- A round appends one combination to the closed ones. -/
theorem Progress.WellFormed.closedCombinations_searchRound {progress next : Progress Pointer}
    (hwf : progress.WellFormed search) (hround : search.searchRound progress = some next) :
    ∃ combination : List Pointer, next.closedCombinations = progress.closedCombinations ++ [combination] := by
  obtain ⟨-, hnone⟩ | ⟨currentState, openStates, hperm, hsome⟩ := searchRound_cases search progress
  · simp [hround] at hnone
  · have hconsWf := hwf.of_perm hperm (betterOf currentState progress.bestState)
    have hcurrent := hconsWf.open_nodup currentState List.mem_cons_self
    rw [hround, Option.some.injEq] at hsome
    subst hsome
    refine ⟨currentState.combination, ?_⟩
    dsimp only
    rw [(foldl_considerLoad_spec hcurrent search.automaticLoads hconsWf.tail).2.1]

/-- The search ends when nothing waits any more, and only then. -/
theorem searchRound_eq_none_iff {progress : Progress Pointer} :
    search.searchRound progress = none ↔ progress.openStates = [] := by
  rcases searchRound_cases search progress with
    ⟨hopen, hnone⟩ | ⟨currentState, openStates, hperm, hsome⟩
  · simp [hopen, hnone]
  · rw [hsome]
    simp only [reduceCtorEq, false_iff]
    intro hopen
    rw [hopen] at hperm
    exact List.cons_ne_nil _ _ hperm.eq_nil

/-- What every round preserves holds after the loop, for any amount of fuel. -/
theorem searchLoop_invariant {Inv : Progress Pointer → Prop}
    (hround : ∀ progress next, Inv progress → search.searchRound progress = some next → Inv next)
    (fuel : Nat) {progress : Progress Pointer} (hinv : Inv progress) : Inv (search.searchLoop fuel progress) := by
  induction fuel generalizing progress with
  | zero => exact hinv
  | succ fuel ih =>
    unfold searchLoop
    cases hnext : search.searchRound progress with
    | none => exact hinv
    | some next => exact ih (hround progress next hinv hnext)

theorem searchLoop_of_searchRound_none {progress : Progress Pointer} (hnone : search.searchRound progress = none)
    (fuel : Nat) : search.searchLoop fuel progress = progress := by
  cases fuel with
  | zero => rfl
  | succ fuel => simp only [searchLoop, hnone]

theorem searchLoop_add (first second : Nat) (progress : Progress Pointer) :
    search.searchLoop (first + second) progress = search.searchLoop second (search.searchLoop first progress) := by
  induction first generalizing progress with
  | zero => rw [Nat.zero_add, searchLoop]
  | succ first ih =>
    rw [Nat.succ_add, searchLoop, searchLoop]
    cases hnext : search.searchRound progress with
    | none => exact (searchLoop_of_searchRound_none hnext second).symm
    | some next => exact ih next

/-- Fuel that is not used up closes a set in every round. -/
theorem searchLoop_done (fuel : Nat) {progress : Progress Pointer} (hexplored : progress.Explored search) :
    (search.searchLoop fuel progress).openStates = [] ∨
      (search.searchLoop fuel progress).toWorklist.closed.card =
        progress.toWorklist.closed.card + fuel := by
  induction fuel generalizing progress with
  | zero => exact .inr rfl
  | succ fuel ih =>
    unfold searchLoop
    cases hnext : search.searchRound progress with
    | none => exact .inl (searchRound_eq_none_iff.mp hnext)
    | some next =>
      obtain ⟨hexplored', hcard⟩ := hexplored.searchRound hnext
      refine (ih hexplored').imp id fun h => ?_
      rw [h, hcard]
      omega

variable (search)

/-- The invariant of the rounds, from the start to the end. -/
theorem finalProgress_explored : search.finalProgress.Explored search :=
  searchLoop_invariant (fun _ _ hinv hnext => (hinv.searchRound hnext).1) _ search.initialProgress_explored

/-- The search ends by itself: after one round for each set of loads at most,
no open state is left. -/
theorem searchLoop_openStates_eq_nil (hbudget : 0 ≤ search.availablePowerWatts) :
    search.finalProgress.openStates = [] := by
  have hexplored := search.finalProgress_explored
  obtain hnil | hcard := searchLoop_done (2 ^ search.automaticLoads.length) search.initialProgress_explored
  · exact hnil
  · have hbound : ∀ chosen, Worklist.Reachable search.successors ∅ chosen → chosen ∈ search.candidates.powerset :=
      fun chosen hreach => Finset.mem_powerset.mpr ((search.reachable_iff hbudget chosen).mp hreach).1
    have hcandidates : search.candidates.card ≤ search.automaticLoads.length :=
      (List.toFinset_card_le _).trans (List.length_filter_le _ _)
    have hle : search.candidates.powerset.card ≤ search.finalProgress.toWorklist.closed.card := by
      rw [Finset.card_powerset, finalProgress, hcard]
      exact (Nat.pow_le_pow_right (by omega) hcandidates).trans (Nat.le_add_left _ _)
    have hopened := hexplored.valid.opened_eq_empty_of_card_le hbound hle
    simpa [Progress.toWorklist] using hopened

/-- At the end exactly the feasible sets of candidates have been expanded. -/
theorem mem_closed_finalProgress_iff (hbudget : 0 ≤ search.availablePowerWatts) (chosen : Finset Pointer) :
    chosen ∈ search.finalProgress.toWorklist.closed ↔ chosen ⊆ search.candidates ∧ search.Feasible chosen := by
  have hopened : search.finalProgress.toWorklist.opened = ∅ := by
    simp [Progress.toWorklist, search.searchLoop_openStates_eq_nil hbudget]
  rw [search.finalProgress_explored.valid.mem_closed_iff hopened, search.reachable_iff hbudget]

/-- Every round closes a set that was not closed before. -/
theorem finalProgress_closed_distinct : (search.finalProgress.closedCombinations.map List.toFinset).Nodup := by
  have hround : ∀ progress next : Progress Pointer,
      progress.Explored search ∧ progress.toWorklist.closed.card = progress.closedCombinations.length →
      search.searchRound progress = some next →
      next.Explored search ∧ next.toWorklist.closed.card = next.closedCombinations.length := by
    intro progress next ⟨hexplored, hlength⟩ hnext
    obtain ⟨hexplored', hcard⟩ := hexplored.searchRound hnext
    obtain ⟨combination, hclosed⟩ := hexplored.wellFormed.closedCombinations_searchRound hnext
    refine ⟨hexplored', ?_⟩
    rw [hcard, hclosed, hlength, List.length_append, List.length_singleton]
  have hcard := (searchLoop_invariant hround (2 ^ search.automaticLoads.length)
    ⟨search.initialProgress_explored, rfl⟩).2
  rw [← Multiset.coe_nodup, ← Multiset.toFinset_card_eq_card_iff_nodup, Multiset.coe_card, List.length_map]
  exact hcard

/-- The loop ends by itself and has then expanded each feasible set of loads once. Needs a list of AUTO
candidates and a budget that is not negative; the list may hold a load several times, and the clock may
move. -/
theorem runSearch_expands_each_feasible_set_once
    (hautomatic : ∀ load ∈ search.automaticLoads, search.isAutoCandidate load = true)
    (hbudget : 0 ≤ search.availablePowerWatts) :
    search.searchRound search.finalProgress = none ∧
    (∀ fuel, 2 ^ search.automaticLoads.length ≤ fuel →
      search.searchLoop fuel search.initialProgress = search.finalProgress) ∧
    search.runSearch = search.finalProgress.bestState.combination ∧
    (∀ combination ∈ search.finalProgress.closedCombinations, combination.Nodup) ∧
    (search.finalProgress.closedCombinations.map List.toFinset).Nodup ∧
    ∀ chosen : Finset Pointer, chosen ∈ search.finalProgress.closedCombinations.map List.toFinset ↔
      chosen ⊆ search.automaticLoads.toFinset ∧
        ∑ load ∈ chosen, search.powerRatingOf load ≤ search.availablePowerWatts := by
  have hnone : search.searchRound search.finalProgress = none :=
    searchRound_eq_none_iff.mpr (search.searchLoop_openStates_eq_nil hbudget)
  refine ⟨hnone, fun fuel hfuel => ?_, if_neg (not_lt.mpr hbudget),
    search.finalProgress_explored.wellFormed.closed_nodup, search.finalProgress_closed_distinct, fun chosen => ?_⟩
  · obtain ⟨extra, rfl⟩ := Nat.exists_eq_add_of_le hfuel
    rw [searchLoop_add]
    exact searchLoop_of_searchRound_none hnone extra
  · have hcandidates : search.candidates = search.automaticLoads.toFinset := by
      rw [candidates, List.filter_eq_self.mpr hautomatic]
    rw [← hcandidates]
    exact List.mem_toFinset.symm.trans (search.mem_closed_finalProgress_iff hbudget chosen)

/-- Two loads of 60 W and 50 W, the first of them listed twice, that fit
together into 120 W. -/
def repeatedLoadSearch : BestFirstSearch Bool where
  availablePowerWatts := 120
  automaticLoads := [false, true, false]
  currentTimeProvider := fun _ _ => ⟨none, none⟩
  deref := fun pointer => some
    (.make ⟨Vector.replicate 6 1, if pointer then 5 else 4⟩ [] (.finite (if pointer then 50 else 60)) 3 .AC .AUTO_OFF)

theorem runSearch_expands_each_feasible_set_once_repeatedLoadSearch :
    repeatedLoadSearch.searchRound repeatedLoadSearch.finalProgress = none ∧
    (repeatedLoadSearch.finalProgress.closedCombinations.map List.toFinset).Nodup ∧
    {false, true} ∈ repeatedLoadSearch.finalProgress.closedCombinations.map List.toFinset := by
  have hspec := runSearch_expands_each_feasible_set_once repeatedLoadSearch (by decide +kernel) (by decide +kernel)
  exact ⟨hspec.1, hspec.2.2.2.2.1, (hspec.2.2.2.2.2 _).mpr (by decide +kernel)⟩

end BestFirstSearch

end kilowatts
