import Kilowatts.BestFirstSearch.Exploration
import Mathlib.Data.Prod.Lex
import Mathlib.Order.OrderDual

namespace kilowatts

namespace BestFirstSearch

/-- The order of the returned combinations as a linear order: greater is better. -/
abbrev Merit := ℕ ×ₗ ℕ ×ₗ ℕ ×ₗ ℚᵒᵈ

variable {Pointer : Type}

/-- What two states are compared by, as one lexicographic key. -/
def meritOf (state : SearchState Pointer) : Merit :=
  toLex (state.totalEffectivePriority, toLex (state.totalConfiguredPriority,
    toLex (state.combination.length, OrderDual.toDual state.totalPowerWatts)))

/-- The four comparisons of the source are the lexicographic order of merits. -/
theorem isBetterReturnedCombination_iff (candidate currentBest : SearchState Pointer) :
    isBetterReturnedCombination candidate currentBest = true ↔ meritOf currentBest < meritOf candidate := by
  simp only [meritOf, Prod.Lex.toLex_lt_toLex, OrderDual.toDual_lt_toDual]
  by_cases heffective : candidate.totalEffectivePriority = currentBest.totalEffectivePriority
  · by_cases hconfigured : candidate.totalConfiguredPriority = currentBest.totalConfiguredPriority
    · by_cases hlength : candidate.combination.length = currentBest.combination.length
      · simp [isBetterReturnedCombination, heffective, hconfigured, hlength]
      · simp [isBetterReturnedCombination, heffective, hconfigured, hlength, Ne.symm hlength]
    · simp [isBetterReturnedCombination, heffective, hconfigured, Ne.symm hconfigured]
  · simp [isBetterReturnedCombination, heffective, Ne.symm heffective]

/-- The comparison of the code is the order of the keys. -/
theorem isBetterReturnedCombination_eq_false_iff (candidate currentBest : SearchState Pointer) :
    isBetterReturnedCombination candidate currentBest = false ↔ meritOf candidate ≤ meritOf currentBest := by
  rw [← Bool.not_eq_true, isBetterReturnedCombination_iff, not_lt]

/-- The better one is at least as good as both. -/
theorem meritOf_betterOf (candidate currentBest : SearchState Pointer) :
    meritOf candidate ≤ meritOf (betterOf candidate currentBest) ∧
      meritOf currentBest ≤ meritOf (betterOf candidate currentBest) := by
  unfold betterOf
  cases hbetter : isBetterReturnedCombination candidate currentBest with
  | true => exact ⟨le_refl _, ((isBetterReturnedCombination_iff _ _).mp hbetter).le⟩
  | false => exact ⟨(isBetterReturnedCombination_eq_false_iff _ _).mp hbetter, le_refl _⟩

theorem betterOf_cases (candidate currentBest : SearchState Pointer) :
    betterOf candidate currentBest = candidate ∨ betterOf candidate currentBest = currentBest := by
  unfold betterOf
  split
  · exact .inl rfl
  · exact .inr rfl

variable [DecidableEq Pointer] {search : BestFirstSearch Pointer}

/-- A state the search may return: it is built from a duplicate-free feasible
combination of candidates. -/
structure Returnable (search : BestFirstSearch Pointer) (state : SearchState Pointer) : Prop where
  nodup : state.combination.Nodup
  built : state = search.childState state.combination
  candidates : state.combination.toFinset ⊆ search.candidates
  feasible : search.Feasible state.combination.toFinset

theorem Returnable.betterOf {candidate currentBest : SearchState Pointer} (hcandidate : search.Returnable candidate)
    (hbest : search.Returnable currentBest) : search.Returnable (betterOf candidate currentBest) := by
  obtain heq | heq := betterOf_cases candidate currentBest
  · rw [heq]; exact hcandidate
  · rw [heq]; exact hbest

/-- A state that may be returned has children that may be returned, if they fit. -/
theorem Returnable.child {currentState : SearchState Pointer} (hcurrent : search.Returnable currentState)
    {load : Pointer} (hload : load ∈ search.automaticLoads)
    (hextends : Extends search currentState.combination.toFinset load)
    (hchild : (currentState.combination ++ [load]).Nodup) :
    search.Returnable (search.childState (currentState.combination ++ [load])) := by
  have hset := toFinset_append_singleton currentState.combination load
  refine ⟨hchild, rfl, ?_, ?_⟩
  · change (currentState.combination ++ [load]).toFinset ⊆ _
    rw [hset]
    refine Finset.insert_subset ?_ hcurrent.candidates
    rw [BestFirstSearch.candidates, List.mem_toFinset, List.mem_filter]
    exact ⟨hload, hextends.1⟩
  · change search.Feasible (currentState.combination ++ [load]).toFinset
    rw [hset]
    exact hextends.2.2

theorem Progress.Explored.returnable (hbudget : 0 ≤ search.availablePowerWatts) {progress : Progress Pointer}
    (hexplored : progress.Explored search) {state : SearchState Pointer} (hstate : state ∈ progress.openStates) :
    search.Returnable state := by
  have hopened := Progress.mem_opened.mpr ⟨state, hstate, rfl⟩
  have hreach := hexplored.valid.reachable _ (Worklist.mem_known.mpr (.inl hopened))
  obtain ⟨hcandidates, hfeasible⟩ := (search.reachable_iff hbudget _).mp hreach
  exact ⟨hexplored.wellFormed.open_nodup state hstate, hexplored.wellFormed.open_state state hstate,
    hcandidates, hfeasible⟩

/-- Whatever load is considered next, the best state stays one that may be returned. -/
theorem considerLoad_returnable {currentState : SearchState Pointer} {progress : Progress Pointer}
    (hcurrent : search.Returnable currentState) (hwf : progress.WellFormed search)
    (hbest : search.Returnable progress.bestState) {load : Pointer} (hload : load ∈ search.automaticLoads) :
    search.Returnable (search.considerLoad currentState progress load).bestState := by
  obtain ⟨⟨hextends, -⟩, hchild, heq⟩ | ⟨-, heq⟩ := considerLoad_cases hcurrent.nodup hwf load
  · rw [heq]
    exact (hcurrent.child hload hextends hchild).betterOf hbest
  · rw [heq]
    exact hbest

theorem foldl_considerLoad_returnable {currentState : SearchState Pointer}
    (hcurrent : search.Returnable currentState) (loads : List Pointer)
    (hloads : ∀ load ∈ loads, load ∈ search.automaticLoads) {progress : Progress Pointer}
    (hwf : progress.WellFormed search) (hbest : search.Returnable progress.bestState) :
    search.Returnable (loads.foldl (search.considerLoad currentState) progress).bestState := by
  induction loads generalizing progress with
  | nil => exact hbest
  | cons load loads ih =>
    have hstep := considerLoad_returnable hcurrent hwf hbest (hloads load List.mem_cons_self)
    exact ih (fun other hother => hloads other (List.mem_cons_of_mem _ hother))
      (considerLoad_spec hcurrent.nodup hwf load).1 hstep

/-- What the loop keeps for any clock: its best state can be returned. -/
structure Progress.Sound (search : BestFirstSearch Pointer) (progress : Progress Pointer) : Prop where
  explored : progress.Explored search
  best : search.Returnable progress.bestState

theorem Progress.Sound.searchRound (hbudget : 0 ≤ search.availablePowerWatts) {progress next : Progress Pointer}
    (hsound : progress.Sound search) (hround : search.searchRound progress = some next) : next.Sound search := by
  refine ⟨(hsound.explored.searchRound hround).1, ?_⟩
  obtain ⟨-, hnone⟩ | ⟨currentState, openStates, hperm, hsome⟩ := searchRound_cases search progress
  · simp [hround] at hnone
  · have hcurrent := hsound.explored.returnable hbudget (hperm.mem_iff.mp List.mem_cons_self)
    have hconsWf := hsound.explored.wellFormed.of_perm hperm (BestFirstSearch.betterOf currentState progress.bestState)
    rw [hround, Option.some.injEq] at hsome
    subst hsome
    exact foldl_considerLoad_returnable hcurrent search.automaticLoads (fun _ h => h) hconsWf.tail
      (hcurrent.betterOf hsound.best)

/-- No combination that was added up is better than the best state, each with
the priorities that were read for it. -/
structure Progress.BestOfEvaluated (search : BestFirstSearch Pointer) (progress : Progress Pointer) : Prop where
  opened : ∀ state ∈ progress.openStates, meritOf state ≤ meritOf progress.bestState
  closed : ∀ combination ∈ progress.closedCombinations,
    meritOf (search.childState combination) ≤ meritOf progress.bestState

/-- The child that is queued replaces the best state when it is better. -/
theorem considerLoad_bestOfEvaluated {currentState : SearchState Pointer} {progress : Progress Pointer}
    (hcurrent : currentState.combination.Nodup) (hwf : progress.WellFormed search)
    (hbest : progress.BestOfEvaluated search) (load : Pointer) :
    (search.considerLoad currentState progress load).BestOfEvaluated search ∧
      meritOf progress.bestState ≤ meritOf (search.considerLoad currentState progress load).bestState := by
  obtain ⟨-, -, heq⟩ | ⟨-, heq⟩ := considerLoad_cases hcurrent hwf load
  · have hmerit := meritOf_betterOf (search.childState (currentState.combination ++ [load])) progress.bestState
    rw [heq]
    refine ⟨⟨fun state hstate => ?_, fun combination hcombination => ?_⟩, hmerit.2⟩
    · obtain hold | hnew := List.mem_append.mp hstate
      · exact (hbest.opened state hold).trans hmerit.2
      · rw [List.mem_singleton.mp hnew]
        exact hmerit.1
    · exact (hbest.closed combination hcombination).trans hmerit.2
  · rw [heq]
    exact ⟨hbest, le_refl _⟩

/-- A round compares each new child with the best state as soon as it is built. -/
theorem foldl_considerLoad_bestOfEvaluated {currentState : SearchState Pointer}
    (hcurrent : currentState.combination.Nodup) (loads : List Pointer) {progress : Progress Pointer}
    (hwf : progress.WellFormed search) (hbest : progress.BestOfEvaluated search) :
    (loads.foldl (search.considerLoad currentState) progress).BestOfEvaluated search ∧
      meritOf progress.bestState ≤ meritOf (loads.foldl (search.considerLoad currentState) progress).bestState := by
  induction loads generalizing progress with
  | nil => exact ⟨hbest, le_refl _⟩
  | cons load loads ih =>
    obtain ⟨hstep, hle⟩ := considerLoad_bestOfEvaluated hcurrent hwf hbest load
    obtain ⟨hrest, hrestLe⟩ := ih (considerLoad_spec hcurrent hwf load).1 hstep
    exact ⟨hrest, hle.trans hrestLe⟩

theorem Progress.BestOfEvaluated.searchRound {progress next : Progress Pointer} (hwf : progress.WellFormed search)
    (hbest : progress.BestOfEvaluated search) (hround : search.searchRound progress = some next) :
    next.BestOfEvaluated search := by
  obtain ⟨-, hnone⟩ | ⟨currentState, openStates, hperm, hsome⟩ := searchRound_cases search progress
  · simp [hround] at hnone
  · have hmem : ∀ state ∈ currentState :: openStates, state ∈ progress.openStates := fun _ => hperm.mem_iff.mp
    have hconsWf := hwf.of_perm hperm (BestFirstSearch.betterOf currentState progress.bestState)
    have hmerit := meritOf_betterOf currentState progress.bestState
    have htracked : Progress.BestOfEvaluated search
        ⟨openStates, progress.closedCombinations, BestFirstSearch.betterOf currentState progress.bestState⟩ :=
      ⟨fun state hstate => (hbest.opened state (hmem state (List.mem_cons_of_mem _ hstate))).trans hmerit.2,
        fun combination hcombination => (hbest.closed combination hcombination).trans hmerit.2⟩
    obtain ⟨hinner, hle⟩ := foldl_considerLoad_bestOfEvaluated
      (hconsWf.open_nodup currentState List.mem_cons_self) search.automaticLoads hconsWf.tail htracked
    rw [hround, Option.some.injEq] at hsome
    subst hsome
    refine ⟨hinner.opened, fun combination hcombination => ?_⟩
    obtain hold | hnew := List.mem_append.mp hcombination
    · exact hinner.closed combination hold
    · rw [List.mem_singleton.mp hnew, ← hconsWf.open_state currentState List.mem_cons_self]
      exact hmerit.1.trans hle

variable (search) in
/-- In the end no evaluated combination is better than the best state. Nothing is asked of the clock. -/
theorem finalProgress_bestOfEvaluated : search.finalProgress.BestOfEvaluated search := by
  have hinitial : search.initialProgress.BestOfEvaluated search := by
    refine ⟨fun state hstate => ?_, fun combination hcombination => absurd hcombination List.not_mem_nil⟩
    rw [List.mem_singleton.mp hstate]
    exact le_refl _
  have hround : ∀ progress next, progress.Explored search ∧ progress.BestOfEvaluated search →
      search.searchRound progress = some next → next.Explored search ∧ next.BestOfEvaluated search :=
    fun _ _ hinv hnext => ⟨(hinv.1.searchRound hnext).1, hinv.2.searchRound hinv.1.wellFormed hnext⟩
  exact (searchLoop_invariant hround _ ⟨search.initialProgress_explored, hinitial⟩).2

section SteadyClock

/-- The merit of a combination depends on its set of loads only, as long as the
clock stands still. -/
def merit (search : BestFirstSearch Pointer) (clock : CurrentTimeProvider) (chosen : Finset Pointer) : Merit :=
  toLex (∑ load ∈ chosen, search.effectivePriorityOf clock load,
    toLex (∑ load ∈ chosen, search.configuredPriorityOf load,
      toLex (chosen.card, OrderDual.toDual (∑ load ∈ chosen, search.powerRatingOf load))))

variable {clock : CurrentTimeProvider}

/-- With a clock that stands still, the merit is that of the set. -/
theorem meritOf_childState (hsteady : search.SteadyClock clock) {combination : List Pointer}
    (hnodup : combination.Nodup) :
    meritOf (search.childState combination) = search.merit clock combination.toFinset := by
  simp only [meritOf, merit, childState, search.calculateTotalPowerWatts_eq_sum hnodup,
    search.calculateTotalConfiguredPriority_eq_sum hnodup,
    search.calculateTotalEffectivePriority_eq_sum hsteady hnodup, List.toFinset_card_of_nodup hnodup]

end SteadyClock

variable (search)

theorem initialProgress_sound (hbudget : 0 ≤ search.availablePowerWatts) : search.initialProgress.Sound search :=
  ⟨search.initialProgress_explored, search.initialProgress_explored.returnable hbudget List.mem_cons_self⟩

/-- Needs a budget that is not negative; else the empty combination would not fit either. -/
theorem finalProgress_sound (hbudget : 0 ≤ search.availablePowerWatts) : search.finalProgress.Sound search :=
  searchLoop_invariant (fun _ _ hinv hnext => hinv.searchRound hbudget hnext) _
    (search.initialProgress_sound hbudget)

/-- What is returned is always a duplicate-free combination of candidates, also
when the budget is negative or the clock moves. -/
theorem getBestCombination_candidates :
    search.getBestCombination.Nodup ∧ search.getBestCombination.toFinset ⊆ search.candidates := by
  unfold getBestCombination runSearch
  split
  · simp
  · rename_i hbudget
    have hreturnable := (search.finalProgress_sound (not_lt.mp hbudget)).best
    exact ⟨hreturnable.nodup, hreturnable.candidates⟩

/-- The budget is respected whatever the clock does. -/
theorem getBestCombination_feasibleSet (hbudget : 0 ≤ search.availablePowerWatts) :
    search.Feasible search.getBestCombination.toFinset := by
  unfold getBestCombination runSearch
  rw [if_neg (not_lt.mpr hbudget)]
  exact (search.finalProgress_sound hbudget).best.feasible

/-- The same for the sum that the code computes. -/
theorem getBestCombination_feasible (hbudget : 0 ≤ search.availablePowerWatts) :
    search.calculateTotalPowerWatts search.getBestCombination ≤ search.availablePowerWatts := by
  rw [search.calculateTotalPowerWatts_eq_sum search.getBestCombination_candidates.1]
  exact search.getBestCombination_feasibleSet hbudget

/-- Each feasible set of candidates was added up once, and the returned
combination is not worse, whatever the clock does in between. -/
theorem exists_evaluated (hbudget : 0 ≤ search.availablePowerWatts) {chosen : Finset Pointer}
    (hcandidates : chosen ⊆ search.candidates) (hfeasible : search.Feasible chosen) :
    ∃ combination ∈ search.finalProgress.closedCombinations, combination.Nodup ∧ combination.toFinset = chosen ∧
      meritOf (search.childState combination) ≤ meritOf (search.childState search.getBestCombination) := by
  have hclosed := (search.mem_closed_finalProgress_iff hbudget chosen).mpr ⟨hcandidates, hfeasible⟩
  obtain ⟨combination, hmem, hset⟩ := Progress.mem_closed.mp hclosed
  have hle := search.finalProgress_bestOfEvaluated.closed combination hmem
  rw [(search.finalProgress_sound hbudget).best.built] at hle
  refine ⟨combination, hmem, search.finalProgress_explored.wellFormed.closed_nodup combination hmem, hset, ?_⟩
  unfold getBestCombination runSearch
  rw [if_neg (not_lt.mpr hbudget)]
  exact hle

/-- No feasible set of candidates has greater merit than the returned one. -/
theorem merit_le_getBestCombination {clock : CurrentTimeProvider} (hsteady : search.SteadyClock clock)
    (hbudget : 0 ≤ search.availablePowerWatts) {chosen : Finset Pointer}
    (hcandidates : chosen ⊆ search.candidates) (hfeasible : search.Feasible chosen) :
    search.merit clock chosen ≤ search.merit clock search.getBestCombination.toFinset := by
  obtain ⟨combination, -, hnodup, rfl, hle⟩ := search.exists_evaluated hbudget hcandidates hfeasible
  rwa [meritOf_childState hsteady hnodup, meritOf_childState hsteady search.getBestCombination_candidates.1] at hle

/-- The search ends by itself and, while the clock stands still, selects a best
feasible combination of its loads. Neither distinct pointers nor any property of
the ratings, priorities and schedules is assumed. -/
theorem getBestCombination_optimal {clock : CurrentTimeProvider} (hsteady : search.SteadyClock clock)
    (hautomatic : ∀ load ∈ search.automaticLoads, search.isAutoCandidate load = true)
    (hbudget : 0 ≤ search.availablePowerWatts) :
    search.searchRound search.finalProgress = none ∧
    search.getBestCombination.Nodup ∧
    search.getBestCombination ⊆ search.automaticLoads ∧
    search.calculateTotalPowerWatts search.getBestCombination ≤ search.availablePowerWatts ∧
    ∀ other : List Pointer, other.Nodup → other ⊆ search.automaticLoads →
      search.calculateTotalPowerWatts other ≤ search.availablePowerWatts →
      isBetterReturnedCombination (search.childState other)
        (search.childState search.getBestCombination) = false := by
  obtain ⟨hnodup, hcandidates⟩ := search.getBestCombination_candidates
  refine ⟨searchRound_eq_none_iff.mpr (search.searchLoop_openStates_eq_nil hbudget), hnodup, ?_,
    search.getBestCombination_feasible hbudget, ?_⟩
  · intro load hload
    have hmem := hcandidates (List.mem_toFinset.mpr hload)
    rw [candidates, List.mem_toFinset, List.mem_filter] at hmem
    exact hmem.1
  · intro other hother hsub hpower
    have hfeasible : search.Feasible other.toFinset := by
      rwa [search.calculateTotalPowerWatts_eq_sum hother] at hpower
    have hotherCandidates : other.toFinset ⊆ search.candidates := by
      intro load hload
      have hmem := hsub (List.mem_toFinset.mp hload)
      rw [candidates, List.mem_toFinset, List.mem_filter]
      exact ⟨hmem, hautomatic load hmem⟩
    rw [isBetterReturnedCombination_eq_false_iff, meritOf_childState hsteady hother,
      meritOf_childState hsteady hnodup]
    exact search.merit_le_getBestCombination hsteady hbudget hotherCandidates hfeasible

/-- Two AUTO loads of 60 W and 50 W that do not fit together into 100 W. -/
def twoLoadSearch : BestFirstSearch Bool where
  availablePowerWatts := 100
  automaticLoads := [false, true]
  currentTimeProvider := fun _ _ => ⟨some 12, some 30⟩
  deref := fun pointer => some
    { id := ⟨Vector.replicate 6 1, if pointer then 5 else 4⟩
      name := []
      lastBestFirstRejectionReason := 0
      powerRatingWatts := if pointer then 50 else 60
      powerRating_nonneg := by split <;> decide
      powerType := .AC
      priority := 3
      mode := .AUTO_OFF
      schedule := .make pointer 12 0 13 0 }

theorem twoLoadSearch_steadyClock : twoLoadSearch.SteadyClock ⟨some 12, some 30⟩ := fun _ _ => rfl

theorem getBestCombination_optimal_twoLoadSearch :
    twoLoadSearch.searchRound twoLoadSearch.finalProgress = none ∧
    twoLoadSearch.getBestCombination.Nodup ∧
    twoLoadSearch.getBestCombination ⊆ [false, true] ∧
    twoLoadSearch.calculateTotalPowerWatts twoLoadSearch.getBestCombination ≤ 100 ∧
    ∀ other : List Bool, other.Nodup → other ⊆ [false, true] →
      twoLoadSearch.calculateTotalPowerWatts other ≤ 100 →
      isBetterReturnedCombination (twoLoadSearch.childState other)
        (twoLoadSearch.childState twoLoadSearch.getBestCombination) = false :=
  getBestCombination_optimal twoLoadSearch twoLoadSearch_steadyClock (by decide) (by decide +kernel)

end BestFirstSearch

end kilowatts
