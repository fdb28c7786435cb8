import Kilowatts.BestFirstSearch.RaisedLoad

namespace kilowatts

/-- The instants, in seconds of local time, at which the reads of one search find
the clock. `none` stands for a read that returned false. The clock may move
forward by any amount between two reads. -/
structure MovingClock where
  read : Nat → Option Nat
  forward : ∀ {first second before after : Nat}, first ≤ second → read first = some before →
    read second = some after → before ≤ after

namespace MovingClock

/-- The hour of the day, as `tm_hour` has it. -/
def localHour (instant : Nat) : UInt8 := UInt8.ofNat (instant / 3600 % 24)

/-- The minute of the hour, as `tm_min` has it. -/
def localMinute (instant : Nat) : UInt8 := UInt8.ofNat (instant / 60 % 60)

/-- What the clock answers at one instant. -/
def providerOf (instant : Nat) : CurrentTimeProvider where
  currentLocalHour := some (localHour instant)
  currentLocalMinute := some (localMinute instant)

/-- What a schedule evaluation finds that starts with the given read: the hour of
one instant and the minute of a later one. -/
def providerAt (clock : MovingClock) (reads : Nat) : CurrentTimeProvider where
  currentLocalHour := (clock.read reads).map localHour
  currentLocalMinute := (clock.read (reads + 1)).map localMinute

end MovingClock

namespace BestFirstSearch

/-- The local variables of `runSearch` and the number of reads made so far.
`evaluations` records the combinations added up so far, each with the number of
the read at which its addition started. -/
structure TimedProgress (Pointer : Type) where
  progress : Progress Pointer
  reads : Nat
  evaluations : List (List Pointer × Nat)

variable {Pointer : Type}

/-- How many reads the schedule evaluation of one load makes: none without an
enabled schedule, and only the hour when it is not known. -/
def readsFor (search : BestFirstSearch Pointer) (clock : MovingClock) (reads : Nat) (load : Pointer) : Nat :=
  match search.deref load with
  | none => 0
  | some load =>
    if !load.isAuto || !load.schedule.enabled then 0
    else if (clock.read reads).isNone then 1
    else 2

/-- The loop of `calculateTotalEffectivePriority` under a clock that moves: the
total and the number of reads after it. -/
def addUpEffectivePriority (search : BestFirstSearch Pointer) (clock : MovingClock) (combination : List Pointer)
    (reads : Nat) : Nat × Nat :=
  combination.foldl (fun total load =>
    (total.1 + search.effectivePriorityOf (clock.providerAt total.2) load,
      total.2 + search.readsFor clock total.2 load)) (0, reads)

/-- The state built for a combination whose addition starts with the given read. -/
def childStateAt (search : BestFirstSearch Pointer) (clock : MovingClock) (childCombination : List Pointer)
    (reads : Nat) : SearchState Pointer :=
  { search.childState childCombination with
    totalEffectivePriority := (search.addUpEffectivePriority clock childCombination reads).1 }

section TimedSearch

variable [DecidableEq Pointer] (search : BestFirstSearch Pointer) (clock : MovingClock)

/-- `considerLoad` under a clock that moves. -/
def considerLoadAt (currentState : SearchState Pointer) (timed : TimedProgress Pointer) (load : Pointer) :
    TimedProgress Pointer :=
  let childCombination := currentState.combination ++ [load]
  if !search.isAutoCandidate load || containsLoad currentState.combination load then timed
  else if !search.isWithinAvailablePower childCombination then timed
  else if combinationAlreadyKnown childCombination timed.progress.openStates timed.progress.closedCombinations then
    timed
  else
    { progress := { timed.progress with
        openStates := timed.progress.openStates ++ [search.childStateAt clock childCombination timed.reads]
        bestState := betterOf (search.childStateAt clock childCombination timed.reads) timed.progress.bestState }
      reads := (search.addUpEffectivePriority clock childCombination timed.reads).2
      evaluations := timed.evaluations ++ [(childCombination, timed.reads)] }

/-- `searchRound` under a clock that moves. -/
def searchRoundAt (timed : TimedProgress Pointer) : Option (TimedProgress Pointer) :=
  match sortOpenStates timed.progress.openStates with
  | [] => none
  | currentState :: openStates =>
    let tracked := { timed with progress :=
      { timed.progress with openStates, bestState := betterOf currentState timed.progress.bestState } }
    let expanded := search.automaticLoads.foldl (search.considerLoadAt clock currentState) tracked
    some { expanded with progress :=
      { expanded.progress with
        closedCombinations := expanded.progress.closedCombinations ++ [currentState.combination] } }

/-- `searchLoop` under a clock that moves. -/
def searchLoopAt : Nat → TimedProgress Pointer → TimedProgress Pointer
  | 0, timed => timed
  | fuel + 1, timed =>
    match search.searchRoundAt clock timed with
    | none => timed
    | some next => searchLoopAt fuel next

/-- The loop run to its end. The start state holds no load and needs no read. -/
def finalProgressAt : TimedProgress Pointer :=
  search.searchLoopAt clock (2 ^ search.automaticLoads.length) ⟨search.initialProgress, 0, []⟩

/-- `runSearch` with a clock that goes on while it is read. -/
def runSearchAt : List Pointer :=
  if search.availablePowerWatts < 0 then [] else (search.finalProgressAt clock).progress.bestState.combination

/-- The search whose readings are the given ones. -/
def withReadings (search : BestFirstSearch Pointer) (readings : List Pointer → Pointer → CurrentTimeProvider) :
    BestFirstSearch Pointer :=
  { search with currentTimeProvider := readings }

/-- What is read for each load of a combination whose addition starts with the
given read. -/
def readingsFrom : List Pointer → Nat → Pointer → CurrentTimeProvider
  | [], reads, _ => clock.providerAt reads
  | first :: combination, reads, load =>
    if load = first then clock.providerAt reads
    else readingsFrom combination (reads + search.readsFor clock reads first) load

omit [DecidableEq Pointer] in
theorem foldl_addUpEffectivePriority (combination : List Pointer) (totalPriority reads : Nat) :
    combination.foldl (fun (total : Nat × Nat) load =>
      (total.1 + search.effectivePriorityOf (clock.providerAt total.2) load,
        total.2 + search.readsFor clock total.2 load)) (totalPriority, reads) =
      (totalPriority + (search.addUpEffectivePriority clock combination reads).1,
        (search.addUpEffectivePriority clock combination reads).2) := by
  unfold addUpEffectivePriority
  induction combination generalizing totalPriority reads with
  | nil => rfl
  | cons load combination ih =>
    simp only [List.foldl_cons, Nat.zero_add]
    rw [ih, ih (search.effectivePriorityOf (clock.providerAt reads) load), Nat.add_assoc]

omit [DecidableEq Pointer] in
theorem addUpEffectivePriority_cons (load : Pointer) (combination : List Pointer) (reads : Nat) :
    search.addUpEffectivePriority clock (load :: combination) reads =
      (search.effectivePriorityOf (clock.providerAt reads) load +
          (search.addUpEffectivePriority clock combination (reads + search.readsFor clock reads load)).1,
        (search.addUpEffectivePriority clock combination (reads + search.readsFor clock reads load)).2) := by
  rw [addUpEffectivePriority, List.foldl_cons]
  simp only [Nat.zero_add]
  exact search.foldl_addUpEffectivePriority clock combination _ _

/-- A total added up under a moving clock is the sum of the priorities as each
load was read. -/
theorem addUpEffectivePriority_eq_sum {combination : List Pointer} (hnodup : combination.Nodup) (reads : Nat) :
    (search.addUpEffectivePriority clock combination reads).1 =
      ∑ load ∈ combination.toFinset,
        search.effectivePriorityOf (search.readingsFrom clock combination reads load) load := by
  induction combination generalizing reads with
  | nil => rfl
  | cons first combination ih =>
    rw [List.nodup_cons] at hnodup
    have hnew : first ∉ combination.toFinset := fun hmem => hnodup.1 (List.mem_toFinset.mp hmem)
    have hfirst : search.readingsFrom clock (first :: combination) reads first = clock.providerAt reads := if_pos rfl
    rw [List.toFinset_cons, Finset.sum_insert hnew, addUpEffectivePriority_cons, hfirst]
    dsimp only
    rw [ih hnodup.2]
    congr 1
    refine Finset.sum_congr rfl fun load hload => ?_
    have hne : load ≠ first := fun heq => hnew (heq ▸ hload)
    rw [readingsFrom, if_neg hne]

/-- The readings give each recorded combination the total that was added up for it. -/
def AgreesWith (readings : List Pointer → Pointer → CurrentTimeProvider)
    (evaluations : List (List Pointer × Nat)) : Prop :=
  ∀ evaluation ∈ evaluations,
    (search.withReadings readings).calculateTotalEffectivePriority evaluation.1 =
      (search.addUpEffectivePriority clock evaluation.1 evaluation.2).1

variable {search clock} {readings : List Pointer → Pointer → CurrentTimeProvider}

omit [DecidableEq Pointer] in
/-- Readings that agree with an evaluation give the same state as the clock did. -/
theorem AgreesWith.childState_eq {evaluations : List (List Pointer × Nat)}
    (hagrees : search.AgreesWith clock readings evaluations) {evaluation : List Pointer × Nat}
    (hmem : evaluation ∈ evaluations) :
    (search.withReadings readings).childState evaluation.1 = search.childStateAt clock evaluation.1 evaluation.2 := by
  have hstate : (search.withReadings readings).childState evaluation.1 =
      { search.childState evaluation.1 with
        totalEffectivePriority := (search.withReadings readings).calculateTotalEffectivePriority evaluation.1 } :=
    rfl
  rw [hstate, hagrees evaluation hmem]
  rfl

/-- The timed search is the untimed one whose readings agree with what was read. -/
theorem considerLoadAt_eq (currentState : SearchState Pointer) (timed : TimedProgress Pointer) (load : Pointer)
    (hagrees : search.AgreesWith clock readings (search.considerLoadAt clock currentState timed load).evaluations) :
    search.AgreesWith clock readings timed.evaluations ∧
      (search.considerLoadAt clock currentState timed load).progress =
        (search.withReadings readings).considerLoad currentState timed.progress load := by
  have hauto : (search.withReadings readings).isAutoCandidate load = search.isAutoCandidate load := rfl
  have hpower : (search.withReadings readings).isWithinAvailablePower (currentState.combination ++ [load]) =
      search.isWithinAvailablePower (currentState.combination ++ [load]) := rfl
  unfold considerLoadAt at hagrees ⊢
  unfold considerLoad
  dsimp only at hagrees ⊢
  rw [hauto, hpower]
  split_ifs at hagrees ⊢ with hskip hlimit hknown
  · exact ⟨hagrees, rfl⟩
  · exact ⟨hagrees, rfl⟩
  · exact ⟨hagrees, rfl⟩
  · refine ⟨fun evaluation hmem => hagrees evaluation (List.mem_append_left _ hmem), ?_⟩
    rw [hagrees.childState_eq (List.mem_append_right _ List.mem_cons_self)]

theorem foldl_considerLoadAt_eq (currentState : SearchState Pointer) (loads : List Pointer)
    (timed : TimedProgress Pointer)
    (hagrees : search.AgreesWith clock readings
      (loads.foldl (search.considerLoadAt clock currentState) timed).evaluations) :
    search.AgreesWith clock readings timed.evaluations ∧
      (loads.foldl (search.considerLoadAt clock currentState) timed).progress =
        loads.foldl ((search.withReadings readings).considerLoad currentState) timed.progress := by
  induction loads generalizing timed with
  | nil => exact ⟨hagrees, rfl⟩
  | cons load loads ih =>
    obtain ⟨hstep, hrest⟩ := ih _ hagrees
    obtain ⟨hbefore, hload⟩ := considerLoadAt_eq currentState timed load hstep
    refine ⟨hbefore, ?_⟩
    rw [List.foldl_cons, List.foldl_cons, hrest, hload]

/-- A round with the moving clock is a round with the readings that it took. -/
theorem searchRoundAt_eq {timed next : TimedProgress Pointer} (hround : search.searchRoundAt clock timed = some next)
    (hagrees : search.AgreesWith clock readings next.evaluations) :
    search.AgreesWith clock readings timed.evaluations ∧
      (search.withReadings readings).searchRound timed.progress = some next.progress := by
  unfold searchRoundAt at hround
  unfold searchRound
  cases hsort : sortOpenStates timed.progress.openStates with
  | nil => simp [hsort] at hround
  | cons currentState openStates =>
    simp only [hsort, Option.some.injEq] at hround
    subst hround
    obtain ⟨hbefore, hinner⟩ := foldl_considerLoadAt_eq currentState search.automaticLoads _ hagrees
    refine ⟨hbefore, ?_⟩
    dsimp only
    rw [hinner]
    rfl

theorem searchRoundAt_eq_none {timed : TimedProgress Pointer} (hround : search.searchRoundAt clock timed = none) :
    (search.withReadings readings).searchRound timed.progress = none := by
  unfold searchRoundAt at hround
  unfold searchRound
  cases hsort : sortOpenStates timed.progress.openStates with
  | nil => rfl
  | cons currentState openStates => simp [hsort] at hround

/-- So is the whole loop, if the readings agree with all evaluations up to its end. -/
theorem searchLoopAt_eq (fuel : Nat) {timed : TimedProgress Pointer}
    (hagrees : search.AgreesWith clock readings (search.searchLoopAt clock fuel timed).evaluations) :
    search.AgreesWith clock readings timed.evaluations ∧
      (search.searchLoopAt clock fuel timed).progress =
        (search.withReadings readings).searchLoop fuel timed.progress := by
  induction fuel generalizing timed with
  | zero => exact ⟨hagrees, rfl⟩
  | succ fuel ih =>
    unfold searchLoopAt at hagrees ⊢
    unfold searchLoop
    cases hround : search.searchRoundAt clock timed with
    | none =>
      simp only [hround] at hagrees
      simp only [searchRoundAt_eq_none hround]
      exact ⟨hagrees, trivial⟩
    | some next =>
      simp only [hround] at hagrees
      obtain ⟨hnext, hrest⟩ := ih hagrees
      obtain ⟨hbefore, hpure⟩ := searchRoundAt_eq hround hnext
      simp only [hpure]
      exact ⟨hbefore, hrest⟩

omit [DecidableEq Pointer] in
/-- The combinations that the search has met, apart from those being expanded. -/
def TimedProgress.met (timed : TimedProgress Pointer) : List (List Pointer) :=
  timed.progress.openStates.map (·.combination) ++ timed.progress.closedCombinations

/-- Apart from the empty one, the combinations met are those added up, each of
them once. `expanding` holds the combination of the current state, which is in
neither list of the search. -/
structure TimedProgress.Recorded (expanding : List (List Pointer)) (timed : TimedProgress Pointer) : Prop where
  met : (expanding ++ timed.met).Perm ([] :: timed.evaluations.map Prod.fst)
  distinct : ([] :: timed.evaluations.map Prod.fst).Nodup
  nodup : ∀ combination ∈ timed.evaluations.map Prod.fst, combination.Nodup
  best : timed.progress.bestState.combination ∈ [] :: timed.evaluations.map Prod.fst

theorem TimedProgress.Recorded.considerLoadAt {currentState : SearchState Pointer} {timed : TimedProgress Pointer}
    (hrecorded : timed.Recorded [currentState.combination]) (load : Pointer) :
    (search.considerLoadAt clock currentState timed load).Recorded [currentState.combination] := by
  unfold BestFirstSearch.considerLoadAt
  dsimp only
  split_ifs with hskip hlimit hknown
  · exact hrecorded
  · exact hrecorded
  · exact hrecorded
  · have hcurrent : currentState.combination ∈ [] :: timed.evaluations.map Prod.fst :=
      hrecorded.met.mem_iff.mp List.mem_cons_self
    have hchild : (currentState.combination ++ [load]).Nodup := by
      have hnew : load ∉ currentState.combination := by simp_all [containsLoad]
      obtain hnil | hmem := List.mem_cons.mp hcurrent
      · rw [hnil]
        exact List.nodup_singleton load
      · rw [← List.concat_eq_append]
        exact (hrecorded.nodup _ hmem).concat hnew
    -- a combination that was met represents itself
    have hself : representsSameCombination (currentState.combination ++ [load])
        (currentState.combination ++ [load]) = true := (representsSameCombination_iff hchild hchild).mpr rfl
    have hnotMet : currentState.combination ++ [load] ∉ [currentState.combination] ++ timed.met := by
      intro hmem
      obtain hmem | hmem := List.mem_append.mp hmem
      · simp at hmem
      · refine hknown ?_
        rw [combinationAlreadyKnown, Bool.or_eq_true, List.any_eq_true, List.any_eq_true]
        obtain hmem | hmem := List.mem_append.mp hmem
        · obtain ⟨state, hstate, heq⟩ := List.mem_map.mp hmem
          exact .inl ⟨state, hstate, heq ▸ hself⟩
        · exact .inr ⟨_, hmem, hself⟩
    rw [hrecorded.met.mem_iff] at hnotMet
    constructor
    · have hperm := hrecorded.met.append_right [currentState.combination ++ [load]]
      simp only [TimedProgress.met, List.map_append, List.map_cons, List.map_nil, List.cons_append] at hperm ⊢
      refine List.Perm.trans ?_ hperm
      simp only [List.nil_append, List.append_assoc]
      refine (List.Perm.cons _ ?_)
      exact List.Perm.append_left _ List.perm_append_comm
    · have hdistinct := hrecorded.distinct.concat hnotMet
      rw [List.concat_eq_append] at hdistinct
      simpa only [List.map_append, List.map_cons, List.map_nil, List.cons_append] using hdistinct
    · intro combination hcombination
      rw [List.map_append, List.mem_append] at hcombination
      obtain hold | hnew := hcombination
      · exact hrecorded.nodup combination hold
      · rw [List.mem_singleton.mp hnew]
        exact hchild
    · dsimp only
      rw [List.map_append, ← List.cons_append]
      obtain heq | heq := betterOf_cases (search.childStateAt clock (currentState.combination ++ [load]) timed.reads)
        timed.progress.bestState
      · rw [heq]
        exact List.mem_append_right _ List.mem_cons_self
      · rw [heq]
        exact List.mem_append_left _ hrecorded.best

theorem TimedProgress.Recorded.foldl_considerLoadAt {currentState : SearchState Pointer} (loads : List Pointer)
    {timed : TimedProgress Pointer} (hrecorded : timed.Recorded [currentState.combination]) :
    (loads.foldl (search.considerLoadAt clock currentState) timed).Recorded [currentState.combination] := by
  induction loads generalizing timed with
  | nil => exact hrecorded
  | cons load loads ih => exact ih (hrecorded.considerLoadAt load)

theorem TimedProgress.Recorded.searchRoundAt {timed next : TimedProgress Pointer} (hrecorded : timed.Recorded [])
    (hround : search.searchRoundAt clock timed = some next) : next.Recorded [] := by
  unfold BestFirstSearch.searchRoundAt at hround
  cases hsort : sortOpenStates timed.progress.openStates with
  | nil => simp [hsort] at hround
  | cons currentState openStates =>
    have hperm := sortOpenStates_perm timed.progress.openStates
    rw [hsort] at hperm
    simp only [hsort, Option.some.injEq] at hround
    subst hround
    have htracked : TimedProgress.Recorded [currentState.combination]
        { timed with progress :=
          { timed.progress with openStates, bestState := betterOf currentState timed.progress.bestState } } := by
      have hmet := ((hperm.map (·.combination)).append_right _).trans hrecorded.met
      refine ⟨hmet, hrecorded.distinct, hrecorded.nodup, ?_⟩
      obtain heq | heq := betterOf_cases currentState timed.progress.bestState
      · rw [heq]
        exact hmet.mem_iff.mp List.mem_cons_self
      · rw [heq]
        exact hrecorded.best
    have hinner : (search.automaticLoads.foldl (search.considerLoadAt clock currentState) _).Recorded
        [currentState.combination] := htracked.foldl_considerLoadAt search.automaticLoads
    refine ⟨List.Perm.trans ?_ hinner.met, hinner.distinct, hinner.nodup, hinner.best⟩
    simp only [TimedProgress.met, List.nil_append, ← List.append_assoc]
    exact List.perm_append_comm

theorem TimedProgress.Recorded.searchLoopAt (fuel : Nat) {timed : TimedProgress Pointer}
    (hrecorded : timed.Recorded []) : (search.searchLoopAt clock fuel timed).Recorded [] := by
  induction fuel generalizing timed with
  | zero => exact hrecorded
  | succ fuel ih =>
    unfold BestFirstSearch.searchLoopAt
    cases hround : search.searchRoundAt clock timed with
    | none => exact hrecorded
    | some next => exact ih (hrecorded.searchRoundAt hround)

/-- Distinct combinations can be given readings one by one. It takes that none is evaluated twice. -/
theorem exists_assignment {evaluations : List (List Pointer × Nat)} (hdistinct : (evaluations.map Prod.fst).Nodup) :
    ∃ start : List Pointer → Nat, ∀ evaluation ∈ evaluations, start evaluation.1 = evaluation.2 := by
  induction evaluations with
  | nil => exact ⟨fun _ => 0, List.forall_mem_nil _⟩
  | cons first evaluations ih =>
    rw [List.map_cons, List.nodup_cons] at hdistinct
    obtain ⟨start, hstart⟩ := ih hdistinct.2
    refine ⟨Function.update start first.1 first.2, fun evaluation hmem => ?_⟩
    obtain rfl | hmem := List.mem_cons.mp hmem
    · exact Function.update_self _ _ _
    · have hne : evaluation.1 ≠ first.1 := fun heq => hdistinct.1 (heq ▸ List.mem_map_of_mem hmem)
      rw [Function.update_of_ne hne]
      exact hstart evaluation hmem

variable (search clock)

theorem finalProgressAt_recorded : (search.finalProgressAt clock).Recorded [] :=
  TimedProgress.Recorded.searchLoopAt _
    { met := List.Perm.refl _
      distinct := List.nodup_singleton _
      nodup := List.forall_mem_nil _
      best := List.mem_cons_self }

/-- Readings that the untimed search can be given in place of the moving clock:
what was read for the combinations added up, and `fallback` elsewhere. -/
theorem exists_readings (fallback : CurrentTimeProvider) :
    ∃ readings : List Pointer → Pointer → CurrentTimeProvider,
      search.AgreesWith clock readings (search.finalProgressAt clock).evaluations ∧
      ∀ combination load, readings combination load = fallback ∨
        ∃ reads, (combination, reads) ∈ (search.finalProgressAt clock).evaluations ∧ load ∈ combination ∧
          readings combination load = search.readingsFrom clock combination reads load := by
  have hrecorded := search.finalProgressAt_recorded clock
  obtain ⟨start, hstart⟩ := exists_assignment (List.nodup_cons.mp hrecorded.distinct).2
  refine ⟨fun combination load =>
    if combination ∈ (search.finalProgressAt clock).evaluations.map Prod.fst ∧ load ∈ combination then
      search.readingsFrom clock combination (start combination) load
    else fallback, fun evaluation hmem => ?_, fun combination load => ?_⟩
  · have hkey : evaluation.1 ∈ (search.finalProgressAt clock).evaluations.map Prod.fst := List.mem_map_of_mem hmem
    have hnodup := hrecorded.nodup evaluation.1 hkey
    rw [search.addUpEffectivePriority_eq_sum clock hnodup, ← hstart evaluation hmem, calculateTotalEffectivePriority,
      ← List.foldl_map, ← List.sum_eq_foldl, ← List.sum_toFinset _ hnodup]
    refine Finset.sum_congr rfl fun load hload => ?_
    simp only [withReadings, if_pos (And.intro hkey (List.mem_toFinset.mp hload))]
    rfl
  · by_cases hread : combination ∈ (search.finalProgressAt clock).evaluations.map Prod.fst ∧ load ∈ combination
    · obtain ⟨evaluation, hmem, rfl⟩ := List.mem_map.mp hread.1
      refine .inr ⟨evaluation.2, hmem, hread.2, ?_⟩
      rw [← hstart evaluation hmem]
      exact if_pos hread
    · exact .inl (if_neg hread)

variable {search clock}

/-- Every run under a moving clock is a run of the untimed search. -/
theorem AgreesWith.finalProgressAt_eq
    (hagrees : search.AgreesWith clock readings (search.finalProgressAt clock).evaluations) :
    (search.finalProgressAt clock).progress = (search.withReadings readings).finalProgress :=
  (searchLoopAt_eq _ hagrees).2

/-- What the search returns with the clock, it returns with the readings that agree with it. -/
theorem AgreesWith.runSearchAt_eq
    (hagrees : search.AgreesWith clock readings (search.finalProgressAt clock).evaluations) :
    search.runSearchAt clock = (search.withReadings readings).getBestCombination := by
  rw [runSearchAt, hagrees.finalProgressAt_eq]
  rfl

variable (search clock)

/-- The combinations that a run adds up, each with the read at which its addition
starts. -/
def evaluationsAt : List (List Pointer × Nat) :=
  if search.availablePowerWatts < 0 then [] else (search.finalProgressAt clock).evaluations

/-- The search with a clock that stands still at the instant. -/
def atInstant (instant : Nat) : BestFirstSearch Pointer :=
  search.withReadings fun _ _ => MovingClock.providerOf instant

/-- No feasible combination is better than the returned one when the schedules
are as at the given instant. -/
def OptimalAt (instant : Nat) (returned : List Pointer) : Prop :=
  ∀ other : List Pointer, other.Nodup → other ⊆ search.automaticLoads →
    search.calculateTotalPowerWatts other ≤ search.availablePowerWatts →
    isBetterReturnedCombination ((search.atInstant instant).childState other)
      ((search.atInstant instant).childState returned) = false

/-- Each read of the run finds the schedules of the loads as they are at the instant. -/
def ReadsAgreeWith (instant : Nat) : Prop :=
  ∀ evaluation ∈ search.evaluationsAt clock, ∀ load ∈ evaluation.1,
    search.scheduleActive (search.readingsFrom clock evaluation.1 evaluation.2 load) load =
      search.scheduleActive (MovingClock.providerOf instant) load

variable {search clock}

/-- Every combination is evaluated once, and all that are evaluated are expanded in the end. The empty
one is never evaluated. -/
theorem closed_perm_evaluations (hbudget : 0 ≤ search.availablePowerWatts) :
    (search.finalProgressAt clock).progress.closedCombinations.Perm
      ([] :: (search.finalProgressAt clock).evaluations.map Prod.fst) := by
  obtain ⟨readings, hagrees, -⟩ := search.exists_readings clock ⟨none, none⟩
  have hopened : (search.finalProgressAt clock).progress.openStates = [] := by
    rw [hagrees.finalProgressAt_eq]
    exact (search.withReadings readings).searchLoop_openStates_eq_nil hbudget
  have hmet := (search.finalProgressAt_recorded clock).met
  rwa [TimedProgress.met, hopened, List.map_nil, List.nil_append, List.nil_append] at hmet

/-- Each feasible set but the empty one is added up once in a run. -/
theorem evaluationsAt_sets (hautomatic : ∀ load ∈ search.automaticLoads, search.isAutoCandidate load = true) :
    ((search.evaluationsAt clock).map (·.1.toFinset)).Nodup ∧
    ∀ chosen : Finset Pointer, chosen ∈ (search.evaluationsAt clock).map (·.1.toFinset) ↔
      chosen ≠ ∅ ∧ chosen ⊆ search.automaticLoads.toFinset ∧ search.Feasible chosen := by
  by_cases hnegative : search.availablePowerWatts < 0
  · have hevaluations : search.evaluationsAt clock = [] := if_pos hnegative
    rw [hevaluations]
    refine ⟨List.nodup_nil, fun chosen => ⟨fun hmem => absurd hmem List.not_mem_nil, ?_⟩⟩
    rintro ⟨-, -, hfeasible⟩
    have hsum := Finset.sum_nonneg fun load (_ : load ∈ chosen) => search.powerRatingOf_nonneg load
    exact absurd (hsum.trans hfeasible) (not_le.mpr hnegative)
  · have hbudget : 0 ≤ search.availablePowerWatts := not_lt.mp hnegative
    have hevaluations : search.evaluationsAt clock = (search.finalProgressAt clock).evaluations := if_neg hnegative
    obtain ⟨readings, hagrees, -⟩ := search.exists_readings clock ⟨none, none⟩
    have hclosed : (search.finalProgressAt clock).progress.closedCombinations.Perm _ := closed_perm_evaluations hbudget
    have hperm := hclosed.map List.toFinset
    rw [hagrees.finalProgressAt_eq, List.map_cons, List.toFinset_nil, List.map_map] at hperm
    obtain ⟨-, -, -, -, hdistinct, hmem⟩ :=
      runSearch_expands_each_feasible_set_once (search.withReadings readings) hautomatic hbudget
    have hnodup := List.nodup_cons.mp (hperm.nodup_iff.mp hdistinct)
    rw [hevaluations]
    refine ⟨hnodup.2, fun chosen => ?_⟩
    have hiff := hmem chosen
    rw [hperm.mem_iff, List.mem_cons] at hiff
    constructor
    · intro hchosen
      exact ⟨fun hempty => hnodup.1 (hempty ▸ hchosen), hiff.mp (.inr hchosen)⟩
    · rintro ⟨hne, hfeasible⟩
      exact (hiff.mpr hfeasible).resolve_left hne

theorem calculateTotalPowerWatts_nonneg {combination : List Pointer} (hnodup : combination.Nodup) :
    0 ≤ search.calculateTotalPowerWatts combination := by
  rw [search.calculateTotalPowerWatts_eq_sum hnodup]
  exact Finset.sum_nonneg fun load _ => search.powerRatingOf_nonneg load

/-- The result is the best of what was evaluated, each at the readings it was evaluated with. -/
theorem runSearchAt_best :
    ∃ reads, (search.runSearchAt clock = [] ∨ (search.runSearchAt clock, reads) ∈ search.evaluationsAt clock) ∧
      ∀ evaluation ∈ ([], 0) :: search.evaluationsAt clock,
        isBetterReturnedCombination (search.childStateAt clock evaluation.1 evaluation.2)
          (search.childStateAt clock (search.runSearchAt clock) reads) = false := by
  by_cases hnegative : search.availablePowerWatts < 0
  · have hevaluations : search.evaluationsAt clock = [] := if_pos hnegative
    have hreturned : search.runSearchAt clock = [] := if_pos hnegative
    refine ⟨0, .inl hreturned, fun evaluation hmem => ?_⟩
    rw [hevaluations] at hmem
    rw [List.mem_singleton.mp hmem, hreturned, isBetterReturnedCombination_eq_false_iff]
  · have hbudget : 0 ≤ search.availablePowerWatts := not_lt.mp hnegative
    have hevaluations : search.evaluationsAt clock = (search.finalProgressAt clock).evaluations := if_neg hnegative
    have hreturned : search.runSearchAt clock = (search.finalProgressAt clock).progress.bestState.combination :=
      if_neg hnegative
    obtain ⟨readings, hagrees, -⟩ := search.exists_readings clock ⟨none, none⟩
    have hclosed : (search.finalProgressAt clock).progress.closedCombinations.Perm _ := closed_perm_evaluations hbudget
    have hbestState := ((search.withReadings readings).finalProgress_sound hbudget).best.built
    rw [← hagrees.finalProgressAt_eq, ← hreturned] at hbestState
    -- both sides of the comparison were added up with the readings of the run
    have hread : ∀ evaluation ∈ ([], 0) :: (search.finalProgressAt clock).evaluations,
        (search.withReadings readings).childState evaluation.1 =
          search.childStateAt clock evaluation.1 evaluation.2 := by
      intro evaluation hmem
      obtain rfl | hmem := List.mem_cons.mp hmem
      · rfl
      · exact hagrees.childState_eq hmem
    obtain ⟨reads, hreads⟩ : ∃ reads, (search.runSearchAt clock, reads) ∈
        ([], 0) :: (search.finalProgressAt clock).evaluations := by
      have hbest := (search.finalProgressAt_recorded clock).best
      rw [← hreturned] at hbest
      obtain hnil | hmem := List.mem_cons.mp hbest
      · exact ⟨0, hnil ▸ List.mem_cons_self⟩
      · obtain ⟨evaluation, hmem, heq⟩ := List.mem_map.mp hmem
        exact ⟨evaluation.2, List.mem_cons_of_mem _ (heq ▸ hmem)⟩
    rw [hevaluations]
    refine ⟨reads, (List.mem_cons.mp hreads).imp_left fun heq => congrArg Prod.fst heq, fun evaluation hmem => ?_⟩
    have hmemClosed : evaluation.1 ∈ (search.withReadings readings).finalProgress.closedCombinations := by
      rw [← hagrees.finalProgressAt_eq, hclosed.mem_iff]
      exact List.mem_map_of_mem (f := Prod.fst) hmem
    have hle := (search.withReadings readings).finalProgress_bestOfEvaluated.closed evaluation.1 hmemClosed
    rw [← hagrees.finalProgressAt_eq, hbestState, hread evaluation hmem, hread _ hreads] at hle
    exact (isBetterReturnedCombination_eq_false_iff _ _).mpr hle

/-- It is enough that all readings fall into the same minute as the instant, in what they tell of the
schedules. -/
theorem optimalAt_of_readsAgreeWith
    (hautomatic : ∀ load ∈ search.automaticLoads, search.isAutoCandidate load = true) {instant : Nat}
    (hreads : search.ReadsAgreeWith clock instant) : search.OptimalAt instant (search.runSearchAt clock) := by
  intro other hother hsub hpower
  have hbudget : 0 ≤ search.availablePowerWatts := (calculateTotalPowerWatts_nonneg hother).trans hpower
  have hevaluations : search.evaluationsAt clock = (search.finalProgressAt clock).evaluations :=
    if_neg (not_lt.mpr hbudget)
  obtain ⟨readings, hagrees, hreading⟩ := search.exists_readings clock (MovingClock.providerOf instant)
  have hactivity : (search.withReadings readings).ReadsActivity
      (search.scheduleActive (MovingClock.providerOf instant)) := by
    intro combination load
    obtain hfallback | ⟨reads, hmem, hload, hread⟩ := hreading combination load
    · exact congrArg (search.scheduleActive · load) hfallback
    · refine (congrArg (search.scheduleActive · load) hread).trans (hreads (combination, reads) ?_ load hload)
      rwa [hevaluations]
  have hatInstant : (search.atInstant instant).ReadsActivity
      (search.scheduleActive (MovingClock.providerOf instant)) :=
    fun _ _ => rfl
  have hcandidates : other.toFinset ⊆ (search.withReadings readings).candidates := by
    intro load hload
    have hmem := hsub (List.mem_toFinset.mp hload)
    rw [candidates, List.mem_toFinset, List.mem_filter]
    exact ⟨hmem, hautomatic load hmem⟩
  have hfeasible : (search.withReadings readings).Feasible other.toFinset := by
    rw [search.calculateTotalPowerWatts_eq_sum hother] at hpower
    exact hpower
  have hle := meritWith_le_getBestCombination hactivity hbudget hcandidates hfeasible
  rw [isBetterReturnedCombination_eq_false_iff, meritOf_childState_eq_meritWith hatInstant hother,
    hagrees.runSearchAt_eq,
    meritOf_childState_eq_meritWith hatInstant (search.withReadings readings).getBestCombination_candidates.1]
  exact hle

/-- A run that crosses no minute is optimal at each of its instants. -/
theorem optimalAt_of_sameMinute
    (hautomatic : ∀ load ∈ search.automaticLoads, search.isAutoCandidate load = true) {instant : Nat}
    (hsame : ∀ reads, ∃ found, clock.read reads = some found ∧ found / 60 = instant / 60) :
    search.OptimalAt instant (search.runSearchAt clock) := by
  have hprovider : ∀ reads, clock.providerAt reads = MovingClock.providerOf instant := by
    intro reads
    obtain ⟨atHour, hhour, hhourMinute⟩ := hsame reads
    obtain ⟨atMinute, hminute, hminuteMinute⟩ := hsame (reads + 1)
    have hhours : atHour / 3600 = instant / 3600 := by omega
    rw [MovingClock.providerAt, hhour, hminute]
    simp only [Option.map_some, MovingClock.providerOf, MovingClock.localHour, MovingClock.localMinute, hhours,
      hminuteMinute]
  have hreadings : ∀ combination reads load, search.readingsFrom clock combination reads load =
      MovingClock.providerOf instant := by
    intro combination
    induction combination with
    | nil => exact fun reads _ => hprovider reads
    | cons first combination ih =>
      intro reads load
      rw [readingsFrom]
      split
      · exact hprovider reads
      · exact ih _ load
  refine optimalAt_of_readsAgreeWith hautomatic fun evaluation _ load _ => ?_
  rw [hreadings]

variable (search clock)

/-- Under any clock each feasible set is added up once, and the returned combination is best for the
schedules as they were read when each set was added up. It is optimal at every instant that all these reads
agree with. Needs a list of AUTO candidates. -/
theorem runSearchAt_optimal_for_readings
    (hautomatic : ∀ load ∈ search.automaticLoads, search.isAutoCandidate load = true) :
    ((search.evaluationsAt clock).map (·.1.toFinset)).Nodup ∧
    (∀ chosen : Finset Pointer, chosen ∈ (search.evaluationsAt clock).map (·.1.toFinset) ↔
      chosen ≠ ∅ ∧ chosen ⊆ search.automaticLoads.toFinset ∧
        ∑ load ∈ chosen, search.powerRatingOf load ≤ search.availablePowerWatts) ∧
    (∃ reads, (search.runSearchAt clock = [] ∨ (search.runSearchAt clock, reads) ∈ search.evaluationsAt clock) ∧
      ∀ evaluation ∈ ([], 0) :: search.evaluationsAt clock,
        isBetterReturnedCombination (search.childStateAt clock evaluation.1 evaluation.2)
          (search.childStateAt clock (search.runSearchAt clock) reads) = false) ∧
    ∀ instant, search.ReadsAgreeWith clock instant → search.OptimalAt instant (search.runSearchAt clock) := by
  obtain ⟨hdistinct, hmem⟩ := evaluationsAt_sets hautomatic
  exact ⟨hdistinct, hmem, runSearchAt_best, fun instant hreads => optimalAt_of_readsAgreeWith hautomatic hreads⟩

end TimedSearch

section MinuteChange

/-- Of two loads of 60 W one fits into 100 W. Both are wanted from 10:00 to 10:30,
the first with priority 4 and the second with priority 3. -/
def sameWindowSearch : BestFirstSearch Bool where
  availablePowerWatts := 100
  automaticLoads := [false, true]
  currentTimeProvider := fun _ _ => ⟨none, none⟩
  deref := fun pointer => some
    { Load.make ⟨Vector.replicate 6 1, if pointer then 5 else 4⟩ [] (.finite 60) (if pointer then 3 else 4) .AC
        .AUTO_OFF with
      schedule := .make true 10 0 10 30 }

/-- The schedule of the first load is read at 9:59:59, that of the second at 10:00:00. -/
def minuteChangeClock : MovingClock where
  read := fun reads => some (if reads < 2 then 35999 else 36000)
  forward := by
    intro first second before after hle hbefore hafter
    simp only [Option.some.injEq] at hbefore hafter
    split at hbefore <;> split at hafter <;> omega

theorem runSearchAt_optimal_for_readings_minuteChange :
    ((sameWindowSearch.evaluationsAt minuteChangeClock).map (·.1.toFinset)).Nodup ∧
      {true} ∈ (sameWindowSearch.evaluationsAt minuteChangeClock).map (·.1.toFinset) := by
  have hspec := runSearchAt_optimal_for_readings sameWindowSearch minuteChangeClock (by decide)
  exact ⟨hspec.1, (hspec.2.1 {true}).mpr (by decide +kernel)⟩

theorem minuteChange_reads :
    (sameWindowSearch.finalProgressAt minuteChangeClock).reads = 4 ∧
      sameWindowSearch.runSearchAt minuteChangeClock = [true] := by
  decide +kernel

/-- The first load is the better choice at every instant, since both schedules
are active or neither is. The run returns the second one. -/
theorem minuteChange_never_optimal :
    (∀ load ∈ sameWindowSearch.automaticLoads, sameWindowSearch.isAutoCandidate load = true) ∧
      ∀ instant, ¬ sameWindowSearch.OptimalAt instant (sameWindowSearch.runSearchAt minuteChangeClock) := by
  refine ⟨by decide, fun instant hoptimal => ?_⟩
  rw [minuteChange_reads.2] at hoptimal
  have hfirst := hoptimal [false] (by decide) (by decide) (by decide +kernel)
  have hboth : sameWindowSearch.scheduleActive (MovingClock.providerOf instant) false =
      sameWindowSearch.scheduleActive (MovingClock.providerOf instant) true := rfl
  have htotal : ∀ load, ((sameWindowSearch.atInstant instant).childState [load]).totalEffectivePriority =
      sameWindowSearch.configuredPriorityOf load +
        if sameWindowSearch.scheduleActive (MovingClock.providerOf instant) load then ACTIVE_SCHEDULE_PRIORITY_BOOST
        else 0 := by
    intro load
    rw [← effectivePriorityOf_eq]
    exact Nat.zero_add _
  have hpriority : sameWindowSearch.configuredPriorityOf false = 4 ∧
      sameWindowSearch.configuredPriorityOf true = 3 := by decide
  have hmore : ((sameWindowSearch.atInstant instant).childState [true]).totalEffectivePriority <
      ((sameWindowSearch.atInstant instant).childState [false]).totalEffectivePriority := by
    rw [htotal, htotal, hpriority.1, hpriority.2, hboth]
    omega
  simp [isBetterReturnedCombination, hmore.ne', hmore] at hfirst

end MinuteChange

end BestFirstSearch

end kilowatts
