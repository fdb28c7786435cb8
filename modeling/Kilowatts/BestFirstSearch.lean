import Kilowatts.LoadManager.LoadScheduleEvaluator
import Mathlib.Data.List.Sort

namespace kilowatts

/-- The members of one search object. `deref` reads a `const Load*` of the
caller, `none` being the null pointer. All powers are exact, so the
`std::isfinite` tests of the source hold of every value. `currentTimeProvider`
answers for the moment at which the priority of a load is added up for a
combination: each combination is added up once, so the clock may move freely. -/
structure BestFirstSearch (Pointer : Type) where
  availablePowerWatts : Rat
  automaticLoads : List Pointer
  currentTimeProvider : List Pointer → Pointer → CurrentTimeProvider
  deref : Pointer → Option Load

/-- Both priority totals are 64-bit sums of 16-bit terms over distinct pointers
and cannot wrap, hence natural numbers. -/
structure SearchState (Pointer : Type) where
  combination : List Pointer
  totalPowerWatts : Rat
  g : Rat
  h : Rat
  f : Rat
  totalConfiguredPriority : Nat
  totalEffectivePriority : Nat

namespace BestFirstSearch

/-- A load in its window counts five more than it is configured. -/
def ACTIVE_SCHEDULE_PRIORITY_BOOST : Nat := 5

variable {Pointer : Type} [DecidableEq Pointer]

/-- Loads are compared as pointers, not by what they point to. -/
def containsLoad (combination : List Pointer) (load : Pointer) : Bool :=
  combination.contains load

/-- Compares two configurations without depending on insertion order. -/
def representsSameCombination (first second : List Pointer) : Bool :=
  first.length == second.length && first.all (containsLoad second)

/-- Whether the same loads, in any order, are waiting or done already. -/
def combinationAlreadyKnown (combination : List Pointer) (openStates : List (SearchState Pointer))
    (closedCombinations : List (List Pointer)) : Bool :=
  openStates.any (fun state => representsSameCombination combination state.combination) ||
    closedCombinations.any (fun closed => representsSameCombination combination closed)

/-- The order in which states are expanded. -/
def hasBetterSearchMerit (first second : SearchState Pointer) : Bool :=
  if first.totalEffectivePriority != second.totalEffectivePriority then
    first.totalEffectivePriority > second.totalEffectivePriority
  else if first.totalConfiguredPriority != second.totalConfiguredPriority then
    first.totalConfiguredPriority > second.totalConfiguredPriority
  else if first.f != second.f then first.f < second.f
  else if first.combination.length != second.combination.length then
    first.combination.length > second.combination.length
  else first.totalPowerWatts < second.totalPowerWatts

/-- The order by which the result is chosen: effective priority first, then configured priority, then
the number of loads, then less power. -/
def isBetterReturnedCombination (candidate currentBest : SearchState Pointer) : Bool :=
  if candidate.totalEffectivePriority != currentBest.totalEffectivePriority then
    candidate.totalEffectivePriority > currentBest.totalEffectivePriority
  else if candidate.totalConfiguredPriority != currentBest.totalConfiguredPriority then
    candidate.totalConfiguredPriority > currentBest.totalConfiguredPriority
  else if candidate.combination.length != currentBest.combination.length then
    candidate.combination.length > currentBest.combination.length
  else candidate.totalPowerWatts < currentBest.totalPowerWatts

variable (search : BestFirstSearch Pointer)

/-- The summand of a non-null load, 0 for the null pointer. -/
def powerRatingOf (load : Pointer) : Rat :=
  match search.deref load with
  | none => 0
  | some load => load.powerRatingWatts

/-- A null pointer has no priority. -/
def configuredPriorityOf (load : Pointer) : Nat :=
  match search.deref load with
  | none => 0
  | some load => load.priority.toNat

/-- The configured priority, with the boost while the schedule is active at this reading of the
clock. -/
def effectivePriorityOf (currentTimeProvider : CurrentTimeProvider) (load : Pointer) : Nat :=
  match search.deref load with
  | none => 0
  | some load =>
    match LoadScheduleEvaluator.evaluateSchedule load currentTimeProvider with
    | none => load.priority.toNat
    | some scheduleEvaluation =>
      if scheduleEvaluation.isScheduleActive then load.priority.toNat + ACTIVE_SCHEDULE_PRIORITY_BOOST
      else load.priority.toNat

/-- Added up in the order of the combination, as the source does. -/
def calculateTotalPowerWatts (combination : List Pointer) : Rat :=
  combination.foldl (fun totalPowerWatts load => totalPowerWatts + search.powerRatingOf load) 0

/-- The bound itself is still within. -/
def isWithinAvailablePower (combination : List Pointer) : Bool :=
  search.calculateTotalPowerWatts combination ≤ search.availablePowerWatts

def calculateTotalConfiguredPriority (combination : List Pointer) : Nat :=
  combination.foldl (fun totalPriority load => totalPriority + search.configuredPriorityOf load) 0

/-- Each load reads the clock by itself; where it stands may depend on the combination. -/
def calculateTotalEffectivePriority (combination : List Pointer) : Nat :=
  combination.foldl (fun totalPriority load =>
    totalPriority + search.effectivePriorityOf (search.currentTimeProvider combination load) load) 0

/-- The cost so far: how many loads are chosen. -/
def calculateG (combination : List Pointer) : Rat := combination.length

/-- The estimate: the average power of the chosen loads. -/
def calculateH (combination : List Pointer) : Rat :=
  if combination.isEmpty then 0
  else combination.foldl (fun totalHeuristicCost load => totalHeuristicCost + search.powerRatingOf load) 0 /
    combination.length

def calculateF (g h : Rat) : Rat := g + h

/-- The state built for a combination that is about to be queued. -/
def childState (childCombination : List Pointer) : SearchState Pointer where
  combination := childCombination
  totalPowerWatts := search.calculateTotalPowerWatts childCombination
  g := calculateG childCombination
  h := search.calculateH childCombination
  f := calculateF (calculateG childCombination) (search.calculateH childCombination)
  totalConfiguredPriority := search.calculateTotalConfiguredPriority childCombination
  totalEffectivePriority := search.calculateTotalEffectivePriority childCombination

/-- The search begins with no load at all. -/
def startState : SearchState Pointer where
  combination := []
  totalPowerWatts := 0
  g := calculateG ([] : List Pointer)
  h := search.calculateH []
  f := calculateF (calculateG ([] : List Pointer)) (search.calculateH [])
  totalConfiguredPriority := 0
  totalEffectivePriority := 0

/-- The local variables of `runSearch` between two rounds of its loop. -/
structure Progress (Pointer : Type) where
  openStates : List (SearchState Pointer)
  closedCombinations : List (List Pointer)
  bestState : SearchState Pointer

/-- A pointer the inner loop considers: not null and AUTO. -/
def isAutoCandidate (load : Pointer) : Bool :=
  match search.deref load with
  | none => false
  | some load => load.isAuto

/-- On a tie the one before is kept. -/
def betterOf (candidate currentBest : SearchState Pointer) : SearchState Pointer :=
  if isBetterReturnedCombination candidate currentBest then candidate else currentBest

/-- The body of the inner loop for one load. -/
def considerLoad (currentState : SearchState Pointer) (progress : Progress Pointer) (load : Pointer) :
    Progress Pointer :=
  let childCombination := currentState.combination ++ [load]
  if !search.isAutoCandidate load || containsLoad currentState.combination load then progress
  else if !search.isWithinAvailablePower childCombination then progress
  else if combinationAlreadyKnown childCombination progress.openStates progress.closedCombinations then progress
  else { progress with
    openStates := progress.openStates ++ [search.childState childCombination]
    bestState := betterOf (search.childState childCombination) progress.bestState }

/-- `std::stable_sort` by search merit: an element moves in front of another
only when it has strictly better merit. -/
def sortOpenStates (openStates : List (SearchState Pointer)) : List (SearchState Pointer) :=
  openStates.insertionSort (fun first second => hasBetterSearchMerit second first = false)

/-- One round: expands the highest-ranked open state. `none` ends the loop. -/
def searchRound (progress : Progress Pointer) : Option (Progress Pointer) :=
  match sortOpenStates progress.openStates with
  | [] => none
  | currentState :: openStates =>
    let tracked := { progress with openStates, bestState := betterOf currentState progress.bestState }
    let expanded := search.automaticLoads.foldl (search.considerLoad currentState) tracked
    some { expanded with closedCombinations := expanded.closedCombinations ++ [currentState.combination] }

/-- The loop, cut off after `fuel` rounds. -/
def searchLoop : Nat → Progress Pointer → Progress Pointer
  | 0, progress => progress
  | fuel + 1, progress =>
    match search.searchRound progress with
    | none => progress
    | some next => searchLoop fuel next

/-- Nothing is expanded yet, and no load is the best so far. -/
def initialProgress : Progress Pointer where
  openStates := [search.startState]
  closedCombinations := []
  bestState := search.startState

/-- The loop run to its end: one round for each set of loads is always enough
(`searchLoop_openStates_eq_nil`). -/
def finalProgress : Progress Pointer :=
  search.searchLoop (2 ^ search.automaticLoads.length) search.initialProgress

/-- A negative budget returns no load without a search. -/
def runSearch : List Pointer :=
  if search.availablePowerWatts < 0 then [] else search.finalProgress.bestState.combination

def getBestCombination : List Pointer := search.runSearch

end BestFirstSearch

end kilowatts
