import Kilowatts.Central.RegistryInvariant
import Kilowatts.Central.StoredSettings
import Kilowatts.Library.Run
import Kilowatts.Library.WrappingClock
import Kilowatts.NodeManager.LastSeen

namespace kilowatts

namespace OnlineStatus

open Central

/-- Who holds `stateMutex` across several steps. A planning cycle reads the clock with the
lock held. -/
inductive Mutex where
  | free
  | cycle (now : Nat)
  | publisher
deriving DecidableEq

/-- Where `publishCurrentState` is. It reads the clock before it asks for the lock, and looks
for alerts after it has given the lock back. -/
inductive PublishPhase where
  | idle
  | waiting (now : Nat)
  | building (now : Nat)
  | alerting (now : Nat)
deriving DecidableEq

/-- The time that `publishCurrentState` has read and still uses. -/
def PublishPhase.now : PublishPhase → Option Nat
  | .idle => none
  | .waiting now | .building now | .alerting now => some now

/-- What the alert loop remembers of a Node from its last verdict. -/
structure NodeOnlineTracking where
  macAddress : MacAddress
  wasOnline : Bool
deriving DecidableEq

/-- `milliseconds` counts from the boot on without end, where the clock of the code shows the
low 32 bits; `lastReport` tells when the last report of each Node was applied. -/
structure OnlineState where
  central : CentralState
  milliseconds : Nat
  lastReport : MacAddress → Option Nat
  stateMutex : Mutex
  publishing : PublishPhase
  nodeOnlineTracking : List NodeOnlineTracking

/-- The steps of the tasks, between which any other task may run. -/
inductive OnlineEvent where
  | elapse (milliseconds : Nat)
  | nodeReport (originMac : MacAddress) (report : NodeReportPacket)
  | call (event : RegistryEvent)
  | beginCycle
  | evaluateInCycle (macAddress : MacAddress)
  | finishCycle (clock : CycleClock)
  | beginPublish
  | lockForPublish
  | publishLockTimesOut
  | unlockAfterPublish
  | evaluateForAlert (macAddress : MacAddress)
  | finishPublish

/-- The `NODE_OFFLINE` alert of a Node that is online now or is not. -/
structure NodeAlert where
  macAddress : MacAddress
  onlineNow : Bool
deriving DecidableEq

/-- The body of the alert loop after the verdict. -/
def track (tracked : List NodeOnlineTracking) (macAddress : MacAddress) (onlineNow : Bool) :
    List NodeOnlineTracking × Option NodeAlert :=
  match KeyedList.lookup NodeOnlineTracking.macAddress tracked macAddress with
  | none => (tracked ++ [⟨macAddress, onlineNow⟩], none)
  | some tracking =>
    if tracking.wasOnline != onlineNow then
      (KeyedList.update NodeOnlineTracking.macAddress macAddress ({ · with wasOnline := onlineNow }) tracked,
        some ⟨macAddress, onlineNow⟩)
    else (tracked, none)

/-- A verdict on a Smart Node with the time that was read for it. -/
structure Evaluation where
  planningNode : PlanningNode
  now : Nat

/-- The code compares the low 32 bits of both times. -/
def Evaluation.onlineNow (evaluation : Evaluation) : Bool :=
  isNodeOnline evaluation.planningNode (UInt32.ofNat evaluation.now)

namespace OnlineState

variable (state : OnlineState)

/-- Central itself is never judged. -/
def smartNode (macAddress : MacAddress) : Option PlanningNode :=
  (state.central.registry.findNodeByMacAddress macAddress).filter (!·.isCentralNode)

/-- What `isNodeOnline` is asked at this event. -/
def evaluation : OnlineEvent → Option Evaluation
  | .evaluateInCycle macAddress =>
    match state.stateMutex with
    | .cycle now => (state.smartNode macAddress).map (⟨·, now⟩)
    | _ => none
  | .evaluateForAlert macAddress =>
    match state.publishing with
    | .alerting now => (state.smartNode macAddress).map (⟨·, now⟩)
    | _ => none
  | _ => none

/-- The alert that is published at this event. -/
def alert (event : OnlineEvent) : Option NodeAlert :=
  match event with
  | .evaluateForAlert macAddress =>
    (state.evaluation event).bind fun evaluation =>
      (track state.nodeOnlineTracking macAddress evaluation.onlineNow).2
  | _ => none

def isReport : RegistryEvent → Bool
  | .applyNodeReport _ _ => true
  | _ => false

/-- One step of one of the tasks, as far as the lock allows it. -/
def next : OnlineEvent → Option OnlineState
  | .elapse milliseconds => some { state with milliseconds := state.milliseconds + milliseconds }
  | .nodeReport originMac report =>
    if state.stateMutex = .free then some { state with
      central := (state.central.handleNodeReport true originMac report (UInt32.ofNat state.milliseconds)).1
      lastReport := fun macAddress =>
        if report.nodeMacAddress = originMac ∧ report.HasPageNumber ∧ macAddress = report.nodeMacAddress then
          some state.milliseconds
        else state.lastReport macAddress }
    else none
  | .call event =>
    if state.stateMutex = .free ∧ isReport event = false then
      let loads := RegisteredLoads.next ⟨state.central.registry, state.central.centralLoadConfigurationStore⟩ event
      some { state with central := { state.central with
        registry := loads.registry
        centralLoadConfigurationStore := loads.store } }
    else none
  | .beginCycle =>
    if state.stateMutex = .free then some { state with stateMutex := .cycle state.milliseconds } else none
  | .evaluateInCycle _ =>
    match state.stateMutex with
    | .cycle _ => some state
    | _ => none
  | .finishCycle clock =>
    match state.stateMutex with
    | .cycle now => some { state with
      central := (state.central.runOptimizationCycle { clock with nowMilliseconds := UInt32.ofNat now }).state
      stateMutex := .free }
    | _ => none
  | .beginPublish =>
    if state.publishing = .idle then some { state with publishing := .waiting state.milliseconds } else none
  | .lockForPublish =>
    match state.publishing with
    | .waiting now =>
      if state.stateMutex = .free then some { state with stateMutex := .publisher, publishing := .building now }
      else none
    | _ => none
  | .publishLockTimesOut =>
    match state.publishing with
    | .waiting _ => some { state with publishing := .idle }
    | _ => none
  | .unlockAfterPublish =>
    match state.publishing with
    | .building now => some { state with
      central := { state.central with registry := state.central.plannedRegistry }
      stateMutex := .free
      publishing := .alerting now }
    | _ => none
  | .evaluateForAlert macAddress =>
    match state.publishing with
    | .alerting _ => some { state with
      nodeOnlineTracking :=
        match state.evaluation (.evaluateForAlert macAddress) with
        | none => state.nodeOnlineTracking
        | some evaluation => (track state.nodeOnlineTracking macAddress evaluation.onlineNow).1 }
    | _ => none
  | .finishPublish =>
    match state.publishing with
    | .alerting _ => some { state with publishing := .idle }
    | _ => none

/-- Central has booted and knows no Node yet. -/
def boot (central : CentralState) : OnlineState :=
  ⟨{ central with registry := .empty }, 0, fun _ => none, .free, .idle, []⟩

end OnlineState

/-- The milliseconds after which the clock of the code comes round. -/
def clockPeriod : Nat := 2 ^ 32

/-- What is asked of a verdict on a Node whose last report has this age. -/
structure Truthful (onlineNow : Bool) (age : Nat) : Prop where
  online : age ≤ NODE_REPORT_TIMEOUT_MILLISECONDS.toNat → onlineNow = true
  offline : NODE_REPORT_TIMEOUT_MILLISECONDS.toNat < age → age < clockPeriod → onlineNow = false

section Steps

variable (before : OnlineState) (event : OnlineEvent) (after : OnlineState)

/-- Each verdict is true at its moment, and none alerts of a Node that has reported in time. -/
structure TruthfulStep : Prop where
  next : before.next event = some after
  truthful : ∀ evaluation, before.evaluation event = some evaluation →
    ∃ reported, before.lastReport evaluation.planningNode.getMacAddress = some reported ∧
      Truthful evaluation.onlineNow (before.milliseconds - reported)
  alerts : ∀ macAddress reported, before.alert event = some ⟨macAddress, false⟩ →
    before.lastReport macAddress = some reported →
      NODE_REPORT_TIMEOUT_MILLISECONDS.toNat < before.milliseconds - reported

end Steps

/-- The registry has the low bits of the times at which reports were applied, and whoever has
read the clock has read what it showed then; in a cycle no report comes after that. -/
structure Sound (state : OnlineState) : Prop where
  seen : ∀ macAddress lastSeen, state.central.registry.smartLastSeen macAddress = some lastSeen →
    ∃ reported, state.lastReport macAddress = some reported ∧ lastSeen = UInt32.ofNat reported
  reported : ∀ macAddress reported, state.lastReport macAddress = some reported → reported ≤ state.milliseconds
  cycle : ∀ now, state.stateMutex = .cycle now → now ≤ state.milliseconds ∧
    ∀ macAddress reported, state.lastReport macAddress = some reported → reported ≤ now
  publishing : ∀ now, state.publishing.now = some now → now ≤ state.milliseconds

section Invariant

variable {before after : OnlineState} {event : OnlineEvent}

/-- Nothing has been reported or read yet. -/
theorem sound_boot (central : CentralState) : Sound (.boot central) where
  seen := fun _ _ hseen => by cases hseen
  reported := fun _ _ hreported => by cases hreported
  cycle := fun _ hmutex => by cases hmutex
  publishing := fun _ hphase => by cases hphase

/-- No call but one that applies a report makes an entry look younger. -/
theorem smartLastSeen_of_call {loads : RegisteredLoads} {call : RegistryEvent} {macAddress : MacAddress}
    {lastSeen : UInt32} (hcall : OnlineState.isReport call = false)
    (hseen : (loads.next call).registry.smartLastSeen macAddress = some lastSeen) :
    loads.registry.smartLastSeen macAddress = some lastSeen := by
  cases call with
  | addLocalCentralNode nodeName centralNode nowMilliseconds =>
    dsimp only [RegisteredLoads.next] at hseen
    rw [CentralNodeRegistry.smartLastSeen_addLocalCentralNode] at hseen
    split at hseen
    · cases hseen
    · exact hseen
  | applyNodeReport packet nowMilliseconds => cases hcall
  | removeLoad removed relayPin => exact (loads.registry.smartLastSeen_removeLoad macAddress removed relayPin) ▸ hseen
  | setConfiguration entry => exact hseen
  | removeConfiguration removed relayPin => exact hseen
  | applyToLoad updated relayPin =>
    exact (loads.registry.smartLastSeen_updateLoad macAddress updated relayPin _) ▸ hseen

/-- A planning cycle leaves the times of the reports alone. -/
theorem runOptimizationCycle_smartLastSeen (central : CentralState) (clock : CycleClock) (macAddress : MacAddress) :
    (central.runOptimizationCycle clock).state.registry.smartLastSeen macAddress =
      central.registry.smartLastSeen macAddress := by
  change (central.autoPass clock).registry.smartLastSeen macAddress = _
  rw [CentralState.autoPass_registry, CentralNodeRegistry.smartLastSeen_mapLoads, CentralState.plannedRegistry_eq,
    CentralNodeRegistry.smartLastSeen_mapLoads]

/-- A report that is applied makes its Node look as young as the clock says, and no other. -/
theorem smartLastSeen_of_handleNodeReport {central : CentralState} {originMac macAddress : MacAddress}
    {report : NodeReportPacket} {nowMilliseconds lastSeen : UInt32}
    (hseen : (central.handleNodeReport true originMac report nowMilliseconds).1.registry.smartLastSeen macAddress =
      some lastSeen) :
    (if report.nodeMacAddress = originMac ∧ report.HasPageNumber ∧ macAddress = report.nodeMacAddress then
        lastSeen = nowMilliseconds
      else central.registry.smartLastSeen macAddress = some lastSeen) := by
  by_cases hsender : report.nodeMacAddress = originMac
  · simp only [CentralState.handleNodeReport, hsender, decide_true, Bool.and_self, if_true] at hseen
    rw [applyStoredNodeSettings_eq, CentralNodeRegistry.smartLastSeen_mapLoads] at hseen
    have happlied := central.registry.smartLastSeen_applyNodeReport macAddress hseen
    simpa only [hsender, true_and] using happlied
  · simp only [CentralState.handleNodeReport, hsender, decide_false, Bool.false_and, Bool.false_eq_true, if_false] at hseen
    rwa [if_neg fun happlied => hsender happlied.1]

/-- Every step of every task keeps what is known of the times. -/
theorem Sound.step (hsound : Sound before) (hnext : before.next event = some after) : Sound after := by
  obtain ⟨hseen, hreported, hcycle, hpublishing⟩ := hsound
  cases event with
  | elapse milliseconds =>
    obtain rfl := Option.some.inj hnext
    have hlater : before.milliseconds ≤ before.milliseconds + milliseconds := Nat.le_add_right _ _
    refine ⟨hseen, fun macAddress reported hlast => (hreported macAddress reported hlast).trans hlater, ?_, ?_⟩
    · intro now hmutex
      exact ⟨(hcycle now hmutex).1.trans hlater, (hcycle now hmutex).2⟩
    · exact fun now hphase => (hpublishing now hphase).trans hlater
  | nodeReport originMac report =>
    obtain ⟨hfree, hafter⟩ := Option.ite_none_right_eq_some.mp hnext
    obtain rfl := Option.some.inj hafter
    refine ⟨?_, ?_, fun now hmutex => absurd (hfree.symm.trans hmutex) (by simp), hpublishing⟩
    · intro macAddress lastSeen hlast
      have hhandled := smartLastSeen_of_handleNodeReport hlast
      dsimp only
      split at hhandled
      · next happlied => exact ⟨before.milliseconds, if_pos happlied, hhandled⟩
      · next happlied =>
        rw [if_neg happlied]
        exact hseen macAddress lastSeen hhandled
    · intro macAddress reported hlast
      dsimp only at hlast
      split at hlast
      · exact (Option.some.inj hlast).ge
      · exact hreported macAddress reported hlast
  | call call =>
    obtain ⟨⟨hfree, hcall⟩, hafter⟩ := Option.ite_none_right_eq_some.mp hnext
    obtain rfl := Option.some.inj hafter
    refine ⟨?_, hreported, hcycle, hpublishing⟩
    exact fun macAddress lastSeen hlast => hseen macAddress lastSeen (smartLastSeen_of_call hcall hlast)
  | beginCycle =>
    obtain ⟨hfree, hafter⟩ := Option.ite_none_right_eq_some.mp hnext
    obtain rfl := Option.some.inj hafter
    refine ⟨hseen, hreported, ?_, hpublishing⟩
    intro now hmutex
    obtain rfl := Mutex.cycle.inj hmutex
    exact ⟨le_rfl, hreported⟩
  | evaluateInCycle macAddress =>
    simp only [OnlineState.next] at hnext
    split at hnext
    · exact Option.some.inj hnext ▸ ⟨hseen, hreported, hcycle, hpublishing⟩
    · cases hnext
  | finishCycle clock =>
    simp only [OnlineState.next] at hnext
    split at hnext
    · obtain rfl := Option.some.inj hnext
      refine ⟨?_, hreported, fun now hmutex => (nomatch hmutex), hpublishing⟩
      intro macAddress lastSeen hlast
      rw [runOptimizationCycle_smartLastSeen] at hlast
      exact hseen macAddress lastSeen hlast
    · cases hnext
  | beginPublish =>
    obtain ⟨hidle, hafter⟩ := Option.ite_none_right_eq_some.mp hnext
    obtain rfl := Option.some.inj hafter
    exact ⟨hseen, hreported, hcycle, fun now hphase => (Option.some.inj hphase).ge⟩
  | lockForPublish =>
    simp only [OnlineState.next] at hnext
    split at hnext
    · next now hwaiting =>
      obtain ⟨hfree, hafter⟩ := Option.ite_none_right_eq_some.mp hnext
      obtain rfl := Option.some.inj hafter
      refine ⟨hseen, hreported, fun now hmutex => (nomatch hmutex), ?_⟩
      exact fun now hphase => hpublishing now (by rw [hwaiting]; exact hphase)
    · cases hnext
  | publishLockTimesOut =>
    simp only [OnlineState.next] at hnext
    split at hnext
    · obtain rfl := Option.some.inj hnext
      exact ⟨hseen, hreported, hcycle, fun now hphase => (nomatch hphase)⟩
    · cases hnext
  | unlockAfterPublish =>
    simp only [OnlineState.next] at hnext
    split at hnext
    · next now hbuilding =>
      obtain rfl := Option.some.inj hnext
      refine ⟨?_, hreported, fun now hmutex => (nomatch hmutex), ?_⟩
      · intro macAddress lastSeen hlast
        rw [CentralState.plannedRegistry_eq, CentralNodeRegistry.smartLastSeen_mapLoads] at hlast
        exact hseen macAddress lastSeen hlast
      · exact fun now hphase => hpublishing now (by rw [hbuilding]; exact hphase)
    · cases hnext
  | evaluateForAlert macAddress =>
    simp only [OnlineState.next] at hnext
    split at hnext
    · obtain rfl := Option.some.inj hnext
      exact ⟨hseen, hreported, hcycle, hpublishing⟩
    · cases hnext
  | finishPublish =>
    simp only [OnlineState.next] at hnext
    split at hnext
    · obtain rfl := Option.some.inj hnext
      exact ⟨hseen, hreported, hcycle, fun now hphase => (nomatch hphase)⟩
    · cases hnext

/-- What is known of the Node and of the clock at a verdict. -/
structure Judged (before : OnlineState) (evaluation : Evaluation) (reported : Nat) : Prop where
  lastReport : before.lastReport evaluation.planningNode.getMacAddress = some reported
  reported_le : reported ≤ before.milliseconds
  now_le : evaluation.now ≤ before.milliseconds
  inOrder : before.publishing ≠ .alerting evaluation.now → reported ≤ evaluation.now
  onlineNow : evaluation.onlineNow = true ↔
    wrappedAge clockPeriod evaluation.now reported ≤ NODE_REPORT_TIMEOUT_MILLISECONDS.toNat

/-- While the verdict uses a time that is not before the last report, it is right if the time-out
does not pass in between. -/
theorem Judged.truthful {evaluation : Evaluation} {reported : Nat} (hjudged : Judged before evaluation reported)
    (hlasting : evaluation.now ≤ reported + NODE_REPORT_TIMEOUT_MILLISECONDS.toNat →
      before.milliseconds ≤ reported + NODE_REPORT_TIMEOUT_MILLISECONDS.toNat)
    (hbefore : reported ≤ evaluation.now) : Truthful evaluation.onlineNow (before.milliseconds - reported) := by
  have htimeout : NODE_REPORT_TIMEOUT_MILLISECONDS.toNat = 10000 := rfl
  have hperiod : clockPeriod = 4294967296 := rfl
  have hnow := hjudged.now_le
  constructor
  · intro hyoung
    rw [hjudged.onlineNow, wrappedAge.of_le hbefore (by omega)]
    omega
  · intro hold hrange
    apply Bool.eq_false_of_not_eq_true
    rw [hjudged.onlineNow, wrappedAge.of_le hbefore (by omega)]
    omega

end Invariant

section Overtaken

/-- A page without loads from the only Smart Node. -/
def emptyReport : OnlineEvent :=
  .nodeReport (Vector.replicate 6 2)
    { nodeName := .zero
      nodeMacAddress := Vector.replicate 6 2
      upstreamNodeMacAddress := Vector.replicate 6 1
      hopCountToCentral := 1
      numberOfLoads := 0
      reportSequenceId := 1
      pageIndex := 0
      totalPages := 1
      loads := LoadReportPacket.packed [] }

/-- A pass finds the Node online; in the next one a report comes between the reading of the
clock and the lock. -/
def overtaken : List OnlineEvent :=
  [emptyReport, .beginPublish, .lockForPublish, .unlockAfterPublish, .evaluateForAlert (Vector.replicate 6 2),
    .finishPublish, .elapse 5000, .beginPublish, .elapse 10, emptyReport, .lockForPublish, .unlockAfterPublish]

end Overtaken

end OnlineStatus

end kilowatts
