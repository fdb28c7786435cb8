import Kilowatts.Central.DispatchedPlan
import Kilowatts.Library.Run
import Mathlib.Logic.Function.Basic

namespace kilowatts

namespace LatestPlan

/-- The two callers of `runOptimizationCycle`. -/
inductive Task where
  | optimization
  | console
deriving DecidableEq

/-- Central with the rest of the order of each dispatch loop, the relay commands
on the way to Smart Nodes in the order of sending, the command queue of each
Smart Node, and the relays. `demanded` remembers for each relay what the most
recently computed plan with that relay demanded. -/
structure Plant where
  central : CentralState
  dispatching : Task → List RelayTarget
  inFlight : List RelayTarget
  relayCommandQueue : MacAddress → List RelayTarget
  relayOn : Load.Id → Bool
  demanded : Load.Id → Option Bool

/-- What the two tasks of Central, the radio and the Nodes can do, in any order. -/
inductive Event where
  | plan (task : Task) (clock : CycleClock)
  | dispatch (task : Task)
  | deliver (overtaken : List RelayTarget) (target : RelayTarget)
  | duplicate (target : RelayTarget)
  | execute (macAddress : MacAddress)
  | change (central : CentralState)

/-- The demand of an order, where it says something, and the old demand elsewhere. -/
def demandOf (order : List RelayTarget) (demanded : Load.Id → Option Bool) (id : Load.Id) : Option Bool :=
  match order.find? (·.id = id) with
  | some target => some target.desiredOn
  | none => demanded id

/-- No command is lost and no write fails. A plan is computed under `stateMutex`
by a task whose last loop has ended, and dispatched after the lock is released;
`dispatch` sends the next command of a loop. A command to a relay of Central is
written at once. Any command in flight may arrive next, and may be duplicated
before, a copy being as old as its original; a Smart Node executes its queue in
the order of arrival. -/
inductive Step (localMac : MacAddress) : Plant → Event → Plant → Prop where
  | plan {plant : Plant} {task : Task} {clock : CycleClock} (hidle : plant.dispatching task = []) :
      Step localMac plant (.plan task clock)
        { plant with
          central := (plant.central.runOptimizationCycle clock).state
          dispatching :=
            Function.update plant.dispatching task (plant.central.runOptimizationCycle clock).dispatchOrder
          demanded := demandOf (plant.central.runOptimizationCycle clock).dispatchOrder plant.demanded }
  | writeLocal {plant : Plant} {task : Task} {target : RelayTarget} {rest : List RelayTarget}
      (hnext : plant.dispatching task = target :: rest) (hlocal : target.nodeMacAddress = localMac) :
      Step localMac plant (.dispatch task)
        { plant with
          dispatching := Function.update plant.dispatching task rest
          relayOn := Function.update plant.relayOn target.id target.desiredOn }
  | sendRemote {plant : Plant} {task : Task} {target : RelayTarget} {rest : List RelayTarget}
      (hnext : plant.dispatching task = target :: rest) (hremote : target.nodeMacAddress ≠ localMac) :
      Step localMac plant (.dispatch task)
        { plant with
          dispatching := Function.update plant.dispatching task rest
          inFlight := plant.inFlight ++ [target] }
  | deliver {plant : Plant} {target : RelayTarget} {overtaken rest : List RelayTarget}
      (hflight : plant.inFlight = overtaken ++ target :: rest) :
      Step localMac plant (.deliver overtaken target)
        { plant with
          inFlight := overtaken ++ rest
          relayCommandQueue := Function.update plant.relayCommandQueue target.nodeMacAddress
            (plant.relayCommandQueue target.nodeMacAddress ++ [target]) }
  | duplicate {plant : Plant} {target : RelayTarget} {older newer : List RelayTarget}
      (hflight : plant.inFlight = older ++ target :: newer) :
      Step localMac plant (.duplicate target) { plant with inFlight := older ++ target :: target :: newer }
  | execute {plant : Plant} {macAddress : MacAddress} {target : RelayTarget} {rest : List RelayTarget}
      (hnext : plant.relayCommandQueue macAddress = target :: rest) :
      Step localMac plant (.execute macAddress)
        { plant with
          relayCommandQueue := Function.update plant.relayCommandQueue macAddress rest
          relayOn := Function.update plant.relayOn target.id target.desiredOn }
  | change {plant : Plant} (central : CentralState) :
      Step localMac plant (.change central) { plant with central }

/-- Every dispatch loop has ended and every command was executed. -/
structure Plant.Settled (plant : Plant) : Prop where
  dispatching : ∀ task, plant.dispatching task = []
  inFlight : plant.inFlight = []
  relayCommandQueue : ∀ macAddress, plant.relayCommandQueue macAddress = []

/-- Commands for one relay keep their order: a plan is computed only while no
other loop still has a command for one of its relays to send, and no command
overtakes an older one for its relay or a copy of it. -/
def InOrder (plant : Plant) : Event → Prop
  | .plan task clock => ∀ other, other ≠ task → ∀ target ∈ plant.dispatching other,
      target.id ∉ (plant.central.runOptimizationCycle clock).dispatchOrder.map RelayTarget.id
  | .deliver overtaken target => ∀ other ∈ overtaken, other.id ≠ target.id
  | .dispatch _ | .duplicate _ | .execute _ | .change _ => True

/-- A step that keeps the commands for each relay in order. -/
structure OrderedStep (localMac : MacAddress) (before : Plant) (event : Event) (after : Plant) : Prop where
  step : Step localMac before event after
  inOrder : InOrder before event

/-- The state of one relay after a sequence of commands. -/
def executed (commands : List RelayTarget) (id : Load.Id) (on : Bool) : Bool :=
  commands.foldl (fun on command => if command.id = id then command.desiredOn else on) on

/-- Commands are executed one after the other. -/
theorem executed_append (first second : List RelayTarget) (id : Load.Id) (on : Bool) :
    executed (first ++ second) id on = executed second id (executed first id on) :=
  List.foldl_append

theorem executed_cons (command : RelayTarget) (commands : List RelayTarget) (id : Load.Id) (on : Bool) :
    executed (command :: commands) id on =
      executed commands id (if command.id = id then command.desiredOn else on) := rfl

/-- Commands for other relays do not matter. -/
theorem executed_of_forall_ne {commands : List RelayTarget} {id : Load.Id}
    (hne : ∀ command ∈ commands, command.id ≠ id) (on : Bool) : executed commands id on = on := by
  induction commands with
  | nil => rfl
  | cons command commands ih =>
    rw [executed_cons, if_neg (hne command List.mem_cons_self)]
    exact ih fun other hother => hne other (List.mem_cons_of_mem _ hother)

/-- A command can be executed before commands for other relays. -/
theorem executed_move {overtaken rest : List RelayTarget} {command : RelayTarget}
    (hne : ∀ other ∈ overtaken, other.id ≠ command.id) (id : Load.Id) (on : Bool) :
    executed (overtaken ++ command :: rest) id on = executed (command :: (overtaken ++ rest)) id on := by
  rw [executed_append, executed_cons, executed_cons, executed_append]
  by_cases hid : command.id = id
  · subst hid
    rw [if_pos rfl, if_pos rfl, executed_of_forall_ne hne]
  · rw [if_neg hid, if_neg hid]

/-- An order with one target for each of its relays decides about exactly those. -/
theorem executed_eq_demandOf {order : List RelayTarget} (hnodup : (order.map RelayTarget.id).Nodup)
    {demanded : Load.Id → Option Bool} {id : Load.Id} {on value : Bool}
    (hdemand : demandOf order demanded id = some value) (hold : demanded id = some value → on = value) :
    executed order id on = value := by
  induction order with
  | nil => exact hold hdemand
  | cons target order ih =>
    rw [List.map_cons, List.nodup_cons] at hnodup
    rw [executed_cons]
    by_cases hid : target.id = id
    · have hrest : ∀ other ∈ order, other.id ≠ id := by
        rintro other hother rfl
        exact hnodup.1 (hid ▸ List.mem_map_of_mem hother)
      rw [if_pos hid, executed_of_forall_ne hrest]
      simpa [demandOf, hid] using hdemand
    · rw [if_neg hid]
      refine ih hnodup.2 ?_
      simpa [demandOf, hid] using hdemand

/-- The commands that the loops have still to send. -/
def unsent (dispatching : Task → List RelayTarget) : List RelayTarget :=
  dispatching .optimization ++ dispatching .console

/-- No relay has commands in two loops. -/
def LoopsDisjoint (dispatching : Task → List RelayTarget) : Prop :=
  ∀ first second, first ≠ second → ∀ target ∈ dispatching first, ∀ other ∈ dispatching second, target.id ≠ other.id

theorem LoopsDisjoint.update {dispatching : Task → List RelayTarget} (hdisjoint : LoopsDisjoint dispatching)
    {task : Task} {commands : List RelayTarget}
    (hcommands : ∀ second, second ≠ task → ∀ target ∈ commands, ∀ other ∈ dispatching second,
      target.id ≠ other.id) : LoopsDisjoint (Function.update dispatching task commands) := by
  intro first second hne target htarget other hother
  by_cases hfirst : first = task
  · subst hfirst
    rw [Function.update_self] at htarget
    rw [Function.update_of_ne (Ne.symm hne)] at hother
    exact hcommands second (Ne.symm hne) target htarget other hother
  · rw [Function.update_of_ne hfirst] at htarget
    by_cases hsecond : second = task
    · subst hsecond
      rw [Function.update_self] at hother
      exact (hcommands first hne other hother target htarget).symm
    · rw [Function.update_of_ne hsecond] at hother
      exact hdisjoint first second hne target htarget other hother

/-- The next command of either loop is the next one that its relay has to obey. -/
theorem executed_unsent_cons {dispatching : Task → List RelayTarget} (hdisjoint : LoopsDisjoint dispatching)
    {task : Task} {target : RelayTarget} {rest : List RelayTarget} (hnext : dispatching task = target :: rest)
    (id : Load.Id) (on : Bool) :
    executed (unsent dispatching) id on =
      executed (target :: unsent (Function.update dispatching task rest)) id on := by
  cases task with
  | optimization => simp [unsent, hnext]
  | console =>
    have hne : ∀ other ∈ dispatching .optimization, other.id ≠ target.id := fun other hother =>
      hdisjoint .optimization .console (by decide) other hother target (hnext ▸ List.mem_cons_self)
    have hmove : executed (dispatching .optimization ++ target :: rest) id on =
        executed (target :: (dispatching .optimization ++ rest)) id on := executed_move hne id on
    simpa [unsent, hnext] using hmove

/-- A new order of an idle loop is obeyed by its own relays after everything
else, and by no other relay. -/
theorem executed_unsent_update {dispatching : Task → List RelayTarget} {task : Task}
    (hidle : dispatching task = []) {order : List RelayTarget}
    (hnew : ∀ other, other ≠ task → ∀ target ∈ dispatching other, target.id ∉ order.map RelayTarget.id)
    (id : Load.Id) (on : Bool) :
    executed (unsent (Function.update dispatching task order)) id on =
      executed order id (executed (unsent dispatching) id on) := by
  cases task with
  | optimization =>
    have hunsent : unsent dispatching = dispatching .console := by simp [unsent, hidle]
    have hupdate : unsent (Function.update dispatching .optimization order) = order ++ dispatching .console := by
      simp [unsent]
    rw [hunsent, hupdate, executed_append]
    by_cases hid : id ∈ order.map RelayTarget.id
    · have hne : ∀ target ∈ dispatching .console, target.id ≠ id := by
        rintro target htarget rfl
        exact hnew .console (by decide) target htarget hid
      rw [executed_of_forall_ne hne, executed_of_forall_ne hne]
    · have hne : ∀ target ∈ order, target.id ≠ id := by
        rintro target htarget rfl
        exact hid (List.mem_map_of_mem htarget)
      rw [executed_of_forall_ne hne, executed_of_forall_ne hne]
  | console =>
    have hunsent : unsent dispatching = dispatching .optimization := by simp [unsent, hidle]
    have hupdate : unsent (Function.update dispatching .console order) = dispatching .optimization ++ order := by
      simp [unsent]
    rw [hunsent, hupdate, executed_append]

/-- The commands that one relay has still to obey, the oldest first. -/
def Plant.pending (plant : Plant) (id : Load.Id) : List RelayTarget :=
  plant.relayCommandQueue id.macAddress ++ plant.inFlight ++ unsent plant.dispatching

/-- Commands are where they belong, no relay is in two loops, and every relay is
on its way to the state that its latest plan demanded. -/
structure Plant.Converging (localMac : MacAddress) (plant : Plant) : Prop where
  queue_owner : ∀ macAddress, ∀ target ∈ plant.relayCommandQueue macAddress,
    target.nodeMacAddress = macAddress ∧ macAddress ≠ localMac
  inFlight_remote : ∀ target ∈ plant.inFlight, target.nodeMacAddress ≠ localMac
  loops_disjoint : LoopsDisjoint plant.dispatching
  eventual : ∀ id value, plant.demanded id = some value → executed (plant.pending id) id (plant.relayOn id) = value

/-- Needs the task to have dispatched its last plan, and no other loop to hold commands for the same
relays. -/
theorem Plant.Converging.plan {localMac : MacAddress} {plant : Plant} {task : Task} {clock : CycleClock}
    (hconverging : plant.Converging localMac) (hidle : plant.dispatching task = [])
    (hinOrder : InOrder plant (.plan task clock)) :
    Plant.Converging localMac
      { plant with
        central := (plant.central.runOptimizationCycle clock).state
        dispatching := Function.update plant.dispatching task (plant.central.runOptimizationCycle clock).dispatchOrder
        demanded := demandOf (plant.central.runOptimizationCycle clock).dispatchOrder plant.demanded } where
  queue_owner := hconverging.queue_owner
  inFlight_remote := hconverging.inFlight_remote
  loops_disjoint := by
    refine hconverging.loops_disjoint.update fun second hne target htarget other hother hid => ?_
    exact hinOrder second hne other hother (hid ▸ List.mem_map_of_mem htarget)
  eventual := by
    intro id value hdemand
    rw [Plant.pending, executed_append, executed_unsent_update hidle hinOrder]
    refine executed_eq_demandOf (plant.central.dispatchOrder_ids_nodup clock) hdemand fun hold => ?_
    rw [← hconverging.eventual id value hold, Plant.pending]
    simp only [executed_append]

theorem Plant.Converging.loops_disjoint_tail {localMac : MacAddress} {plant : Plant}
    (hconverging : plant.Converging localMac) {task : Task} {target : RelayTarget} {rest : List RelayTarget}
    (hnext : plant.dispatching task = target :: rest) :
    LoopsDisjoint (Function.update plant.dispatching task rest) := by
  refine hconverging.loops_disjoint.update fun second hne other hother third hthird => ?_
  exact hconverging.loops_disjoint task second (Ne.symm hne) other (hnext ▸ List.mem_cons_of_mem target hother)
    third hthird

/-- Central's own relay is written at once. -/
theorem Plant.Converging.writeLocal {localMac : MacAddress} {plant : Plant} {task : Task} {target : RelayTarget}
    {rest : List RelayTarget} (hconverging : plant.Converging localMac)
    (hnext : plant.dispatching task = target :: rest) (hlocal : target.nodeMacAddress = localMac) :
    Plant.Converging localMac
      { plant with
        dispatching := Function.update plant.dispatching task rest
        relayOn := Function.update plant.relayOn target.id target.desiredOn } where
  queue_owner := hconverging.queue_owner
  inFlight_remote := hconverging.inFlight_remote
  loops_disjoint := hconverging.loops_disjoint_tail hnext
  eventual := by
    intro id value hdemand
    have hold := hconverging.eventual id value hdemand
    rw [Plant.pending, executed_append, executed_unsent_cons hconverging.loops_disjoint hnext, executed_cons] at hold
    rw [Plant.pending, executed_append]
    by_cases hid : target.id = id
    · have hmac : id.macAddress = localMac := by rw [← hid]; exact hlocal
      have hqueue : ∀ command ∈ plant.relayCommandQueue id.macAddress ++ plant.inFlight, command.id ≠ id := by
        rintro command hcommand rfl
        obtain hcommand | hcommand := List.mem_append.mp hcommand
        · exact (hconverging.queue_owner _ command hcommand).2 hmac
        · exact hconverging.inFlight_remote command hcommand hmac
      subst hid
      rw [if_pos rfl] at hold
      dsimp only
      rw [Function.update_self, executed_of_forall_ne hqueue]
      exact hold
    · rw [if_neg hid] at hold
      dsimp only
      rw [Function.update_of_ne (Ne.symm hid)]
      exact hold

/-- A command that goes on the air is the newest for its relay. -/
theorem Plant.Converging.sendRemote {localMac : MacAddress} {plant : Plant} {task : Task} {target : RelayTarget}
    {rest : List RelayTarget} (hconverging : plant.Converging localMac)
    (hnext : plant.dispatching task = target :: rest) (hremote : target.nodeMacAddress ≠ localMac) :
    Plant.Converging localMac
      { plant with
        dispatching := Function.update plant.dispatching task rest
        inFlight := plant.inFlight ++ [target] } where
  queue_owner := hconverging.queue_owner
  inFlight_remote := by
    intro other hother
    obtain hother | hother := List.mem_append.mp hother
    · exact hconverging.inFlight_remote other hother
    · rw [List.mem_singleton.mp hother]
      exact hremote
  loops_disjoint := hconverging.loops_disjoint_tail hnext
  eventual := by
    intro id value hdemand
    have hold := hconverging.eventual id value hdemand
    rw [Plant.pending, executed_append, executed_unsent_cons hconverging.loops_disjoint hnext] at hold
    rw [Plant.pending, ← List.append_assoc, List.append_assoc _ [target], executed_append]
    exact hold

/-- A packet may only overtake packets for other relays. -/
theorem Plant.Converging.deliver {localMac : MacAddress} {plant : Plant} {target : RelayTarget}
    {overtaken rest : List RelayTarget} (hconverging : plant.Converging localMac)
    (hflight : plant.inFlight = overtaken ++ target :: rest) (hovertaken : ∀ other ∈ overtaken, other.id ≠ target.id) :
    Plant.Converging localMac
      { plant with
        inFlight := overtaken ++ rest
        relayCommandQueue := Function.update plant.relayCommandQueue target.nodeMacAddress
          (plant.relayCommandQueue target.nodeMacAddress ++ [target]) } where
  queue_owner := by
    intro macAddress other hother
    dsimp only at hother
    by_cases hmac : macAddress = target.nodeMacAddress
    · subst hmac
      rw [Function.update_self] at hother
      obtain hother | hother := List.mem_append.mp hother
      · exact hconverging.queue_owner _ other hother
      · rw [List.mem_singleton.mp hother]
        exact ⟨rfl, hconverging.inFlight_remote target (hflight ▸ by simp)⟩
    · rw [Function.update_of_ne hmac] at hother
      exact hconverging.queue_owner macAddress other hother
  inFlight_remote := by
    intro other hother
    apply hconverging.inFlight_remote other
    rw [hflight]
    obtain hother | hother := List.mem_append.mp hother
    · exact List.mem_append_left _ hother
    · exact List.mem_append_right _ (List.mem_cons_of_mem _ hother)
  loops_disjoint := hconverging.loops_disjoint
  eventual := by
    intro id value hdemand
    have hold := hconverging.eventual id value hdemand
    rw [Plant.pending, hflight, executed_append, executed_append, executed_move hovertaken, executed_cons,
      executed_append] at hold
    rw [Plant.pending]
    simp only [executed_append]
    by_cases hmac : id.macAddress = target.nodeMacAddress
    · rw [hmac] at hold
      rw [hmac, Function.update_self, executed_append]
      exact hold
    · have hid : target.id ≠ id := fun hid => hmac (hid ▸ rfl)
      rw [if_neg hid] at hold
      rw [Function.update_of_ne hmac]
      exact hold

/-- A repeated packet repeats what is under way. -/
theorem Plant.Converging.duplicate {localMac : MacAddress} {plant : Plant} {target : RelayTarget}
    {older newer : List RelayTarget} (hconverging : plant.Converging localMac)
    (hflight : plant.inFlight = older ++ target :: newer) :
    Plant.Converging localMac { plant with inFlight := older ++ target :: target :: newer } where
  queue_owner := hconverging.queue_owner
  inFlight_remote := by
    intro other hother
    apply hconverging.inFlight_remote other
    rw [hflight]
    simpa using hother
  loops_disjoint := hconverging.loops_disjoint
  eventual := by
    intro id value hdemand
    have hold := hconverging.eventual id value hdemand
    have hcopy : executed (older ++ target :: target :: newer) id = executed (older ++ target :: newer) id := by
      funext on
      simp only [executed_append, executed_cons]
      split <;> rfl
    rw [Plant.pending, executed_append, executed_append, hflight] at hold
    rw [Plant.pending, executed_append, executed_append, hcopy]
    exact hold

/-- The Node executes its queue in order. -/
theorem Plant.Converging.execute {localMac : MacAddress} {plant : Plant} {macAddress : MacAddress}
    {target : RelayTarget} {rest : List RelayTarget} (hconverging : plant.Converging localMac)
    (hnext : plant.relayCommandQueue macAddress = target :: rest) :
    Plant.Converging localMac
      { plant with
        relayCommandQueue := Function.update plant.relayCommandQueue macAddress rest
        relayOn := Function.update plant.relayOn target.id target.desiredOn } where
  queue_owner := by
    intro mac other hother
    dsimp only at hother
    by_cases hmac : mac = macAddress
    · subst hmac
      rw [Function.update_self] at hother
      exact hconverging.queue_owner mac other (hnext ▸ List.mem_cons_of_mem target hother)
    · rw [Function.update_of_ne hmac] at hother
      exact hconverging.queue_owner mac other hother
  inFlight_remote := hconverging.inFlight_remote
  loops_disjoint := hconverging.loops_disjoint
  eventual := by
    intro id value hdemand
    have hold := hconverging.eventual id value hdemand
    obtain ⟨howner, -⟩ := hconverging.queue_owner macAddress target (hnext ▸ List.mem_cons_self)
    rw [Plant.pending, List.append_assoc, executed_append] at hold ⊢
    dsimp only
    by_cases hmac : id.macAddress = macAddress
    · rw [hmac, hnext, executed_cons] at hold
      rw [hmac, Function.update_self]
      by_cases hid : target.id = id
      · subst hid
        rw [if_pos rfl] at hold
        rw [Function.update_self]
        exact hold
      · rw [if_neg hid] at hold
        rw [Function.update_of_ne (Ne.symm hid)]
        exact hold
    · have hid : target.id ≠ id := by
        rintro rfl
        exact hmac howner
      rw [Function.update_of_ne hmac, Function.update_of_ne (Ne.symm hid)]
      exact hold

/-- One step in order keeps every relay on its way. -/
theorem Plant.Converging.step {localMac : MacAddress} {before after : Plant} {event : Event}
    (hconverging : before.Converging localMac) (hordered : OrderedStep localMac before event after) :
    after.Converging localMac := by
  obtain ⟨hstep, hinOrder⟩ := hordered
  cases hstep with
  | plan hidle => exact hconverging.plan hidle hinOrder
  | writeLocal hnext hlocal => exact hconverging.writeLocal hnext hlocal
  | sendRemote hnext hremote => exact hconverging.sendRemote hnext hremote
  | deliver hflight => exact hconverging.deliver hflight hinOrder
  | duplicate hflight => exact hconverging.duplicate hflight
  | execute hnext => exact hconverging.execute hnext
  | change central => exact ⟨hconverging.queue_owner, hconverging.inFlight_remote, hconverging.loops_disjoint,
      hconverging.eventual⟩

/-- The latest plan wins in every run in order: once everything has settled, each relay is in the state that
the most recently computed plan with it demanded. Needs a settled start at which no plan has demanded
anything. -/
theorem relayOn_eq_demanded {localMac : MacAddress} {start last : Plant} {events : List Event}
    (hrun : Run (OrderedStep localMac) start events last)
    (hstart : start.Settled) (hnoPlan : ∀ id, start.demanded id = none) (hlast : last.Settled) {id : Load.Id}
    {value : Bool} (hdemand : last.demanded id = some value) : last.relayOn id = value := by
  have hinitial : start.Converging localMac := by
    refine ⟨fun mac target htarget => ?_, fun target htarget => ?_, fun first _ _ target htarget => ?_,
      fun id value hdemand => ?_⟩
    · simp [hstart.relayCommandQueue] at htarget
    · simp [hstart.inFlight] at htarget
    · simp [hstart.dispatching] at htarget
    · simp [hnoPlan] at hdemand
  have hpreserved : ∀ before event after, before.Converging localMac →
      OrderedStep localMac before event after → after.Converging localMac :=
    fun before event after hconverging hstep => hconverging.step hstep
  have hconverging := hrun.invariant hpreserved hinitial
  have heventual := hconverging.eventual id value hdemand
  simpa [Plant.pending, unsent, hlast.relayCommandQueue, hlast.inFlight, hlast.dispatching, executed] using heventual

section Runs

open CentralState

/-- A Node with one fixed load on pin 4. -/
def fixedLoadNode (macAddress : MacAddress) (isCentralNode on : Bool) : PlanningNode where
  node := {
    macAddress
    loads := [.make ⟨macAddress, 4⟩ [70] (.finite 30) 1 .AC (if on then .FIXED_ON else .FIXED_OFF)]
    loads_mac := by simp [Load.getMacAddress]
    pins_nodup := by simp }
  nodeName := [78]
  nextHopToCentralMacAddress := Vector.replicate 6 1
  hopCountToCentral := if isCentralNode then 0 else 1
  isCentralNode
  lastSeenMilliseconds := 0
  pendingReport := .none

def localMac : MacAddress := Vector.replicate 6 1
def smartMac : MacAddress := Vector.replicate 6 2

/-- Central and one Smart Node, their loads both FIXED_ON or both FIXED_OFF. -/
def twoNodePlant (on : Bool) : CentralState :=
  { threeLoadPlant with
    registry :=
      { planningNodes := [fixedLoadNode localMac true on, fixedLoadNode smartMac false on]
        macs_nodup := by
          have hne : localMac ≠ smartMac := by decide
          simp [fixedLoadNode, PlanningNode.getMacAddress, hne] }
    commissioningRegistry := ⟨[⟨smartMac, .SMART, .OPERATIONAL⟩]⟩ }

/-- The command for Central's own load. -/
def localTarget (on : Bool) : RelayTarget := ⟨localMac, 4, on⟩

/-- The command for the load of the Smart Node. -/
def smartTarget (on : Bool) : RelayTarget := ⟨smartMac, 4, on⟩

theorem twoNodePlant_dispatchOrder (on : Bool) :
    ((twoNodePlant on).runOptimizationCycle noonClock).dispatchOrder = [localTarget on, smartTarget on] := by
  cases on <;> decide +kernel

/-- A plan for the two Nodes, the demands spelled out. -/
theorem Step.planTwoNodes {dispatching : Task → List RelayTarget} {inFlight : List RelayTarget}
    {relayCommandQueue : MacAddress → List RelayTarget} {relayOn : Load.Id → Bool} {demanded : Load.Id → Option Bool}
    (on : Bool) (task : Task) (hidle : dispatching task = []) :
    Step localMac ⟨twoNodePlant on, dispatching, inFlight, relayCommandQueue, relayOn, demanded⟩
      (.plan task noonClock)
      ⟨((twoNodePlant on).runOptimizationCycle noonClock).state,
        Function.update dispatching task [localTarget on, smartTarget on], inFlight, relayCommandQueue, relayOn,
        demandOf [localTarget on, smartTarget on] demanded⟩ := by
  rw [← twoNodePlant_dispatchOrder]
  exact .plan hidle

/-- Nothing is under way and all relays are OFF. -/
def twoNodeStart : Plant := ⟨twoNodePlant true, fun _ => [], [], fun _ => [], fun _ => false, fun _ => none⟩

theorem twoNodeStart_settled : twoNodeStart.Settled := ⟨fun _ => rfl, rfl, fun _ => rfl⟩

theorem twoNodeStart_plan :
    Step localMac twoNodeStart (.plan .optimization noonClock)
      { twoNodeStart with
        central := ((twoNodePlant true).runOptimizationCycle noonClock).state
        dispatching := Function.update (fun _ => []) .optimization [localTarget true, smartTarget true]
        demanded := demandOf [localTarget true, smartTarget true] fun _ => none } :=
  .planTwoNodes true .optimization rfl

/-- Only the queue of the one Smart Node was ever in use. -/
theorem Plant.Settled.of_smartQueue {plant : Plant} {first second third fourth : List RelayTarget}
    (hdispatching : ∀ task, plant.dispatching task = []) (hflight : plant.inFlight = [])
    (hqueue : plant.relayCommandQueue = Function.update (Function.update (Function.update (Function.update
      (fun _ => []) smartMac first) smartMac second) smartMac third) smartMac fourth) (hlast : fourth = []) :
    plant.Settled := by
  refine ⟨hdispatching, hflight, fun macAddress => ?_⟩
  rw [hqueue, hlast]
  by_cases hmac : macAddress = smartMac
  · rw [hmac, Function.update_self]
  · simp only [Function.update_of_ne hmac]

theorem relayOn_eq_demanded_twoNodePlant :
    ∃ last : Plant, last.demanded ⟨smartMac, 4⟩ = some false ∧ last.relayOn ⟨smartMac, 4⟩ = false := by
  have hinOrder : InOrder twoNodeStart (.plan .optimization noonClock) := by simp [InOrder, twoNodeStart]
  have hplanned : Run (OrderedStep localMac) twoNodeStart [.plan .optimization noonClock] _ :=
    .single ⟨twoNodeStart_plan, hinOrder⟩
  have hsent := (hplanned.snoc
    ⟨@Step.writeLocal localMac _ .optimization (localTarget true) [smartTarget true] rfl rfl, trivial⟩).snoc
    ⟨@Step.sendRemote localMac _ .optimization (smartTarget true) [] rfl (by decide), trivial⟩
  have hreplanned := (hsent.snoc ⟨.change (twoNodePlant false), trivial⟩).snoc
    ⟨Step.planTwoNodes false .console rfl, by
      intro other _ target htarget
      cases other <;> cases htarget⟩
  have hresent := (hreplanned.snoc
    ⟨@Step.writeLocal localMac _ .console (localTarget false) [smartTarget false] rfl rfl, trivial⟩).snoc
    ⟨@Step.sendRemote localMac _ .console (smartTarget false) [] rfl (by decide), trivial⟩
  have harrived := (hresent.snoc
    ⟨@Step.deliver localMac _ (smartTarget true) [] [smartTarget false] rfl, by simp [InOrder]⟩).snoc
    ⟨@Step.deliver localMac _ (smartTarget false) [] [] rfl, by simp [InOrder]⟩
  have hexecuted := (harrived.snoc
    ⟨@Step.execute localMac _ smartMac (smartTarget true) [smartTarget false] rfl, trivial⟩).snoc
    ⟨@Step.execute localMac _ smartMac (smartTarget false) [] rfl, trivial⟩
  refine ⟨_, rfl, relayOn_eq_demanded hexecuted twoNodeStart_settled (fun _ => rfl) ?_ rfl⟩
  exact .of_smartQueue (fun task => by cases task <;> rfl) rfl rfl rfl

/-- In the first run both relays are left ON although the latest plan demands
OFF: the loop of the older plan is still waiting before its ON commands while the
newer plan is computed and carried out. In the second one the loops do not
overlap, but the newer command overtakes the older one on its way. -/
theorem latest_plan_does_not_win :
    (∃ last, Run (Step localMac) twoNodeStart
        [.plan .optimization noonClock, .change (twoNodePlant false), .plan .console noonClock,
          .dispatch .console, .dispatch .console, .dispatch .optimization, .dispatch .optimization,
          .deliver [] (smartTarget false), .deliver [] (smartTarget true), .execute smartMac,
          .execute smartMac] last ∧
      last.Settled ∧ last.demanded ⟨localMac, 4⟩ = some false ∧ last.relayOn ⟨localMac, 4⟩ = true ∧
      last.demanded ⟨smartMac, 4⟩ = some false ∧ last.relayOn ⟨smartMac, 4⟩ = true) ∧
    (∃ last, Run (Step localMac) twoNodeStart
        [.plan .optimization noonClock, .dispatch .optimization, .dispatch .optimization,
          .change (twoNodePlant false), .plan .console noonClock, .dispatch .console, .dispatch .console,
          .deliver [smartTarget true] (smartTarget false), .deliver [] (smartTarget true), .execute smartMac,
          .execute smartMac] last ∧
      last.Settled ∧ last.demanded ⟨smartMac, 4⟩ = some false ∧ last.relayOn ⟨smartMac, 4⟩ = true) := by
  constructor
  · have hreplanned := ((Run.single twoNodeStart_plan).snoc (.change (twoNodePlant false))).snoc
      (Step.planTwoNodes false .console rfl)
    have hconsole := (hreplanned.snoc
      (@Step.writeLocal localMac _ .console (localTarget false) [smartTarget false] rfl rfl)).snoc
      (@Step.sendRemote localMac _ .console (smartTarget false) [] rfl (by decide))
    have hoptimization := (hconsole.snoc
      (@Step.writeLocal localMac _ .optimization (localTarget true) [smartTarget true] rfl rfl)).snoc
      (@Step.sendRemote localMac _ .optimization (smartTarget true) [] rfl (by decide))
    have harrived := (hoptimization.snoc
      (@Step.deliver localMac _ (smartTarget false) [] [smartTarget true] rfl)).snoc
      (@Step.deliver localMac _ (smartTarget true) [] [] rfl)
    have hexecuted := (harrived.snoc
      (@Step.execute localMac _ smartMac (smartTarget false) [smartTarget true] rfl)).snoc
      (@Step.execute localMac _ smartMac (smartTarget true) [] rfl)
    refine ⟨_, hexecuted, .of_smartQueue (fun task => by cases task <;> rfl) rfl rfl rfl, rfl, rfl, rfl, rfl⟩
  · have hsent := ((Run.single twoNodeStart_plan).snoc
      (@Step.writeLocal localMac _ .optimization (localTarget true) [smartTarget true] rfl rfl)).snoc
      (@Step.sendRemote localMac _ .optimization (smartTarget true) [] rfl (by decide))
    have hreplanned := (hsent.snoc (.change (twoNodePlant false))).snoc (Step.planTwoNodes false .console rfl)
    have hresent := (hreplanned.snoc
      (@Step.writeLocal localMac _ .console (localTarget false) [smartTarget false] rfl rfl)).snoc
      (@Step.sendRemote localMac _ .console (smartTarget false) [] rfl (by decide))
    have harrived := (hresent.snoc
      (@Step.deliver localMac _ (smartTarget false) [smartTarget true] [] rfl)).snoc
      (@Step.deliver localMac _ (smartTarget true) [] [] rfl)
    have hexecuted := (harrived.snoc
      (@Step.execute localMac _ smartMac (smartTarget false) [smartTarget true] rfl)).snoc
      (@Step.execute localMac _ smartMac (smartTarget true) [] rfl)
    refine ⟨_, hexecuted, .of_smartQueue (fun task => by cases task <;> rfl) rfl rfl rfl, rfl, rfl⟩

end Runs

end LatestPlan

end kilowatts
