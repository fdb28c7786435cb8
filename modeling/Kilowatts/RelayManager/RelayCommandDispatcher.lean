import Kilowatts.LoadManager.Load

namespace kilowatts

/-- One relay the planning cycle wants commanded to `desiredOn`. -/
structure RelayTarget where
  nodeMacAddress : MacAddress
  relayPin : UInt8
  desiredOn : Bool
deriving DecidableEq

namespace RelayTarget

/-- Address and pin of a target are the id of its load. -/
def id (target : RelayTarget) : Load.Id := ⟨target.nodeMacAddress, target.relayPin⟩

def ofLoad (load : Load) : RelayTarget := ⟨load.getMacAddress, load.getRelayPin, load.isOn⟩

@[simp] theorem ofLoad_id (load : Load) : (ofLoad load).id = load.id := rfl

@[simp] theorem ofLoad_desiredOn (load : Load) : (ofLoad load).desiredOn = load.isOn := rfl

end RelayTarget

namespace RelayCommandDispatcher

/-- Every OFF target first, then every ON target, each in the given order. -/
def buildDispatchOrder (targets : List RelayTarget) : List RelayTarget :=
  targets.filter (fun target => !target.desiredOn) ++ targets.filter (·.desiredOn)

/-- No target is dropped and none is added. -/
theorem buildDispatchOrder_perm (targets : List RelayTarget) :
    (buildDispatchOrder targets).Perm targets := by
  refine List.perm_append_comm.trans ?_
  simpa using List.filter_append_perm (fun target : RelayTarget => target.desiredOn) targets

/-- The OFF phase comes before the ON phase. -/
theorem buildDispatchOrder_phases (targets : List RelayTarget) :
    ∃ offPhase onPhase : List RelayTarget, buildDispatchOrder targets = offPhase ++ onPhase ∧
      (∀ target ∈ offPhase, target.desiredOn = false) ∧ ∀ target ∈ onPhase, target.desiredOn = true := by
  refine ⟨_, _, rfl, fun target htarget => ?_, fun target htarget => (List.mem_filter.mp htarget).2⟩
  simpa using (List.mem_filter.mp htarget).2

end RelayCommandDispatcher

end kilowatts
