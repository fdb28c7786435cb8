import Kilowatts.Library.KeyedList
import Kilowatts.LoadManager.Load

namespace kilowatts

/-- One Node and the loads that belong to it. `addLoad` refuses a foreign address
and a used pin, and no setter of a load touches its id. -/
@[ext]
structure Node where
  macAddress : MacAddress
  loads : List Load
  loads_mac : ∀ load ∈ loads, load.getMacAddress = macAddress
  pins_nodup : (loads.map Load.getRelayPin).Nodup

/-- What code that holds a `Load*` can do to the load: anything but change its id. -/
structure LoadUpdate where
  apply : Load → Load
  id_apply : ∀ load, (apply load).id = load.id

namespace LoadUpdate

@[simp] theorem getRelayPin_apply (update : LoadUpdate) (load : Load) :
    (update.apply load).getRelayPin = load.getRelayPin := by
  rw [Load.getRelayPin, update.id_apply]
  rfl

@[simp] theorem getRelayPin_comp_apply (update : LoadUpdate) :
    Load.getRelayPin ∘ update.apply = Load.getRelayPin :=
  funext update.getRelayPin_apply

@[simp] theorem getMacAddress_apply (update : LoadUpdate) (load : Load) :
    (update.apply load).getMacAddress = load.getMacAddress := by
  rw [Load.getMacAddress, update.id_apply]
  rfl

/-- The update restricted to the loads that satisfy `selected`. -/
def onlyOn (update : LoadUpdate) (selected : Load.Id → Prop) [DecidablePred selected] : LoadUpdate where
  apply := fun load => if selected load.id then update.apply load else load
  id_apply := by
    intro load
    split
    · exact update.id_apply load
    · rfl

/-- `update id` for each listed id. -/
def each (ids : List Load.Id) (update : Load.Id → LoadUpdate) : LoadUpdate where
  apply := fun load => if load.id ∈ ids then (update load.id).apply load else load
  id_apply := by
    intro load
    split
    · exact (update load.id).id_apply load
    · rfl

/-- First `first`, then `second`. -/
def andThen (first second : LoadUpdate) : LoadUpdate where
  apply := fun load => second.apply (first.apply load)
  id_apply := fun load => by rw [second.id_apply, first.id_apply]

end LoadUpdate

namespace Node

/-- The constructor. -/
def make (macAddress : MacAddress) : Node := ⟨macAddress, [], by simp, by simp⟩

def getMacAddress (node : Node) : MacAddress := node.macAddress

def getLoadByRelayPin (node : Node) (relayPin : UInt8) : Option Load :=
  KeyedList.lookup Load.getRelayPin node.loads relayPin

/-- `update` on every load. -/
def mapLoads (node : Node) (update : LoadUpdate) : Node where
  macAddress := node.macAddress
  loads := node.loads.map update.apply
  loads_mac := by
    intro load hload
    obtain ⟨before, hbefore, rfl⟩ := List.mem_map.mp hload
    rw [LoadUpdate.getMacAddress_apply, node.loads_mac before hbefore]
  pins_nodup := by
    rw [List.map_map, LoadUpdate.getRelayPin_comp_apply]
    exact node.pins_nodup

@[simp] theorem mapLoads_macAddress (node : Node) (update : LoadUpdate) :
    (node.mapLoads update).macAddress = node.macAddress := rfl

@[simp] theorem mapLoads_loads (node : Node) (update : LoadUpdate) :
    (node.mapLoads update).loads = node.loads.map update.apply := rfl

/-- Code that runs on the load that `getLoadByRelayPin` returns. -/
def updateLoadByRelayPin (node : Node) (relayPin : UInt8) (update : LoadUpdate) : Node where
  macAddress := node.macAddress
  loads := KeyedList.update Load.getRelayPin relayPin update.apply node.loads
  loads_mac := by
    rw [KeyedList.update_eq_map node.pins_nodup]
    intro load hload
    obtain ⟨before, hbefore, rfl⟩ := List.mem_map.mp hload
    split
    · rw [LoadUpdate.getMacAddress_apply, node.loads_mac before hbefore]
    · exact node.loads_mac before hbefore
  pins_nodup := by
    rw [KeyedList.map_key_update (LoadUpdate.getRelayPin_apply update)]
    exact node.pins_nodup

/-- Refuses a load of another Node and a pin that is in use. -/
def addLoad (node : Node) (load : Load) : Node × Bool :=
  if hmac : load.getMacAddress = node.macAddress then
    if hpin : load.getRelayPin ∈ node.loads.map Load.getRelayPin then (node, false)
    else
      ({ macAddress := node.macAddress
         loads := node.loads ++ [load]
         loads_mac := by
           intro other hother
           obtain hold | hnew := List.mem_append.mp hother
           · exact node.loads_mac other hold
           · rw [List.mem_singleton.mp hnew, hmac]
         pins_nodup := by
           rw [List.map_append, List.map_singleton, ← List.concat_eq_append]
           exact node.pins_nodup.concat hpin }, true)
  else (node, false)

/-- The flag tells whether a load was removed. -/
def removeLoadByRelayPin (node : Node) (relayPin : UInt8) : Node × Bool :=
  ({ macAddress := node.macAddress
     loads := KeyedList.remove Load.getRelayPin relayPin node.loads
     loads_mac := fun load hload => node.loads_mac load ((KeyedList.remove_sublist _ _).mem hload)
     pins_nodup := ((KeyedList.remove_sublist _ _).map _).nodup node.pins_nodup },
   (node.getLoadByRelayPin relayPin).isSome)

theorem getLoadByRelayPin_eq_some_iff {node : Node} {relayPin : UInt8} {load : Load} :
    node.getLoadByRelayPin relayPin = some load ↔ load ∈ node.loads ∧ load.getRelayPin = relayPin :=
  KeyedList.lookup_eq_some_iff node.pins_nodup

theorem getLoadByRelayPin_eq_none_iff {node : Node} {relayPin : UInt8} :
    node.getLoadByRelayPin relayPin = none ↔ relayPin ∉ node.loads.map Load.getRelayPin :=
  KeyedList.lookup_eq_none_iff

/-- An update through a pointer changes the one load with that pin. -/
theorem updateLoadByRelayPin_eq_mapLoads (node : Node) (relayPin : UInt8) (update : LoadUpdate) :
    node.updateLoadByRelayPin relayPin update =
      node.mapLoads (update.onlyOn (· = ⟨node.macAddress, relayPin⟩)) := by
  refine Node.ext rfl ?_
  change KeyedList.update Load.getRelayPin relayPin update.apply node.loads = node.loads.map _
  rw [KeyedList.update_eq_map node.pins_nodup]
  apply List.map_congr_left
  intro load hload
  have hmac := node.loads_mac load hload
  have hid : load.id = ⟨node.macAddress, relayPin⟩ ↔ load.getRelayPin = relayPin := by
    rw [← hmac]
    constructor
    · intro heq
      rw [Load.getRelayPin, heq]
    · rintro rfl
      rfl
  simp only [LoadUpdate.onlyOn, hid]

theorem addLoad_loads {node : Node} {load : Load} (hmac : load.getMacAddress = node.macAddress)
    (hpin : load.getRelayPin ∉ node.loads.map Load.getRelayPin) :
    (node.addLoad load).1.loads = node.loads ++ [load] := by
  simp only [addLoad, dif_pos hmac, dif_neg hpin]

theorem addLoad_loads_cases (node : Node) (load : Load) :
    (node.addLoad load).1.loads = node.loads ∨ (node.addLoad load).1.loads = node.loads ++ [load] := by
  unfold addLoad
  split
  · split
    · exact .inl rfl
    · exact .inr rfl
  · exact .inl rfl

theorem mem_addLoad_loads {node : Node} {added load : Load} (hload : load ∈ (node.addLoad added).1.loads) :
    load ∈ node.loads ∨ load = added := by
  obtain hsame | happended := node.addLoad_loads_cases added
  · exact .inl (hsame ▸ hload)
  · rw [happended, List.mem_append, List.mem_singleton] at hload
    exact hload

@[simp] theorem addLoad_macAddress (node : Node) (load : Load) :
    (node.addLoad load).1.macAddress = node.macAddress := by
  unfold addLoad
  split
  · split <;> rfl
  · rfl

@[simp] theorem removeLoadByRelayPin_macAddress (node : Node) (relayPin : UInt8) :
    (node.removeLoadByRelayPin relayPin).1.macAddress = node.macAddress := rfl

/-- Adding a load and removing it again leaves the Node as it was. -/
theorem removeLoadByRelayPin_addLoad {node : Node} {load : Load} (hadded : (node.addLoad load).2 = true) :
    ((node.addLoad load).1.removeLoadByRelayPin load.getRelayPin).1 = node := by
  by_cases hmac : load.getMacAddress = node.macAddress
  · by_cases hpin : load.getRelayPin ∈ node.loads.map Load.getRelayPin
    · simp [addLoad, hmac, hpin] at hadded
    · refine Node.ext (addLoad_macAddress node load) ?_
      change KeyedList.remove _ _ (node.addLoad load).1.loads = _
      rw [addLoad_loads hmac hpin]
      exact KeyedList.remove_append_singleton hpin
  · simp [addLoad, hmac] at hadded

theorem updateLoadByRelayPin_getLoadByRelayPin (node : Node) (relayPin other : UInt8) (update : LoadUpdate) :
    (node.updateLoadByRelayPin relayPin update).getLoadByRelayPin other =
      if other = relayPin then (node.getLoadByRelayPin other).map update.apply else node.getLoadByRelayPin other :=
  KeyedList.lookup_update (LoadUpdate.getRelayPin_apply update) relayPin other node.loads

theorem addLoad_getLoadByRelayPin {node : Node} {load : Load} (hmac : load.getMacAddress = node.macAddress)
    (hpin : node.getLoadByRelayPin load.getRelayPin = none) (other : UInt8) :
    (node.addLoad load).1.getLoadByRelayPin other =
      if other = load.getRelayPin then some load else node.getLoadByRelayPin other := by
  rw [getLoadByRelayPin, addLoad_loads hmac (getLoadByRelayPin_eq_none_iff.mp hpin), KeyedList.lookup_append_singleton]
  by_cases hother : other = load.getRelayPin
  · subst hother
    rw [getLoadByRelayPin] at hpin
    rw [hpin, if_pos rfl, if_pos rfl, Option.none_or]
  · rw [if_neg hother, if_neg (Ne.symm hother), Option.or_none]
    rfl

theorem removeLoadByRelayPin_getLoadByRelayPin (node : Node) (relayPin other : UInt8) :
    (node.removeLoadByRelayPin relayPin).1.getLoadByRelayPin other =
      if other = relayPin then none else node.getLoadByRelayPin other :=
  KeyedList.lookup_remove node.pins_nodup relayPin other

/-- Two loads of a Node with the same id are the same load. -/
theorem loads_nodup (node : Node) : (node.loads.map Load.id).Nodup := by
  have hpins := node.pins_nodup
  rw [show node.loads.map Load.getRelayPin = (node.loads.map Load.id).map Load.Id.relayPin by
    rw [List.map_map]; rfl] at hpins
  exact hpins.of_map

end Node

end kilowatts
