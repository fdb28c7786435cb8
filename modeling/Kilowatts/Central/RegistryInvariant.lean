import Kilowatts.Central.PlanningCycle
import Kilowatts.NodeManager.ConsistentLoads

namespace kilowatts

/-- The loads that Central plans with, and the settings that a user stored for them. -/
structure RegisteredLoads where
  registry : CentralNodeRegistry
  store : LoadConfigurationStore

/-- Every call that changes the registry or the overrides. -/
inductive RegistryEvent where
  | addLocalCentralNode (nodeName : List UInt8) (centralNode : Node) (nowMilliseconds : UInt32)
  | applyNodeReport (packet : NodeReportPacket) (nowMilliseconds : UInt32)
  | removeLoad (macAddress : MacAddress) (relayPin : UInt8)
  | setConfiguration (entry : ConfigurationEntry)
  | removeConfiguration (macAddress : MacAddress) (relayPin : UInt8)
  | applyToLoad (macAddress : MacAddress) (relayPin : UInt8)

/-- The Node is what the calls of `NodeLoadHardwareStore` make of a new one. -/
def BuiltNode (node : Node) : Prop :=
  ∃ store relays macAddress events hardware,
    Run NodeHardware.EventStep ⟨store, relays, .make macAddress⟩ events hardware ∧ hardware.node = node

namespace RegisteredLoads

/-- Central knows nobody. -/
def empty : RegisteredLoads := ⟨.empty, ⟨[]⟩⟩

/-- The calls in any order, as the tasks make them under the lock. -/
def next (before : RegisteredLoads) : RegistryEvent → RegisteredLoads
  | .addLocalCentralNode nodeName centralNode nowMilliseconds =>
    { before with registry := before.registry.addLocalCentralNode nodeName centralNode nowMilliseconds }
  | .applyNodeReport packet nowMilliseconds =>
    { before with registry := before.registry.applyNodeReport packet nowMilliseconds }
  | .removeLoad macAddress relayPin => { before with registry := (before.registry.removeLoad macAddress relayPin).1 }
  | .setConfiguration entry => { before with store := (before.store.setConfiguration entry).1 }
  | .removeConfiguration macAddress relayPin =>
    { before with store := (before.store.removeConfiguration macAddress relayPin).1 }
  | .applyToLoad macAddress relayPin =>
    { before with registry := before.registry.updateLoad macAddress relayPin (Central.storedSettingsUpdate before.store) }

/-- The Nodes come from the hardware store, and no undeclared mode is stored. -/
def Admissible : RegistryEvent → Prop
  | .addLocalCentralNode _ centralNode _ => BuiltNode centralNode
  | .setConfiguration entry => entry.mode.isDeclared = true
  | _ => True

/-- Calls with what their callers give them, and nothing else. -/
structure Step (before : RegisteredLoads) (event : RegistryEvent) (after : RegisteredLoads) : Prop where
  next : after = before.next event
  admissible : Admissible event

/-- What every call keeps. -/
structure Consistent (state : RegisteredLoads) : Prop where
  loads : state.registry.AllConsistent
  declared : ∀ entry ∈ state.store.entries, entry.mode.isDeclared = true

/-- A node that was built load by load has no schedule without an AUTO mode. -/
theorem BuiltNode.allConsistent {node : Node} (hbuilt : BuiltNode node) : node.AllConsistent := by
  obtain ⟨store, relays, macAddress, events, hardware, hrun, rfl⟩ := hbuilt
  have hpreserved : ∀ before event after, before.node.AllConsistent → NodeHardware.EventStep before event after →
      after.node.AllConsistent := by
    rintro before event after hbefore rfl
    exact NodeHardware.allConsistent_afterEvent hbefore event
  exact hrun.invariant hpreserved fun load hload => by cases hload

theorem consistent_empty : empty.Consistent :=
  ⟨fun _ hmem => absurd hmem List.not_mem_nil, fun _ hentry => absurd hentry List.not_mem_nil⟩

/-- Each call keeps the invariant. -/
theorem Consistent.step {before after : RegisteredLoads} {event : RegistryEvent} (hbefore : before.Consistent)
    (hstep : Step before event after) : after.Consistent := by
  obtain ⟨rfl, hadmissible⟩ := hstep
  obtain ⟨hloads, hdeclared⟩ := hbefore
  cases event with
  | addLocalCentralNode nodeName centralNode nowMilliseconds =>
    exact ⟨hloads.addLocalCentralNode nodeName (BuiltNode.allConsistent hadmissible) nowMilliseconds, hdeclared⟩
  | applyNodeReport packet nowMilliseconds => exact ⟨hloads.applyNodeReport packet nowMilliseconds, hdeclared⟩
  | removeLoad macAddress relayPin => exact ⟨hloads.removeLoad macAddress relayPin, hdeclared⟩
  | setConfiguration entry =>
    refine ⟨hloads, fun other hother => ?_⟩
    dsimp only [next] at hother
    rw [LoadConfigurationStore.setConfiguration_eq] at hother
    split at hother
    · obtain hold | rfl := KeyedList.mem_put hother
      · exact hdeclared other hold
      · exact hadmissible
    · exact hdeclared other hother
  | removeConfiguration macAddress relayPin =>
    exact ⟨hloads, fun other hother => hdeclared other ((KeyedList.remove_sublist _ _).mem hother)⟩
  | applyToLoad macAddress relayPin =>
    refine ⟨hloads.updateLoad macAddress relayPin fun load hload => ?_, hdeclared⟩
    exact LoadConfigurationStore.consistent_applyToLoad hdeclared hload

/-- Over every sequence of calls from the empty registry: Nodes have distinct MACs, the loads of a Node
carry its MAC and distinct pins, an enabled schedule is a window of an AUTO load, and ratings are not
negative. -/
theorem registry_invariant {last : RegisteredLoads} {events : List RegistryEvent}
    (hrun : Run Step empty events last) :
    (last.registry.planningNodes.map PlanningNode.getMacAddress).Nodup ∧
      ∀ planningNode ∈ last.registry.planningNodes,
        (planningNode.node.loads.map Load.getRelayPin).Nodup ∧
        ∀ load ∈ planningNode.node.loads,
          load.getMacAddress = planningNode.getMacAddress ∧
          (load.schedule.enabled = true →
            load.isAuto = true ∧ load.schedule.timesInRange = true ∧
              load.schedule.startMinutes ≠ load.schedule.endMinutes) ∧
          0 ≤ load.powerRatingWatts := by
  have hconsistent := hrun.invariant (fun _ _ _ hbefore => hbefore.step) consistent_empty
  refine ⟨last.registry.macs_nodup, fun planningNode hnode => ⟨planningNode.node.pins_nodup, fun load hload => ?_⟩⟩
  refine ⟨planningNode.node.loads_mac load hload, fun henabled => ?_, load.powerRating_nonneg⟩
  have hload := hconsistent.loads planningNode hnode load hload
  have hwindow := hload.window
  rw [AutoSchedule.isValidSchedule, henabled, Bool.not_true, Bool.false_or, Bool.and_eq_true] at hwindow
  exact ⟨hload.auto henabled, hwindow.1, by simpa using hwindow.2⟩

section Fans

/-- Central has a fan that runs in the morning. -/
def morningFan : NodeHardware :=
  NodeHardware.newHardware.afterEvent (.configureNewLoad .succeeding
    { NodeHardware.fan 4 with mode := .AUTO_ON, schedule := .make true 6 0 8 0 })

theorem builtNode_morningFan : BuiltNode morningFan.node :=
  ⟨_, _, _, _, morningFan, .single rfl, rfl⟩

/-- The fan is registered, and a user fixes it ON. -/
def fanCalls : List RegistryEvent :=
  [.addLocalCentralNode [67] morningFan.node 0,
    .setConfiguration ⟨Vector.replicate 6 2, 4, 1, .FIXED_ON, .none⟩, .applyToLoad (Vector.replicate 6 2) 4]

theorem run_fanCalls : Run Step empty fanCalls (fanCalls.foldl next empty) :=
  .snoc (.snoc (.snoc (.nil empty) ⟨rfl, builtNode_morningFan⟩) ⟨rfl, rfl⟩) ⟨rfl, trivial⟩

theorem registry_invariant_fanCalls :
    ((fanCalls.foldl next empty).registry.planningNodes.map PlanningNode.getMacAddress).Nodup ∧
      ∀ planningNode ∈ (fanCalls.foldl next empty).registry.planningNodes, ∀ load ∈ planningNode.node.loads,
        load.schedule.enabled = true → load.isAuto = true := by
  obtain ⟨hmacs, hnodes⟩ := registry_invariant run_fanCalls
  exact ⟨hmacs, fun planningNode hnode load hload henabled => (((hnodes planningNode hnode).2 load hload).2.1 henabled).1⟩

end Fans

end RegisteredLoads

end kilowatts
