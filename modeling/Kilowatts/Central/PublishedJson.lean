import Kilowatts.Central.PublishedState

namespace kilowatts

open Json TopologyText NodeRegistryJson

namespace PublishedState

/-- All three documents on the registries are read back as they were meant. -/
structure Published (state : PublishedState) (minusZero : Load → Bool)
    (nowMilliseconds onlineTimeoutMilliseconds schemaVersion : UInt32) : Prop where
  tree : ∃ document,
    parse (buildTreeJson state.registry state.commissioningRegistry minusZero nowMilliseconds onlineTimeoutMilliseconds
      schemaVersion) = some document ∧
    (treeDocument state.registry state.commissioningRegistry minusZero nowMilliseconds onlineTimeoutMilliseconds
      schemaVersion).shows document
  loads : ∃ document,
    parse (buildLoadsJson state.registry minusZero schemaVersion) = some document ∧
    (allLoadsDocument state.registry minusZero schemaVersion).shows document
  nodes : ∃ document,
    parse (buildStateNodesJson state.commissioningRegistry state.registry nowMilliseconds onlineTimeoutMilliseconds
      schemaVersion) = some document ∧
    (stateNodesDocument state.commissioningRegistry state.registry nowMilliseconds onlineTimeoutMilliseconds
      schemaVersion).shows document

/-- Every text in the three documents can be read, and every temperature. -/
def isReadable (state : PublishedState) : Bool :=
  ((state.registry.planningNodes.find? PlanningNode.isCentralNode).all fun central =>
    (published state.registry central).all (nodePrintable state.commissioningRegistry)) &&
  state.registry.planningNodes.all loadsPrintable &&
  state.commissioningRegistry.entries.all recordReadable

variable {state : PublishedState} {minusZero : Load → Bool}
  {nowMilliseconds onlineTimeoutMilliseconds schemaVersion : UInt32}

/-- The three documents are read back exactly if the texts they print are printable. -/
theorem published_iff_isReadable :
    state.Published minusZero nowMilliseconds onlineTimeoutMilliseconds schemaVersion ↔ state.isReadable = true := by
  have htree := Document.restored_iff_parse.trans (@treeDocument_restored state.registry state.commissioningRegistry
    minusZero nowMilliseconds onlineTimeoutMilliseconds schemaVersion)
  have hloads := Document.restored_iff_parse.trans (@allLoadsDocument_restored state.registry minusZero schemaVersion)
  have hnodes := Document.restored_iff_parse.trans (@stateNodesDocument_restored state.commissioningRegistry
    state.registry nowMilliseconds onlineTimeoutMilliseconds schemaVersion)
  rw [treeDocument_text] at htree
  rw [allLoadsDocument_text] at hloads
  rw [stateNodesDocument_text] at hnodes
  simp only [isReadable, Bool.and_eq_true, Option.all_eq_true, List.all_eq_true]
  constructor
  · rintro ⟨hparsedTree, hparsedLoads, hparsedNodes⟩
    exact ⟨⟨htree.mp hparsedTree, hloads.mp hparsedLoads⟩, hnodes.mp hparsedNodes⟩
  · rintro ⟨⟨hreadableTree, hreadableLoads⟩, hreadableNodes⟩
    exact ⟨htree.mpr hreadableTree, hloads.mpr hreadableLoads, hnodes.mpr hreadableNodes⟩

/-- The tree shows registered Nodes only. -/
theorem mem_planningNodes_of_mem_published {registry : CentralNodeRegistry} {central planningNode : PlanningNode}
    (hcentral : central ∈ registry.planningNodes) (hmem : planningNode ∈ published registry central) :
    planningNode ∈ registry.planningNodes := by
  obtain rfl | hreached := List.mem_cons.mp hmem
  · exact hcentral
  · obtain ⟨parent, hchild⟩ := RoseTree.exists_below_of_mem_reached hreached
    exact (List.mem_filter.mp hchild).1

/-- What holds of all texts holds of those that are printed. -/
theorem Readable.isReadable (hreadable : state.Readable) : state.isReadable = true := by
  have hloads : ∀ planningNode ∈ state.registry.planningNodes, loadsPrintable planningNode = true := by
    intro planningNode hmem
    have hnamed := hreadable.nodes planningNode hmem
    rw [loadsPrintable, List.all_eq_true]
    intro load hload
    rw [Bool.and_eq_true]
    exact ⟨hnamed.loads load hload, hnamed.name⟩
  have hdiagnostics (macAddress : MacAddress) :
      diagnosticsPrintable state.commissioningRegistry macAddress = true := by
    unfold diagnosticsPrintable
    cases hfound : state.commissioningRegistry.findByMac macAddress with
    | none => rfl
    | some record =>
      have hrecord := hreadable.records record (KeyedList.mem_of_lookup hfound)
      rw [Option.all_some, hrecord.firmwareVersion, hrecord.chipModel, hrecord.resetReason]
      rfl
  have hnodes : ∀ planningNode ∈ state.registry.planningNodes,
      nodePrintable state.commissioningRegistry planningNode = true := by
    intro planningNode hmem
    rw [nodePrintable, (hreadable.nodes planningNode hmem).name, hloads planningNode hmem, hdiagnostics]
    rfl
  simp only [PublishedState.isReadable, Bool.and_eq_true, List.all_eq_true, Option.all_eq_true]
  refine ⟨⟨fun central hfound planningNode hmem => ?_, hloads⟩, fun record hrecord => ?_⟩
  · exact hnodes planningNode (mem_planningNodes_of_mem_published (List.mem_of_find?_eq_some hfound) hmem)
  · exact (hreadable.records record hrecord).recordReadable

/-- The document of the system state is read back exactly if its numbers fit their buffers. -/
theorem systemState_parses_iff {inputs : SystemStateInputs} {schemaVersion : UInt32} :
    (∃ document, parse (SystemStateJson.build inputs schemaVersion) = some document ∧
        (SystemStateJson.systemStateDocument inputs schemaVersion).shows document) ↔
      SystemStateJson.batteryReadable inputs = true ∧
        SystemStateJson.fits "P_auto_available" inputs.P_auto_available = true := by
  rw [← SystemStateJson.systemStateDocument_text, Document.restored_iff_parse,
    SystemStateJson.systemStateDocument_restored]

/-- The documents are read back exactly where all their texts are UTF-8 without control characters
and all their numbers fit in the buffers they are printed to. Runs whose calls bring such texts
and temperatures only reach such states only. -/
theorem published_iff_readable (minusZero : Load → Bool)
    (nowMilliseconds onlineTimeoutMilliseconds schemaVersion : UInt32) :
    (∀ state : PublishedState,
      state.Published minusZero nowMilliseconds onlineTimeoutMilliseconds schemaVersion ↔ state.isReadable = true) ∧
    (∀ inputs : SystemStateInputs,
      (∃ document, parse (SystemStateJson.build inputs schemaVersion) = some document ∧
          (SystemStateJson.systemStateDocument inputs schemaVersion).shows document) ↔
        SystemStateJson.batteryReadable inputs = true ∧
          SystemStateJson.fits "P_auto_available" inputs.P_auto_available = true) ∧
    ∀ {macAddress : MacAddress} {events : List PublishedEvent} {last : PublishedState},
      Run Step (factory macAddress) events last → (∀ event ∈ events, event.isReadable = true) →
      last.Published minusZero nowMilliseconds onlineTimeoutMilliseconds schemaVersion := by
  refine ⟨fun state => published_iff_isReadable, fun inputs => systemState_parses_iff, ?_⟩
  intro macAddress events last hrun hevents
  exact published_iff_isReadable.mpr (readable_of_run hrun hevents).isReadable

section Fans

/-- Central has a fan, and knows a Node that has been given a name. -/
def named (friendlyName : List UInt8) : List PublishedEvent :=
  [.hardware (.configureNewLoad .succeeding (NodeHardware.fan 4)),
    .addLocalCentralNode [67] 0,
    .commissioning (.recordDiscovered (Vector.replicate 6 9) ⟨.SMART, [49], [51], [4], 1, 0⟩),
    .commissioning (.requestCommissioning (Vector.replicate 6 9) friendlyName 1),
    .commissioning (.applyCommissionResult (Vector.replicate 6 9) 1 true .COMMISSIONED)]

/-- The state after these events, from the factory on. -/
def after (events : List PublishedEvent) : PublishedState :=
  events.foldl next (factory (Vector.replicate 6 2))

theorem run_after (events : List PublishedEvent) : Run Step (factory (Vector.replicate 6 2)) events (after events) := by
  have hnext : ∀ before event, Step before event (before.next event) := fun _ _ => rfl
  exact Run.of_foldl hnext events _

theorem published_iff_readable_pump :
    (after (named [80, 117, 109, 112])).Published (fun _ => false) 0 5000 1 :=
  (published_iff_readable (fun _ => false) 0 5000 1).2.2 (run_after _) (by decide +kernel)

/-- A name with a line feed is accepted, and comes back in a document that no reader takes. -/
theorem line_feed_not_published :
    Run Step (factory (Vector.replicate 6 2)) (named [97, 10]) (after (named [97, 10])) ∧
      parse (buildStateNodesJson (after (named [97, 10])).commissioningRegistry (after (named [97, 10])).registry 0 5000
        1) = none ∧
      ¬ (after (named [97, 10])).Published (fun _ => false) 0 5000 1 := by
  refine ⟨run_after _, ?_, published_iff_isReadable.not.mpr (by decide +kernel)⟩
  rw [← Option.isNone_iff_eq_none]
  decide +kernel

end Fans

end PublishedState

end kilowatts
