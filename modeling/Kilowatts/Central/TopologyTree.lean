import Kilowatts.Central.Routing
import Kilowatts.Library.ReachableTree
import Kilowatts.NodeManager.CommissioningRegistry

namespace kilowatts

/-- The `diagnostics` object of a node. -/
structure DiagnosticsJson where
  firmwareVersion : List UInt8
  chipModel : List UInt8
  freeHeapBytes : UInt32
  minFreeHeapBytes : UInt32
  flashSizeBytes : UInt32
  psramSizeBytes : UInt32
  cpuCores : UInt8
  resetReason : List UInt8

/-- The object of a Smart Node, but for its children. -/
structure NodeJson where
  name : List UInt8
  mac : MacAddress
  parentMac : MacAddress
  hopCountToCentral : UInt16
  online : Bool
  diagnostics : Option DiagnosticsJson
  loads : List Load

/-- The `central` object, with the tree of Smart Nodes below it. -/
structure CentralJson where
  name : List UInt8
  mac : MacAddress
  diagnostics : Option DiagnosticsJson
  loads : List Load
  children : List (RoseTree NodeJson)

/-- The values in the text that `buildTreeJson` returns. -/
structure TreeJson where
  schemaVersion : UInt32
  central : Option CentralJson

namespace TopologyTree

section Build

variable (registry : CentralNodeRegistry) (commissioningRegistry : CommissioningRegistry)
  (nowMilliseconds onlineTimeoutMilliseconds : UInt32)

/-- The diagnostics of the record with this MAC, if the commissioning registry has one. -/
def diagnosticsJson (mac : MacAddress) : Option DiagnosticsJson :=
  (commissioningRegistry.findByMac mac).map fun record =>
    { firmwareVersion := record.firmwareVersion
      chipModel := record.chipModel
      freeHeapBytes := record.diagnostics.freeHeapBytes
      minFreeHeapBytes := record.diagnostics.minFreeHeapBytes
      flashSizeBytes := record.diagnostics.flashSizeBytes
      psramSizeBytes := record.diagnostics.psramSizeBytes
      cpuCores := record.diagnostics.cpuCores
      resetReason := record.diagnostics.resetReason }

/-- The object of a Smart Node, without its children. -/
def nodeJson (planningNode : PlanningNode) : NodeJson where
  name := planningNode.nodeName
  mac := planningNode.getMacAddress
  parentMac := planningNode.nextHopToCentralMacAddress
  hopCountToCentral := planningNode.hopCountToCentral
  online := nowMilliseconds - planningNode.lastSeenMilliseconds ≤ onlineTimeoutMilliseconds
  diagnostics := diagnosticsJson commissioningRegistry planningNode.getMacAddress
  loads := planningNode.node.loads

/-- The Nodes that the loop of `appendChildren` does not skip. -/
def childrenOf (parentMac : MacAddress) : List PlanningNode :=
  registry.planningNodes.filter fun planningNode =>
    !planningNode.isCentralNode && planningNode.nextHopToCentralMacAddress = parentMac

/-- The code recurses as long as `depthRemaining` allows, so a cycle of parents ends as well. -/
def appendChildren : (depthRemaining : Nat) → (parentMac : MacAddress) → List (RoseTree NodeJson)
  | 0, parentMac => (childrenOf registry parentMac).map fun planningNode =>
      .node (nodeJson commissioningRegistry nowMilliseconds onlineTimeoutMilliseconds planningNode) []
  | depthRemaining + 1, parentMac => (childrenOf registry parentMac).map fun planningNode =>
      .node (nodeJson commissioningRegistry nowMilliseconds onlineTimeoutMilliseconds planningNode)
        (appendChildren depthRemaining planningNode.getMacAddress)

/-- The tree below the first node that is marked as Central. -/
def buildTreeJson (schemaVersion : UInt32) : TreeJson where
  schemaVersion
  central := (registry.planningNodes.find? PlanningNode.isCentralNode).map fun central =>
    { name := central.nodeName
      mac := central.getMacAddress
      diagnostics := diagnosticsJson commissioningRegistry central.getMacAddress
      loads := central.node.loads
      children := appendChildren registry commissioningRegistry nowMilliseconds onlineTimeoutMilliseconds
        registry.planningNodes.length central.getMacAddress }

/-- The recursion of the code is the bounded descent of a rose tree. -/
theorem appendChildren_eq_descend (depthRemaining : Nat) (parent : PlanningNode) :
    appendChildren registry commissioningRegistry nowMilliseconds onlineTimeoutMilliseconds depthRemaining
        parent.getMacAddress =
      RoseTree.descend (fun planningNode => childrenOf registry planningNode.getMacAddress)
        (nodeJson commissioningRegistry nowMilliseconds onlineTimeoutMilliseconds) depthRemaining parent := by
  induction depthRemaining generalizing parent with
  | zero => rfl
  | succ depthRemaining ih =>
    rw [appendChildren, RoseTree.descend]
    exact List.map_congr_left fun planningNode _ => congrArg _ (ih planningNode)

end Build

/-- The MACs directly below a MAC. -/
def below (registry : CentralNodeRegistry) (parentMac : MacAddress) : List MacAddress :=
  (childrenOf registry parentMac).map PlanningNode.getMacAddress

/-- The MAC addresses of the registered Smart Nodes. -/
def smartMacs (registry : CentralNodeRegistry) : Finset MacAddress :=
  ((registry.planningNodes.filter (!·.isCentralNode)).map PlanningNode.getMacAddress).toFinset

/-- Where the pointer of a Node leads. -/
def upstream (registry : CentralNodeRegistry) (macAddress : MacAddress) : MacAddress :=
  ((registry.findNodeByMacAddress macAddress).map PlanningNode.nextHopToCentralMacAddress).getD macAddress

section Tree

variable {registry : CentralNodeRegistry}

/-- A Smart MAC is one that `findNodeByMacAddress` finds as a Smart Node. -/
theorem mem_smartMacs {macAddress : MacAddress} : macAddress ∈ smartMacs registry ↔
    ∃ planningNode, registry.findNodeByMacAddress macAddress = some planningNode ∧
      planningNode.isCentralNode = false := by
  simp only [smartMacs, List.mem_toFinset, List.mem_map, List.mem_filter, Bool.not_eq_true',
    CentralNodeRegistry.findNodeByMacAddress_eq_some_iff]
  constructor
  · rintro ⟨planningNode, ⟨hmem, hsmart⟩, hmac⟩
    exact ⟨planningNode, ⟨hmem, hmac⟩, hsmart⟩
  · rintro ⟨planningNode, ⟨hmem, hmac⟩, hsmart⟩
    exact ⟨planningNode, ⟨hmem, hsmart⟩, hmac⟩

/-- The upstream of a registered node is the next hop that it has reported. -/
theorem upstream_of_find {macAddress : MacAddress} {planningNode : PlanningNode}
    (hfind : registry.findNodeByMacAddress macAddress = some planningNode) :
    upstream registry macAddress = planningNode.nextHopToCentralMacAddress := by
  rw [upstream, hfind]
  rfl

/-- The nodes below a parent are the Smart Nodes whose upstream it is. -/
theorem mem_below {parentMac macAddress : MacAddress} : macAddress ∈ below registry parentMac ↔
    macAddress ∈ smartMacs registry ∧ upstream registry macAddress = parentMac := by
  rw [mem_smartMacs]
  simp only [below, childrenOf, List.mem_map, List.mem_filter, Bool.and_eq_true, Bool.not_eq_true', decide_eq_true_eq]
  constructor
  · rintro ⟨planningNode, ⟨hmem, hsmart, hnext⟩, hmac⟩
    have hfind := CentralNodeRegistry.findNodeByMacAddress_eq_some_iff.mpr ⟨hmem, hmac⟩
    exact ⟨⟨planningNode, hfind, hsmart⟩, (upstream_of_find hfind).trans hnext⟩
  · rintro ⟨⟨planningNode, hfind, hsmart⟩, hnext⟩
    obtain ⟨hmem, hmac⟩ := CentralNodeRegistry.findNodeByMacAddress_eq_some_iff.mp hfind
    exact ⟨planningNode, ⟨hmem, hsmart, (upstream_of_find hfind).symm.trans hnext⟩, hmac⟩

/-- No node is listed twice, since the registry has one node for each MAC. -/
theorem nodup_below (parentMac : MacAddress) : (below registry parentMac).Nodup :=
  registry.macs_nodup.sublist (List.filter_sublist.map _)

/-- Central is no Smart Node, as no two Nodes share a MAC. -/
theorem central_notMem_smartMacs {central : PlanningNode} (hcentral : central ∈ registry.planningNodes)
    (hrole : central.isCentralNode = true) : central.getMacAddress ∉ smartMacs registry := by
  intro hmem
  obtain ⟨planningNode, hfind, hsmart⟩ := mem_smartMacs.mp hmem
  have hsame := CentralNodeRegistry.findNodeByMacAddress_eq_some_iff.mpr ⟨hcentral, rfl⟩
  obtain rfl := Option.some.inj (hfind.symm.trans hsame)
  exact Bool.false_ne_true (hsmart.symm.trans hrole)

end Tree

/-- The registry has one Central Node. -/
structure HasCentral (registry : CentralNodeRegistry) (central : PlanningNode) : Prop where
  mem : central ∈ registry.planningNodes
  role : central.isCentralNode = true
  only : ∀ planningNode ∈ registry.planningNodes, planningNode.isCentralNode = true → planningNode = central

section Routes

variable {registry : CentralNodeRegistry} {central : PlanningNode}

/-- The Nodes whose pointers lead to Central. -/
noncomputable def reachableTree (hcentral : HasCentral registry central) : ParentTree MacAddress :=
  .reachable central.getMacAddress (upstream registry) (smartMacs registry)
    (central_notMem_smartMacs hcentral.mem hcentral.role)

/-- The lists of children enumerate the tree of the nodes that reach Central. -/
theorem lists_below (hcentral : HasCentral registry central) : (reachableTree hcentral).Lists (below registry) where
  mem := by
    intro macAddress depth hdepth child
    rw [mem_below, reachableTree, ParentTree.mem_reachable_nodes]
    constructor
    · rintro ⟨hsmart, rfl⟩
      exact ⟨⟨hsmart, depth + 1, .child hsmart (ParentTree.reachable_hasDepth_iff.mp hdepth)⟩, rfl⟩
    · rintro ⟨⟨hsmart, -⟩, hparent⟩
      exact ⟨hsmart, hparent⟩
  nodup := nodup_below

/-- The registry stores the parents of the tree of the nodes that reach Central. -/
theorem holdsTree_reachable (hcentral : HasCentral registry central) : registry.HoldsTree (reachableTree hcentral) := by
  intro macAddress hnode
  obtain ⟨planningNode, hfind, hsmart⟩ := mem_smartMacs.mp (ParentTree.mem_reachable_nodes.mp hnode).1
  exact ⟨planningNode, hfind, hsmart, (upstream_of_find hfind).symm⟩

/-- A climb that succeeds has found the way to Central. -/
theorem atDepth_of_climbToCentral {rounds : Nat} {current : PlanningNode} {hop : MacAddress}
    (hcurrent : registry.findNodeByMacAddress current.getMacAddress = some current)
    (hsmart : current.isCentralNode = false)
    (hclimb : registry.climbToCentral central.getMacAddress rounds current = some hop) :
    ∃ depth, AtDepth central.getMacAddress (upstream registry) (smartMacs registry) current.getMacAddress depth := by
  have hnode : current.getMacAddress ∈ smartMacs registry := mem_smartMacs.mpr ⟨current, hcurrent, hsmart⟩
  have hnext := upstream_of_find hcurrent
  induction rounds generalizing current with
  | zero => cases hclimb
  | succ rounds ih =>
    rw [CentralNodeRegistry.climbToCentral] at hclimb
    split at hclimb
    · next hlast =>
      refine ⟨1, .child hnode ?_⟩
      rw [hnext, hlast]
      exact .root
    · split at hclimb
      · cases hclimb
      · next above hfind =>
        split at hclimb
        · cases hclimb
        · next hrole =>
          obtain ⟨-, hmac⟩ := CentralNodeRegistry.findNodeByMacAddress_eq_some_iff.mp hfind
          have habove := hmac.symm ▸ hfind
          have hsmartAbove := Bool.eq_false_of_not_eq_true hrole
          obtain ⟨depth, hdepth⟩ := ih habove hsmartAbove hclimb
            (mem_smartMacs.mpr ⟨above, habove, hsmartAbove⟩) (upstream_of_find habove)
          refine ⟨depth + 1, .child hnode ?_⟩
          rwa [hnext, ← hmac]

/-- Routing finds a way exactly to the Nodes whose pointers lead to Central. -/
theorem findNextHopFromCentral_isSome_iff (hcentral : HasCentral registry central) (macAddress : MacAddress) :
    (registry.findNextHopFromCentral central.getMacAddress macAddress).isSome = true ↔
      macAddress ∈ (reachableTree hcentral).nodes := by
  constructor
  · intro hroute
    obtain ⟨hop, hhop⟩ := Option.isSome_iff_exists.mp hroute
    rw [CentralNodeRegistry.findNextHopFromCentral] at hhop
    split at hhop
    · cases hhop
    · next current hfind =>
      split at hhop
      · cases hhop
      · next hrole =>
        have hsmart := Bool.eq_false_of_not_eq_true hrole
        obtain ⟨-, rfl⟩ := CentralNodeRegistry.findNodeByMacAddress_eq_some_iff.mp hfind
        exact ParentTree.mem_reachable_nodes.mpr
          ⟨mem_smartMacs.mpr ⟨current, hfind, hsmart⟩, atDepth_of_climbToCentral hfind hsmart hhop⟩
  · intro hnode
    obtain ⟨depth, hdepth⟩ := (reachableTree hcentral).depth_exists macAddress hnode
    obtain ⟨above, rfl⟩ := ParentTree.HasDepth.exists_succ hnode hdepth
    have hroute := CentralNodeRegistry.findNextHopFromCentral_eq (holdsTree_reachable hcentral) hdepth
    exact Option.isSome_of_eq_some hroute

/-- The MACs that the recursion writes below a Node. -/
theorem macs_appendChildren (registry : CentralNodeRegistry) (commissioningRegistry : CommissioningRegistry)
    (nowMilliseconds onlineTimeoutMilliseconds : UInt32) (depthRemaining : Nat) (parent : PlanningNode) :
    (RoseTree.forestLabels (appendChildren registry commissioningRegistry nowMilliseconds onlineTimeoutMilliseconds
        depthRemaining parent.getMacAddress)).map NodeJson.mac =
      RoseTree.reached (below registry) depthRemaining parent.getMacAddress := by
  rw [appendChildren_eq_descend, RoseTree.forestLabels_descend, List.map_map]
  have hbelow : ∀ parent : PlanningNode, (childrenOf registry parent.getMacAddress).map PlanningNode.getMacAddress =
      below registry parent.getMacAddress := fun _ => rfl
  exact RoseTree.reached_map hbelow depthRemaining parent

/-- The node marked as Central is the one that the search finds. -/
theorem find_central (hcentral : HasCentral registry central) :
    registry.planningNodes.find? PlanningNode.isCentralNode = some central := by
  cases hfind : registry.planningNodes.find? PlanningNode.isCentralNode with
  | none => exact absurd hcentral.role (List.find?_eq_none.mp hfind central hcentral.mem)
  | some found =>
    rw [hcentral.only found (List.mem_of_find?_eq_some hfind) (List.find?_some hfind)]

/-- A Node with a route hangs below its next hop, which hangs below Central. -/
theorem reached_of_nextHop (hcentral : HasCentral registry central) {macAddress hop : MacAddress}
    (hroute : registry.findNextHopFromCentral central.getMacAddress macAddress = some hop) {budget : Nat}
    (hbudget : registry.planningNodes.length ≤ budget + 1) :
    hop ∈ below registry central.getMacAddress ∧ macAddress ∈ hop :: RoseTree.reached (below registry) budget hop := by
  have hnode := (findNextHopFromCentral_isSome_iff hcentral macAddress).mp (Option.isSome_of_eq_some hroute)
  obtain ⟨depth, hdepth⟩ := (reachableTree hcentral).depth_exists macAddress hnode
  obtain ⟨above, rfl⟩ := ParentTree.HasDepth.exists_succ hnode hdepth
  have hhop : (reachableTree hcentral).parent^[above] macAddress = hop :=
    Option.some.inj ((CentralNodeRegistry.findNextHopFromCentral_eq (holdsTree_reachable hcentral) hdepth).symm.trans
      hroute)
  have htop : (reachableTree hcentral).HasDepth hop 1 := by
    rw [← hhop]
    apply ParentTree.HasDepth.iterate_parent
    rwa [Nat.add_comm 1 above]
  have habove : above + 1 ≤ registry.planningNodes.length :=
    (ParentTree.HasDepth.le_card hdepth).trans (holdsTree_reachable hcentral).card_le
  constructor
  · exact ((lists_below hcentral).mem AtDepth.root hop).mpr ⟨htop.mem_nodes, htop.parent.eq_root⟩
  · refine ((lists_below hcentral).mem_cons_reached_iff htop).mpr ⟨above, by omega, ?_, hhop⟩
    rwa [Nat.add_comm 1 above]

end Routes

/-- The tree view shows each Smart Node at most once, shows exactly those to which there is a route from
Central, and shows each below its next hop. Needs that the registry has one Central Node; the upstreams that
the Nodes have reported are arbitrary. -/
theorem tree_view_agrees_with_routing {registry : CentralNodeRegistry} {central : PlanningNode}
    (hcentral : HasCentral registry central) (commissioningRegistry : CommissioningRegistry)
    (schemaVersion nowMilliseconds onlineTimeoutMilliseconds : UInt32) :
    ∃ view, (buildTreeJson registry commissioningRegistry nowMilliseconds onlineTimeoutMilliseconds
        schemaVersion).central = some view ∧
      view.mac = central.getMacAddress ∧
      ((RoseTree.forestLabels view.children).map NodeJson.mac).Nodup ∧
      (∀ macAddress, macAddress ∈ (RoseTree.forestLabels view.children).map NodeJson.mac ↔
        (registry.findNextHopFromCentral central.getMacAddress macAddress).isSome = true) ∧
      ∀ macAddress hop, registry.findNextHopFromCentral central.getMacAddress macAddress = some hop →
        ∃ tree ∈ view.children, tree.label.mac = hop ∧ macAddress ∈ tree.labels.map NodeJson.mac := by
  have hlists := lists_below hcentral
  have hroot : (reachableTree hcentral).HasDepth central.getMacAddress 0 := .root
  have hsize : (reachableTree hcentral).nodes.card ≤ registry.planningNodes.length + 1 :=
    (holdsTree_reachable hcentral).card_le.trans (Nat.le_succ _)
  rw [buildTreeJson, find_central hcentral]
  refine ⟨_, rfl, rfl, ?_, ?_, ?_⟩
  · rw [macs_appendChildren]
    exact hlists.nodup_reached hroot
  · intro macAddress
    rw [macs_appendChildren, findNextHopFromCentral_isSome_iff hcentral]
    exact hlists.mem_reached_root_iff hsize
  · intro macAddress hop hroute
    obtain ⟨budget, hbudget⟩ := Nat.exists_eq_add_one.mpr (List.length_pos_of_mem hcentral.mem)
    obtain ⟨hhop, hmac⟩ := reached_of_nextHop hcentral hroute hbudget.le
    obtain ⟨planningNode, hchild, rfl⟩ := List.mem_map.mp hhop
    rw [hbudget]
    refine ⟨_, List.mem_map_of_mem hchild, rfl, ?_⟩
    rw [RoseTree.labels, List.map_cons, macs_appendChildren]
    exact hmac

section Loops

/-- The MAC whose bytes are all `number`. -/
def numberedMac (number : UInt8) : MacAddress := Vector.replicate 6 number

/-- A node whose MAC and next hop are numbered. -/
def numberedNode (number upstream : UInt8) (isCentralNode : Bool) : PlanningNode :=
  { CentralNodeRegistry.newPlanningNode (numberedMac number) 0 with
    nextHopToCentralMacAddress := numberedMac upstream
    isCentralNode }

/-- A chain of two Nodes below Central, a Node that points to itself, two Nodes that point to
each other, and a Node below an unknown one. -/
def loopsRegistry : CentralNodeRegistry where
  planningNodes := [numberedNode 3 2 false, numberedNode 1 1 true, numberedNode 2 1 false, numberedNode 4 4 false,
    numberedNode 5 6 false, numberedNode 6 5 false, numberedNode 7 99 false]
  macs_nodup := by decide +kernel

/-- The registry with a cycle has its Central nevertheless. -/
theorem hasCentral_loopsRegistry : HasCentral loopsRegistry (numberedNode 1 1 true) where
  mem := by simp [loopsRegistry]
  role := rfl
  only := by simp [loopsRegistry, numberedNode]

/-- Only the chain is shown, the second Node below the first. -/
theorem tree_view_agrees_with_routing_loops :
    ∃ view, (buildTreeJson loopsRegistry .make 0 10000 1).central = some view ∧
      (∀ number ∈ [4, 5, 6, 7, 99], numberedMac number ∉ (RoseTree.forestLabels view.children).map NodeJson.mac) ∧
      ∃ tree ∈ view.children, tree.label.mac = numberedMac 2 ∧ numberedMac 3 ∈ tree.labels.map NodeJson.mac := by
  obtain ⟨view, hview, -, -, hshown, hbelow⟩ :=
    tree_view_agrees_with_routing hasCentral_loopsRegistry .make 1 0 10000
  refine ⟨view, hview, fun number hnumber hmem => ?_, hbelow _ _ (by decide +kernel)⟩
  have hroute := (hshown (numberedMac number)).mp hmem
  have hnone : ∀ number ∈ [4, 5, 6, 7, 99], (loopsRegistry.findNextHopFromCentral (numberedNode 1 1 true).getMacAddress
      (numberedMac number)).isSome = false := by
    decide +kernel
  exact Bool.false_ne_true ((hnone number hnumber).symm.trans hroute)

end Loops

end TopologyTree

end kilowatts
