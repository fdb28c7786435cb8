import Kilowatts.Library.ParentTree
import Kilowatts.NodeManager.CentralNodeRegistry

namespace kilowatts

namespace CentralNodeRegistry

/-- The loop of `findNextHopFromCentral`, which runs at most `rounds` times. -/
def climbToCentral (registry : CentralNodeRegistry) (centralMac : MacAddress) :
    (rounds : Nat) → (current : PlanningNode) → Option MacAddress
  | 0, _ => none
  | rounds + 1, current =>
    if current.nextHopToCentralMacAddress = centralMac then some current.getMacAddress
    else
      match registry.findNodeByMacAddress current.nextHopToCentralMacAddress with
      | none => none
      | some upstream => if upstream.isCentralNode then none else registry.climbToCentral centralMac rounds upstream

/-- The first hop of a route from Central, followed from its destination upwards. -/
def findNextHopFromCentral (registry : CentralNodeRegistry) (centralMac destinationMac : MacAddress) :
    Option MacAddress :=
  match registry.findNodeByMacAddress destinationMac with
  | none => none
  | some current =>
    if current.isCentralNode then none
    else registry.climbToCentral centralMac (registry.planningNodes.length + 1) current

/-- The registry holds the upstream Node of every Smart Node of a tree. -/
def HoldsTree (registry : CentralNodeRegistry) (tree : ParentTree MacAddress) : Prop :=
  ∀ macAddress ∈ tree.nodes, ∃ planningNode, registry.findNodeByMacAddress macAddress = some planningNode ∧
    planningNode.isCentralNode = false ∧ planningNode.nextHopToCentralMacAddress = tree.parent macAddress

theorem HoldsTree.card_le {registry : CentralNodeRegistry} {tree : ParentTree MacAddress}
    (hholds : registry.HoldsTree tree) : tree.nodes.card ≤ registry.planningNodes.length := by
  have hsubset : tree.nodes ⊆ (registry.planningNodes.map PlanningNode.getMacAddress).toFinset := by
    intro macAddress hnode
    obtain ⟨planningNode, hfind, -⟩ := hholds macAddress hnode
    obtain ⟨hmem, rfl⟩ := findNodeByMacAddress_eq_some_iff.mp hfind
    exact List.mem_toFinset.mpr (List.mem_map_of_mem hmem)
  have hlength := List.toFinset_card_le (registry.planningNodes.map PlanningNode.getMacAddress)
  rw [List.length_map] at hlength
  exact (Finset.card_le_card hsubset).trans hlength

theorem climbToCentral_eq {registry : CentralNodeRegistry} {tree : ParentTree MacAddress}
    (hholds : registry.HoldsTree tree) {rounds depth : Nat} {current : PlanningNode}
    (hcurrent : registry.findNodeByMacAddress current.getMacAddress = some current)
    (hdepth : tree.HasDepth current.getMacAddress (depth + 1)) (hrounds : depth < rounds) :
    registry.climbToCentral tree.root rounds current = some (tree.parent^[depth] current.getMacAddress) := by
  have hnext : current.nextHopToCentralMacAddress = tree.parent current.getMacAddress := by
    obtain ⟨planningNode, hfind, -, hnext⟩ := hholds _ hdepth.mem_nodes
    rw [hcurrent, Option.some.injEq] at hfind
    subst hfind
    exact hnext
  induction depth generalizing rounds current with
  | zero =>
    obtain ⟨rounds, rfl⟩ := Nat.exists_eq_add_one.mpr hrounds
    rw [climbToCentral, hnext, hdepth.parent.eq_root, if_pos rfl, Function.iterate_zero_apply]
  | succ depth ih =>
    obtain ⟨rounds, rfl⟩ := Nat.exists_eq_add_one.mpr (Nat.zero_lt_of_lt hrounds)
    obtain ⟨upstream, hfind, hsmart, hupstream⟩ := hholds _ hdepth.parent.mem_nodes
    obtain ⟨-, hmac⟩ := findNodeByMacAddress_eq_some_iff.mp hfind
    rw [climbToCentral, hnext, if_neg hdepth.parent.ne_root, hfind]
    simp only [hsmart, Bool.false_eq_true, if_false]
    rw [ih (hmac ▸ hfind) (hmac ▸ hdepth.parent) (by omega) (hmac ▸ hupstream), hmac, Function.iterate_succ_apply]

/-- The first hop is right at every depth: it is the Node next to Central on the
way to the destination. -/
theorem findNextHopFromCentral_eq {registry : CentralNodeRegistry} {tree : ParentTree MacAddress}
    (hholds : registry.HoldsTree tree) {destinationMac : MacAddress} {depth : Nat}
    (hdepth : tree.HasDepth destinationMac (depth + 1)) :
    registry.findNextHopFromCentral tree.root destinationMac = some (tree.parent^[depth] destinationMac) := by
  obtain ⟨current, hfind, hsmart, -⟩ := hholds destinationMac hdepth.mem_nodes
  obtain ⟨-, rfl⟩ := findNodeByMacAddress_eq_some_iff.mp hfind
  have hrounds : depth < registry.planningNodes.length + 1 := by
    have hcard := hdepth.le_card.trans hholds.card_le
    omega
  simp only [findNextHopFromCentral, hfind, hsmart, Bool.false_eq_true, if_false]
  exact climbToCentral_eq hholds hfind hdepth hrounds

end CentralNodeRegistry

end kilowatts
