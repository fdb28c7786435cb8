import Kilowatts.Library.ParentTree
import Kilowatts.Library.RoseTree

/-!
Any parent function on a finite set is that of a tree on the elements that reach
the root, whatever loops there are elsewhere. A walk down from the root with a
large enough budget lists these elements once each.
-/

namespace ParentTree

variable {α : Type}

open Classical in
/-- The part of a graph that reaches the root. -/
noncomputable def reachable (root : α) (parent : α → α) (nodes : Finset α) (hroot : root ∉ nodes) :
    ParentTree α where
  root
  parent
  nodes := nodes.filter fun x => ∃ depth, AtDepth root parent nodes x depth
  root_notMem := fun hmem => hroot (Finset.mem_filter.mp hmem).1
  depth_exists := by
    intro x hx
    obtain ⟨depth, hdepth⟩ := (Finset.mem_filter.mp hx).2
    refine ⟨depth, ?_⟩
    clear hx
    induction hdepth with
    | root => exact .root
    | @child x depth hnode hparent ih =>
      exact .child (Finset.mem_filter.mpr ⟨hnode, depth + 1, .child hnode hparent⟩) ih

theorem mem_reachable_nodes {root : α} {parent : α → α} {nodes : Finset α} {hroot : root ∉ nodes} {x : α} :
    x ∈ (reachable root parent nodes hroot).nodes ↔ x ∈ nodes ∧ ∃ depth, AtDepth root parent nodes x depth := by
  classical
  exact Finset.mem_filter

theorem reachable_hasDepth_iff {root : α} {parent : α → α} {nodes : Finset α} {hroot : root ∉ nodes} {x : α}
    {depth : Nat} : (reachable root parent nodes hroot).HasDepth x depth ↔ AtDepth root parent nodes x depth := by
  constructor
  · intro hdepth
    induction depth generalizing x with
    | zero => exact hdepth.eq_root ▸ .root
    | succ depth ih => exact .child (mem_reachable_nodes.mp hdepth.mem_nodes).1 (ih hdepth.parent)
  · intro hdepth
    induction hdepth with
    | root => exact .root
    | @child x depth hnode hparent ih => exact .child (mem_reachable_nodes.mpr ⟨hnode, depth + 1, .child hnode hparent⟩) ih

/-- `below` lists, without repetition, what hangs directly below each element of the tree. -/
structure Lists (tree : ParentTree α) (below : α → List α) : Prop where
  mem : ∀ {x depth}, tree.HasDepth x depth → ∀ y, y ∈ below x ↔ y ∈ tree.nodes ∧ tree.parent y = x
  nodup : ∀ x, (below x).Nodup

variable {tree : ParentTree α} {below : α → List α}

theorem Lists.hasDepth (hlists : tree.Lists below) {x y : α} {depth : Nat} (hdepth : tree.HasDepth x depth)
    (hbelow : y ∈ below x) : tree.HasDepth y (depth + 1) := by
  obtain ⟨hnode, rfl⟩ := (hlists.mem hdepth y).mp hbelow
  exact .child hnode hdepth

/-- The walk comes to what leads to its start in few enough steps. -/
theorem Lists.mem_reached_iff (hlists : tree.Lists below) {budget : Nat} {x y : α} {depth : Nat}
    (hdepth : tree.HasDepth x depth) :
    y ∈ RoseTree.reached below budget x ↔
      ∃ steps ≤ budget, tree.HasDepth y (depth + steps + 1) ∧ tree.parent^[steps + 1] y = x := by
  induction budget generalizing x depth with
  | zero =>
    rw [RoseTree.reached]
    constructor
    · intro hbelow
      exact ⟨0, le_rfl, hlists.hasDepth hdepth hbelow, ((hlists.mem hdepth y).mp hbelow).2⟩
    · rintro ⟨steps, hsteps, hy, hx⟩
      obtain rfl := Nat.le_zero.mp hsteps
      exact (hlists.mem hdepth y).mpr ⟨hy.mem_nodes, hx⟩
  | succ budget ih =>
    rw [RoseTree.reached, List.mem_flatMap]
    constructor
    · rintro ⟨child, hchild, hy⟩
      have hchildDepth := hlists.hasDepth hdepth hchild
      obtain rfl | hy := List.mem_cons.mp hy
      · exact ⟨0, Nat.zero_le _, hchildDepth, ((hlists.mem hdepth y).mp hchild).2⟩
      · obtain ⟨steps, hsteps, hyDepth, hclimb⟩ := (ih hchildDepth).mp hy
        refine ⟨steps + 1, by omega, ?_, ?_⟩
        · rwa [show depth + (steps + 1) + 1 = depth + 1 + steps + 1 by omega]
        · rw [Function.iterate_succ_apply', hclimb]
          exact ((hlists.mem hdepth child).mp hchild).2
    · rintro ⟨steps, hsteps, hy, hclimb⟩
      cases steps with
      | zero => exact ⟨y, (hlists.mem hdepth y).mpr ⟨hy.mem_nodes, hclimb⟩, List.mem_cons_self⟩
      | succ steps =>
        have hy' : tree.HasDepth y (depth + 1 + (steps + 1)) := by
          rwa [show depth + 1 + (steps + 1) = depth + (steps + 1) + 1 by omega]
        have hchildDepth := hy'.iterate_parent
        rw [Function.iterate_succ_apply'] at hclimb
        refine ⟨tree.parent^[steps + 1] y, (hlists.mem hdepth _).mpr ⟨hchildDepth.mem_nodes, hclimb⟩, ?_⟩
        exact List.mem_cons_of_mem _ ((ih hchildDepth).mpr ⟨steps, by omega, hy', rfl⟩)

/-- What is reached through a child leads to that child. -/
theorem Lists.mem_cons_reached_iff (hlists : tree.Lists below) {budget : Nat} {x y : α} {depth : Nat}
    (hdepth : tree.HasDepth x depth) :
    y ∈ x :: RoseTree.reached below budget x ↔
      ∃ steps ≤ budget + 1, tree.HasDepth y (depth + steps) ∧ tree.parent^[steps] y = x := by
  rw [List.mem_cons, hlists.mem_reached_iff hdepth]
  constructor
  · rintro (rfl | ⟨steps, hsteps, hy, hclimb⟩)
    · exact ⟨0, Nat.zero_le _, hdepth, rfl⟩
    · exact ⟨steps + 1, by omega, hy, hclimb⟩
  · rintro ⟨steps, hsteps, hy, hclimb⟩
    cases steps with
    | zero => exact .inl hclimb
    | succ steps => exact .inr ⟨steps, by omega, hy, hclimb⟩

/-- The walk comes to nothing twice. -/
theorem Lists.nodup_reached (hlists : tree.Lists below) {budget : Nat} {x : α} {depth : Nat}
    (hdepth : tree.HasDepth x depth) : (RoseTree.reached below budget x).Nodup := by
  induction budget generalizing x depth with
  | zero => exact hlists.nodup x
  | succ budget ih =>
    rw [RoseTree.reached, List.nodup_flatMap]
    constructor
    · intro child hchild
      have hchildDepth := hlists.hasDepth hdepth hchild
      refine List.nodup_cons.mpr ⟨fun hself => ?_, ih hchildDepth⟩
      obtain ⟨steps, -, hself, -⟩ := (hlists.mem_reached_iff hchildDepth).mp hself
      have hsame := hchildDepth.unique hself
      omega
    · refine (hlists.nodup x).imp_of_mem ?_
      intro first second hfirst hsecond hne y hyFirst hySecond
      have hfirstDepth := hlists.hasDepth hdepth hfirst
      have hsecondDepth := hlists.hasDepth hdepth hsecond
      obtain ⟨steps, -, hy, hclimb⟩ := (hlists.mem_cons_reached_iff hfirstDepth).mp hyFirst
      obtain ⟨others, -, hyOther, hother⟩ := (hlists.mem_cons_reached_iff hsecondDepth).mp hySecond
      have hsame := hy.unique hyOther
      obtain rfl : steps = others := by omega
      exact hne (hclimb.symm.trans hother)

/-- From the root, a budget that covers all nodes reaches the whole tree. -/
theorem Lists.mem_reached_root_iff (hlists : tree.Lists below) {budget : Nat} (hbudget : tree.nodes.card ≤ budget + 1)
    {y : α} : y ∈ RoseTree.reached below budget tree.root ↔ y ∈ tree.nodes := by
  rw [hlists.mem_reached_iff AtDepth.root]
  constructor
  · rintro ⟨steps, -, hy, -⟩
    exact hy.mem_nodes
  · intro hnode
    obtain ⟨depth, hdepth⟩ := tree.depth_exists y hnode
    obtain ⟨steps, rfl⟩ := HasDepth.exists_succ hnode hdepth
    have hcard := HasDepth.le_card hdepth
    refine ⟨steps, by omega, by rwa [Nat.zero_add], ?_⟩
    have hroot : tree.HasDepth (tree.parent^[steps + 1] y) 0 := by
      apply HasDepth.iterate_parent
      rwa [Nat.zero_add]
    exact hroot.eq_root

end ParentTree
