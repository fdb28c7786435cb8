import Mathlib.Data.Finset.Card
import Mathlib.Logic.Function.Iterate

/-!
Finite trees given by the parent of each node, with the root outside the set of
nodes. The depth of a node counts the steps to the root.
-/

/-- `x` reaches the root through `depth` nodes, itself included. -/
inductive AtDepth {α : Type} (root : α) (parent : α → α) (nodes : Finset α) : α → Nat → Prop where
  | root : AtDepth root parent nodes root 0
  | child {x : α} {depth : Nat} (hnode : x ∈ nodes) (hparent : AtDepth root parent nodes (parent x) depth) :
      AtDepth root parent nodes x (depth + 1)

structure ParentTree (α : Type) where
  root : α
  parent : α → α
  nodes : Finset α
  root_notMem : root ∉ nodes
  depth_exists : ∀ x ∈ nodes, ∃ depth, AtDepth root parent nodes x depth

namespace ParentTree

variable {α : Type} (tree : ParentTree α)

def HasDepth (x : α) (depth : Nat) : Prop := AtDepth tree.root tree.parent tree.nodes x depth

/-- An edge of the tree, in either direction. -/
def Linked (x y : α) : Prop := x ∈ tree.nodes ∧ tree.parent x = y ∨ y ∈ tree.nodes ∧ tree.parent y = x

variable {tree}

theorem HasDepth.mem_nodes {x : α} {depth : Nat} (hdepth : tree.HasDepth x (depth + 1)) : x ∈ tree.nodes := by
  cases hdepth with
  | child hnode => exact hnode

theorem HasDepth.parent {x : α} {depth : Nat} (hdepth : tree.HasDepth x (depth + 1)) :
    tree.HasDepth (tree.parent x) depth := by
  cases hdepth with
  | child _ hparent => exact hparent

theorem HasDepth.eq_root {x : α} (hdepth : tree.HasDepth x 0) : x = tree.root := by
  cases hdepth
  rfl

theorem HasDepth.ne_root {x : α} {depth : Nat} (hdepth : tree.HasDepth x (depth + 1)) : x ≠ tree.root := by
  rintro rfl
  exact tree.root_notMem hdepth.mem_nodes

theorem HasDepth.exists_succ {x : α} {depth : Nat} (hnode : x ∈ tree.nodes) (hdepth : tree.HasDepth x depth) :
    ∃ above, depth = above + 1 := by
  cases hdepth with
  | root => exact absurd hnode tree.root_notMem
  | child _ _ => exact ⟨_, rfl⟩

/-- A node has one depth. -/
theorem HasDepth.unique {x : α} {first second : Nat} (hfirst : tree.HasDepth x first)
    (hsecond : tree.HasDepth x second) : first = second := by
  induction first generalizing x second with
  | zero =>
    cases second with
    | zero => rfl
    | succ second => exact absurd hfirst.eq_root hsecond.ne_root
  | succ first ih =>
    obtain ⟨above, rfl⟩ := HasDepth.exists_succ hfirst.mem_nodes hsecond
    rw [ih hfirst.parent hsecond.parent]

theorem HasDepth.iterate_parent {x : α} {depth steps : Nat} (hdepth : tree.HasDepth x (depth + steps)) :
    tree.HasDepth (tree.parent^[steps] x) depth := by
  induction steps generalizing x with
  | zero => exact hdepth
  | succ steps ih =>
    rw [Function.iterate_succ_apply]
    exact ih hdepth.parent

/-- The nodes on the way to the root are different from each other. -/
theorem HasDepth.le_card {x : α} {depth : Nat} (hdepth : tree.HasDepth x depth) : depth ≤ tree.nodes.card := by
  have hancestor : ∀ steps < depth, tree.HasDepth (tree.parent^[steps] x) (depth - steps) := by
    intro steps hsteps
    apply HasDepth.iterate_parent
    rwa [Nat.sub_add_cancel (Nat.le_of_lt hsteps)]
  have hmaps : ∀ steps ∈ Finset.range depth, tree.parent^[steps] x ∈ tree.nodes := by
    intro steps hsteps
    rw [Finset.mem_range] at hsteps
    have hpositive : depth - steps = depth - steps - 1 + 1 := by omega
    have hdepthOf := hancestor steps hsteps
    rw [hpositive] at hdepthOf
    exact hdepthOf.mem_nodes
  have hinjective : Set.InjOn (fun steps => tree.parent^[steps] x) (Finset.range depth) := by
    intro first hfirst second hsecond hsame
    simp only [Finset.coe_range, Set.mem_Iio] at hfirst hsecond
    have hfirstDepth := hancestor first hfirst
    have hsecondDepth := hancestor second hsecond
    dsimp only at hsame
    rw [hsame] at hfirstDepth
    have hequal := hfirstDepth.unique hsecondDepth
    omega
  have hcard := Finset.card_le_card_of_injOn _ hmaps hinjective
  rwa [Finset.card_range] at hcard

/-- Only the parent of a node is one step nearer to the root and linked to it. -/
theorem Linked.parent_of_depth {x y : α} {above depth : Nat} (hlinked : tree.Linked x y)
    (hx : tree.HasDepth x above) (hy : tree.HasDepth y depth) : depth = above + 1 ∨ above = depth + 1 := by
  obtain ⟨hnode, rfl⟩ | ⟨hnode, rfl⟩ := hlinked
  · obtain ⟨grand, rfl⟩ := HasDepth.exists_succ hnode hx
    exact .inr (congrArg (· + 1) (hx.parent.unique hy))
  · obtain ⟨grand, rfl⟩ := HasDepth.exists_succ hnode hy
    exact .inl (congrArg (· + 1) (hy.parent.unique hx))

end ParentTree
