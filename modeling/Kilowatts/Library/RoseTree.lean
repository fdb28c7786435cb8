import Mathlib.Data.List.Nodup

/-!
Trees with any number of children, and the walk that lists the trees below an
element, down to a given depth.
-/

inductive RoseTree (α : Type) where
  | node (label : α) (children : List (RoseTree α))

namespace RoseTree

variable {α β : Type}

def label : RoseTree α → α
  | node label _ => label

mutual

/-- The labels of a tree, each before those below it. -/
def labels : RoseTree α → List α
  | node label children => label :: forestLabels children

def forestLabels : List (RoseTree α) → List α
  | [] => []
  | tree :: forest => tree.labels ++ forestLabels forest

end

theorem forestLabels_eq_flatMap (forest : List (RoseTree α)) : forestLabels forest = forest.flatMap labels := by
  induction forest with
  | nil => rw [forestLabels, List.flatMap_nil]
  | cons tree forest ih => rw [forestLabels, List.flatMap_cons, ih]

/-- The trees below `x`, where `below` lists what stands directly below an element and
`content` is what is written of it. -/
def descend (below : β → List β) (content : β → α) : (budget : Nat) → (x : β) → List (RoseTree α)
  | 0, x => (below x).map fun y => node (content y) []
  | budget + 1, x => (below x).map fun y => node (content y) (descend below content budget y)

/-- Everything below `x` that the walk comes to. -/
def reached (below : β → List β) : (budget : Nat) → (x : β) → List β
  | 0, x => below x
  | budget + 1, x => (below x).flatMap fun y => y :: reached below budget y

theorem reached_map {γ : Type} {below : β → List β} {belowKey : γ → List γ} {key : β → γ}
    (hbelow : ∀ x, (below x).map key = belowKey (key x)) (budget : Nat) (x : β) :
    (reached below budget x).map key = reached belowKey budget (key x) := by
  induction budget generalizing x with
  | zero => exact hbelow x
  | succ budget ih =>
    rw [reached, reached, ← hbelow, List.flatMap_map, List.map_flatMap]
    congr 1
    funext y
    rw [List.map_cons, ih]

/-- The walk only comes to what stands directly below something. -/
theorem exists_below_of_mem_reached {below : β → List β} {budget : Nat} {x y : β} (hy : y ∈ reached below budget x) :
    ∃ z, y ∈ below z := by
  induction budget generalizing x with
  | zero => exact ⟨x, hy⟩
  | succ budget ih =>
    obtain ⟨child, hchild, hy⟩ := List.mem_flatMap.mp hy
    obtain rfl | hy := List.mem_cons.mp hy
    · exact ⟨x, hchild⟩
    · exact ih hy

theorem forestLabels_descend (below : β → List β) (content : β → α) (budget : Nat) (x : β) :
    forestLabels (descend below content budget x) = (reached below budget x).map content := by
  induction budget generalizing x with
  | zero =>
    rw [descend, reached, forestLabels_eq_flatMap, List.flatMap_map, List.map_eq_flatMap]
    congr 1
  | succ budget ih =>
    rw [descend, reached, forestLabels_eq_flatMap, List.flatMap_map, List.map_flatMap]
    congr 1
    funext y
    rw [labels, ih, List.map_cons]

end RoseTree
