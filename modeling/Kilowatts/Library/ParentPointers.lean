import Mathlib.Logic.Function.Basic
import Mathlib.Logic.Relation

/-!
Trees that are only given by a partial pointer of each element to its parent, and
that change one pointer at a time.
-/

namespace ParentPointers

variable {α : Type} (root : α) (parent : α → Option α)

def PointsTo (x y : α) : Prop := parent x = some y

/-- No chain of pointers returns to its start, and every chain ends at the root. -/
structure IsTree : Prop where
  acyclic : ∀ x, ¬ Relation.TransGen (PointsTo parent) x x
  reachesRoot : ∀ x, (parent x).isSome → Relation.ReflTransGen (PointsTo parent) x root

/-- The pointers lead from `x` to the root. -/
inductive Climbs : α → Prop where
  | root : Climbs root
  | child {x y : α} (hparent : parent x = some y) (hclimbs : Climbs y) : Climbs x

variable {root parent}

theorem Climbs.reachesRoot {x : α} (hclimbs : Climbs root parent x) :
    Relation.ReflTransGen (PointsTo parent) x root := by
  induction hclimbs with
  | root => exact .refl
  | child hparent _ ih => exact .head hparent ih

theorem Climbs.acyclic (hroot : parent root = none) {x : α} (hclimbs : Climbs root parent x) :
    ¬ Relation.TransGen (PointsTo parent) x x := by
  induction hclimbs with
  | root =>
    intro hcycle
    obtain ⟨y, hparent, -⟩ := Relation.TransGen.head'_iff.mp hcycle
    rw [PointsTo, hroot] at hparent
    cases hparent
  | @child x y hparent _ ih =>
    intro hcycle
    obtain ⟨z, hfirst, hrest⟩ := Relation.TransGen.head'_iff.mp hcycle
    obtain rfl : y = z := Option.some.inj (hparent.symm.trans hfirst)
    exact ih (.tail' hrest hparent)

theorem climbs_of_reachesRoot {x : α} (hreaches : Relation.ReflTransGen (PointsTo parent) x root) :
    Climbs root parent x := by
  induction hreaches using Relation.ReflTransGen.head_induction_on with
  | refl => exact .root
  | head hparent _ ih => exact .child hparent ih

/-- As the root has no pointer, a tree only has to lead everything to the root. -/
theorem isTree_iff (hroot : parent root = none) :
    IsTree root parent ↔ ∀ x, (parent x).isSome → Climbs root parent x := by
  constructor
  · intro htree x hsome
    exact climbs_of_reachesRoot (htree.reachesRoot x hsome)
  · intro hclimbs
    refine ⟨fun x hcycle => ?_, fun x hsome => (hclimbs x hsome).reachesRoot⟩
    obtain ⟨y, hparent, -⟩ := Relation.TransGen.head'_iff.mp hcycle
    have hsome : (parent x).isSome := by
      rw [show parent x = some y from hparent]
      rfl
    exact (hclimbs x hsome).acyclic hroot hcycle

theorem Climbs.pointer {x : α} (hclimbs : Climbs root parent x) : x = root ∨ (parent x).isSome := by
  cases hclimbs with
  | root => exact .inl rfl
  | child hparent _ => exact .inr (Option.isSome_of_eq_some hparent)

/-- What every pointer of a tree leads to is the root or has a pointer itself. -/
theorem IsTree.target (hroot : parent root = none) (htree : IsTree root parent) {x y : α}
    (hparent : parent x = some y) : y = root ∨ (parent y).isSome := by
  have hclimbs := (isTree_iff hroot).mp htree x (Option.isSome_of_eq_some hparent)
  cases hclimbs with
  | root =>
    rw [hroot] at hparent
    cases hparent
  | child hother hrest =>
    obtain rfl := Option.some.inj (hparent.symm.trans hother)
    exact hrest.pointer

variable [DecidableEq α]

/-- A chain that avoids an element does not see its pointer change. -/
theorem Climbs.update {node : α} {pointer : Option α} (hunused : ∀ x, parent x ≠ some node) {x : α}
    (hclimbs : Climbs root parent x) (hne : x ≠ node) :
    Climbs root (Function.update parent node pointer) x := by
  induction hclimbs with
  | root => exact .root
  | @child x y hparent _ ih =>
    have htarget : y ≠ node := fun hsame => hunused x (hsame ▸ hparent)
    exact .child ((Function.update_of_ne hne _ _).trans hparent) (ih htarget)

/-- A pointer can be taken away exactly when nothing leads to its element. -/
theorem isTree_update_none_iff (hroot : parent root = none) (htree : IsTree root parent) {node : α}
    (hnode : node ≠ root) :
    IsTree root (Function.update parent node none) ↔ ∀ x, parent x ≠ some node := by
  have hrootStays : Function.update parent node none root = none := by
    rw [Function.update_of_ne hnode.symm, hroot]
  constructor
  · intro hafter x hparent
    have hne : x ≠ node := by
      rintro rfl
      exact htree.acyclic x (.single hparent)
    have htarget := hafter.target hrootStays ((Function.update_of_ne hne _ _).trans hparent)
    rw [Function.update_self] at htarget
    obtain hsame | hsome := htarget
    · exact hnode hsame
    · cases hsome
  · intro hunused
    refine (isTree_iff hrootStays).mpr fun x hsome => ?_
    have hne : x ≠ node := by
      rintro rfl
      rw [Function.update_self] at hsome
      cases hsome
    rw [Function.update_of_ne hne] at hsome
    exact ((isTree_iff hroot).mp htree x hsome).update hunused hne

/-- A new pointer keeps the tree exactly when it leads to the root or to an element
that has a pointer. -/
theorem isTree_update_some_iff (hroot : parent root = none) (htree : IsTree root parent) {node above : α}
    (hnode : node ≠ root) (hfree : parent node = none) :
    IsTree root (Function.update parent node (some above)) ↔ above = root ∨ (parent above).isSome := by
  have hrootStays : Function.update parent node (some above) root = none := by
    rw [Function.update_of_ne hnode.symm, hroot]
  constructor
  · intro hafter
    have hne : above ≠ node := by
      rintro rfl
      exact hafter.acyclic above (.single (Function.update_self _ _ _))
    have htarget := hafter.target hrootStays (Function.update_self node (some above) parent)
    rwa [Function.update_of_ne hne] at htarget
  · intro htarget
    have hunused : ∀ x, parent x ≠ some node := by
      intro x hparent
      obtain hsame | hsome := htree.target hroot hparent
      · exact hnode hsame
      · rw [hfree] at hsome
        cases hsome
    have hclimbs := (isTree_iff hroot).mp htree
    have habove : Climbs root (Function.update parent node (some above)) above := by
      obtain rfl | hsome := htarget
      · exact .root
      · refine (hclimbs above hsome).update hunused ?_
        rintro rfl
        rw [hfree] at hsome
        cases hsome
    refine (isTree_iff hrootStays).mpr fun x hsome => ?_
    by_cases hne : x = node
    · subst hne
      exact .child (Function.update_self _ _ _) habove
    · rw [Function.update_of_ne hne] at hsome
      exact (hclimbs x hsome).update hunused hne

end ParentPointers
