import Mathlib.Data.Finset.Card
import Mathlib.Data.Finset.Image
import Mathlib.Data.Finset.Powerset
import Mathlib.Logic.Relation

/-- The bookkeeping of a worklist search: the nodes waiting to be expanded and
the nodes already expanded. -/
@[ext]
structure Worklist (σ : Type) where
  opened : Finset σ
  closed : Finset σ

namespace Worklist

variable {σ : Type} [DecidableEq σ]

def known (w : Worklist σ) : Finset σ := w.opened ∪ w.closed

def start (root : σ) : Worklist σ := ⟨{root}, ∅⟩

/-- One round: `node` is expanded and its unknown successors are queued. The
choice of `node` among the opened ones is left to the caller. -/
def expand (successors : σ → Finset σ) (w : Worklist σ) (node : σ) : Worklist σ :=
  ⟨w.opened.erase node ∪ (successors node \ w.known), insert node w.closed⟩

def Reachable (successors : σ → Finset σ) (root node : σ) : Prop :=
  Relation.ReflTransGen (fun a b => b ∈ successors a) root node

/-- What every round preserves. No selection rule is assumed. -/
structure Valid (successors : σ → Finset σ) (root : σ) (w : Worklist σ) : Prop where
  disjoint : Disjoint w.opened w.closed
  root_known : root ∈ w.known
  reachable : ∀ node ∈ w.known, Reachable successors root node
  closed_successors : ∀ node ∈ w.closed, successors node ⊆ w.known

theorem mem_known {w : Worklist σ} {node : σ} : node ∈ w.known ↔ node ∈ w.opened ∨ node ∈ w.closed :=
  Finset.mem_union

theorem mem_known_expand {successors : σ → Finset σ} {w : Worklist σ} {node other : σ}
    (hnode : node ∈ w.opened) :
    other ∈ (w.expand successors node).known ↔ other ∈ w.known ∨ other ∈ successors node := by
  simp only [known, expand, Finset.mem_union, Finset.mem_erase, Finset.mem_sdiff, Finset.mem_insert]
  by_cases heq : other = node
  · subst heq
    simp [hnode]
  · simp only [heq, ne_eq, not_false_eq_true, true_and, false_or]
    tauto

theorem start_valid (successors : σ → Finset σ) (root : σ) : (start root).Valid successors root where
  disjoint := by simp [start]
  root_known := by simp [start, known]
  reachable := by
    intro node hnode
    simp only [start, known, Finset.union_empty, Finset.mem_singleton] at hnode
    exact hnode ▸ .refl
  closed_successors := by simp [start]

/-- Expanding any opened node preserves validity. -/
theorem Valid.expand {successors : σ → Finset σ} {root : σ} {w : Worklist σ}
    (hvalid : w.Valid successors root) {node : σ} (hnode : node ∈ w.opened) :
    (w.expand successors node).Valid successors root where
  disjoint := by
    rw [Finset.disjoint_left]
    intro other hopened hclosed
    have hdisjoint := Finset.disjoint_left.mp hvalid.disjoint
    simp only [Worklist.expand, Finset.mem_union, Finset.mem_erase, Finset.mem_sdiff] at hopened
    obtain rfl | hclosed := Finset.mem_insert.mp hclosed
    · obtain ⟨hne, _⟩ | ⟨_, hunknown⟩ := hopened
      · exact hne rfl
      · exact hunknown (mem_known.mpr (.inl hnode))
    · obtain ⟨_, hopened⟩ | ⟨_, hunknown⟩ := hopened
      · exact hdisjoint hopened hclosed
      · exact hunknown (mem_known.mpr (.inr hclosed))
  root_known := (mem_known_expand hnode).mpr (.inl hvalid.root_known)
  reachable := by
    intro other hother
    obtain hknown | hsucc := (mem_known_expand hnode).mp hother
    · exact hvalid.reachable other hknown
    · exact (hvalid.reachable node (mem_known.mpr (.inl hnode))).tail hsucc
  closed_successors := by
    intro other hclosed next hnext
    rw [mem_known_expand hnode]
    obtain rfl | hclosed := Finset.mem_insert.mp hclosed
    · exact .inr hnext
    · exact .inl (hvalid.closed_successors other hclosed hnext)

/-- A round expands a node for the first time. -/
theorem Valid.card_closed_expand {successors : σ → Finset σ} {root : σ} {w : Worklist σ}
    (hvalid : w.Valid successors root) {node : σ} (hnode : node ∈ w.opened) :
    (w.expand successors node).closed.card = w.closed.card + 1 :=
  Finset.card_insert_of_notMem (Finset.disjoint_left.mp hvalid.disjoint hnode)

/-- When nothing is left to expand, exactly the reachable nodes were expanded. -/
theorem Valid.mem_closed_iff {successors : σ → Finset σ} {root : σ} {w : Worklist σ}
    (hvalid : w.Valid successors root) (hdone : w.opened = ∅) (node : σ) :
    node ∈ w.closed ↔ Reachable successors root node := by
  have hknown : w.known = w.closed := by simp [known, hdone]
  constructor
  · intro hnode
    exact hvalid.reachable node (hknown ▸ hnode)
  · intro hreach
    induction hreach with
    | refl => exact hknown ▸ hvalid.root_known
    | tail _ hstep ih => exact hknown ▸ hvalid.closed_successors _ ih hstep

/-- Rounds are bounded by any finite set holding the reachable nodes: once that
many nodes are closed, nothing is left to expand. -/
theorem Valid.opened_eq_empty_of_card_le {successors : σ → Finset σ} {root : σ} {w : Worklist σ}
    (hvalid : w.Valid successors root) {bound : Finset σ}
    (hbound : ∀ node, Reachable successors root node → node ∈ bound)
    (hcard : bound.card ≤ w.closed.card) : w.opened = ∅ := by
  have hsub : w.known ⊆ bound := fun node hnode => hbound node (hvalid.reachable node hnode)
  have hknown : w.known.card = w.opened.card + w.closed.card := Finset.card_union_of_disjoint hvalid.disjoint
  have hle := Finset.card_le_card hsub
  exact Finset.card_eq_zero.mp (by omega)

section Subsets

variable {α : Type} [DecidableEq α]

/-- The one-element extensions of `chosen` inside `pool` that stay feasible. -/
def extensions (pool : Finset α) (feasible : Finset α → Prop) [DecidablePred feasible]
    (chosen : Finset α) : Finset (Finset α) :=
  ((pool \ chosen).image (insert · chosen)).filter feasible

theorem mem_extensions {pool : Finset α} {feasible : Finset α → Prop} [DecidablePred feasible]
    {chosen next : Finset α} :
    next ∈ extensions pool feasible chosen ↔
      ∃ a ∈ pool, a ∉ chosen ∧ next = insert a chosen ∧ feasible next := by
  simp only [extensions, Finset.mem_filter, Finset.mem_image, Finset.mem_sdiff]
  constructor
  · rintro ⟨⟨a, ⟨ha, hnew⟩, rfl⟩, hfeasible⟩
    exact ⟨a, ha, hnew, rfl, hfeasible⟩
  · rintro ⟨a, ha, hnew, rfl, hfeasible⟩
    exact ⟨⟨a, ⟨ha, hnew⟩, rfl⟩, hfeasible⟩

/-- For a downward closed condition, adding one element at a time reaches every
feasible subset and nothing else. -/
theorem reachable_extensions_iff {pool : Finset α} {feasible : Finset α → Prop}
    [DecidablePred feasible] (hempty : feasible ∅)
    (hdown : ∀ small large, small ⊆ large → feasible large → feasible small) (chosen : Finset α) :
    Reachable (extensions pool feasible) ∅ chosen ↔ chosen ⊆ pool ∧ feasible chosen := by
  constructor
  · intro hreach
    induction hreach with
    | refl => exact ⟨Finset.empty_subset _, hempty⟩
    | tail _ hstep ih =>
      obtain ⟨a, ha, _, rfl, hfeasible⟩ := mem_extensions.mp hstep
      exact ⟨Finset.insert_subset ha ih.1, hfeasible⟩
  · intro ⟨hsub, hfeasible⟩
    induction chosen using Finset.induction_on with
    | empty => exact .refl
    | insert a chosen hnew ih =>
      have hpath := ih ((Finset.subset_insert a chosen).trans hsub)
        (hdown _ _ (Finset.subset_insert a chosen) hfeasible)
      exact hpath.tail (mem_extensions.mpr ⟨a, hsub (Finset.mem_insert_self a chosen), hnew, rfl, hfeasible⟩)

end Subsets

end Worklist
