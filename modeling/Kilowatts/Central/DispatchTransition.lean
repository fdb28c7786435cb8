import Kilowatts.Central.RelaySafety

namespace kilowatts

namespace RelaySafety

/-- The relays that are ON after the commands took effect one after the other. -/
def writeRelays (relaysOn : Finset Load.Id) (commands : List RelayTarget) : Finset Load.Id :=
  commands.foldl writeRelay relaysOn

theorem writeRelays_append (relaysOn : Finset Load.Id) (first second : List RelayTarget) :
    writeRelays relaysOn (first ++ second) = writeRelays (writeRelays relaysOn first) second :=
  List.foldl_append

/-- A write decides about its own relay only. -/
theorem mem_writeRelay {relaysOn : Finset Load.Id} {target : RelayTarget} {id : Load.Id} :
    id ∈ writeRelay relaysOn target ↔
      (target.id = id ∧ target.desiredOn = true) ∨ (target.id ≠ id ∧ id ∈ relaysOn) := by
  cases hon : target.desiredOn with
  | false =>
    rw [writeRelay_off hon, Finset.mem_erase]
    simp [eq_comm]
  | true =>
    rw [writeRelay_on hon, Finset.mem_insert, eq_comm]
    by_cases hid : target.id = id
    · simp [hid]
    · simp [hid]

/-- With one command a relay, a commanded relay ends as demanded and every other
one stays as it was. -/
theorem mem_writeRelays {commands : List RelayTarget} (hnodup : (commands.map RelayTarget.id).Nodup)
    {relaysOn : Finset Load.Id} {id : Load.Id} :
    id ∈ writeRelays relaysOn commands ↔
      (∃ target ∈ commands, target.id = id ∧ target.desiredOn = true) ∨
        (id ∉ commands.map RelayTarget.id ∧ id ∈ relaysOn) := by
  induction commands generalizing relaysOn with
  | nil => simp [writeRelays]
  | cons target commands ih =>
    rw [List.map_cons, List.nodup_cons] at hnodup
    rw [show writeRelays relaysOn (target :: commands) = writeRelays (writeRelay relaysOn target) commands from rfl,
      ih hnodup.2, mem_writeRelay, List.map_cons, List.mem_cons, not_or]
    simp only [List.mem_cons, exists_eq_or_imp]
    constructor
    · rintro (hlater | ⟨hother, hnow | ⟨hne, hon⟩⟩)
      · exact .inl (.inr hlater)
      · exact .inl (.inl hnow)
      · exact .inr ⟨⟨Ne.symm hne, hother⟩, hon⟩
    · rintro ((hnow | hlater) | ⟨⟨hne, hother⟩, hon⟩)
      · exact .inr ⟨hnow.1 ▸ hnodup.1, .inl hnow⟩
      · exact .inl hlater
      · exact .inr ⟨hother, .inr ⟨Ne.symm hne, hon⟩⟩

/-- With one command a relay, the order of the commands does not change where
the relays end. -/
theorem writeRelays_perm {first second : List RelayTarget} (hperm : first.Perm second)
    (hnodup : (second.map RelayTarget.id).Nodup) (relaysOn : Finset Load.Id) :
    writeRelays relaysOn first = writeRelays relaysOn second := by
  have hids : (first.map RelayTarget.id).Perm (second.map RelayTarget.id) := hperm.map _
  ext id
  rw [mem_writeRelays (hids.nodup_iff.mpr hnodup), mem_writeRelays hnodup, hids.mem_iff]
  simp only [hperm.mem_iff]

/-- OFF commands switch no relay ON. -/
theorem writeRelays_off_subset {commands : List RelayTarget}
    (hoff : ∀ target ∈ commands, target.desiredOn = false) (relaysOn : Finset Load.Id) :
    writeRelays relaysOn commands ⊆ relaysOn := by
  induction commands generalizing relaysOn with
  | nil => exact Finset.Subset.refl relaysOn
  | cons target commands ih =>
    have hhead : writeRelay relaysOn target ⊆ relaysOn := by
      rw [writeRelay_off (hoff target List.mem_cons_self)]
      exact Finset.erase_subset _ _
    exact (ih (fun other hother => hoff other (List.mem_cons_of_mem _ hother)) _).trans hhead

/-- ON commands switch no relay OFF. -/
theorem subset_writeRelays_on {commands : List RelayTarget}
    (hon : ∀ target ∈ commands, target.desiredOn = true) (relaysOn : Finset Load.Id) :
    relaysOn ⊆ writeRelays relaysOn commands := by
  induction commands generalizing relaysOn with
  | nil => exact Finset.Subset.refl relaysOn
  | cons target commands ih =>
    have hhead : relaysOn ⊆ writeRelay relaysOn target := by
      rw [writeRelay_on (hon target List.mem_cons_self)]
      exact Finset.subset_insert _ _
    exact hhead.trans (ih (fun other hother => hon other (List.mem_cons_of_mem _ hother)) _)

/-- During the OFF phase nothing is ON that was not ON before, and during the ON
phase nothing is ON that does not stay ON. -/
theorem writeRelays_subset_or_subset {offPhase onPhase commands : List RelayTarget}
    (hoff : ∀ target ∈ offPhase, target.desiredOn = false) (hon : ∀ target ∈ onPhase, target.desiredOn = true)
    (hpart : commands <+: offPhase ++ onPhase) (relaysOn : Finset Load.Id) :
    writeRelays relaysOn commands ⊆ relaysOn ∨
      writeRelays relaysOn commands ⊆ writeRelays relaysOn (offPhase ++ onPhase) := by
  obtain ⟨rest, hrest⟩ := hpart
  obtain ⟨offRest, hsplit, -⟩ | ⟨onCommands, rfl, hsplit⟩ := List.append_eq_append_iff.mp hrest
  · refine .inl (writeRelays_off_subset (fun target htarget => hoff target ?_) relaysOn)
    rw [hsplit]
    exact List.mem_append_left _ htarget
  · refine .inr ?_
    rw [hsplit, ← List.append_assoc, writeRelays_append relaysOn _ rest]
    refine subset_writeRelays_on (fun target htarget => hon target ?_) _
    rw [hsplit]
    exact List.mem_append_right _ htarget

/-- Needs ratings that are not negative. Whatever part of the order has been written, the total is
within the larger of the totals before and after. -/
theorem dispatchOrder_prefix_le {rating : Load.Id → Rat} (hnonneg : ∀ id, 0 ≤ rating id) (targets : List RelayTarget)
    (relaysOn : Finset Load.Id) {commands : List RelayTarget}
    (hpart : commands <+: RelayCommandDispatcher.buildDispatchOrder targets) :
    ∑ id ∈ writeRelays relaysOn commands, rating id ≤
      max (∑ id ∈ relaysOn, rating id)
        (∑ id ∈ writeRelays relaysOn (RelayCommandDispatcher.buildDispatchOrder targets), rating id) := by
  obtain ⟨offPhase, onPhase, horder, hoff, hon⟩ := RelayCommandDispatcher.buildDispatchOrder_phases targets
  rw [horder] at hpart ⊢
  obtain hbefore | hafter := writeRelays_subset_or_subset hoff hon hpart relaysOn
  · exact (totalOnWatts_mono hnonneg hbefore).trans (le_max_left _ _)
  · exact (totalOnWatts_mono hnonneg hafter).trans (le_max_right _ _)

end RelaySafety

namespace RelayCommandDispatcher

open RelaySafety

/-- Both phases keep the order in which the caller gave their targets. -/
theorem buildDispatchOrder_filter (targets : List RelayTarget) :
    (buildDispatchOrder targets).filter (fun target => !target.desiredOn) =
        targets.filter (fun target => !target.desiredOn) ∧
      (buildDispatchOrder targets).filter (·.desiredOn) = targets.filter (·.desiredOn) := by
  have hdisjoint : ∀ phase : Bool, (targets.filter (·.desiredOn == !phase)).filter (·.desiredOn == phase) = [] := by
    intro phase
    rw [List.filter_filter, List.filter_eq_nil_iff]
    intro target _
    cases target.desiredOn <;> cases phase <;> decide
  have hoff := hdisjoint false
  have hon := hdisjoint true
  simp only [Bool.not_false, Bool.not_true, beq_true, beq_false] at hoff hon
  constructor
  · rw [buildDispatchOrder, List.filter_append, hoff, List.append_nil, List.filter_filter]
    simp only [Bool.and_self]
  · rw [buildDispatchOrder, List.filter_append, hon, List.nil_append, List.filter_filter]
    simp only [Bool.and_self]

/-- While the ordered commands take effect one after the other, never more power is ON than before the first
or after all of them. Needs ratings that are not negative and distinct targets. -/
theorem buildDispatchOrder_never_overshoots {rating : Load.Id → Rat} (hnonneg : ∀ id, 0 ≤ rating id)
    {targets : List RelayTarget} (hnodup : (targets.map RelayTarget.id).Nodup) (relaysOn : Finset Load.Id) :
    (∀ commands, commands <+: buildDispatchOrder targets →
      ∑ id ∈ writeRelays relaysOn commands, rating id ≤
        max (∑ id ∈ relaysOn, rating id) (∑ id ∈ writeRelays relaysOn targets, rating id)) ∧
    (buildDispatchOrder targets).Perm targets ∧
    (buildDispatchOrder targets).filter (fun target => !target.desiredOn) =
      targets.filter (fun target => !target.desiredOn) ∧
    (buildDispatchOrder targets).filter (·.desiredOn) = targets.filter (·.desiredOn) := by
  refine ⟨fun commands hpart => ?_, buildDispatchOrder_perm targets, buildDispatchOrder_filter targets⟩
  rw [← writeRelays_perm (buildDispatchOrder_perm targets) hnodup relaysOn]
  exact dispatchOrder_prefix_le hnonneg targets relaysOn hpart

/-- A relay goes OFF, one that is ON is commanded ON again, and one comes ON. -/
def swapTargets : List RelayTarget :=
  [⟨Vector.replicate 6 1, 4, true⟩, ⟨Vector.replicate 6 1, 5, false⟩, ⟨Vector.replicate 6 2, 5, true⟩]

theorem buildDispatchOrder_never_overshoots_swapTargets :
    ∑ id ∈ writeRelays {⟨Vector.replicate 6 1, 5⟩, ⟨Vector.replicate 6 2, 5⟩}
        [⟨Vector.replicate 6 1, 5, false⟩, ⟨Vector.replicate 6 1, 4, true⟩], threeLoadRating id ≤
      max (∑ id ∈ {⟨Vector.replicate 6 1, 5⟩, ⟨Vector.replicate 6 2, 5⟩}, threeLoadRating id)
        (∑ id ∈ writeRelays {⟨Vector.replicate 6 1, 5⟩, ⟨Vector.replicate 6 2, 5⟩} swapTargets,
          threeLoadRating id) := by
  have hnonneg : ∀ id, 0 ≤ threeLoadRating id := by
    intro id
    unfold threeLoadRating
    split_ifs <;> norm_num
  have hnodup : (swapTargets.map RelayTarget.id).Nodup := by decide
  have hbound := buildDispatchOrder_never_overshoots hnonneg hnodup
    {⟨Vector.replicate 6 1, 5⟩, ⟨Vector.replicate 6 2, 5⟩}
  exact hbound.1 _ (by decide)

end RelayCommandDispatcher

namespace CentralState

open RelaySafety

/-- Every transition that a planning cycle dispatches is bounded by its two ends. -/
theorem dispatchOrder_never_overshoots {rating : Load.Id → Rat} (hnonneg : ∀ id, 0 ≤ rating id)
    (state : CentralState) (clock : CycleClock) (relaysOn : Finset Load.Id) {commands : List RelayTarget}
    (hpart : commands <+: (state.runOptimizationCycle clock).dispatchOrder) :
    ∑ id ∈ writeRelays relaysOn commands, rating id ≤
      max (∑ id ∈ relaysOn, rating id)
        (∑ id ∈ writeRelays relaysOn (state.runOptimizationCycle clock).dispatchOrder, rating id) :=
  dispatchOrder_prefix_le hnonneg _ relaysOn hpart

end CentralState

end kilowatts
