import Kilowatts.Central.CentralPlant
import Kilowatts.Library.Run

namespace kilowatts

namespace ReusedPins

open CentralPlant

/-- `newLoad` marks that the load which the Node tells of with this event is a new one on
its pin. How the earlier load was removed is not restricted. -/
structure PinEvent where
  event : SettingsEvent
  newLoad : Bool

/-- `owed` is what the Node has told last of a new load on the pin, until a user gives a
command for the load. -/
structure PinState where
  plant : CentralPlant
  owed : Option LoadFields

/-- One event, with what is owed after it. -/
def PinState.next (localMac : MacAddress) (id : Load.Id) (before : PinState) (pinEvent : PinEvent) : PinState where
  plant := before.plant.next localMac pinEvent.event
  owed :=
    if pinEvent.event.commands id then none
    else if pinEvent.newLoad || before.owed.isSome then
      (before.plant.own localMac id pinEvent.event).or before.owed
    else none

section Steps

variable (localMac : MacAddress) (id : Load.Id) (before : PinState) (pinEvent : PinEvent) (after : PinState)

/-- A planning cycle plans a new load with its own class, priority and schedule. -/
structure PlansOwnStep : Prop where
  next : after = before.next localMac id pinEvent
  planned : pinEvent.event.plans = true → ∀ fields, before.owed = some fields →
    ∀ load, before.plant.central.plannedRegistry.findLoad id.macAddress id.relayPin = some load →
      load.settings.Agree fields.settings

/-- A planning cycle finds no override for the pin of a new load, or one that agrees with
the load. -/
structure UnoverriddenStep : Prop where
  next : after = before.next localMac id pinEvent
  unoverridden : pinEvent.event.plans = true → ∀ fields, before.owed = some fields → before.plant.copy id ≠ none →
    ∀ entry, before.plant.entry id = some entry → entry.AgreesWith fields.settings

end Steps

/-- Where there is no override, Central's copy of a new load has what its Node told. -/
structure Tracks (localMac : MacAddress) (id : Load.Id) (state : PinState) : Prop where
  sound : state.plant.Sound localMac
  wellFormed : ∀ fields, state.owed = some fields → fields.settings.WellFormed
  agree : ∀ fields, state.owed = some fields → ∀ load, state.plant.copy id = some load →
    state.plant.entry id = none → load.settings.Agree fields.settings

section Invariant

variable {localMac : MacAddress} {id : Load.Id} {before after : PinState} {pinEvent : PinEvent}

/-- What is owed was owed before, or is told with this event. -/
theorem next_owed {fields : LoadFields} (howed : (before.next localMac id pinEvent).owed = some fields) :
    pinEvent.event.commands id = false ∧
      (before.plant.own localMac id pinEvent.event).or before.owed = some fields := by
  rw [PinState.next] at howed
  dsimp only at howed
  split at howed
  · cases howed
  rename_i hcommands
  split at howed
  · exact ⟨Bool.eq_false_of_not_eq_true hcommands, howed⟩
  · cases howed

/-- A cycle keeps the copy of a load without an override. -/
theorem Tracks.cycle (htracks : Tracks localMac id before) {clock : CycleClock} {answers : FlashAnswers}
    {fields : LoadFields} {load : Load} (howed : before.owed = some fields)
    (hcopy : (before.plant.runCycle clock answers).copy id = some load)
    (hentry : (before.plant.runCycle clock answers).entry id = none) : load.settings.Agree fields.settings := by
  obtain ⟨hunstored, update, hkeeps, hupdate⟩ := runCycle_of_entry_none hentry
  rw [hupdate] at hcopy
  obtain ⟨planned, hplanned, rfl⟩ := Option.map_eq_some_iff.mp hcopy
  exact (hkeeps planned).agree.trans (htracks.agree fields howed planned hplanned hunstored)

/-- The account is right after each event. -/
theorem Tracks.next (htracks : Tracks localMac id before) (pinEvent : PinEvent) :
    Tracks localMac id (before.next localMac id pinEvent) := by
  refine ⟨htracks.sound.next pinEvent.event, fun fields howed => ?_, fun fields howed load hcopy hentry => ?_⟩
  · obtain ⟨-, htold⟩ := next_owed howed
    obtain hown | ⟨-, hbefore⟩ := Option.or_eq_some_iff.mp htold
    · exact own_wellFormed htracks.sound hown
    · exact htracks.wellFormed fields hbefore
  · obtain ⟨hcommands, htold⟩ := next_owed howed
    by_cases hplans : pinEvent.event.plans = true
    · obtain ⟨clock, answers, hcycle⟩ := SettingsEvent.plans_iff.mp hplans
      rw [PinState.next, hcycle] at hcopy hentry
      rw [hcycle] at htold
      exact htracks.cycle htold hcopy hentry
    obtain ⟨base, kept, hleaves⟩ := exists_leaves htracks.sound (Bool.eq_false_of_not_eq_true hplans) hcommands
    have hbase : base = some load := (hleaves.copy_of_entry_none hentry).symm.trans hcopy
    have hfields := hleaves.fields
    rw [hbase, Option.map_some] at hfields
    obtain hown | ⟨hown, hbefore⟩ := Option.or_eq_some_iff.mp htold
    · rw [hown, Option.some_or, Option.some.injEq] at hfields
      rw [← Load.fields_settings, hfields]
      exact .refl _
    · rw [hown, Option.none_or] at hfields
      obtain hnone | ⟨hkept, hsame⟩ := hleaves.kept
      · rw [hnone] at hfields
        cases hfields
      obtain ⟨other, hother, hsettings⟩ := Option.map_eq_some_iff.mp (hfields.trans hkept).symm
      rw [← Load.fields_settings, ← hsettings]
      exact htracks.agree fields hbefore other hother (hsame.symm.trans hentry)

/-- A cycle plans a new load as it is exactly if its override agrees with it. -/
theorem Tracks.planned_iff (htracks : Tracks localMac id before) {fields : LoadFields}
    (howed : before.owed = some fields) :
    (∀ load, before.plant.central.plannedRegistry.findLoad id.macAddress id.relayPin = some load →
        load.settings.Agree fields.settings) ↔
      (before.plant.copy id ≠ none → ∀ entry, before.plant.entry id = some entry →
        entry.AgreesWith fields.settings) := by
  rw [plannedRegistry_findLoad]
  cases hcopy : before.plant.copy id with
  | none => exact iff_of_true (fun _ hload => nomatch hload) fun hnone => absurd rfl hnone
  | some load =>
    have hagree := applyToLoad_agree_iff htracks.sound (copy_id hcopy) (htracks.wellFormed fields howed)
      (htracks.agree fields howed load hcopy)
    simpa using hagree

end Invariant

/-- In a run, every cycle plans the new loads of a pin as they are exactly if no cycle finds an override for
them that differs. Needs a sound plant that owes the pin nothing at the start. -/
theorem new_loads_planned_iff {localMac : MacAddress} {id : Load.Id} {start last : PinState} {events : List PinEvent}
    (hsound : start.plant.Sound localMac) (howed : start.owed = none) :
    Run (PlansOwnStep localMac id) start events last ↔ Run (UnoverriddenStep localMac id) start events last := by
  have hstart : Tracks localMac id start := by
    refine ⟨hsound, ?_, ?_⟩
    · simp [howed]
    · simp [howed]
  have hpreserved : ∀ before pinEvent after, Tracks localMac id before →
      PlansOwnStep localMac id before pinEvent after → Tracks localMac id after := by
    rintro before pinEvent after htracks ⟨rfl, -⟩
    exact htracks.next pinEvent
  refine Run.congr hpreserved (fun before pinEvent after htracks => ?_) hstart
  constructor
  · intro hstep
    exact ⟨hstep.next, fun hplans fields howed => (htracks.planned_iff howed).mp (hstep.planned hplans fields howed)⟩
  · intro hstep
    exact ⟨hstep.next, fun hplans fields howed =>
      (htracks.planned_iff howed).mpr (hstep.unoverridden hplans fields howed)⟩

section Runs

def pumpStart : PinState := ⟨smartNodePlant, none⟩

/-- A cycle at noon. -/
def planning : PinEvent := ⟨noonCycle, false⟩

/-- An AUTO pump is reported on pin 4, and planned. -/
def pumpPlanned : List PinEvent := [⟨smartNodeReport 1 [pinReport .AUTO_OFF 5 .none], false⟩, planning]

/-- The acknowledgement of a REMOVE_LOAD for the pump. -/
def pumpRemoval (stateTaken : Bool) : PinEvent :=
  ⟨.acknowledge [⟨7, Vector.replicate 6 2, 4, true⟩] stateTaken .succeeding (Vector.replicate 6 2) ⟨7, 4, 1, 0⟩,
    false⟩

/-- The Node reports that it has no loads. -/
def pumpPruned : PinEvent := ⟨smartNodeReport 2 [], false⟩

/-- The Node is decommissioned, and commissioned again. -/
def pumpDecommissioned : List PinEvent :=
  [⟨.decommission true .succeeding (Vector.replicate 6 2), false⟩, ⟨.other smartNodePlant.central, false⟩]

/-- A FIXED lamp is reported on the same pin. -/
def lampReported : PinEvent := ⟨smartNodeReport 3 [pinReport .FIXED_ON 1 .none], true⟩

/-- A step, where a cycle finds no override that differs from a new load. -/
def unoverriddenNext (before : PinState) (pinEvent : PinEvent) : Option PinState :=
  if before.owed.all fun fields => (before.plant.entry pumpId).all fun entry => entry.AgreesWith fields.settings then
    some (before.next (Vector.replicate 6 1) pumpId pinEvent)
  else none

theorem unoverriddenStep_of_unoverriddenNext (before : PinState) (pinEvent : PinEvent) (after : PinState)
    (hnext : unoverriddenNext before pinEvent = some after) :
    UnoverriddenStep (Vector.replicate 6 1) pumpId before pinEvent after := by
  unfold unoverriddenNext at hnext
  split at hnext
  · rename_i hagrees
    refine ⟨(Option.some.inj hnext).symm, fun _ fields howed _ entry hentry => ?_⟩
    simpa [howed, hentry] using hagrees
  · cases hnext

/-- The acknowledgement of a REMOVE_LOAD removes the override of the pump, too. -/
theorem new_loads_planned_iff_lamp :
    ∃ last, Run (PlansOwnStep (Vector.replicate 6 1) pumpId) pumpStart
      (pumpPlanned ++ [pumpRemoval true, lampReported, planning]) last := by
  have hsome : ((pumpPlanned ++ [pumpRemoval true, lampReported, planning]).foldlM unoverriddenNext
      pumpStart).isSome := by
    decide +kernel
  obtain ⟨last, hlast⟩ := Option.isSome_iff_exists.mp hsome
  exact ⟨last, (new_loads_planned_iff smartNodePlant_sound rfl).mpr
    (.of_foldlM unoverriddenStep_of_unoverriddenNext hlast)⟩

/-- The cycle would not plan the lamp as it is. -/
theorem not_plansOwn_of_eval {events : List PinEvent}
    (heval : let before := events.foldl (PinState.next (Vector.replicate 6 1) pumpId) pumpStart
      before.owed.any (fun fields =>
        (before.plant.central.plannedRegistry.findLoad pumpId.macAddress pumpId.relayPin).any fun load =>
          ¬ load.settings.Agree fields.settings) = true) :
    ¬ ∃ last, Run (PlansOwnStep (Vector.replicate 6 1) pumpId) pumpStart (events ++ [planning]) last := by
  rintro ⟨last, hrun⟩
  obtain ⟨fields, howed, hfields⟩ := (Option.any_eq_true _ _).mp heval
  obtain ⟨load, hload, hdiffers⟩ := (Option.any_eq_true _ _).mp hfields
  have hplanned := (hrun.step_of_snoc fun _ _ _ hstep => hstep.next).planned rfl fields howed load hload
  exact of_decide_eq_true hdiffers hplanned

/-- The lamp is planned with what is stored for the pump, if the pump was removed on the
console of the Node, if the Node was decommissioned in between, and if the lock was not
obtained for the acknowledgement of the removal. -/
theorem lamp_planned_as_pump :
    pumpStart.plant.Sound (Vector.replicate 6 1) ∧ pumpStart.owed = none ∧
      ∀ removal ∈ [[pumpPruned], pumpDecommissioned, [pumpRemoval false]],
        ¬ ∃ last, Run (PlansOwnStep (Vector.replicate 6 1) pumpId) pumpStart
          (pumpPlanned ++ removal ++ [lampReported] ++ [planning]) last := by
  refine ⟨smartNodePlant_sound, rfl, fun removal hremoval => not_plansOwn_of_eval ?_⟩
  simp only [List.mem_cons, List.not_mem_nil, or_false] at hremoval
  obtain rfl | rfl | rfl := hremoval
  · decide +kernel
  · decide +kernel
  · decide +kernel

end Runs

end ReusedPins

end kilowatts
