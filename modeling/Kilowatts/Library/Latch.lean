import Mathlib.Data.List.Induction

/-!
A value that some events set and others clear, while a machine runs: what it is, is told by
the last event that set it.
-/

namespace Latch

variable {State Event α : Type} (next : State → Event → State) (sets : State → Event → Option α)
  (clears : State → Event → Prop)

/-- No event of the run from this state sets or clears the value. -/
def Quiet : State → List Event → Prop
  | _, [] => True
  | state, event :: events => (sets state event = none ∧ ¬ clears state event) ∧ Quiet (next state event) events

/-- The value was set to `a` by one event of the run, and nothing has happened to it since. -/
def SetSince (state : State) (events : List Event) (a : α) : Prop :=
  ∃ before event after, events = before ++ event :: after ∧ sets (before.foldl next state) event = some a ∧
    Quiet next sets clears (next (before.foldl next state) event) after

variable {next sets clears}

theorem quiet_append {state : State} {first second : List Event} :
    Quiet next sets clears state (first ++ second) ↔
      Quiet next sets clears state first ∧ Quiet next sets clears (first.foldl next state) second := by
  induction first generalizing state with
  | nil => simp [Quiet]
  | cons event first ih =>
    rw [List.cons_append, Quiet, ih, Quiet, List.foldl_cons]
    exact and_assoc.symm

theorem quiet_append_singleton {state : State} {events : List Event} {event : Event} :
    Quiet next sets clears state (events ++ [event]) ↔ Quiet next sets clears state events ∧
      sets (events.foldl next state) event = none ∧ ¬ clears (events.foldl next state) event := by
  rw [quiet_append, Quiet, Quiet, and_true]

theorem setSince_append_singleton {state : State} {events : List Event} {event : Event} {a : α} :
    SetSince next sets clears state (events ++ [event]) a ↔ sets (events.foldl next state) event = some a ∨
      (SetSince next sets clears state events a ∧ sets (events.foldl next state) event = none ∧
        ¬ clears (events.foldl next state) event) := by
  constructor
  · rintro ⟨before, setting, after, hevents, hset, hquiet⟩
    obtain rfl | ⟨rest, last, rfl⟩ := List.eq_nil_or_concat after
    · obtain ⟨rfl, hsame⟩ := List.append_inj' hevents rfl
      rw [List.cons.inj hsame |>.1]
      exact .inl hset
    · rw [List.concat_eq_append, ← List.cons_append, ← List.append_assoc] at hevents
      obtain ⟨rfl, hsame⟩ := List.append_inj' hevents rfl
      rw [List.concat_eq_append, quiet_append_singleton] at hquiet
      rw [List.cons.inj hsame |>.1, List.foldl_append]
      exact .inr ⟨⟨before, setting, rest, rfl, hset, hquiet.1⟩, hquiet.2⟩
  · rintro (hset | ⟨⟨before, setting, after, rfl, hset, hquiet⟩, hlast⟩)
    · exact ⟨events, event, [], rfl, hset, trivial⟩
    · rw [List.foldl_append] at hlast
      refine ⟨before, setting, after ++ [event], by simp, hset, quiet_append_singleton.mpr ⟨hquiet, hlast⟩⟩

/-- A value that every event sets, clears or leaves is what the last event made it. -/
theorem value_eq_some_iff {value : State → Option α}
    (hset : ∀ {state event a}, sets state event = some a → value (next state event) = some a)
    (hclear : ∀ {state event}, sets state event = none → clears state event → value (next state event) = none)
    (hkeep : ∀ {state event}, sets state event = none → ¬ clears state event →
      value (next state event) = value state)
    {start : State} (hstart : value start = none) {events : List Event} {a : α} :
    value (events.foldl next start) = some a ↔ SetSince next sets clears start events a := by
  induction events using List.reverseRecOn generalizing a with
  | nil =>
    constructor
    · intro hsome
      exact nomatch hstart.symm.trans hsome
    · rintro ⟨before, setting, after, hevents, -⟩
      simp at hevents
  | append_singleton events event ih =>
    rw [setSince_append_singleton, List.foldl_append, List.foldl_cons, List.foldl_nil]
    cases hsets : sets (events.foldl next start) event with
    | some b =>
      rw [hset hsets]
      simp
    | none =>
      by_cases hclears : clears (events.foldl next start) event
      · rw [hclear hsets hclears]
        simp [hclears]
      · rw [hkeep hsets hclears, ih]
        simp [hclears]

end Latch
