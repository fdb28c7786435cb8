/-- A finite run of a labelled transition relation, with the labels in the
order they were taken. -/
inductive Run {State Label : Type} (step : State → Label → State → Prop) :
    State → List Label → State → Prop where
  | nil (start : State) : Run step start [] start
  | snoc {start mid last : State} {labels : List Label} {label : Label}
      (run : Run step start labels mid) (hstep : step mid label last) :
      Run step start (labels ++ [label]) last

namespace Run

variable {State Label : Type} {step : State → Label → State → Prop}

/-- What one step preserves at the labels of a run, the run preserves. -/
theorem invariant_mem {Inv : State → Prop} {start last : State} {labels : List Label} (hrun : Run step start labels last)
    (hpreserved : ∀ before after, ∀ label ∈ labels, Inv before → step before label after → Inv after)
    (hstart : Inv start) : Inv last := by
  induction hrun with
  | nil => exact hstart
  | snoc run hstep ih =>
    refine hpreserved _ _ _ (List.mem_append_right _ (List.mem_singleton_self _)) (ih ?_) hstep
    exact fun before after label hlabel => hpreserved before after label (List.mem_append_left _ hlabel)

/-- What one step preserves, a whole run preserves. -/
theorem invariant {Inv : State → Prop}
    (hpreserved : ∀ before label after, Inv before → step before label after → Inv after)
    {start last : State} {labels : List Label} (hrun : Run step start labels last)
    (hstart : Inv start) : Inv last :=
  hrun.invariant_mem (fun before after label _ => hpreserved before label after) hstart

/-- A run of one relation is a run of another that allows each of its steps in
the states that the run reaches. -/
theorem mono {step' : State → Label → State → Prop} {Inv : State → Prop}
    (hpreserved : ∀ before label after, Inv before → step before label after → Inv after)
    (hsub : ∀ before label after, Inv before → step before label after → step' before label after)
    {start last : State} {labels : List Label} (hrun : Run step start labels last) (hstart : Inv start) :
    Run step' start labels last := by
  induction hrun with
  | nil => exact .nil _
  | snoc run hstep ih => exact .snoc ih (hsub _ _ _ (run.invariant hpreserved hstart) hstep)

/-- Two relations that agree wherever an invariant of the first holds have the same runs. -/
theorem congr {step' : State → Label → State → Prop} {Inv : State → Prop}
    (hpreserved : ∀ before label after, Inv before → step before label after → Inv after)
    (hsame : ∀ before label after, Inv before → (step before label after ↔ step' before label after))
    {start last : State} {labels : List Label} (hstart : Inv start) :
    Run step start labels last ↔ Run step' start labels last := by
  constructor
  · intro hrun
    exact hrun.mono hpreserved (fun before label after hbefore => (hsame before label after hbefore).mp) hstart
  · intro hrun
    refine hrun.mono (fun before label after hbefore hstep => ?_)
      (fun before label after hbefore => (hsame before label after hbefore).mpr) hstart
    exact hpreserved before label after hbefore ((hsame before label after hbefore).mpr hstep)

/-- The abstract side takes the step that it sees, or does not notice the step. -/
def Follows {Abstract Visible : Type} (abstractStep : Abstract → Visible → Abstract → Prop) (before : Abstract)
    (seen : Option Visible) (after : Abstract) : Prop :=
  match seen with
  | none => after = before
  | some visible => abstractStep before visible after

/-- Stuttering simulation: the abstract run keeps the labels that are visible. -/
theorem simulate {Abstract Visible : Type} {abstractStep : Abstract → Visible → Abstract → Prop}
    (view : State → Abstract) (visible : Label → Option Visible)
    (hfollows : ∀ before label after, step before label after →
      Follows abstractStep (view before) (visible label) (view after))
    {start last : State} {labels : List Label} (hrun : Run step start labels last) :
    Run abstractStep (view start) (labels.filterMap visible) (view last) := by
  induction hrun with
  | nil => exact .nil _
  | @snoc mid last labels label _ hstep ih =>
    have hlast := hfollows mid label last hstep
    rw [List.filterMap_append]
    cases hseen : visible label with
    | none =>
      rw [hseen] at hlast
      rw [List.filterMap_cons_none hseen, List.filterMap_nil, List.append_nil, show view last = view mid from hlast]
      exact ih
    | some seen =>
      rw [hseen] at hlast
      rw [List.filterMap_cons_some hseen, List.filterMap_nil]
      exact .snoc ih hlast

/-- Steps that use up a measure are as many as the measure that is gone. -/
theorem length_add_measure (measure : State → Nat)
    (hdecrease : ∀ before label after, step before label after → measure after + 1 = measure before)
    {start last : State} {labels : List Label} (hrun : Run step start labels last) :
    labels.length + measure last = measure start := by
  induction hrun with
  | nil => simp
  | snoc _ hstep ih =>
    have hused := hdecrease _ _ _ hstep
    rw [List.length_append, List.length_singleton]
    omega

theorem single {before after : State} {label : Label} (hstep : step before label after) :
    Run step before [label] after :=
  .snoc (.nil before) hstep

theorem append {start mid last : State} {first second : List Label}
    (hfirst : Run step start first mid) (hsecond : Run step mid second last) :
    Run step start (first ++ second) last := by
  induction hsecond with
  | nil => simpa using hfirst
  | snoc _ hstep ih =>
    rw [← List.append_assoc]
    exact .snoc ih hstep

/-- The run from `start` to `last` takes this step on its way. -/
def Takes (step : State → Label → State → Prop) (start : State) (labels : List Label) (last before : State)
    (label : Label) (after : State) : Prop :=
  ∃ earlier later, labels = earlier ++ label :: later ∧ Run step start earlier before ∧ step before label after ∧
    Run step after later last

/-- A run takes its last step. -/
theorem takes_snoc {start mid last : State} {labels : List Label} {label : Label} (hrun : Run step start labels mid)
    (hstep : step mid label last) : Takes step start (labels ++ [label]) last mid label last :=
  ⟨labels, [], rfl, hrun, hstep, .nil last⟩

/-- What a run has taken, it has taken however it goes on. -/
theorem Takes.snoc {start mid last before after : State} {labels : List Label} {label taken : Label}
    (htakes : Takes step start labels mid before taken after) (hstep : step mid label last) :
    Takes step start (labels ++ [label]) last before taken after := by
  obtain ⟨earlier, later, rfl, hearlier, htaken, hlater⟩ := htakes
  exact ⟨earlier, later ++ [label], by simp, hearlier, htaken, .snoc hlater hstep⟩

/-- The last step of a run whose steps follow a function. -/
theorem step_of_snoc {next : State → Label → State}
    (hnext : ∀ before label after, step before label after → after = next before label)
    {start last : State} {labels : List Label} {label : Label} (hrun : Run step start (labels ++ [label]) last) :
    step (labels.foldl next start) label last := by
  have hreached : ∀ {labels last}, Run step start labels last → last = labels.foldl next start := by
    intro labels last hrun
    induction hrun with
    | nil => rfl
    | snoc _ hstep ih =>
      rw [List.foldl_append, ← ih]
      exact hnext _ _ _ hstep
  generalize hlabels : labels ++ [label] = path at hrun
  cases hrun with
  | nil => exact absurd hlabels (List.append_ne_nil_of_right_ne_nil _ (List.cons_ne_nil _ _))
  | snoc run hstep =>
    obtain ⟨rfl, rfl⟩ := List.append_singleton_inj.mp hlabels
    exact hreached run ▸ hstep

/-- The last step of a run whose steps follow a function that may fail. -/
theorem step_of_foldlM {next : State → Label → Option State}
    (hnext : ∀ before label after, step before label after → next before label = some after)
    {start mid last : State} {labels : List Label} {label : Label} (hmid : labels.foldlM next start = some mid)
    (hrun : Run step start (labels ++ [label]) last) : step mid label last := by
  have hreached : ∀ {labels last}, Run step start labels last → labels.foldlM next start = some last := by
    intro labels last hrun
    induction hrun with
    | nil => rfl
    | snoc _ hstep ih =>
      rw [List.foldlM_append, ih]
      simp [hnext _ _ _ hstep]
  generalize hlabels : labels ++ [label] = path at hrun
  cases hrun with
  | nil => exact absurd hlabels (List.append_ne_nil_of_right_ne_nil _ (List.cons_ne_nil _ _))
  | snoc run hstep =>
    obtain ⟨rfl, rfl⟩ := List.append_singleton_inj.mp hlabels
    exact Option.some.inj ((hreached run).symm.trans hmid) ▸ hstep

/-- The run of a transition function that never fails at the labels it is given. -/
theorem of_foldl_mem {next : State → Label → State} {labels : List Label}
    (hnext : ∀ label ∈ labels, ∀ before, step before label (next before label)) (start : State) :
    Run step start labels (labels.foldl next start) := by
  induction labels generalizing start with
  | nil => exact .nil start
  | cons label labels ih =>
    obtain ⟨hfirst, hrest⟩ := List.forall_mem_cons.mp hnext
    exact append (single (hfirst start)) (ih hrest (next start label))

theorem of_foldl {next : State → Label → State} (hnext : ∀ before label, step before label (next before label))
    (labels : List Label) (start : State) : Run step start labels (labels.foldl next start) :=
  of_foldl_mem (fun label _ before => hnext before label) start

/-- Runs of an executable transition function, one label at a time. -/
theorem of_foldlM {next : State → Label → Option State}
    (hnext : ∀ before label after, next before label = some after → step before label after)
    {start last : State} {labels : List Label} (hfold : labels.foldlM next start = some last) :
    Run step start labels last := by
  induction labels generalizing start with
  | nil =>
    simp only [List.foldlM_nil, Option.pure_def, Option.some.injEq] at hfold
    exact hfold ▸ .nil start
  | cons label labels ih =>
    rw [List.foldlM_cons] at hfold
    obtain ⟨mid, hmid, hrest⟩ := Option.bind_eq_some_iff.mp hfold
    exact append (single (hnext start label mid hmid)) (ih hrest)

end Run
