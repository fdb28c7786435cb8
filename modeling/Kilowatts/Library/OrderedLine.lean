import Kilowatts.Library.Run

/-!
What passes through queues one behind another, taken as one line: in each step some may join
it at its end, and some that still wait in it may be lost.
-/

namespace OrderedLine

variable {State Label α : Type} {step : State → Label → State → Prop} {line : State → List α}
  {joins : Label → List α} {start last : State} {labels : List Label}

/-- Nobody overtakes anybody in the line, and nobody joins it twice. -/
theorem sublist_of_run
    (hstep : ∀ before label after, step before label after → (line after).Sublist (line before ++ joins label))
    (hrun : Run step start labels last) : (line last).Sublist (line start ++ labels.flatMap joins) := by
  induction hrun with
  | nil => simp
  | @snoc mid last labels label _ hlast ih =>
    rw [List.flatMap_append, List.flatMap_singleton, ← List.append_assoc]
    exact (hstep _ _ _ hlast).trans (ih.append_right _)

/-- Without losses, everybody who has joined the line is in it. -/
theorem eq_of_run (hstep : ∀ before label after, step before label after → line after = line before ++ joins label)
    (hrun : Run step start labels last) : line last = line start ++ labels.flatMap joins := by
  induction hrun with
  | nil => simp
  | @snoc mid last labels label _ hlast ih =>
    rw [List.flatMap_append, List.flatMap_singleton, ← List.append_assoc, ← ih]
    exact hstep _ _ _ hlast

/-- What the last of a queue stands for comes last. -/
theorem filterMap_concat {β : Type} (f : α → Option β) (items : List α) (item : α) :
    (items ++ [item]).filterMap f = items.filterMap f ++ (f item).toList := by
  rw [List.filterMap_append, List.filterMap_cons]
  cases f item <;> rfl

/-- What the first of a queue stands for comes first. -/
theorem filterMap_cons {β : Type} (f : α → Option β) (item : α) (items : List α) :
    (item :: items).filterMap f = (f item).toList ++ items.filterMap f := by
  rw [List.filterMap_cons]
  cases f item <;> rfl

end OrderedLine
