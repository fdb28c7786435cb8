/-!
A configured value of which a copy is in use. Some changes of the value renew the copy and
others do not. A value that still waits for its copy supersedes the one in use.
-/

variable {α : Type}

/-- The value that stays in use although the configured one is another, after the configured
value became `configured`. `superseded` is that value before the change. -/
def supersededAfter [DecidableEq α] (superseded : Option α) (previous configured : α) (copied : Bool) : Option α :=
  if copied then none
  else if superseded.getD previous = configured then none
  else some (superseded.getD previous)

/-- The copy in use is the configured value, or the one that it supersedes. -/
structure DeferredCopy (superseded : Option α) (configured inUse : α) : Prop where
  in_use : inUse = superseded.getD configured
  differs : superseded ≠ some configured

namespace DeferredCopy

variable {superseded : Option α} {previous configured inUse : α}

theorem renewed (configured : α) : DeferredCopy none configured configured := ⟨rfl, nofun⟩

theorem eq_iff (hcopy : DeferredCopy superseded configured inUse) : inUse = configured ↔ superseded = none := by
  obtain ⟨hinUse, hdiffers⟩ := hcopy
  cases superseded with
  | none => exact ⟨fun _ => rfl, fun _ => hinUse⟩
  | some old =>
    rw [Option.getD_some] at hinUse
    subst hinUse
    exact ⟨fun heq => absurd (congrArg some heq) hdiffers, nofun⟩

/-- A change of the configured value, with or without a copy. -/
theorem change [DecidableEq α] (hcopy : DeferredCopy superseded previous inUse) (configured : α) (copied : Bool) :
    DeferredCopy (supersededAfter superseded previous configured copied) configured
      (if copied then configured else inUse) := by
  cases copied with
  | true => exact renewed configured
  | false =>
    simp only [supersededAfter, ← hcopy.in_use, Bool.false_eq_true, if_false]
    by_cases hsame : inUse = configured
    · rw [if_pos hsame, hsame]
      exact renewed configured
    · rw [if_neg hsame]
      exact ⟨rfl, fun heq => hsame (Option.some.inj heq)⟩

end DeferredCopy
