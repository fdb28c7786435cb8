/-!
A value in memory that is written to a flash memory as a whole, with every answer
that the flash can give.
-/

/-- The answers of the flash to one write. A value that was set may stay in the
flash although the commit after it failed. -/
structure FlashAnswers where
  opened : Bool
  set : Bool
  committed : Bool
  keptUncommitted : Bool
deriving DecidableEq

namespace FlashAnswers

def succeeding : FlashAnswers := ⟨true, true, true, false⟩

def succeeds (answers : FlashAnswers) : Bool := answers.opened && answers.set && answers.committed

/-- The flash holds the new value afterwards. -/
def writes (answers : FlashAnswers) : Bool :=
  answers.opened && answers.set && (answers.committed || answers.keptUncommitted)

theorem writes_of_succeeds {answers : FlashAnswers} (hsucceeds : answers.succeeds = true) :
    answers.writes = true := by
  simp only [succeeds, Bool.and_eq_true] at hsucceeds
  simp [writes, hsucceeds]

end FlashAnswers

/-- A value in memory and the copy of it that was last written. -/
@[ext]
structure FlashBacked (α : Type) where
  memory : α
  flash : α
deriving DecidableEq

namespace FlashBacked

variable {α : Type}

def persist (answers : FlashAnswers) (backed : FlashBacked α) : FlashBacked α × Bool :=
  ({ backed with flash := if answers.writes then backed.memory else backed.flash }, answers.succeeds)

/-- What a restart finds. -/
def reload (backed : FlashBacked α) : FlashBacked α := { backed with memory := backed.flash }

end FlashBacked
