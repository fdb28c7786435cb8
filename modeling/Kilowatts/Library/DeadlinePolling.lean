import Mathlib.Data.Nat.Notation

/-!
Loops that look for something again and again until a deadline, and deadlines on a clock
that starts anew after each period.
-/

namespace DeadlinePolling

section Clock

variable {period start timeout elapsed : ℕ}

end Clock

/-- How a loop has ended, and when. -/
structure Outcome where
  found : Bool
  elapsed : ℕ
deriving DecidableEq

/-- Round `index` waits before it looks, and pauses if there is nothing yet. -/
def poll (before : ℕ → Bool) (wait : ℕ → ℕ) (found : ℕ → ℕ → Bool) (pause : ℕ) : ℕ → ℕ → ℕ → Option Outcome
  | 0, _, _ => none
  | fuel + 1, index, elapsed =>
    if before elapsed then
      if found index (elapsed + wait index) then some ⟨true, elapsed + wait index⟩
      else poll before wait found pause fuel (index + 1) (elapsed + wait index + pause)
    else some ⟨false, elapsed⟩

section Loop

variable {before : ℕ → Bool} {wait : ℕ → ℕ} {found : ℕ → ℕ → Bool} {pause timeout bound : ℕ}

end Loop

end DeadlinePolling
