import Mathlib.Algebra.Order.Group.Defs
import Mathlib.Algebra.Order.Group.MinMax

/-- What is left of `target` when `elapsed` has gone by. It stops at zero, and it does not
stop at `target` when less than nothing has gone by. -/
def countdown {Time : Type*} [AddCommGroup Time] [LinearOrder Time] (target elapsed : Time) : Time :=
  max 0 (target - elapsed)

namespace countdown

variable {Time : Type*} [AddCommGroup Time] [LinearOrder Time] {target elapsed later : Time}

theorem nonneg : 0 ≤ countdown target elapsed := le_max_left _ _

theorem zero (htarget : 0 ≤ target) : countdown target 0 = target := by
  rw [countdown, sub_zero, max_eq_right htarget]

/-- Nothing but no time at all leaves a positive target whole. -/
theorem eq_target_iff (htarget : 0 < target) : countdown target elapsed = target ↔ elapsed = 0 := by
  constructor
  · intro hfull
    obtain hover | hleft := max_choice 0 (target - elapsed)
    · rw [countdown, hover] at hfull
      exact absurd hfull htarget.ne
    · rw [countdown, hleft] at hfull
      exact sub_eq_self.mp hfull
  · rintro rfl
    exact zero htarget.le

variable [IsOrderedAddMonoid Time]

theorem le_target (helapsed : 0 ≤ elapsed) (htarget : 0 ≤ target) : countdown target elapsed ≤ target :=
  max_le htarget (sub_le_self target helapsed)

theorem le_target_iff (htarget : 0 ≤ target) : countdown target elapsed ≤ target ↔ 0 ≤ elapsed := by
  constructor
  · intro hle
    exact (sub_le_self_iff target).mp ((le_max_right _ _).trans hle)
  · intro helapsed
    exact le_target helapsed htarget

/-- Counting down in two parts is counting down at once. -/
theorem add (hlater : 0 ≤ later) : countdown (countdown target elapsed) later = countdown target (elapsed + later) := by
  rw [countdown, countdown, countdown, ← sub_sub, ← max_sub_sub_right, zero_sub, ← max_assoc,
    max_eq_left (neg_nonpos.mpr hlater)]

end countdown
