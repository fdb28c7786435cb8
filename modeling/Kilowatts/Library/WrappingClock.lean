import Mathlib.Data.Nat.ModEq

/-- How long ago `stamp` was, as a clock that starts anew after each period tells it. -/
def wrappedAge (period now stamp : Nat) : Nat := (period - stamp % period + now % period) % period

namespace wrappedAge

variable {period now stamp : Nat}

theorem lt_period (hperiod : 0 < period) : wrappedAge period now stamp < period := Nat.mod_lt _ hperiod

/-- The clock comes from the stamp to where it stands in the age that it tells. -/
theorem add_modEq (hperiod : 0 < period) : wrappedAge period now stamp + stamp ≡ now [MOD period] := by
  calc wrappedAge period now stamp + stamp
      ≡ (period - stamp % period + now) + stamp % period [MOD period] :=
        ((Nat.mod_modEq _ _).trans ((Nat.mod_modEq now period).add_left _)).add (Nat.mod_modEq stamp period).symm
    _ = now + period := by
        have hstamp := Nat.mod_lt stamp hperiod
        omega
    _ ≡ now [MOD period] := Nat.add_mod_right now period

/-- The age of a stamp is told right for one period. -/
theorem of_le (hstamp : stamp ≤ now) (hnow : now < stamp + period) : wrappedAge period now stamp = now - stamp := by
  have hperiod : 0 < period := by omega
  have hsame : wrappedAge period now stamp + stamp ≡ now - stamp + stamp [MOD period] := by
    rw [Nat.sub_add_cancel hstamp]
    exact add_modEq hperiod
  exact (Nat.ModEq.add_right_cancel' stamp hsame).eq_of_lt_of_lt (lt_period hperiod) (by omega)

end wrappedAge
