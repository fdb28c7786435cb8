import Kilowatts.Library.Run
import Mathlib.Data.List.Basic
import Mathlib.Data.List.Nodup

/-!
A slot that holds the identifier of one outstanding request. A newer request
takes the place of the older one, a cancellation empties the slot, and an answer
is consumed only while its identifier is the one held.
-/

namespace RequestSlot

variable {Id : Type}

inductive Event (Id : Type) where
  | request (id : Id)
  | cancel
  | consume (id : Id)
deriving DecidableEq

inductive Step : Option Id → Event Id → Option Id → Prop where
  | request (held : Option Id) (id : Id) : Step held (.request id) (some id)
  | cancel (held : Option Id) : Step held .cancel none
  | consume (id : Id) : Step (some id) (.consume id) none

/-- An identifier that is held was requested last, and nothing happened since. -/
theorem getLast?_of_held {events : List (Event Id)} {id : Id} (hrun : Run Step none events (some id)) :
    events.getLast? = some (.request id) := by
  generalize hlast : some id = last at hrun
  cases hrun with
  | nil => cases hlast
  | snoc _ hstep =>
    cases hstep with
    | request => simpa using hlast.symm
    | cancel => cases hlast
    | consume => cases hlast

variable [DecidableEq Id]

/-- Every answer that was consumed used up a request of its own. -/
theorem count_consume_le {events : List (Event Id)} {last : Option Id} (hrun : Run Step none events last)
    (id : Id) :
    events.count (.consume id) + (if last = some id then 1 else 0) ≤ events.count (.request id) := by
  induction hrun with
  | nil => simp
  | snoc _ hstep ih =>
    simp only [List.count_append, List.count_singleton]
    cases hstep with
    | request held requested =>
      by_cases hid : requested = id <;> simp [hid] <;> omega
    | cancel =>
      simp only [beq_iff_eq, reduceCtorEq, if_false]
      omega
    | consume consumed =>
      by_cases hid : consumed = id <;> simp [hid] at ih ⊢ <;> omega

/-- A request that is made at most once is answered at most once. -/
theorem count_consume_le_one {events : List (Event Id)} {last : Option Id} (hrun : Run Step none events last)
    {id : Id} (honce : events.count (.request id) ≤ 1) : events.count (.consume id) ≤ 1 := by
  have hle := count_consume_le hrun id
  omega

end RequestSlot
