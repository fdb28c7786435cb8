/-!
Calls to a flash memory that holds values under several keys. They are made one after
another until one of them fails, and every call that succeeds is durable at once.
-/

namespace KeyedWrites

variable {σ α : Type}

/-- The content after the first `done` of the calls. -/
def after (calls : List (σ → σ)) (done : Nat) (content : σ) : σ :=
  (calls.take done).foldl (fun content call => call content) content

/-- The first `done` calls succeed, and the next one fails if there is one. -/
def store (calls : List (σ → σ)) (done : Nat) (content : σ) : σ × Bool :=
  (after calls done content, decide (calls.length ≤ done))

@[simp]
theorem after_zero (calls : List (σ → σ)) (content : σ) : after calls 0 content = content := rfl

@[simp]
theorem after_nil (done : Nat) (content : σ) : after [] done content = content := by
  simp [after]

@[simp]
theorem after_cons_succ (call : σ → σ) (calls : List (σ → σ)) (done : Nat) (content : σ) :
    after (call :: calls) (done + 1) content = after calls done (call content) := rfl

/-- A call that writes nothing, such as the commit, leaves what was written before it. -/
theorem after_append_id (writes : List (σ → σ)) (done : Nat) (content : σ) :
    after (writes ++ [id]) done content = after writes done content := by
  induction writes generalizing done content with
  | nil => cases done <;> simp
  | cons write writes ih =>
    cases done with
    | zero => rfl
    | succ done => simp only [List.cons_append, after_cons_succ, ih]

theorem after_of_length_le {calls : List (σ → σ)} {done : Nat} (hdone : calls.length ≤ done) (content : σ) :
    after calls done content = after calls calls.length content := by
  rw [after, after, List.take_of_length_le hdone, List.take_length]

/-- A restart after the store finds the new value if it succeeded, and else what it would
have found before. -/
def AllOrNothing (load : σ → Option α) (value : α) (content : σ) (stored : σ × Bool) : Prop :=
  load stored.1 = if stored.2 then some value else load content

instance [DecidableEq α] (load : σ → Option α) (value : α) (content : σ) (stored : σ × Bool) :
    Decidable (AllOrNothing load value content stored) :=
  inferInstanceAs (Decidable (_ = _))

variable {load : σ → Option α} {value : α} {content : σ}

@[simp]
theorem allOrNothing_failed (stored : σ) :
    AllOrNothing load value content (stored, false) ↔ load stored = load content := by
  simp [AllOrNothing]

theorem allOrNothing_store {calls : List (σ → σ)} (hload : load (after calls calls.length content) = some value)
    (done : Nat) :
    AllOrNothing load value content (store calls done content) ↔
      (done < calls.length → load (after calls done content) = load content) := by
  unfold AllOrNothing store
  by_cases hdone : calls.length ≤ done
  · simp [hdone, after_of_length_le hdone, hload, Nat.not_lt.mpr hdone]
  · simp [hdone, Nat.lt_of_not_le hdone]

/-- A store that ends with a commit is all or nothing if what was written of it cannot be told
from what was there before. Once only the commit is missing, that is the new value itself. -/
theorem allOrNothing_committed {writes : List (σ → σ)}
    (hload : load (after (writes ++ [id]) (writes ++ [id]).length content) = some value) (done : Nat) :
    AllOrNothing load value content (store (writes ++ [id]) done content) ↔
      (done < writes.length → load (after writes done content) = load content) ∧
      (done = writes.length → load content = some value) := by
  have hwritten : load (after writes writes.length content) = some value := by
    rw [after_append_id, after_of_length_le (by simp)] at hload
    exact hload
  rw [allOrNothing_store hload, after_append_id, List.length_append, List.length_singleton]
  constructor
  · intro hkept
    refine ⟨fun hdone => hkept (by omega), ?_⟩
    rintro rfl
    rw [← hkept (by omega), hwritten]
  · rintro ⟨hkept, hheld⟩ hdone
    by_cases hall : done = writes.length
    · rw [hheld hall, hall, hwritten]
    · exact hkept (by omega)

end KeyedWrites
