import Mathlib.Data.List.Nodup

/-!
Lists whose elements are found by a key: lookup, update and removal act on the
first element with the key. With distinct keys that element is the only one.
-/

namespace KeyedList

variable {α κ : Type} [DecidableEq κ] (key : α → κ)

def lookup (items : List α) (wanted : κ) : Option α :=
  items.find? (fun item => key item = wanted)

def update (wanted : κ) (change : α → α) : List α → List α
  | [] => []
  | item :: rest => if key item = wanted then change item :: rest else item :: update wanted change rest

def remove (wanted : κ) (items : List α) : List α :=
  items.eraseP (fun item => key item = wanted)

/-- Replaces the element with the same key, or appends a new one. -/
def put (item : α) (items : List α) : List α :=
  if (lookup key items (key item)).isSome then update key (key item) (fun _ => item) items else items ++ [item]

variable {key}

theorem key_of_lookup {items : List α} {wanted : κ} {item : α} (hlookup : lookup key items wanted = some item) :
    key item = wanted := by
  simpa using List.find?_some hlookup

theorem mem_of_lookup {items : List α} {wanted : κ} {item : α} (hlookup : lookup key items wanted = some item) :
    item ∈ items :=
  List.mem_of_find?_eq_some hlookup

theorem lookup_eq_none_iff {items : List α} {wanted : κ} :
    lookup key items wanted = none ↔ wanted ∉ items.map key := by
  simp [lookup, List.find?_eq_none]

theorem eq_nil_of_lookup {items : List α} (hnone : ∀ wanted, lookup key items wanted = none) : items = [] := by
  cases items with
  | nil => rfl
  | cons item rest =>
    have hitem := hnone (key item)
    simp [lookup] at hitem

theorem lookup_eq_some_iff {items : List α} (hnodup : (items.map key).Nodup) {wanted : κ} {item : α} :
    lookup key items wanted = some item ↔ item ∈ items ∧ key item = wanted := by
  constructor
  · intro hlookup
    exact ⟨mem_of_lookup hlookup, key_of_lookup hlookup⟩
  · rintro ⟨hitem, rfl⟩
    cases hfound : lookup key items (key item) with
    | none =>
      rw [lookup_eq_none_iff] at hfound
      exact absurd (List.mem_map_of_mem hitem) hfound
    | some found =>
      rw [List.inj_on_of_nodup_map hnodup (mem_of_lookup hfound) hitem (key_of_lookup hfound)]

omit [DecidableEq κ] in
theorem key_ne_of_nodup_cons {item other : α} {rest : List α} (hnodup : ((item :: rest).map key).Nodup)
    (hother : other ∈ rest) : key other ≠ key item := by
  intro hsame
  rw [List.map_cons, List.nodup_cons] at hnodup
  exact hnodup.1 (hsame ▸ List.mem_map_of_mem hother)

/-- With distinct keys an update is a map that changes one element. -/
theorem update_eq_map {items : List α} (hnodup : (items.map key).Nodup) (wanted : κ) (change : α → α) :
    update key wanted change items = items.map (fun item => if key item = wanted then change item else item) := by
  induction items with
  | nil => rfl
  | cons item rest ih =>
    rw [List.map_cons, update]
    by_cases hkey : key item = wanted
    · subst hkey
      have hsame : ∀ other ∈ rest, (if key other = key item then change other else other) = id other :=
        fun other hother => if_neg (key_ne_of_nodup_cons hnodup hother)
      rw [if_pos rfl, if_pos rfl, List.map_congr_left hsame, List.map_id]
    · rw [if_neg hkey, if_neg hkey, ih (List.nodup_cons.mp hnodup).2]

theorem map_key_update {change : α → α} (hkey : ∀ item, key (change item) = key item) (wanted : κ)
    (items : List α) : (update key wanted change items).map key = items.map key := by
  induction items with
  | nil => rfl
  | cons item rest ih =>
    rw [update]
    split
    · rw [List.map_cons, List.map_cons, hkey]
    · rw [List.map_cons, List.map_cons, ih]

theorem remove_sublist (wanted : κ) (items : List α) : (remove key wanted items).Sublist items :=
  List.eraseP_sublist

theorem map_key_remove (wanted : κ) (items : List α) : (remove key wanted items).map key = (items.map key).erase wanted := by
  rw [remove, List.erase_eq_eraseP, List.eraseP_map]
  congr 1
  exact congrArg (fun selected => items.eraseP selected) (funext fun item => by simp [beq_eq_decide, eq_comm])

theorem remove_append_cons {items rest : List α} {item : α} (hnew : key item ∉ items.map key) :
    remove key (key item) (items ++ item :: rest) = items ++ rest := by
  have hother : ∀ other ∈ items, ¬ key other = key item :=
    fun other hother hsame => hnew (hsame ▸ List.mem_map_of_mem hother)
  rw [remove, List.eraseP_append_right _ (by simpa using hother), List.eraseP_cons_of_pos (by simp)]

theorem remove_append_singleton {items : List α} {item : α} (hnew : key item ∉ items.map key) :
    remove key (key item) (items ++ [item]) = items := by
  rw [remove_append_cons hnew, List.append_nil]

/-- Elements that were appended are taken back one by one. -/
theorem foldl_remove_append {kept added : List α} (hnodup : ((kept ++ added).map key).Nodup) :
    (added.map key).foldl (fun items wanted => remove key wanted items) (kept ++ added) = kept := by
  induction added with
  | nil => simp
  | cons item rest ih =>
    have hrest : (kept ++ rest).Sublist (kept ++ item :: rest) := (List.sublist_cons_self item rest).append_left kept
    have hnew : key item ∉ kept.map key := by
      rw [List.map_append, List.map_cons, List.nodup_append] at hnodup
      exact fun hmem => hnodup.2.2 _ hmem _ List.mem_cons_self rfl
    rw [List.map_cons, List.foldl_cons, remove_append_cons hnew]
    exact ih ((hrest.map key).nodup hnodup)

/-- With distinct keys a removal keeps exactly the elements with other keys. -/
theorem remove_eq_filter {items : List α} (hnodup : (items.map key).Nodup) (wanted : κ) :
    remove key wanted items = items.filter (fun item => key item ≠ wanted) := by
  induction items with
  | nil => rfl
  | cons item rest ih =>
    by_cases hkey : key item = wanted
    · subst hkey
      have hother : ∀ other ∈ rest, key other ≠ key item := fun other hother => key_ne_of_nodup_cons hnodup hother
      rw [remove, List.eraseP_cons_of_pos (by simp), List.filter_cons_of_neg (by simp),
        List.filter_eq_self.mpr (by simpa using hother)]
    · rw [remove, List.eraseP_cons_of_neg (by simpa using hkey), List.filter_cons_of_pos (by simpa using hkey)]
      exact congrArg _ (ih (List.nodup_cons.mp hnodup).2)

/-- An update through its key shows at that key only. -/
theorem lookup_update {change : α → α} (hkey : ∀ item, key (change item) = key item) (wanted other : κ)
    (items : List α) : lookup key (update key wanted change items) other =
      if other = wanted then (lookup key items other).map change else lookup key items other := by
  induction items with
  | nil => simp [update, lookup]
  | cons item rest ih =>
    rw [lookup] at ih
    by_cases hitem : key item = wanted
    · rw [update, if_pos hitem]
      by_cases hother : other = wanted
      · subst hother
        simp [lookup, hkey, hitem]
      · have hne : key item ≠ other := fun hsame => hother (hsame.symm.trans hitem)
        simp [lookup, hkey, hne, hother]
    · rw [update, if_neg hitem]
      by_cases hsame : key item = other
      · have hne : other ≠ wanted := fun hother => hitem (hsame.trans hother)
        simp [lookup, hsame, hne]
      · simp only [lookup, List.find?_cons, hsame, decide_false]
        exact ih

theorem lookup_append_singleton (items : List α) (item : α) (wanted : κ) :
    lookup key (items ++ [item]) wanted =
      (lookup key items wanted).or (if key item = wanted then some item else none) := by
  rw [lookup, List.find?_append, List.find?_singleton]
  simp [lookup]

/-- What was put is found at its key, and nothing changes at another one. -/
theorem lookup_put (item : α) (items : List α) (wanted : κ) :
    lookup key (put key item items) wanted = if wanted = key item then some item else lookup key items wanted := by
  unfold put
  split
  · rename_i hpresent
    induction items with
    | nil => cases hpresent
    | cons first rest ih =>
      rw [update]
      by_cases hfirst : key first = key item
      · rw [if_pos hfirst]
        by_cases hwanted : key item = wanted
        · simp [lookup, hwanted]
        · simp [lookup, hfirst, hwanted, Ne.symm hwanted]
      · have hrest : (lookup key rest (key item)).isSome := by
          simpa only [lookup, List.find?_cons, hfirst, decide_false] using hpresent
        rw [if_neg hfirst]
        by_cases hsame : key first = wanted
        · have hne : wanted ≠ key item := fun hwanted => hfirst (hsame.trans hwanted)
          simp [lookup, hsame, hne]
        · simpa only [lookup, List.find?_cons, hsame, decide_false] using ih hrest
  · rename_i habsent
    rw [Option.not_isSome_iff_eq_none] at habsent
    rw [lookup_append_singleton]
    by_cases hwanted : wanted = key item
    · subst hwanted
      simp [habsent]
    · simp [hwanted, Ne.symm hwanted]

theorem mem_update {change : α → α} {wanted : κ} {items : List α} {other : α}
    (hother : other ∈ update key wanted change items) :
    other ∈ items ∨ ∃ item, lookup key items wanted = some item ∧ other = change item := by
  induction items with
  | nil => cases hother
  | cons first rest ih =>
    rw [update] at hother
    by_cases hfirst : key first = wanted
    · rw [if_pos hfirst] at hother
      obtain rfl | hrest := List.mem_cons.mp hother
      · exact .inr ⟨first, by simp [lookup, hfirst], rfl⟩
      · exact .inl (List.mem_cons_of_mem first hrest)
    · rw [if_neg hfirst] at hother
      obtain rfl | hrest := List.mem_cons.mp hother
      · exact .inl List.mem_cons_self
      · refine (ih hrest).imp (List.mem_cons_of_mem first) ?_
        rintro ⟨item, hitem, rfl⟩
        exact ⟨item, by simpa only [lookup, List.find?_cons, hfirst, decide_false] using hitem, rfl⟩

theorem mem_put {item other : α} {items : List α} (hother : other ∈ put key item items) :
    other ∈ items ∨ other = item := by
  unfold put at hother
  split at hother
  · clear * - hother
    induction items with
    | nil => cases hother
    | cons first rest ih =>
      rw [update] at hother
      split at hother
      · exact (List.mem_cons.mp hother).symm.imp_left (List.mem_cons_of_mem first)
      · obtain rfl | hrest := List.mem_cons.mp hother
        · exact .inl List.mem_cons_self
        · exact (ih hrest).imp_left (List.mem_cons_of_mem first)
  · exact (List.mem_append.mp hother).imp_right List.mem_singleton.mp

/-- Putting an element changes nothing exactly if it is the one that is found. -/
theorem put_eq_self_iff (item : α) (items : List α) :
    put key item items = items ↔ lookup key items (key item) = some item := by
  constructor
  · intro hsame
    have hput : lookup key (put key item items) (key item) = some item := by
      rw [lookup_put, if_pos rfl]
    rwa [hsame] at hput
  · intro hlookup
    rw [put, hlookup, Option.isSome_some, if_pos rfl]
    induction items with
    | nil => rfl
    | cons first rest ih =>
      rw [update]
      by_cases hfirst : key first = key item
      · simp only [lookup, List.find?_cons, hfirst, decide_true, Option.some.injEq] at hlookup
        rw [if_pos hfirst, hlookup]
      · simp only [lookup, List.find?_cons, hfirst, decide_false] at hlookup
        rw [if_neg hfirst, ih hlookup]

theorem map_key_replace (item : α) (items : List α) :
    (update key (key item) (fun _ => item) items).map key = items.map key := by
  induction items with
  | nil => rfl
  | cons first rest ih =>
    rw [update]
    split
    · rename_i hfirst
      rw [List.map_cons, List.map_cons, hfirst]
    · rw [List.map_cons, List.map_cons, ih]

theorem nodup_put {items : List α} (hnodup : (items.map key).Nodup) (item : α) :
    ((put key item items).map key).Nodup := by
  unfold put
  split
  · rwa [map_key_replace]
  · rename_i habsent
    rw [Option.not_isSome_iff_eq_none, lookup_eq_none_iff] at habsent
    rw [List.map_append, List.map_singleton, ← List.concat_eq_append]
    exact hnodup.concat habsent

/-- A removal does not show at another key, even if keys repeat. -/
theorem lookup_remove_of_ne {wanted other : κ} (hother : other ≠ wanted) (items : List α) :
    lookup key (remove key wanted items) other = lookup key items other := by
  induction items with
  | nil => rfl
  | cons item rest ih =>
    by_cases hitem : key item = wanted
    · have hne : key item ≠ other := fun hsame => hother (hsame.symm.trans hitem)
      simp [remove, lookup, hitem, Ne.symm hother]
    · rw [remove, List.eraseP_cons_of_neg (by simpa using hitem)]
      by_cases hsame : key item = other
      · simp [lookup, hsame]
      · simpa only [lookup, remove, List.find?_cons, hsame, decide_false] using ih

theorem lookup_remove {items : List α} (hnodup : (items.map key).Nodup) (wanted other : κ) :
    lookup key (remove key wanted items) other = if other = wanted then none else lookup key items other := by
  by_cases hother : other = wanted
  · subst hother
    rw [if_pos rfl, lookup_eq_none_iff, remove_eq_filter hnodup]
    simp
  · rw [if_neg hother, lookup_remove_of_ne hother]

section Map

variable {β : Type} {outer : β → κ} {view : β → α}

/-- A lookup sees through a map that keeps the keys. -/
theorem lookup_map (hkey : ∀ item, key (view item) = outer item) (wanted : κ) (items : List β) :
    lookup key (items.map view) wanted = (lookup outer items wanted).map view := by
  simp only [lookup, List.find?_map, Function.comp_def, hkey]

theorem map_update (hkey : ∀ item, key (view item) = outer item) {inner : α → α} {change : β → β}
    (hview : ∀ item, view (change item) = inner (view item)) (wanted : κ) (items : List β) :
    (update outer wanted change items).map view = update key wanted inner (items.map view) := by
  induction items with
  | nil => rfl
  | cons item rest ih =>
    rw [update, List.map_cons, update, hkey]
    split
    · rw [List.map_cons, hview]
    · rw [List.map_cons, ih]

end Map

end KeyedList
