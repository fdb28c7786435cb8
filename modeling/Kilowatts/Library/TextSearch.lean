import Mathlib.Data.List.Infix
import Mathlib.Data.List.TakeWhile

/-!
Searching a text for a key, and for a key at the start of one of the segments that a
separator divides the text into.
-/

namespace TextSearch

variable {α : Type} [DecidableEq α] {text key segment rest : List α} {separator : α} {position : Nat}

/-- Where the key first occurs, as `strstr` finds it. -/
def strstr (text key : List α) : Option Nat :=
  (List.range (text.length + 1)).find? fun position => key.isPrefixOf (text.drop position)

omit [DecidableEq α] in
theorem lt_length_of_prefix_drop (hkey : key ≠ []) (hoccurs : key <+: text.drop position) : position < text.length := by
  by_contra hpast
  rw [List.drop_eq_nil_of_le (not_lt.mp hpast), List.prefix_nil] at hoccurs
  exact hkey hoccurs

theorem strstr_eq_some (hfound : strstr text key = some position) :
    key <+: text.drop position ∧ ∀ earlier < position, ¬ key <+: text.drop earlier := by
  rw [strstr, List.find?_range_eq_some] at hfound
  obtain ⟨hoccurs, -, hearlier⟩ := hfound
  refine ⟨List.isPrefixOf_iff_prefix.mp hoccurs, fun earlier hlt hoccurs => ?_⟩
  have hnot := hearlier earlier hlt
  rw [List.isPrefixOf_iff_prefix.mpr hoccurs] at hnot
  cases hnot

theorem strstr_eq_none (hkey : key ≠ []) (hfound : strstr text key = none) (position : Nat) :
    ¬ key <+: text.drop position := by
  intro hoccurs
  have hposition := lt_length_of_prefix_drop hkey hoccurs
  rw [strstr, List.find?_range_eq_none] at hfound
  have hnot := hfound position (by omega)
  rw [List.isPrefixOf_iff_prefix.mpr hoccurs] at hnot
  cases hnot

theorem strstr_isSome_iff : (strstr text key).isSome = true ↔ key <:+: text := by
  rw [strstr, List.find?_isSome]
  constructor
  · rintro ⟨position, -, hoccurs⟩
    exact (List.isPrefixOf_iff_prefix.mp hoccurs).isInfix.trans (List.drop_suffix position text).isInfix
  · rintro ⟨front, back, rfl⟩
    refine ⟨front.length, List.mem_range.mpr (by simp only [List.length_append]; omega), ?_⟩
    rw [List.isPrefixOf_iff_prefix, List.append_assoc, List.drop_left]
    exact List.prefix_append key back

theorem takeWhile_ne_of_notMem (hsegment : separator ∉ segment) : segment.takeWhile (· ≠ separator) = segment := by
  rw [List.takeWhile_eq_self_iff]
  intro item hitem
  rw [decide_eq_true_eq]
  rintro rfl
  exact hsegment hitem

theorem takeWhile_ne_append (segment rest : List α) (separator : α) :
    (segment ++ separator :: rest).takeWhile (· ≠ separator) = segment.takeWhile (· ≠ separator) := by
  induction segment with
  | nil => rw [List.nil_append, List.takeWhile_cons_of_neg (by simp), List.takeWhile_nil]
  | cons item segment ih => rw [List.cons_append, List.takeWhile_cons, List.takeWhile_cons, ih]

/-- The key occurs at the start of a segment. -/
def AnchoredAt (separator : α) (text key : List α) (position : Nat) : Prop :=
  key <+: text.drop position ∧ (position = 0 ∨ text[position - 1]? = some separator)

omit [DecidableEq α]

/-- No segment starts within a key that has no separator, nor right behind one that
starts no segment. -/
theorem not_anchoredAt_within (hseparator : separator ∉ key) (hoccurs : key <+: text.drop position) {later : Nat}
    (hafter : position < later) (hwithin : later < position + key.length) :
    ¬ AnchoredAt separator text key later := by
  rintro ⟨-, hzero | hbefore⟩
  · omega
  · obtain ⟨tail, htail⟩ := hoccurs
    apply hseparator
    have hkey : (key ++ tail)[later - 1 - position]? = key[later - 1 - position]? :=
      List.getElem?_append_left (by omega)
    rw [htail, List.getElem?_drop, show position + (later - 1 - position) = later - 1 by omega, hbefore] at hkey
    exact List.mem_of_getElem? hkey.symm

theorem prefix_append_separator_iff (hseparator : separator ∉ key) :
    key <+: segment ++ separator :: rest ↔ key <+: segment := by
  refine ⟨fun hoccurs => ?_, fun hoccurs => hoccurs.trans (List.prefix_append _ _)⟩
  by_cases hlength : key.length ≤ segment.length
  · exact List.prefix_of_prefix_length_le hoccurs (List.prefix_append _ _) hlength
  · have hsegment : segment ++ [separator] <+: key :=
      List.prefix_of_prefix_length_le ⟨rest, by rw [List.append_assoc, List.singleton_append]⟩ hoccurs
        (by rw [List.length_append, List.length_singleton]; omega)
    exact absurd (hsegment.subset (List.mem_append_right _ (List.mem_singleton_self _))) hseparator

/-- The only segment of a text without separators starts with it. -/
theorem anchoredAt_iff_of_notMem (hsegment : separator ∉ segment) :
    AnchoredAt separator segment key position ↔ position = 0 ∧ key <+: segment := by
  constructor
  · rintro ⟨hoccurs, rfl | hbefore⟩
    · exact ⟨rfl, hoccurs⟩
    · exact absurd (List.mem_of_getElem? hbefore) hsegment
  · rintro ⟨rfl, hoccurs⟩
    exact ⟨hoccurs, .inl rfl⟩

/-- The segments of a text are its first one, and those behind the separator. -/
theorem anchoredAt_append_iff (hkey : separator ∉ key) (hsegment : separator ∉ segment) :
    AnchoredAt separator (segment ++ separator :: rest) key position ↔
      (position = 0 ∧ key <+: segment) ∨
        ∃ later, position = segment.length + 1 + later ∧ AnchoredAt separator rest key later := by
  have hdrop : ∀ later, (segment ++ separator :: rest).drop (segment.length + 1 + later) = rest.drop later := by
    intro later
    rw [List.append_cons, List.drop_append, List.drop_eq_nil_of_le (by simp), List.nil_append]
    congr 1
    simp
  constructor
  · rintro ⟨hoccurs, hanchor⟩
    cases position with
    | zero =>
      rw [List.drop_zero, prefix_append_separator_iff hkey] at hoccurs
      exact .inl ⟨rfl, hoccurs⟩
    | succ before =>
      have hbefore := hanchor.resolve_left (Nat.succ_ne_zero before)
      rw [Nat.succ_sub_one] at hbefore
      by_cases hwithin : before < segment.length
      · rw [List.getElem?_append_left hwithin] at hbefore
        exact absurd (List.mem_of_getElem? hbefore) hsegment
      · obtain ⟨later, rfl⟩ := Nat.exists_eq_add_of_le (not_lt.mp hwithin)
        refine .inr ⟨later, by omega, ?_, ?_⟩
        · rw [← hdrop later, Nat.add_right_comm]
          exact hoccurs
        · cases later with
          | zero => exact .inl rfl
          | succ later =>
            rw [List.getElem?_append_right (by omega), Nat.add_sub_cancel_left, List.getElem?_cons_succ] at hbefore
            exact .inr hbefore
  · rintro (⟨rfl, hoccurs⟩ | ⟨later, rfl, hoccurs, hanchor⟩)
    · exact ⟨(prefix_append_separator_iff hkey).mpr hoccurs, .inl rfl⟩
    · refine ⟨(hdrop later).symm ▸ hoccurs, .inr ?_⟩
      rw [List.getElem?_append_right (by omega)]
      cases later with
      | zero => rw [show segment.length + 1 + 0 - 1 - segment.length = 0 by omega, List.getElem?_cons_zero]
      | succ later =>
        rw [show segment.length + 1 + (later + 1) - 1 - segment.length = later + 1 by omega, List.getElem?_cons_succ]
        exact hanchor.resolve_left (Nat.succ_ne_zero later)

/-- A key with one separator stands where that separator stands. -/
theorem infix_around_iff {left right before after : List α} (hbefore : separator ∉ before) (hafter : separator ∉ after) :
    left ++ separator :: right <:+: before ++ separator :: after ↔ left <:+ before ∧ right <+: after := by
  constructor
  · rintro ⟨front, back, hsplit⟩
    have hsides : (front ++ left) ++ separator :: (right ++ back) = before ++ separator :: after := by
      rw [← hsplit]
      simp only [List.append_assoc, List.cons_append]
    obtain ⟨middle, rfl, hmiddle⟩ | ⟨middle, hleft, hmiddle⟩ := List.append_eq_append_iff.mp hsides
    · cases middle with
      | nil =>
        rw [List.append_nil]
        exact ⟨List.suffix_append front left, ⟨back, (List.cons.inj hmiddle).2⟩⟩
      | cons first middle =>
        obtain ⟨rfl, -⟩ := List.cons.inj hmiddle
        exact absurd (List.mem_append_right _ List.mem_cons_self) hbefore
    · cases middle with
      | nil =>
        rw [List.append_nil] at hleft
        exact ⟨hleft ▸ List.suffix_append front left, ⟨back, (List.cons.inj hmiddle).2.symm⟩⟩
      | cons first middle =>
        obtain ⟨rfl, rfl⟩ := List.cons.inj hmiddle
        exact absurd (List.mem_append_right _ List.mem_cons_self) hafter
  · rintro ⟨⟨front, rfl⟩, ⟨back, rfl⟩⟩
    exact ⟨front, back, by simp only [List.append_assoc, List.cons_append]⟩

/-- A key without separators stands within one of the parts that a separator divides. -/
theorem infix_append_separator_iff (hkey : separator ∉ key) (hne : key ≠ []) :
    key <:+: segment ++ separator :: rest ↔ key <:+: segment ∨ key <:+: rest := by
  constructor
  · rintro ⟨front, back, hsplit⟩
    rw [List.append_assoc] at hsplit
    obtain ⟨middle, rfl, hmiddle⟩ | ⟨middle, rfl, hmiddle⟩ := List.append_eq_append_iff.mp hsplit
    · have hoccurs : key <+: middle ++ separator :: rest := ⟨back, hmiddle⟩
      rw [prefix_append_separator_iff hkey] at hoccurs
      exact .inl (hoccurs.isInfix.trans (List.suffix_append front middle).isInfix)
    · cases middle with
      | nil =>
        rw [List.nil_append] at hmiddle
        cases key with
        | nil => exact absurd rfl hne
        | cons first key =>
          obtain ⟨rfl, -⟩ := List.cons.inj hmiddle
          exact absurd List.mem_cons_self hkey
      | cons first middle =>
        obtain ⟨-, rfl⟩ := List.cons.inj hmiddle
        exact .inr ⟨middle, back, List.append_assoc middle key back⟩
  · rintro (hpart | hpart)
    · exact hpart.trans (List.prefix_append segment _).isInfix
    · exact hpart.trans ((List.suffix_cons separator rest).trans (List.suffix_append segment _)).isInfix

end TextSearch
