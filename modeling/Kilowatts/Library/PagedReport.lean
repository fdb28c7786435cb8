import Mathlib.Data.Finset.Range
import Mathlib.Data.Finset.Union
import Mathlib.Data.List.Nodup
import Mathlib.Logic.Function.Basic

/-!
A table kept by a receiver from reports that arrive page by page. Every page
overwrites the entries it names. Once all pages of a report have arrived, the
entries that none of them named are dropped, and the bookkeeping starts anew.
-/

namespace PagedReport

variable {ι κ β : Type}

structure Page (ι κ β : Type) where
  report : ι
  index : Nat
  total : Nat
  entries : List (κ × β)

/-- The table, and which pages of which report have arrived since the last drop. -/
@[ext]
structure View (ι κ β : Type) where
  report : ι
  received : Finset Nat
  named : Finset κ
  contents : κ → Option β

def Page.keys (page : Page ι κ β) : List κ := page.entries.map Prod.fst

section Overwrite

variable [DecidableEq κ]

def overwrite (entries : List (κ × β)) (contents : κ → Option β) : κ → Option β :=
  entries.foldl (fun contents entry => Function.update contents entry.1 (some entry.2)) contents

theorem overwrite_cons (entry : κ × β) (entries : List (κ × β)) (contents : κ → Option β) :
    overwrite (entry :: entries) contents =
      overwrite entries (Function.update contents entry.1 (some entry.2)) := rfl

theorem overwrite_of_notMem {entries : List (κ × β)} {key : κ} (hkey : key ∉ entries.map Prod.fst)
    (contents : κ → Option β) : overwrite entries contents key = contents key := by
  induction entries generalizing contents with
  | nil => rfl
  | cons entry entries ih =>
    rw [List.map_cons, List.mem_cons, not_or] at hkey
    rw [overwrite_cons, ih hkey.2, Function.update_of_ne hkey.1]

theorem overwrite_of_mem {entries : List (κ × β)} (hnodup : (entries.map Prod.fst).Nodup) {entry : κ × β}
    (hentry : entry ∈ entries) (contents : κ → Option β) : overwrite entries contents entry.1 = some entry.2 := by
  induction entries generalizing contents with
  | nil => exact absurd hentry List.not_mem_nil
  | cons first entries ih =>
    rw [List.map_cons, List.nodup_cons] at hnodup
    rw [overwrite_cons]
    obtain rfl | hrest := List.mem_cons.mp hentry
    · rw [overwrite_of_notMem hnodup.1, Function.update_self]
    · exact ih hnodup.2 hrest _

/-- What entries leave at a key: the last of them that names it, or what was there. -/
theorem overwrite_eq_or (entries : List (κ × β)) (contents : κ → Option β) (key : κ) :
    overwrite entries contents key = (overwrite entries (fun _ => none) key).or (contents key) := by
  induction entries generalizing contents with
  | nil => rfl
  | cons entry entries ih =>
    rw [overwrite_cons, overwrite_cons, ih, ih (Function.update _ _ _)]
    by_cases hkey : key = entry.1
    · subst hkey
      rw [Function.update_self, Function.update_self]
      cases overwrite entries (fun _ => none) entry.1 <;> rfl
    · rw [Function.update_of_ne hkey, Function.update_of_ne hkey, Option.or_none]

theorem mem_of_overwrite {entries : List (κ × β)} {key : κ} {value : β}
    (hvalue : overwrite entries (fun _ => none) key = some value) : (key, value) ∈ entries := by
  induction entries with
  | nil => cases hvalue
  | cons entry entries ih =>
    rw [overwrite_cons, overwrite_eq_or, Option.or_eq_some_iff] at hvalue
    obtain hrest | ⟨-, hfirst⟩ := hvalue
    · exact List.mem_cons_of_mem entry (ih hrest)
    · by_cases hkey : key = entry.1
      · subst hkey
        rw [Function.update_self, Option.some.injEq] at hfirst
        subst hfirst
        exact List.mem_cons_self
      · rw [Function.update_of_ne hkey] at hfirst
        cases hfirst

theorem overwrite_ne_none {entries : List (κ × β)} {contents : κ → Option β} {key : κ}
    (hkey : contents key ≠ none) : overwrite entries contents key ≠ none := by
  induction entries generalizing contents with
  | nil => exact hkey
  | cons entry entries ih =>
    rw [overwrite_cons]
    apply ih
    by_cases hsame : key = entry.1
    · subst hsame
      rw [Function.update_self]
      exact Option.some_ne_none _
    · rwa [Function.update_of_ne hsame]

end Overwrite

namespace View

variable [DecidableEq ι] [DecidableEq κ]

/-- A page of another report starts the bookkeeping anew. -/
def select (report : ι) (view : View ι κ β) : View ι κ β :=
  if view.report = report then view else { view with report, received := ∅, named := ∅ }

def record (page : Page ι κ β) (view : View ι κ β) : View ι κ β :=
  { view with
    received := insert page.index view.received
    named := view.named ∪ page.keys.toFinset
    contents := overwrite page.entries view.contents }

/-- Drops what no page named, once every page has arrived. -/
def finish (total : Nat) (view : View ι κ β) : View ι κ β :=
  if view.received = Finset.range total then
    { view with
      received := ∅
      named := ∅
      contents := fun key => if key ∈ view.named then view.contents key else none }
  else view

/-- A page that has arrived already changes nothing but the selection. -/
def applyPage (page : Page ι κ β) (view : View ι κ β) : View ι κ β :=
  let selected := view.select page.report
  if page.index ∈ selected.received then selected else (selected.record page).finish page.total

/-- The page is the last one that was missing. -/
def Completes (page : Page ι κ β) (view : View ι κ β) : Prop :=
  page.index ∉ (view.select page.report).received ∧
    insert page.index (view.select page.report).received = Finset.range page.total

omit [DecidableEq κ] in
instance (page : Page ι κ β) (view : View ι κ β) : Decidable (view.Completes page) :=
  inferInstanceAs (Decidable (_ ∧ _))

section Counted

variable {α : Type}

/-- The items that stand for the pages counted so far, once a page of a report
has been selected. -/
def counted (page : Page ι κ β) (view : View ι κ β) (items : List α) : List α :=
  if view.report = page.report then items else []

/-- The items that stand for the counted pages after a page, which has its own item. -/
def collect (page : Page ι κ β) (view : View ι κ β) (items : List α) (item : α) : List α :=
  if view.Completes page then []
  else if page.index ∈ (view.select page.report).received then view.counted page items
  else view.counted page items ++ [item]

end Counted

omit [DecidableEq κ] in
theorem select_of_eq {report : ι} {view : View ι κ β} (hreport : view.report = report) : view.select report = view :=
  if_pos hreport

omit [DecidableEq κ] in
theorem select_of_ne {report : ι} {view : View ι κ β} (hreport : view.report ≠ report) :
    view.select report = { view with report, received := ∅, named := ∅ } :=
  if_neg hreport

omit [DecidableEq κ] in
@[simp] theorem select_contents (report : ι) (view : View ι κ β) : (view.select report).contents = view.contents := by
  unfold select
  split <;> rfl

omit [DecidableEq κ] in
@[simp] theorem select_report (report : ι) (view : View ι κ β) : (view.select report).report = report := by
  unfold select
  split
  · assumption
  · rfl

omit [DecidableEq κ] in
@[simp] theorem select_select (report : ι) (view : View ι κ β) :
    (view.select report).select report = view.select report :=
  select_of_eq (select_report report view)

theorem applyPage_select (page : Page ι κ β) (view : View ι κ β) :
    (view.select page.report).applyPage page = view.applyPage page := by
  simp only [applyPage, select_select]

theorem applyPage_of_mem {page : Page ι κ β} {view : View ι κ β} (hreport : view.report = page.report)
    (hindex : page.index ∈ view.received) : view.applyPage page = view := by
  simp only [applyPage, select_of_eq hreport, if_pos hindex]

theorem applyPage_of_notMem {page : Page ι κ β} {view : View ι κ β} (hreport : view.report = page.report)
    (hindex : page.index ∉ view.received) : view.applyPage page = (view.record page).finish page.total := by
  simp only [applyPage, select_of_eq hreport, if_neg hindex]

omit [DecidableEq ι] in
theorem finish_report (total : Nat) (view : View ι κ β) : (view.finish total).report = view.report := by
  unfold finish
  split <;> rfl

@[simp] theorem applyPage_report (page : Page ι κ β) (view : View ι κ β) :
    (view.applyPage page).report = page.report := by
  rw [← applyPage_select]
  by_cases hindex : page.index ∈ (view.select page.report).received
  · rw [applyPage_of_mem (select_report _ _) hindex, select_report]
  · rw [applyPage_of_notMem (select_report _ _) hindex, finish_report]
    exact select_report _ _

/-- An entry is dropped only by the last missing page, and only when no counted
page names it. -/
theorem applyPage_contents_ne_none_iff {page : Page ι κ β} {view : View ι κ β} {key : κ}
    (hkey : view.contents key ≠ none) :
    (view.applyPage page).contents key ≠ none ↔
      (view.Completes page → key ∈ (view.select page.report).named ∨ key ∈ page.keys) := by
  rw [← applyPage_select]
  rw [← select_contents page.report view] at hkey
  by_cases hindex : page.index ∈ (view.select page.report).received
  · rw [applyPage_of_mem (select_report _ _) hindex]
    exact ⟨fun _ hcompletes => absurd hindex hcompletes.1, fun _ => hkey⟩
  rw [applyPage_of_notMem (select_report _ _) hindex]
  have hkept : ((view.select page.report).record page).contents key ≠ none := overwrite_ne_none hkey
  have hnamed : key ∈ ((view.select page.report).record page).named ↔
      key ∈ (view.select page.report).named ∨ key ∈ page.keys := by
    rw [record, Finset.mem_union, List.mem_toFinset]
  by_cases hall : ((view.select page.report).record page).received = Finset.range page.total
  · rw [finish, if_pos hall, ← hnamed]
    dsimp only
    by_cases hmem : key ∈ ((view.select page.report).record page).named
    · rw [if_pos hmem]
      exact ⟨fun _ _ => hmem, fun _ => hkept⟩
    · rw [if_neg hmem]
      exact ⟨fun hne => absurd rfl hne, fun hcarried => absurd (hcarried ⟨hindex, hall⟩) hmem⟩
  · rw [finish, if_neg hall]
    exact ⟨fun _ hcompletes => absurd hcompletes.2 hall, fun _ => hkept⟩

/-- What a page says of a key, unless the page has arrived already. -/
def announced (page : Page ι κ β) (view : View ι κ β) (key : κ) : Option β :=
  if page.index ∈ (view.select page.report).received then none else overwrite page.entries (fun _ => none) key

theorem announced_ne_none {page : Page ι κ β} {view : View ι κ β} {key : κ}
    (hannounced : view.announced page key ≠ none) :
    page.index ∉ (view.select page.report).received ∧ key ∈ page.keys := by
  unfold announced at hannounced
  split at hannounced
  · exact absurd rfl hannounced
  · rename_i hindex
    refine ⟨hindex, ?_⟩
    by_contra hkey
    exact hannounced (overwrite_of_notMem hkey _)

theorem record_contents {page : Page ι κ β} {view : View ι κ β}
    (hindex : page.index ∉ (view.select page.report).received) (key : κ) :
    ((view.select page.report).record page).contents key = (view.announced page key).or (view.contents key) := by
  rw [announced, if_neg hindex, record]
  dsimp only
  rw [overwrite_eq_or, select_contents]

/-- An entry that the report names has what its pages say of it, and stays named until
the report is complete. -/
theorem applyPage_contents_of_named {page : Page ι κ β} {view : View ι κ β} {key : κ}
    (hnamed : key ∈ (view.select page.report).named ∨ view.announced page key ≠ none) :
    (view.applyPage page).contents key = (view.announced page key).or (view.contents key) ∧
      (¬ view.Completes page → key ∈ (view.applyPage page).named) := by
  rw [← applyPage_select]
  by_cases hindex : page.index ∈ (view.select page.report).received
  · have hnone : view.announced page key = none := if_pos hindex
    rw [applyPage_of_mem (select_report _ _) hindex, hnone, Option.none_or, select_contents]
    exact ⟨rfl, fun _ => hnamed.resolve_right fun hne => hne hnone⟩
  have hrecorded : key ∈ ((view.select page.report).record page).named := by
    rw [record, Finset.mem_union, List.mem_toFinset]
    exact hnamed.imp_right fun hne => (announced_ne_none hne).2
  rw [applyPage_of_notMem (select_report _ _) hindex, ← record_contents hindex]
  by_cases hall : ((view.select page.report).record page).received = Finset.range page.total
  · rw [finish, if_pos hall]
    exact ⟨if_pos hrecorded, fun hcompletes => absurd ⟨hindex, hall⟩ hcompletes⟩
  · rw [finish, if_neg hall]
    exact ⟨rfl, fun _ => hrecorded⟩

/-- Any other entry is kept or dropped. -/
theorem applyPage_contents_cases (page : Page ι κ β) (view : View ι κ β) (key : κ) :
    (view.applyPage page).contents key = (view.announced page key).or (view.contents key) ∨
      (view.announced page key = none ∧ (view.applyPage page).contents key = none) := by
  by_cases hannounced : view.announced page key = none
  · rw [hannounced, Option.none_or, ← applyPage_select]
    by_cases hindex : page.index ∈ (view.select page.report).received
    · rw [applyPage_of_mem (select_report _ _) hindex, select_contents]
      exact .inl rfl
    have hrecord := record_contents hindex key
    rw [hannounced, Option.none_or] at hrecord
    rw [applyPage_of_notMem (select_report _ _) hindex, ← hrecord, finish]
    split
    · dsimp only
      split
      · exact .inl rfl
      · exact .inr ⟨rfl, rfl⟩
    · exact .inl rfl
  · exact .inl (applyPage_contents_of_named (.inr hannounced)).1

/-- The bookkeeping is that of these pages. -/
structure BackedBy (view : View ι κ β) (pages : List (Page ι κ β)) : Prop where
  received : view.received = (pages.map Page.index).toFinset
  named : view.named = (pages.flatMap Page.keys).toFinset

section Counted

variable {α : Type}

omit [DecidableEq κ] in
theorem map_counted (f : α → Page ι κ β) (page : Page ι κ β) (view : View ι κ β) (items : List α) :
    (view.counted page items).map f = view.counted page (items.map f) := by
  unfold counted
  split <;> rfl

omit [DecidableEq κ] in
theorem map_collect (f : α → Page ι κ β) (page : Page ι κ β) (view : View ι κ β) (items : List α) (item : α) :
    (view.collect page items item).map f = view.collect page (items.map f) (f item) := by
  unfold collect
  split
  · rfl
  split
  · exact map_counted f page view items
  · rw [List.map_append, map_counted]
    rfl

end Counted

theorem BackedBy.select {view : View ι κ β} {pages : List (Page ι κ β)} (hbacked : view.BackedBy pages)
    (page : Page ι κ β) : (view.select page.report).BackedBy (view.counted page pages) := by
  by_cases hreport : view.report = page.report
  · rw [select_of_eq hreport, counted, if_pos hreport]
    exact hbacked
  · rw [select_of_ne hreport, counted, if_neg hreport]
    exact ⟨rfl, rfl⟩

theorem BackedBy.applyPage {view : View ι κ β} {pages : List (Page ι κ β)} (hbacked : view.BackedBy pages)
    (page : Page ι κ β) : (view.applyPage page).BackedBy (view.collect page pages page) := by
  have hselected := hbacked.select page
  rw [← applyPage_select]
  by_cases hindex : page.index ∈ (view.select page.report).received
  · rw [applyPage_of_mem (select_report _ _) hindex, collect, if_neg fun hcompletes => hcompletes.1 hindex,
      if_pos hindex]
    exact hselected
  rw [applyPage_of_notMem (select_report _ _) hindex]
  by_cases hall : ((view.select page.report).record page).received = Finset.range page.total
  · rw [finish, if_pos hall, collect, if_pos ⟨hindex, hall⟩]
    exact ⟨rfl, rfl⟩
  · rw [finish, if_neg hall, collect, if_neg fun hcompletes => hall hcompletes.2, if_neg hindex]
    constructor
    · rw [record, hselected.received, List.map_append, List.toFinset_append, List.map_singleton,
        List.toFinset_cons, List.toFinset_nil, Finset.union_insert, Finset.union_empty]
    · rw [record, hselected.named, List.flatMap_append, List.toFinset_append, List.flatMap_singleton]

end View

/-- A whole report: what each of its pages says, with no key twice. -/
structure Snapshot (ι κ β : Type) where
  report : ι
  pages : List (List (κ × β))
  pages_ne_nil : pages ≠ []
  keys_nodup : (pages.flatten.map Prod.fst).Nodup

namespace Snapshot

variable [DecidableEq κ]

/-- The table that the report describes. -/
def contents (snapshot : Snapshot ι κ β) : κ → Option β := overwrite snapshot.pages.flatten fun _ => none

structure IsPage (snapshot : Snapshot ι κ β) (page : Page ι κ β) : Prop where
  report : page.report = snapshot.report
  total : page.total = snapshot.pages.length
  entries : snapshot.pages[page.index]? = some page.entries

variable {snapshot : Snapshot ι κ β}

theorem contents_of_mem {entry : κ × β} (hentry : entry ∈ snapshot.pages.flatten) :
    snapshot.contents entry.1 = some entry.2 :=
  overwrite_of_mem snapshot.keys_nodup hentry _

theorem contents_of_notMem {key : κ} (hkey : key ∉ snapshot.pages.flatten.map Prod.fst) :
    snapshot.contents key = none :=
  overwrite_of_notMem hkey _

omit [DecidableEq κ] in
theorem mem_flatten_of_getElem? {index : Nat} {entries : List (κ × β)} {entry : κ × β}
    (hpage : snapshot.pages[index]? = some entries) (hentry : entry ∈ entries) : entry ∈ snapshot.pages.flatten :=
  List.mem_flatten_of_mem (List.mem_of_getElem? hpage) hentry

omit [DecidableEq κ] in
theorem page_keys_nodup {index : Nat} {entries : List (κ × β)} (hpage : snapshot.pages[index]? = some entries) :
    (entries.map Prod.fst).Nodup := by
  have hsublist := List.sublist_flatten_of_mem (List.mem_of_getElem? hpage)
  exact (hsublist.map Prod.fst).nodup snapshot.keys_nodup

omit [DecidableEq κ] in
theorem IsPage.index_lt {page : Page ι κ β} (hpage : snapshot.IsPage page) : page.index < snapshot.pages.length :=
  (List.getElem?_eq_some_iff.mp hpage.entries).1

/-- What a page leaves of an entry of its own report. -/
theorem IsPage.overwrite_entry {page : Page ι κ β} (hpage : snapshot.IsPage page) {contents : κ → Option β}
    {entry : κ × β} (hentry : entry ∈ snapshot.pages.flatten)
    (hknown : entry ∈ page.entries ∨ contents entry.1 = some entry.2) :
    overwrite page.entries contents entry.1 = some entry.2 := by
  by_cases hkey : entry.1 ∈ page.entries.map Prod.fst
  · obtain ⟨other, hother, hsame⟩ := List.mem_map.mp hkey
    have hother' := mem_flatten_of_getElem? hpage.entries hother
    have hequal : other = entry := List.inj_on_of_nodup_map snapshot.keys_nodup hother' hentry hsame
    subst hequal
    exact overwrite_of_mem (page_keys_nodup hpage.entries) hother _
  · rw [overwrite_of_notMem hkey]
    exact hknown.resolve_left fun hmem => hkey (List.mem_map_of_mem hmem)

/-- A table that agrees with the report already is not changed by its pages. -/
theorem IsPage.overwrite_contents {page : Page ι κ β} (hpage : snapshot.IsPage page) :
    overwrite page.entries snapshot.contents = snapshot.contents := by
  funext key
  by_cases hkey : key ∈ page.entries.map Prod.fst
  · obtain ⟨entry, hentry, rfl⟩ := List.mem_map.mp hkey
    have hmem := mem_flatten_of_getElem? hpage.entries hentry
    rw [overwrite_of_mem (page_keys_nodup hpage.entries) hentry, contents_of_mem hmem]
  · exact overwrite_of_notMem hkey _

end Snapshot

end PagedReport
