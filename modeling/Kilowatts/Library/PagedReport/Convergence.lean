import Kilowatts.Library.PagedReport
import Mathlib.Data.Finset.Lattice.Fold

/-!
The pages of one report may arrive in every order and any number of times. Once
each has arrived, the table is the one that the report describes, and later copies
do not change it.
-/

namespace PagedReport

variable {ι κ β : Type} [DecidableEq κ]

/-- The state while pages of `snapshot` arrive, `seen` being those that have
arrived so far. Copies that arrive after a drop are collected once more. -/
structure Collecting (snapshot : Snapshot ι κ β) (seen : Finset Nat) (view : View ι κ β) : Prop where
  report : view.report = snapshot.report
  seen_subset : seen ⊆ Finset.range snapshot.pages.length
  received_subset : view.received ⊆ seen
  received_ne : view.received ≠ Finset.range snapshot.pages.length
  named : ∀ key, key ∈ view.named ↔
    ∃ index ∈ view.received, ∃ entries, snapshot.pages[index]? = some entries ∧ key ∈ entries.map Prod.fst
  contents : ∀ index ∈ seen, ∀ entries, snapshot.pages[index]? = some entries →
    ∀ entry ∈ entries, view.contents entry.1 = some entry.2
  outcome : view.received = seen ∨ view.contents = snapshot.contents

variable {snapshot : Snapshot ι κ β} {seen : Finset Nat} {view : View ι κ β} {page : Page ι κ β}

omit [DecidableEq κ] in
theorem Snapshot.range_ne_empty (snapshot : Snapshot ι κ β) : ∅ ≠ Finset.range snapshot.pages.length := by
  intro hempty
  have hzero : snapshot.pages.length = 0 := by simpa using hempty.symm
  exact snapshot.pages_ne_nil (List.eq_nil_of_length_eq_zero hzero)

theorem Collecting.named_record (hcollecting : Collecting snapshot seen view) (hpage : snapshot.IsPage page)
    (key : κ) : key ∈ (view.record page).named ↔
      ∃ index ∈ (view.record page).received, ∃ entries, snapshot.pages[index]? = some entries ∧
        key ∈ entries.map Prod.fst := by
  simp only [View.record, Finset.mem_union, hcollecting.named, List.mem_toFinset]
  constructor
  · rintro (⟨index, hindex, hentries⟩ | hkey)
    · exact ⟨index, Finset.mem_insert_of_mem hindex, hentries⟩
    · exact ⟨page.index, Finset.mem_insert_self _ _, page.entries, hpage.entries, hkey⟩
  · rintro ⟨index, hindex, entries, hentries, hkey⟩
    obtain rfl | hreceived := Finset.mem_insert.mp hindex
    · rw [hpage.entries, Option.some.injEq] at hentries
      subst hentries
      exact .inr hkey
    · exact .inl ⟨index, hreceived, entries, hentries, hkey⟩

theorem Collecting.contents_record (hcollecting : Collecting snapshot seen view) (hpage : snapshot.IsPage page) :
    ∀ index ∈ insert page.index seen, ∀ entries, snapshot.pages[index]? = some entries →
      ∀ entry ∈ entries, (view.record page).contents entry.1 = some entry.2 := by
  intro index hindex entries hentries entry hentry
  apply hpage.overwrite_entry (Snapshot.mem_flatten_of_getElem? hentries hentry)
  obtain rfl | hseen := Finset.mem_insert.mp hindex
  · rw [hpage.entries, Option.some.injEq] at hentries
    subst hentries
    exact .inl hentry
  · exact .inr (hcollecting.contents index hseen entries hentries entry hentry)

/-- The drop leaves exactly what the report describes. -/
theorem Collecting.contents_finish (hcollecting : Collecting snapshot seen view) (hpage : snapshot.IsPage page)
    (hcomplete : (view.record page).received = Finset.range snapshot.pages.length) :
    ((view.record page).finish page.total).contents = snapshot.contents := by
  funext key
  rw [View.finish, hpage.total, if_pos hcomplete]
  by_cases hkey : key ∈ snapshot.pages.flatten.map Prod.fst
  · obtain ⟨entry, hentry, rfl⟩ := List.mem_map.mp hkey
    obtain ⟨entries, hentries, hmem⟩ := List.mem_flatten.mp hentry
    obtain ⟨index, hindex⟩ := List.mem_iff_getElem?.mp hentries
    have hlt : index < snapshot.pages.length := (List.getElem?_eq_some_iff.mp hindex).1
    have hreceived : index ∈ (view.record page).received := hcomplete ▸ Finset.mem_range.mpr hlt
    have hnamed : entry.1 ∈ (view.record page).named :=
      (hcollecting.named_record hpage _).mpr ⟨index, hreceived, entries, hindex, List.mem_map_of_mem hmem⟩
    have hseen : index ∈ insert page.index seen := by
      obtain rfl | hold := Finset.mem_insert.mp hreceived
      · exact Finset.mem_insert_self _ _
      · exact Finset.mem_insert_of_mem (hcollecting.received_subset hold)
    rw [Snapshot.contents_of_mem hentry]
    refine (if_pos hnamed).trans ?_
    exact hcollecting.contents_record hpage index hseen entries hindex entry hmem
  · have hnamed : key ∉ (view.record page).named := by
      intro hnamed
      obtain ⟨index, -, entries, hentries, hmem⟩ := (hcollecting.named_record hpage _).mp hnamed
      obtain ⟨entry, hentry, rfl⟩ := List.mem_map.mp hmem
      exact hkey (List.mem_map_of_mem (Snapshot.mem_flatten_of_getElem? hentries hentry))
    rw [Snapshot.contents_of_notMem hkey]
    exact if_neg hnamed

variable [DecidableEq ι]

/-- One page, old or new. -/
theorem Collecting.applyPage (hcollecting : Collecting snapshot seen view) (hpage : snapshot.IsPage page) :
    Collecting snapshot (insert page.index seen) (view.applyPage page) := by
  have hreport : view.report = page.report := hcollecting.report.trans hpage.report.symm
  by_cases hindex : page.index ∈ view.received
  · rw [View.applyPage_of_mem hreport hindex, Finset.insert_eq_of_mem (hcollecting.received_subset hindex)]
    exact hcollecting
  rw [View.applyPage_of_notMem hreport hindex]
  have hseen : insert page.index seen ⊆ Finset.range snapshot.pages.length :=
    Finset.insert_subset (Finset.mem_range.mpr hpage.index_lt) hcollecting.seen_subset
  have hsubset : (view.record page).received ⊆ insert page.index seen :=
    Finset.insert_subset_insert _ hcollecting.received_subset
  by_cases hcomplete : (view.record page).received = Finset.range snapshot.pages.length
  · have hcontents := hcollecting.contents_finish hpage hcomplete
    have hfinish : (view.record page).finish page.total =
        { view.record page with
          received := ∅
          named := ∅
          contents := ((view.record page).finish page.total).contents } := by
      rw [View.finish, hpage.total, if_pos hcomplete]
    rw [hfinish, hcontents]
    refine ⟨hcollecting.report, hseen, Finset.empty_subset _, snapshot.range_ne_empty, by simp, ?_, .inr rfl⟩
    intro index _ entries hentries entry hentry
    exact Snapshot.contents_of_mem (Snapshot.mem_flatten_of_getElem? hentries hentry)
  · rw [View.finish, hpage.total, if_neg hcomplete]
    refine ⟨hcollecting.report, hseen, hsubset, hcomplete, hcollecting.named_record hpage,
      hcollecting.contents_record hpage, ?_⟩
    obtain hall | hsame := hcollecting.outcome
    · exact .inl (congrArg (insert page.index) hall)
    · refine .inr ?_
      change overwrite page.entries view.contents = snapshot.contents
      rw [hsame]
      exact hpage.overwrite_contents

/-- Pages of a report that the table agrees with already are harmless. -/
theorem Collecting.contents_applyPage (hcollecting : Collecting snapshot seen view) (hpage : snapshot.IsPage page)
    (hsame : view.contents = snapshot.contents) : (view.applyPage page).contents = snapshot.contents := by
  have hreport : view.report = page.report := hcollecting.report.trans hpage.report.symm
  by_cases hindex : page.index ∈ view.received
  · rw [View.applyPage_of_mem hreport hindex, hsame]
  rw [View.applyPage_of_notMem hreport hindex]
  by_cases hcomplete : (view.record page).received = Finset.range snapshot.pages.length
  · exact hcollecting.contents_finish hpage hcomplete
  · rw [View.finish, hpage.total, if_neg hcomplete]
    change overwrite page.entries view.contents = snapshot.contents
    rw [hsame]
    exact hpage.overwrite_contents

/-- Nothing of the report has arrived yet. -/
theorem Collecting.start (hreport : view.report ≠ snapshot.report) :
    Collecting snapshot ∅ (view.select snapshot.report) := by
  rw [View.select_of_ne hreport]
  exact ⟨rfl, Finset.empty_subset _, Finset.empty_subset _, snapshot.range_ne_empty, by simp, by simp, .inl rfl⟩

/-- The indices of the pages in a list of deliveries. -/
def indices (pages : List (Page ι κ β)) : Finset Nat := (pages.map Page.index).toFinset

theorem Collecting.foldl {pages : List (Page ι κ β)} (hcollecting : Collecting snapshot seen view)
    (hpages : ∀ page ∈ pages, snapshot.IsPage page) :
    Collecting snapshot (indices pages ∪ seen) (pages.foldl (fun view page => view.applyPage page) view) := by
  induction pages generalizing seen view with
  | nil => simpa [indices] using hcollecting
  | cons page pages ih =>
    have hstep := hcollecting.applyPage (hpages page List.mem_cons_self)
    have hrest := ih hstep fun other hother => hpages other (List.mem_cons_of_mem page hother)
    rw [List.foldl_cons]
    rw [Finset.union_insert, ← Finset.insert_union] at hrest
    simpa [indices] using hrest

theorem Collecting.contents_foldl {pages : List (Page ι κ β)} (hcollecting : Collecting snapshot seen view)
    (hpages : ∀ page ∈ pages, snapshot.IsPage page) (hsame : view.contents = snapshot.contents) :
    (pages.foldl (fun view page => view.applyPage page) view).contents = snapshot.contents := by
  induction pages generalizing seen view with
  | nil => exact hsame
  | cons page pages ih =>
    have hpage := hpages page List.mem_cons_self
    rw [List.foldl_cons]
    exact ih (hcollecting.applyPage hpage) (fun other hother => hpages other (List.mem_cons_of_mem page hother))
      (hcollecting.contents_applyPage hpage hsame)

omit [DecidableEq ι] in
/-- Once every page has been seen the table is the one of the report. -/
theorem Collecting.contents_eq (hcollecting : Collecting snapshot seen view)
    (hseen : Finset.range snapshot.pages.length ⊆ seen) : view.contents = snapshot.contents := by
  obtain hall | hsame := hcollecting.outcome
  · have hrange : seen = Finset.range snapshot.pages.length := hcollecting.seen_subset.antisymm hseen
    exact absurd (hall.trans hrange) hcollecting.received_ne
  · exact hsame

theorem foldl_select {pages : List (Page ι κ β)} (hne : pages ≠ []) (hpages : ∀ page ∈ pages, snapshot.IsPage page)
    (view : View ι κ β) :
    pages.foldl (fun view page => view.applyPage page) (view.select snapshot.report) =
      pages.foldl (fun view page => view.applyPage page) view := by
  cases pages with
  | nil => exact absurd rfl hne
  | cons page pages =>
    rw [List.foldl_cons, List.foldl_cons, ← (hpages page List.mem_cons_self).report, View.applyPage_select]

/-- Convergence: any deliveries that contain every page of a report bring the
table to what the report describes, whatever it was before. -/
theorem foldl_applyPage_contents {pages : List (Page ι κ β)} (hreport : view.report ≠ snapshot.report)
    (hpages : ∀ page ∈ pages, snapshot.IsPage page)
    (hall : ∀ index < snapshot.pages.length, ∃ page ∈ pages, page.index = index) :
    (pages.foldl (fun view page => view.applyPage page) view).contents = snapshot.contents := by
  have hne : pages ≠ [] := by
    rintro rfl
    obtain ⟨page, hpage, -⟩ := hall 0 (List.length_pos_of_ne_nil snapshot.pages_ne_nil)
    exact List.not_mem_nil hpage
  have hcollected := (Collecting.start hreport).foldl hpages
  rw [foldl_select hne hpages] at hcollected
  apply hcollected.contents_eq
  intro index hindex
  obtain ⟨page, hpage, rfl⟩ := hall index (Finset.mem_range.mp hindex)
  apply Finset.mem_union_left
  exact List.mem_toFinset.mpr (List.mem_map_of_mem hpage)

theorem foldl_applyPage_report {pages : List (Page ι κ β)} (hne : pages ≠ [])
    (hpages : ∀ page ∈ pages, snapshot.IsPage page) (view : View ι κ β) :
    (pages.foldl (fun view page => view.applyPage page) view).report = snapshot.report := by
  obtain ⟨last, rest, hlast⟩ : ∃ last rest, pages = rest ++ [last] :=
    ⟨pages.getLast hne, pages.dropLast, (List.dropLast_append_getLast hne).symm⟩
  have hmem : last ∈ pages := hlast ▸ List.mem_append_right rest List.mem_cons_self
  rw [hlast, List.foldl_append, List.foldl_cons, List.foldl_nil, View.applyPage_report, (hpages last hmem).report]

/-- Pages of a report that the table agrees with are harmless in every order and
number. -/
theorem foldl_applyPage_of_contents_eq {pages : List (Page ι κ β)} (hreport : view.report ≠ snapshot.report)
    (hpages : ∀ page ∈ pages, snapshot.IsPage page) (hsame : view.contents = snapshot.contents) :
    (pages.foldl (fun view page => view.applyPage page) view).contents = view.contents := by
  by_cases hne : pages = []
  · rw [hne, List.foldl_nil]
  · rw [← foldl_select hne hpages, hsame]
    exact (Collecting.start hreport).contents_foldl hpages (by rw [View.select_contents, hsame])

end PagedReport
