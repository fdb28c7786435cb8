import Mathlib.Algebra.GroupWithZero.Nat
import Mathlib.Data.Int.DivMod
import Mathlib.Data.List.GetD
import Mathlib.Tactic.SplitIfs

/-!
The Gregorian calendar, continued into the past: how a date and a time of day are counted in
seconds since 1 January 1970, and how they are found again.
-/

namespace CivilCalendar

section Stretches

/-- Where `n` is in stretches of these lengths: how many lie before it, and how far it is into
the next one. -/
def locate : List Nat → Nat → Nat × Nat
  | [], n => (0, n)
  | length :: rest, n =>
    if n < length then (0, n) else ((locate rest (n - length)).1 + 1, (locate rest (n - length)).2)

theorem locate_sum_take {lengths : List Nat} {index within : Nat} (hwithin : within < lengths.getD index 0) :
    locate lengths ((lengths.take index).sum + within) = (index, within) := by
  induction lengths generalizing index with
  | nil => exact absurd hwithin (Nat.not_lt_zero _)
  | cons length rest ih =>
    cases index with
    | zero =>
      rw [List.take_zero, List.sum_nil, Nat.zero_add, locate, if_pos (by simpa using hwithin)]
    | succ index =>
      have hrest : locate rest ((rest.take index).sum + within) = (index, within) := ih (by simpa using hwithin)
      rw [List.take_succ_cons, List.sum_cons, locate, if_neg (by omega),
        show length + (rest.take index).sum + within - length = (rest.take index).sum + within by omega, hrest]

theorem sum_take_locate {lengths : List Nat} {n : Nat} (hn : n < lengths.sum) :
    (lengths.take (locate lengths n).1).sum + (locate lengths n).2 = n ∧
      (locate lengths n).2 < lengths.getD (locate lengths n).1 0 := by
  induction lengths generalizing n with
  | nil => exact absurd hn (Nat.not_lt_zero _)
  | cons length rest ih =>
    rw [List.sum_cons] at hn
    rw [locate]
    split_ifs with hfirst
    · simpa using hfirst
    · obtain ⟨hsum, hwithin⟩ := ih (n := n - length) (by omega)
      refine ⟨?_, by simpa using hwithin⟩
      rw [List.take_succ_cons, List.sum_cons]
      omega

end Stretches

section Years

def isLeap (year : Int) : Bool := (year % 4 = 0 && year % 100 != 0) || year % 400 = 0

def monthLengths (year : Int) : List Nat :=
  [31, if isLeap year then 29 else 28, 31, 30, 31, 30, 31, 31, 30, 31, 30, 31]

/-- The days from 1 January of the year 1 to that of this year. -/
def daysBeforeYear (year : Int) : Int := 365 * (year - 1) + (year - 1) / 4 - (year - 1) / 100 + (year - 1) / 400

/-- The year of a day, which is counted from 1 January of the year 1. Centuries and years
before a leap day are longer, and come last. -/
def yearOf (n : Int) : Int :=
  let century := min 3 (n % 146097 / 36524)
  let inCentury := n % 146097 - 36524 * century
  1 + 400 * (n / 146097) + 100 * century + 4 * (inCentury / 1461) + min 3 (inCentury % 1461 / 365)

theorem sum_monthLengths (year : Int) : ((monthLengths year).sum : Int) = if isLeap year then 366 else 365 := by
  cases hleap : isLeap year <;> simp [monthLengths, hleap]

theorem daysBeforeYear_succ (year : Int) :
    daysBeforeYear (year + 1) = daysBeforeYear year + (monthLengths year).sum := by
  rw [sum_monthLengths, daysBeforeYear, daysBeforeYear, isLeap]
  simp only [Bool.or_eq_true, Bool.and_eq_true, decide_eq_true_eq, bne_iff_ne, ne_eq]
  split_ifs with hleap <;> omega

theorem daysBeforeYear_le {first second : Int} (hle : first ≤ second) :
    daysBeforeYear first ≤ daysBeforeYear second := by
  unfold daysBeforeYear
  omega

/-- A year within its cycle of 400 years, its century and its group of four years. -/
theorem daysBeforeYear_of_parts {e century fours single : Int} (hcentury : 0 ≤ century ∧ century ≤ 3)
    (hfours : 0 ≤ fours ∧ fours ≤ 24) (hsingle : 0 ≤ single ∧ single ≤ 3) :
    daysBeforeYear (1 + 400 * e + 100 * century + 4 * fours + single) =
      146097 * e + 36524 * century + 1461 * fours + 365 * single := by
  have hquarter : (1 + 400 * e + 100 * century + 4 * fours + single - 1) / 4 = 100 * e + 25 * century + fours := by
    omega
  have hhundredth : (1 + 400 * e + 100 * century + 4 * fours + single - 1) / 100 = 4 * e + century := by omega
  have hcycle : (1 + 400 * e + 100 * century + 4 * fours + single - 1) / 400 = e := by omega
  rw [daysBeforeYear, hquarter, hhundredth, hcycle]
  omega

/-- The last year of a group of four has a leap day, unless it ends one of the first three
centuries of its cycle. -/
theorem isLeap_of_parts {e century fours single : Int} (hcentury : 0 ≤ century ∧ century ≤ 3)
    (hfours : 0 ≤ fours ∧ fours ≤ 24) (hsingle : 0 ≤ single ∧ single ≤ 3) :
    isLeap (1 + 400 * e + 100 * century + 4 * fours + single) = true ↔ single = 3 ∧ (fours = 24 → century = 3) := by
  simp only [isLeap, Bool.or_eq_true, Bool.and_eq_true, decide_eq_true_eq, bne_iff_ne, ne_eq]
  omega

/-- The day of the year, and how long it can be. -/
theorem day_bounds {inFours single : Int} (hinFours : 0 ≤ inFours ∧ inFours < 1461)
    (hsingle : single = min 3 (inFours / 365)) :
    (0 ≤ single ∧ single ≤ 3) ∧ 365 * single ≤ inFours ∧ inFours < 365 * single + 366 ∧
      (single = 3 → inFours < 1460 → inFours < 365 * single + 365) ∧ (single ≠ 3 → inFours < 365 * single + 365) := by
  omega

theorem yearOf_bounds (n : Int) : daysBeforeYear (yearOf n) ≤ n ∧ n < daysBeforeYear (yearOf n + 1) := by
  obtain ⟨inEra, hinEra⟩ : ∃ inEra, inEra = n % 146097 := ⟨_, rfl⟩
  obtain ⟨century, hcentury⟩ : ∃ century, century = min 3 (inEra / 36524) := ⟨_, rfl⟩
  obtain ⟨inCentury, hinCentury⟩ : ∃ inCentury, inCentury = inEra - 36524 * century := ⟨_, rfl⟩
  obtain ⟨fours, hfours⟩ : ∃ fours, fours = inCentury / 1461 := ⟨_, rfl⟩
  obtain ⟨inFours, hinFours⟩ : ∃ inFours, inFours = inCentury % 1461 := ⟨_, rfl⟩
  obtain ⟨single, hsingle⟩ : ∃ single, single = min 3 (inFours / 365) := ⟨_, rfl⟩
  have hyear : yearOf n = 1 + 400 * (n / 146097) + 100 * century + 4 * fours + single := by
    rw [hsingle, hinFours, hfours, hinCentury, hcentury, hinEra]
    rfl
  have hcenturyRange : 0 ≤ century ∧ century ≤ 3 := by omega
  have hwithin : 0 ≤ inCentury ∧ inCentury ≤ 36524 ∧ (century ≠ 3 → inCentury < 36524) := by omega
  have hn : n = 146097 * (n / 146097) + 36524 * century + inCentury := by omega
  clear hcentury hinCentury hinEra
  have hparts : inCentury = 1461 * fours + inFours ∧ 0 ≤ inFours ∧ inFours < 1461 := by omega
  have hfoursRange : 0 ≤ fours ∧ fours ≤ 24 := by omega
  clear hfours hinFours
  obtain ⟨hsingleRange, hfirst, hlong, hthird, hother⟩ := day_bounds hparts.2 hsingle
  clear hsingle
  have hstart := daysBeforeYear_of_parts (e := n / 146097) hcenturyRange hfoursRange hsingleRange
  have hleap := isLeap_of_parts (e := n / 146097) hcenturyRange hfoursRange hsingleRange
  rw [← hyear] at hstart hleap
  rw [daysBeforeYear_succ, sum_monthLengths]
  split_ifs with hisLeap
  · omega
  · rw [hleap] at hisLeap
    omega

theorem yearOf_eq {n year : Int} (hfirst : daysBeforeYear year ≤ n) (hlast : n < daysBeforeYear (year + 1)) :
    yearOf n = year := by
  obtain ⟨hlower, hupper⟩ := yearOf_bounds n
  obtain hlt | hsame | hgt := Int.lt_trichotomy (yearOf n) year
  · have hle := daysBeforeYear_le (Int.add_one_le_of_lt hlt)
    omega
  · exact hsame
  · have hle := daysBeforeYear_le (Int.add_one_le_of_lt hgt)
    omega

end Years

section Dates

/-- Months and days are counted from one. -/
structure Date where
  year : Int
  month : Nat
  day : Nat
deriving DecidableEq

def monthLength (year : Int) (month : Nat) : Nat := (monthLengths year).getD (month - 1) 0

theorem month_le_of_monthLength_pos {year : Int} {month : Nat} (hdays : 0 < monthLength year month) : month ≤ 12 := by
  refine Nat.le_of_not_lt fun hbehind => ?_
  rw [monthLength, List.getD_eq_default _ _ (show (monthLengths year).length ≤ month - 1 from Nat.le_sub_one_of_lt hbehind)]
    at hdays
  exact absurd hdays (Nat.lt_irrefl _)

/-- The date stands in the calendar. -/
structure Date.IsReal (date : Date) : Prop where
  month : 1 ≤ date.month
  day : 1 ≤ date.day
  inMonth : date.day ≤ monthLength date.year date.month

/-- The days from 1 January of the year 1 to that of 1970. -/
def EPOCH : Int := 719162

/-- The days from 1 January 1970. -/
def Date.toDays (date : Date) : Int :=
  daysBeforeYear date.year + ((((monthLengths date.year).take (date.month - 1)).sum + (date.day - 1) : Nat) : Int) - EPOCH

theorem Date.daysBeforeYear_le_toDays (date : Date) : daysBeforeYear date.year - EPOCH ≤ date.toDays := by
  rw [toDays]
  omega

def Date.ofDays (days : Int) : Date :=
  let year := yearOf (days + EPOCH)
  let found := locate (monthLengths year) (days + EPOCH - daysBeforeYear year).toNat
  ⟨year, found.1 + 1, found.2 + 1⟩

/-- The place of a day in its year. -/
theorem Date.located (days : Int) :
    ((days + EPOCH - daysBeforeYear (yearOf (days + EPOCH))).toNat : Int) =
        days + EPOCH - daysBeforeYear (yearOf (days + EPOCH)) ∧
      (days + EPOCH - daysBeforeYear (yearOf (days + EPOCH))).toNat < (monthLengths (yearOf (days + EPOCH))).sum := by
  obtain ⟨hlower, hupper⟩ := yearOf_bounds (days + EPOCH)
  rw [daysBeforeYear_succ] at hupper
  omega

theorem Date.ofDays_isReal (days : Int) : (ofDays days).IsReal := by
  obtain ⟨-, hwithin⟩ := sum_take_locate (Date.located days).2
  exact ⟨Nat.le_add_left _ _, Nat.le_add_left _ _, hwithin⟩

theorem Date.toDays_ofDays (days : Int) : (ofDays days).toDays = days := by
  obtain ⟨hplace, hinYear⟩ := Date.located days
  obtain ⟨hsum, -⟩ := sum_take_locate hinYear
  rw [toDays, ofDays]
  dsimp only
  rw [Nat.add_sub_cancel, Nat.add_sub_cancel, hsum, hplace]
  omega

theorem Date.ofDays_toDays {date : Date} (hreal : date.IsReal) : ofDays date.toDays = date := by
  obtain ⟨year, month, day⟩ := date
  obtain ⟨hmonth, hday, hinMonth⟩ := hreal
  dsimp only at hmonth hday hinMonth
  have hwithin : day - 1 < (monthLengths year).getD (month - 1) 0 := by
    have hlength : monthLength year month = (monthLengths year).getD (month - 1) 0 := rfl
    omega
  have hindex : month - 1 < (monthLengths year).length := by
    refine Nat.lt_of_not_le fun hbehind => ?_
    rw [List.getD_eq_default _ _ hbehind] at hwithin
    exact absurd hwithin (Nat.not_lt_zero _)
  have hinYear : ((monthLengths year).take (month - 1)).sum + (day - 1) < (monthLengths year).sum := by
    have hsplit := congrArg List.sum (List.take_append_drop (month - 1) (monthLengths year))
    rw [List.drop_eq_getElem_cons hindex, List.sum_append, List.sum_cons] at hsplit
    rw [List.getD_eq_getElem _ _ hindex] at hwithin
    omega
  have hdays : Date.toDays ⟨year, month, day⟩ + EPOCH =
      daysBeforeYear year + ((((monthLengths year).take (month - 1)).sum + (day - 1) : Nat) : Int) := by
    rw [toDays, Int.sub_add_cancel]
  have hyear : yearOf (Date.toDays ⟨year, month, day⟩ + EPOCH) = year := by
    rw [hdays]
    refine yearOf_eq (by omega) ?_
    rw [daysBeforeYear_succ]
    omega
  rw [ofDays, hyear, hdays, show ∀ start place : Int, start + place - start = place by omega, Int.toNat_natCast, locate_sum_take hwithin, Nat.sub_add_cancel hmonth,
    Nat.sub_add_cancel hday]

end Dates

section Times

/-- A date and a time of day. -/
structure DateTime extends Date where
  hour : Nat
  minute : Nat
  second : Nat
deriving DecidableEq

structure DateTime.IsReal (dateTime : DateTime) : Prop where
  date : dateTime.toDate.IsReal
  hour : dateTime.hour < 24
  minute : dateTime.minute < 60
  second : dateTime.second < 60

def DateTime.secondOfDay (dateTime : DateTime) : Nat :=
  dateTime.hour * 3600 + dateTime.minute * 60 + dateTime.second

/-- The seconds from the start of 1970. -/
def DateTime.toSeconds (dateTime : DateTime) : Int := dateTime.toDate.toDays * 86400 + dateTime.secondOfDay

def DateTime.ofSeconds (seconds : Int) : DateTime :=
  let inDay := (seconds % 86400).toNat
  ⟨Date.ofDays (seconds / 86400), inDay / 3600, inDay % 3600 / 60, inDay % 60⟩

theorem DateTime.ofSeconds_isReal (seconds : Int) : (ofSeconds seconds).IsReal := by
  have hinDay : (seconds % 86400).toNat < 86400 := by omega
  refine ⟨Date.ofDays_isReal _, ?_, ?_, ?_⟩
  all_goals
    dsimp only [ofSeconds]
    omega

theorem DateTime.toSeconds_ofSeconds (seconds : Int) : (ofSeconds seconds).toSeconds = seconds := by
  rw [toSeconds, secondOfDay, ofSeconds]
  dsimp only
  rw [Date.toDays_ofDays]
  omega

theorem DateTime.ofSeconds_toSeconds {dateTime : DateTime} (hreal : dateTime.IsReal) :
    ofSeconds dateTime.toSeconds = dateTime := by
  obtain ⟨date, hour, minute, second⟩ := dateTime
  obtain ⟨hdate, hhour, hminute, hsecond⟩ := hreal
  dsimp only at hdate hhour hminute hsecond
  have hday : (date.toDays * 86400 + ((hour * 3600 + minute * 60 + second : Nat) : Int)) / 86400 = date.toDays := by
    omega
  have hinDay : ((date.toDays * 86400 + ((hour * 3600 + minute * 60 + second : Nat) : Int)) % 86400).toNat =
      hour * 3600 + minute * 60 + second := by omega
  rw [toSeconds, ofSeconds, secondOfDay]
  dsimp only
  rw [hday, hinDay, Date.ofDays_toDays hdate]
  congr 1 <;> omega

end Times

end CivilCalendar
