import Mathlib.Algebra.Order.Group.Int
import Mathlib.Data.List.Basic
import TypedSearch.Calendar.Date
/-!
# `TypedSearch.Proofs.Calendar.Date`: every day has one date

Dates and day numbers are computed from each other in closed form. Here both are led back to what
makes a calendar: a year follows the one before it after 365 or 366 days, a month after the days
that it has, and so each day lies in one year, one month and one place of it.

* `daysBeforeYear_succ`, `daysBeforeMonth_succ`: the length of a year and of a month.
* `yearOfDay_eq_iff`, `monthOfDay_eq`: the year and the month that a day lies in.
* `ofDayNumber_dayNumber`, `exists_dayNumber_eq`: a date leads to its day and back, and every day
  has a date.
* `ofDayNumber_eq_iff`: the date of a day is the one date of the calendar that has its number.
* `dayNumber_lt_iff`: days are in the order of their years, months and days of the month.
-/

set_option autoImplicit false

namespace TypedSearch.Calendar

/-! ### Years -/

/-- The number of days of a year. -/
def daysInYear (year : Int) : Int := if isLeap year then 366 else 365

/-- A year begins as many days after the one before it as that one has. -/
theorem daysBeforeYear_succ (year : Int) :
    daysBeforeYear (year + 1) = daysBeforeYear year + daysInYear year := by
  simp only [daysBeforeYear, daysInYear, isLeap, Bool.and_eq_true, Bool.or_eq_true,
    decide_eq_true_eq]
  split
  · omega
  · omega

/-- Later years begin later. -/
theorem daysBeforeYear_le {a b : Int} (h : a ≤ b) : daysBeforeYear a ≤ daysBeforeYear b := by
  induction b, h using Int.leInduction with
  | base => exact Int.le_refl _
  | succ b _ ih =>
    have hpos : 0 ≤ daysInYear b := by
      rw [daysInYear]
      split <;> omega
    rw [daysBeforeYear_succ]
    omega

/-- The year of a day begins no later than the day, and the next year begins after it. -/
theorem yearOfDay_spec (day : Int) :
    daysBeforeYear (yearOfDay day) ≤ day ∧ day < daysBeforeYear (yearOfDay day + 1) := by
  -- The mean length of a year misses the year of the day by at most one.
  have hlow : daysBeforeYear (400 * day / 146097 - 1) ≤ day := by
    simp only [daysBeforeYear]
    omega
  have hhigh : day < daysBeforeYear (400 * day / 146097 + 1 + 1) := by
    simp only [daysBeforeYear]
    omega
  simp only [yearOfDay]
  split
  · next h => exact ⟨h, hhigh⟩
  · next h =>
    split
    · next h' =>
      rw [Int.sub_add_cancel]
      exact ⟨hlow, h'⟩
    · next h' => omega

/-- A day lies in the one year that begins no later and ends after it. -/
theorem yearOfDay_eq_iff {day year : Int} :
    yearOfDay day = year ↔ daysBeforeYear year ≤ day ∧ day < daysBeforeYear (year + 1) := by
  obtain ⟨hlow, hhigh⟩ := yearOfDay_spec day
  constructor
  · rintro rfl
    exact ⟨hlow, hhigh⟩
  · rintro ⟨hlow', hhigh'⟩
    -- Of two years one would end before the other begins.
    rcases Int.lt_trichotomy (yearOfDay day) year with hlt | heq | hgt
    · have hbefore := daysBeforeYear_le (show yearOfDay day + 1 ≤ year by omega)
      omega
    · exact heq
    · have hbefore := daysBeforeYear_le (show year + 1 ≤ yearOfDay day by omega)
      omega

/-! ### Months -/

/-- A month begins as many days after the one before it as that one has. -/
theorem daysBeforeMonth_succ (leap : Bool) {month : Nat} (h : month ≤ 12) :
    daysBeforeMonth leap (month + 1) = daysBeforeMonth leap month + daysInMonth leap month := by
  have hle : ∀ leap : Bool, ∀ m ≤ 12, daysBeforeMonth leap m ≤ daysBeforeMonth leap (m + 1) := by
    decide
  have := hle leap month h
  rw [daysInMonth]
  omega

/-- Later months begin later. -/
theorem daysBeforeMonth_le (leap : Bool) {a b : Nat} (h : a ≤ b) (hb : b ≤ 13) :
    daysBeforeMonth leap a ≤ daysBeforeMonth leap b := by
  induction b, h using Nat.le_induction with
  | base => exact Nat.le_refl _
  | succ b _ ih =>
    rw [daysBeforeMonth_succ leap (by omega)]
    have := ih (by omega)
    omega

/-- The first month begins with the year, and behind the last comes the next year. -/
theorem daysBeforeMonth_ends (year : Int) :
    daysBeforeMonth (isLeap year) 1 = 0 ∧
      (daysBeforeMonth (isLeap year) 13 : Int) = daysInYear year := by
  rw [daysInYear]
  cases isLeap year with
  | true => decide
  | false => decide

/-- Every day before a month of the year lies in one of the months before it. -/
theorem exists_month (leap : Bool) {day bound : Nat} (hbound : bound ≤ 13)
    (h : day < daysBeforeMonth leap bound) :
    ∃ month, 1 ≤ month ∧ month < bound ∧ daysBeforeMonth leap month ≤ day ∧
      day < daysBeforeMonth leap (month + 1) := by
  have hfirst : daysBeforeMonth leap 0 = 0 ∧ daysBeforeMonth leap 1 = 0 := by
    cases leap <;> decide
  induction bound with
  | zero => omega
  | succ bound ih =>
    by_cases hbefore : day < daysBeforeMonth leap bound
    · obtain ⟨month, hlow, hhigh, hday⟩ := ih (by omega) hbefore
      exact ⟨month, hlow, by omega, hday⟩
    · refine ⟨bound, ?_, by omega, by omega, h⟩
      -- No day lies before the first month.
      rcases Nat.eq_zero_or_pos bound with rfl | hpos
      · change day < daysBeforeMonth leap 1 at h
        omega
      · exact hpos

/-- Of the first numbers, as many are below a bound as the bound says. -/
theorem countP_lt_range {bound n : Nat} (h : bound ≤ n) :
    (List.range n).countP (fun i => decide (i < bound)) = bound := by
  have hmin : ∀ n, (List.range n).countP (fun i => decide (i < bound)) = min bound n := by
    intro n
    induction n with
    | zero => simp
    | succ n ih =>
      rw [List.range_succ, List.countP_append, ih, List.countP_singleton]
      simp only [decide_eq_true_eq]
      split <;> omega
  rw [hmin n]
  omega

/-- The month of a day is the one that begins no later than the day and ends after it. -/
theorem monthOfDay_eq {leap : Bool} {day month : Nat} (hlow : 1 ≤ month) (hhigh : month ≤ 12)
    (hbegin : daysBeforeMonth leap month ≤ day) (hend : day < daysBeforeMonth leap (month + 1)) :
    monthOfDay leap day = month := by
  -- The months from the second on that begin no later are those up to the one looked for.
  have hcount : ∀ i ∈ List.range 11,
      decide (daysBeforeMonth leap (i + 2) ≤ day) = true ↔ decide (i < month - 1) = true := by
    intro i hi
    rw [List.mem_range] at hi
    rw [decide_eq_true_eq, decide_eq_true_eq]
    constructor
    · intro hle
      by_contra hge
      have hlater := daysBeforeMonth_le leap (show month + 1 ≤ i + 2 by omega) (by omega)
      omega
    · intro hlt
      have hearlier := daysBeforeMonth_le leap (show i + 2 ≤ month by omega) (by omega)
      omega
  rw [monthOfDay, List.countP_congr hcount, countP_lt_range (by omega)]
  omega

/-! ### Dates -/

/-- A date is one of the calendar exactly when its month and its day are within bounds. -/
theorem isValid_iff {d : Date} :
    d.isValid = true ↔ 1 ≤ d.month ∧ d.month ≤ 12 ∧ 1 ≤ d.day ∧
      d.day ≤ daysInMonth (isLeap d.year) d.month := by
  simp [Date.isValid, and_assoc]

/-- A date of the calendar lies in its year, at a place that is counted from 0. -/
theorem place_in_year {d : Date} (h : d.isValid = true) :
    (daysBeforeMonth (isLeap d.year) d.month + d.day - 1 : Int) < daysInYear d.year := by
  obtain ⟨hlow, hhigh, hday, hlast⟩ := isValid_iff.1 h
  have hnext := daysBeforeMonth_succ (isLeap d.year) hhigh
  have hend := daysBeforeMonth_le (isLeap d.year) (show d.month + 1 ≤ 13 by omega) (by omega)
  have hyear := (daysBeforeMonth_ends d.year).2
  omega

/-- The date of the day of a date of the calendar is that date. -/
theorem ofDayNumber_dayNumber {d : Date} (h : d.isValid = true) :
    Date.ofDayNumber d.dayNumber = d := by
  obtain ⟨hlow, hhigh, hday, hlast⟩ := isValid_iff.1 h
  have hplace := place_in_year h
  have hnext := daysBeforeMonth_succ (isLeap d.year) hhigh
  have hyear : yearOfDay (d.dayNumber + epochDay) = d.year := by
    rw [yearOfDay_eq_iff, daysBeforeYear_succ]
    simp only [Date.dayNumber]
    omega
  have hinYear : (d.dayNumber + epochDay - daysBeforeYear d.year).toNat
      = daysBeforeMonth (isLeap d.year) d.month + d.day - 1 := by
    simp only [Date.dayNumber]
    omega
  have hmonth : monthOfDay (isLeap d.year)
      (daysBeforeMonth (isLeap d.year) d.month + d.day - 1) = d.month :=
    monthOfDay_eq hlow hhigh (by omega) (by omega)
  simp only [Date.ofDayNumber, hyear, hinYear, hmonth]
  obtain ⟨year, month, day⟩ := d
  simp only [Date.mk.injEq, true_and]
  dsimp only at hday
  omega

/-- Every day has a date of the calendar. -/
theorem exists_dayNumber_eq (n : Int) : ∃ d : Date, d.isValid = true ∧ d.dayNumber = n := by
  generalize hyear : yearOfDay (n + epochDay) = year
  obtain ⟨hbegin, hend⟩ := yearOfDay_eq_iff.1 hyear
  rw [daysBeforeYear_succ] at hend
  obtain ⟨hfirst, hlast⟩ := daysBeforeMonth_ends year
  -- The place of the day in its year lies in one of the twelve months.
  obtain ⟨place, hplace⟩ := Int.eq_ofNat_of_zero_le (show 0 ≤ n + epochDay - daysBeforeYear year by
    omega)
  obtain ⟨month, hlow, hhigh, hmonth, hnext⟩ :=
    exists_month (isLeap year) (Nat.le_refl 13) (show place < _ by omega)
  have hlength := daysBeforeMonth_succ (isLeap year) (show month ≤ 12 by omega)
  refine ⟨⟨year, month, place - daysBeforeMonth (isLeap year) month + 1⟩, ?_, ?_⟩
  · rw [isValid_iff]
    dsimp only
    omega
  · simp only [Date.dayNumber]
    omega

/-- A day has exactly one date of the calendar. -/
theorem ofDayNumber_eq_iff {n : Int} {d : Date} :
    Date.ofDayNumber n = d ↔ d.isValid = true ∧ d.dayNumber = n := by
  constructor
  · intro hdate
    -- The day has a date, and that is the one that is computed.
    obtain ⟨d', hvalid, rfl⟩ := exists_dayNumber_eq n
    rw [ofDayNumber_dayNumber hvalid] at hdate
    rw [← hdate]
    exact ⟨hvalid, rfl⟩
  · rintro ⟨hvalid, rfl⟩
    exact ofDayNumber_dayNumber hvalid

/-- The date of a day is one of the calendar. -/
theorem isValid_ofDayNumber (n : Int) : (Date.ofDayNumber n).isValid = true :=
  (ofDayNumber_eq_iff.1 rfl).1

/-- The day of the date of a day is that day. -/
theorem dayNumber_ofDayNumber (n : Int) : (Date.ofDayNumber n).dayNumber = n :=
  (ofDayNumber_eq_iff.1 rfl).2

/-! ### The order of dates -/

/-- The date comes before another one by its year, then by its month, then by its day. -/
def Date.IsBefore (d d' : Date) : Prop :=
  d.year < d'.year ∨ d.year = d'.year ∧ (d.month < d'.month ∨ d.month = d'.month ∧ d.day < d'.day)

/-- A date of the calendar that comes before another one has the smaller number. -/
theorem dayNumber_lt_of_isBefore {d d' : Date} (h : d.isValid = true) (h' : d'.isValid = true)
    (hbefore : d.IsBefore d') : d.dayNumber < d'.dayNumber := by
  obtain ⟨hlow, hhigh, hday, hlast⟩ := isValid_iff.1 h
  obtain ⟨hlow', hhigh', hday', hlast'⟩ := isValid_iff.1 h'
  simp only [Date.dayNumber]
  rcases hbefore with hyear | ⟨hyear, hmonth | ⟨hmonth, hless⟩⟩
  · -- The year ends before the other one begins.
    have hplace := place_in_year h
    have hend := daysBeforeYear_succ d.year
    have hnext := daysBeforeYear_le (show d.year + 1 ≤ d'.year by omega)
    omega
  · have hend := daysBeforeMonth_succ (isLeap d.year) hhigh
    have hnext := daysBeforeMonth_le (isLeap d.year) (show d.month + 1 ≤ d'.month by omega)
      (by omega)
    rw [← hyear]
    omega
  · rw [← hyear, ← hmonth]
    omega

/-- Days are in the order of their dates. -/
theorem dayNumber_lt_iff {d d' : Date} (h : d.isValid = true) (h' : d'.isValid = true) :
    d.dayNumber < d'.dayNumber ↔ d.IsBefore d' := by
  refine ⟨fun hlt => ?_, dayNumber_lt_of_isBefore h h'⟩
  by_contra hnot
  -- Then the dates are the same, or they are the other way round.
  have hcases : d = d' ∨ d'.IsBefore d := by
    obtain ⟨year, month, day⟩ := d
    obtain ⟨year', month', day'⟩ := d'
    simp only [Date.IsBefore, Date.mk.injEq] at hnot ⊢
    omega
  rcases hcases with rfl | hafter
  · exact Int.lt_irrefl _ hlt
  · exact Int.lt_asymm hlt (dayNumber_lt_of_isBefore h' h hafter)

end TypedSearch.Calendar
