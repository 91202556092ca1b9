import TypedSearch.Calendar.Stamp
import TypedSearch.Proofs.Calendar.Instant
import TypedSearch.Proofs.Decimal.Padded
import TypedSearch.Proofs.Text
/-!
# `TypedSearch.Proofs.Calendar.Stamp`: timestamps are read back, and sorted by time

`IsStamp` is the form of a timestamp in UTC with three decimals, apart from how one is written and
how one is read. The reader allows for more than this form, but what has it is read as the time it
shows.

* `ofText_of_isStamp`: a timestamp is read as the time that it shows.
* `isStamp_writeLabel`: what is written for a millisecond is the timestamp of its time.
* `exists_label_iff`: the milliseconds that have a label.
* `ofText_label`, `isStamp_label_iff`: a label is read back, and shows one time only.
* `bytes_label_lt_iff`: for years of four digits, labels are sorted by time.
-/

set_option autoImplicit false

namespace TypedSearch.Calendar

open Decimal

/-! ### The form of timestamps -/

/-- The characters are a year: four digits, or at least four behind a sign. -/
inductive IsYear : List Char → Int → Prop where
  | plain {ds : List Char} {n : Nat} (row : IsRow 4 n ds) : IsYear ds n
  | after {ds : List Char} {n width : Nat} (wide : 4 ≤ width) (row : IsRow width n ds) :
    IsYear ('+' :: ds) n
  | before {ds : List Char} {n width : Nat} (wide : 4 ≤ width) (row : IsRow width n ds) :
    IsYear ('-' :: ds) (-n)

/-- The characters are the timestamp of a time in UTC: the date, `T`, the time of day with three
decimals of the second, and `Z`. -/
inductive IsStamp : List Char → LocalTime → Prop where
  | mk {l : LocalTime} {year month day hour minute second decimals : List Char} {thousandths : Nat}
    (proper : l.IsProper) (nanosecond : l.nanosecond = thousandths * 1000000)
    (isYear : IsYear year l.date.year) (isMonth : IsRow 2 l.date.month month)
    (isDay : IsRow 2 l.date.day day) (isHour : IsRow 2 l.hour hour)
    (isMinute : IsRow 2 l.minute minute) (isSecond : IsRow 2 l.second second)
    (isDecimals : IsRow 3 thousandths decimals) :
    IsStamp (year ++ '-' :: (month ++ '-' :: (day ++ 'T' :: (hour ++ ':' :: (minute ++ ':' ::
      (second ++ '.' :: (decimals ++ ['Z']))))))) l

/-! ### Reading -/

/-- A digit is no blank. -/
theorem isBlank_of_isDigit {c : Char} (h : c.isDigit = true) : Text.isBlank c = false := by
  obtain ⟨hlow, hhigh⟩ := isDigit_bounds h
  change 48 ≤ c.toNat at hlow
  change c.toNat - 48 < 10 at hhigh
  rw [Text.isBlank, Text.blankRanges]
  simp
  omega

/-- There are no blanks in front of a row of digits. -/
theorem trimLeft_row {width n : Nat} {ds rest : List Char} (h : IsRow (width + 1) n ds) :
    Text.trimLeft (ds ++ rest) = ds ++ rest := by
  cases ds with
  | nil => cases h.length
  | cons d ds =>
    refine Text.trimLeft_of_head ?_
    rintro c ⟨rfl⟩
    exact isBlank_of_isDigit (h.digits _ List.mem_cons_self)

/-- Where the first character is no digit, there are no digits in front. -/
theorem takeWhile_of_head {rest : List Char} (h : ∀ c ∈ rest.head?, c.isDigit = false) :
    rest.takeWhile Char.isDigit = [] := by
  cases rest with
  | nil => rfl
  | cons c rest => exact List.takeWhile_cons_of_neg (by simp [h c rfl])

/-- A row in some places has a digit. -/
theorem isEmpty_row {width n : Nat} {ds : List Char} (h : IsRow (width + 1) n ds) :
    ds.isEmpty = false := by
  cases ds with
  | nil => cases h.length
  | cons d ds => rfl

/-- A row is read whole where it has as many digits as may be read, or no digit stands behind
it. -/
theorem readDigits_row {most width n : Nat} {ds rest : List Char} (h : IsRow (width + 1) n ds)
    (hmost : width + 1 = most ∨ width + 1 ≤ most ∧ ∀ c ∈ rest.head?, c.isDigit = false) :
    readDigits? most (ds ++ rest) = some (n, rest) := by
  have hnone : (rest.take (most - ds.length)).takeWhile Char.isDigit = [] := by
    refine takeWhile_of_head fun c hc => ?_
    rw [h.length, List.head?_take] at hc
    obtain ⟨hmore, hhead⟩ := Option.ite_none_left_eq_some.1 hc
    rcases hmost with rfl | ⟨-, hstop⟩
    · exact absurd (Nat.sub_self _) hmore
    · exact hstop c hhead
  have htaken : ((ds ++ rest).take most).takeWhile Char.isDigit = ds := by
    rw [List.take_append, List.take_of_length_le (by rw [h.length]; omega),
      List.takeWhile_append_of_pos h.digits, hnone, List.append_nil]
  simp only [readDigits?, htaken, isEmpty_row h, h.value, List.drop_left]
  rfl

/-- Two digits within bounds are read as a part of a timestamp. -/
theorem readPart_row {low high n : Nat} {ds rest : List Char} (h : IsRow 2 n ds) (hlow : low ≤ n)
    (hhigh : n ≤ high) : readPart? low high (ds ++ rest) = some (n, rest) := by
  rw [readPart?, trimLeft_row h, readDigits_row h (Or.inl rfl)]
  exact if_pos ⟨hlow, hhigh⟩

/-- A mark between the parts is read. -/
theorem readMark_cons {mark : Char} (h : Text.isBlank mark = false) (rest : List Char) :
    readMark? mark (mark :: rest) = some rest := by
  rw [readMark?, Text.trimLeft_of_head (by rintro c ⟨rfl⟩; exact h)]
  exact if_pos rfl

/-- The digits behind a sign are read up to the mark behind them. -/
theorem readDigits_signed {width n : Nat} {ds rest : List Char} (wide : 4 ≤ width)
    (h : IsRow width n ds) :
    readDigits? (ds ++ '-' :: rest).length (ds ++ '-' :: rest) = some (n, '-' :: rest) := by
  obtain ⟨width, rfl⟩ := Nat.exists_eq_add_of_le' (show 1 ≤ width by omega)
  refine readDigits_row h (Or.inr ⟨?_, ?_⟩)
  · rw [List.length_append, h.length]
    omega
  · rintro c ⟨rfl⟩
    rfl

/-- A year is read up to the mark behind it. -/
theorem readYear_append {ds rest : List Char} {year : Int} (h : IsYear ds year) :
    readYear? (ds ++ '-' :: rest) = some (year, '-' :: rest) := by
  cases h with
  | @plain ds n row =>
    have hread : readDigits? 4 (ds ++ '-' :: rest) = some (n, '-' :: rest) :=
      readDigits_row row (Or.inl rfl)
    rw [readYear?, trimLeft_row row]
    -- A digit is neither of the signs.
    have hsign : ∀ c ∈ (ds ++ '-' :: rest).head?, c.isDigit = true := by
      cases ds with
      | nil => cases row.length
      | cons d ds =>
        rintro c ⟨rfl⟩
        exact row.digits _ List.mem_cons_self
    split
    · next heq =>
      rw [heq] at hsign
      cases hsign _ rfl
    · next heq =>
      rw [heq] at hsign
      cases hsign _ rfl
    · rw [hread]
      rfl
  | @after ds n width wide row =>
    rw [readYear?, List.cons_append, Text.trimLeft_of_head (by rintro c ⟨rfl⟩; rfl)]
    simp only [readDigits_signed wide row]
    rfl
  | @before ds n width wide row =>
    rw [readYear?, List.cons_append, Text.trimLeft_of_head (by rintro c ⟨rfl⟩; rfl)]
    simp only [readDigits_signed wide row]
    rfl

/-- Three decimals of the second are read as nanoseconds. -/
theorem readFraction_row {n : Nat} {ds rest : List Char} (h : IsRow 3 n ds)
    (hrest : ∀ c ∈ rest.head?, c.isDigit = false) :
    readFraction? ('.' :: (ds ++ rest)) = some (n * 1000000, rest) := by
  have hrow : (ds ++ rest).takeWhile Char.isDigit = ds := by
    rw [List.takeWhile_append_of_pos h.digits, takeWhile_of_head hrest, List.append_nil]
  have hkept : ds.take 9 = ds := List.take_of_length_le (by rw [h.length]; omega)
  simp only [readFraction?, hrow, isEmpty_row h, hkept, h.value, h.length,
    List.drop_left' h.length]
  rfl

/-- No month has more than 31 days. -/
theorem daysInMonth_le (leap : Bool) {month : Nat} (h : month ≤ 12) :
    daysInMonth leap month ≤ 31 := by
  have hall : ∀ leap : Bool, ∀ m ≤ 12, daysInMonth leap m ≤ 31 := by decide
  exact hall leap month h

/-- What has the form of a timestamp is read as the time it shows, if that is valid and
representable. -/
theorem ofText_of_isStamp {cs : List Char} {l : LocalTime} (h : IsStamp cs l) :
    ofText? (String.ofList cs) = if l.isValid then l.toInstant? 0 else none := by
  obtain ⟨proper, nanosecond, isYear, isMonth, isDay, isHour, isMinute, isSecond, isDecimals⟩ := h
  obtain ⟨hdate, hhour, hminute, hsecond⟩ := proper
  obtain ⟨hmonth, hmonth', hday, hday'⟩ := isValid_iff.1 hdate
  have hlast := daysInMonth_le (isLeap l.date.year) hmonth'
  have hdash : Text.isBlank '-' = false := rfl
  have hcolon : Text.isBlank ':' = false := rfl
  have hend : ∀ c ∈ ['Z'].head?, c.isDigit = false := by
    rintro c ⟨rfl⟩
    rfl
  have hdecimals := readFraction_row isDecimals hend
  have hoffset : readOffset? (Text.trimLeft ['Z']) = some (0, []) := rfl
  rw [← nanosecond] at hdecimals
  rw [ofText?, String.toList_ofList, readYear_append isYear]
  simp only [bind, Option.bind, readMark_cons hdash, readMark_cons hcolon,
    readPart_row isMonth hmonth hmonth', readPart_row isDay hday (Nat.le_trans hday' hlast),
    readPart_row isHour (Nat.zero_le _) (Nat.le_of_lt_succ hhour),
    readPart_row isMinute (Nat.zero_le _) (Nat.le_of_lt_succ hminute),
    readPart_row isSecond (Nat.zero_le _) (Nat.le_of_lt hsecond), hdecimals, hoffset,
    if_neg (Nat.ne_of_lt hsecond)]
  simp [Text.isAllBlank]

/-! ### Times to the millisecond -/

/-- The instant at which a millisecond since 1970 begins. -/
def Instant.ofMillis (millis : Int) : Instant :=
  ⟨millis / 1000, (millis % 1000).toNat * 1000000⟩

/-- A millisecond begins a million nanoseconds after the one before it. -/
theorem nanos_ofMillis (millis : Int) : (Instant.ofMillis millis).nanos = millis * 1000000 := by
  simp only [Instant.nanos, Instant.ofMillis, nanosInSecond]
  omega

/-- What a clock in UTC shows at the start of a millisecond since 1970. -/
def shownAt (millis : Int) : LocalTime := (Instant.ofMillis millis).onClock 0

/-- The milliseconds that a clock counts from the start of 1970 on its own dates. -/
def LocalTime.clockMillis (l : LocalTime) : Int :=
  l.clockSecond * 1000 + (l.nanosecond / 1000000 : Nat)

/-- The time is one of whole milliseconds, with proper parts. -/
structure LocalTime.IsToMillis (l : LocalTime) : Prop extends l.IsProper where
  nanosecond : ∃ thousandths < 1000, l.nanosecond = thousandths * 1000000

/-- A clock shows whole milliseconds, and by counting them is led back to where they are from. -/
theorem isToMillis_shownAt (millis : Int) :
    (shownAt millis).IsToMillis ∧ (shownAt millis).clockMillis = millis := by
  have hshown : (Instant.ofMillis millis).onClock 0 = shownAt millis := rfl
  obtain ⟨hproper, hcount⟩ := onClock_eq_iff.1 hshown
  obtain ⟨hsecond, hnanos⟩ := Instant.mk.inj hcount
  refine ⟨⟨hproper, (millis % 1000).toNat, by omega, rfl⟩, ?_⟩
  rw [LocalTime.clockMillis, ← hnanos]
  omega

/-- Times to the millisecond are in the order of their years, and so on down to their parts of a
second. -/
theorem clockMillis_lt_iff {l l' : LocalTime} (h : l.IsToMillis) (h' : l'.IsToMillis) :
    l.clockMillis < l'.clockMillis ↔
      l.date.year < l'.date.year ∨ l.date.year = l'.date.year ∧
      (l.date.month < l'.date.month ∨ l.date.month = l'.date.month ∧
      (l.date.day < l'.date.day ∨ l.date.day = l'.date.day ∧
      (l.hour < l'.hour ∨ l.hour = l'.hour ∧
      (l.minute < l'.minute ∨ l.minute = l'.minute ∧
      (l.second < l'.second ∨ l.second = l'.second ∧
      l.nanosecond / 1000000 < l'.nanosecond / 1000000))))) := by
  obtain ⟨⟨hdate, hhour, hminute, hsecond⟩, thousandths, hless, hnanos⟩ := h
  obtain ⟨⟨hdate', hhour', hminute', hsecond'⟩, thousandths', hless', hnanos'⟩ := h'
  have hsame : l.date.dayNumber = l'.date.dayNumber ↔
      l.date.year = l'.date.year ∧ l.date.month = l'.date.month ∧ l.date.day = l'.date.day := by
    constructor
    · intro heq
      rw [← ofDayNumber_dayNumber hdate, heq, ofDayNumber_dayNumber hdate']
      exact ⟨rfl, rfl, rfl⟩
    · rintro ⟨hyear, hmonth, hday⟩
      simp only [Date.dayNumber, hyear, hmonth, hday]
  -- The date decides, and within one date the part of the day.
  have hsplit : l.clockMillis < l'.clockMillis ↔
      l.date.dayNumber < l'.date.dayNumber ∨ l.date.dayNumber = l'.date.dayNumber ∧
      (l.hour < l'.hour ∨ l.hour = l'.hour ∧
      (l.minute < l'.minute ∨ l.minute = l'.minute ∧
      (l.second < l'.second ∨ l.second = l'.second ∧
      l.nanosecond / 1000000 < l'.nanosecond / 1000000))) := by
    simp only [LocalTime.clockMillis, LocalTime.clockSecond]
    omega
  rw [hsplit, dayNumber_lt_iff hdate hdate', hsame, Date.IsBefore]
  simp only [and_or_left, or_assoc, and_assoc]

/-! ### Writing -/

/-- A timestamp is written from what a clock in UTC shows. -/
theorem writeLabel_eq (millis : Int) :
    let l := shownAt millis
    writeLabel millis = writeYear l.date.year ++ '-' :: (writePadded 2 l.date.month ++ '-' ::
      (writePadded 2 l.date.day ++ 'T' :: (writePadded 2 l.hour ++ ':' ::
        (writePadded 2 l.minute ++ ':' :: (writePadded 2 l.second ++ '.' ::
          (writePadded 3 (l.nanosecond / 1000000) ++ ['Z'])))))) := by
  -- The clock goes by whole seconds, a label is written from the milliseconds themselves.
  have hday : (millis / 1000 + 0) / 86400 = millis / 86400000 := by omega
  have hhour : ((millis / 1000 + 0) % 86400).toNat / 3600
      = (millis % 86400000).toNat / 3600000 := by omega
  have hminute : ((millis / 1000 + 0) % 86400).toNat / 60 % 60
      = (millis % 86400000).toNat / 60000 % 60 := by omega
  have hsecond : ((millis / 1000 + 0) % 86400).toNat % 60
      = (millis % 86400000).toNat / 1000 % 60 := by omega
  have hdecimals : (millis % 1000).toNat * 1000000 / 1000000
      = (millis % 86400000).toNat % 1000 := by omega
  simp only [shownAt, Instant.onClock, Instant.ofMillis, hday, hhour, hminute, hsecond, hdecimals,
    writeLabel, List.append_assoc, List.cons_append]

/-- A year from 0 to 9999 is written in four digits. -/
theorem isRow_writeYear {year : Int} (h : 0 ≤ year ∧ year ≤ 9999) :
    IsRow 4 year.natAbs (writeYear year) := by
  rw [writeYear, if_pos h]
  exact isRow_writePadded (by decide) (show year.natAbs < 10000 by omega)

/-- A year is written in the form of one. -/
theorem isYear_writeYear (year : Int) : IsYear (writeYear year) year := by
  have hwide := le_length_writePadded 4 year.natAbs
  have hrow := isRow_length_writePadded 4 year.natAbs
  by_cases hplain : 0 ≤ year ∧ year ≤ 9999
  · have h := IsYear.plain (isRow_writeYear hplain)
    rwa [Int.natAbs_of_nonneg hplain.1] at h
  · -- All other years have a sign, and at least four digits.
    rw [writeYear, if_neg hplain]
    split
    · next hneg =>
      have h := IsYear.before hwide hrow
      rwa [Int.ofNat_natAbs_of_nonpos (Int.le_of_lt hneg), Int.neg_neg] at h
    · next hpos =>
      have h := IsYear.after hwide hrow
      rwa [Int.natAbs_of_nonneg (Int.not_lt.1 hpos)] at h

/-- The parts of a time behind its year are written in as many places as the form gives them. -/
structure LocalTime.FitsForm (l : LocalTime) : Prop where
  month : IsRow 2 l.date.month (writePadded 2 l.date.month)
  day : IsRow 2 l.date.day (writePadded 2 l.date.day)
  hour : IsRow 2 l.hour (writePadded 2 l.hour)
  minute : IsRow 2 l.minute (writePadded 2 l.minute)
  second : IsRow 2 l.second (writePadded 2 l.second)
  decimals : IsRow 3 (l.nanosecond / 1000000) (writePadded 3 (l.nanosecond / 1000000))

/-- The parts of a time to the millisecond fit the form. -/
theorem LocalTime.IsToMillis.fitsForm {l : LocalTime} (h : l.IsToMillis) : l.FitsForm := by
  obtain ⟨⟨hdate, hhour, hminute, hsecond⟩, thousandths, hless, hnanos⟩ := h
  obtain ⟨-, hmonth, -, hday⟩ := isValid_iff.1 hdate
  have hlast := daysInMonth_le (isLeap l.date.year) hmonth
  have hdecimals : l.nanosecond / 1000000 < 1000 := by omega
  have hpair : ∀ n < 100, IsRow 2 n (writePadded 2 n) := fun n hn =>
    isRow_writePadded (by decide) hn
  exact ⟨hpair _ (by omega), hpair _ (by omega), hpair _ (by omega), hpair _ (by omega),
    hpair _ (by omega), isRow_writePadded (by decide) hdecimals⟩

/-- What is written for a millisecond is the timestamp of what a clock in UTC shows then. -/
theorem isStamp_writeLabel (millis : Int) : IsStamp (writeLabel millis) (shownAt millis) := by
  obtain ⟨hshown, -⟩ := isToMillis_shownAt millis
  obtain ⟨thousandths, hless, hnanos⟩ := hshown.nanosecond
  have hfits := hshown.fitsForm
  have hwhole : (shownAt millis).nanosecond = (shownAt millis).nanosecond / 1000000 * 1000000 := by
    rw [hnanos, Nat.mul_div_cancel _ (by decide)]
  rw [writeLabel_eq]
  exact .mk hshown.toIsProper hwhole (isYear_writeYear _) hfits.month hfits.day hfits.hour
    hfits.minute hfits.second hfits.decimals

/-! ### What is representable -/

/-- The first time that is representable. -/
def firstTime : LocalTime := ⟨⟨-262143, 1, 1⟩, 0, 0, 0, 0⟩

/-- The last time to the millisecond that is representable. -/
def lastTime : LocalTime := ⟨⟨262142, 12, 31⟩, 23, 59, 59, 999000000⟩

/-- Seconds are representable from the first to the last one. -/
theorem isRepresentable_iff {second : Int} :
    isRepresentable second = true ↔ firstSecond ≤ second ∧ second ≤ lastSecond := by
  rw [isRepresentable, Bool.and_eq_true, decide_eq_true_eq, decide_eq_true_eq]

/-- Milliseconds are representable from the first to the last one. -/
theorem isRepresentable_div_iff {millis : Int} :
    isRepresentable (millis / 1000) = true ↔
      firstTime.clockMillis ≤ millis ∧ millis ≤ lastTime.clockMillis := by
  have hfirst : firstTime.clockMillis = -8334601228800000 := by decide +kernel
  have hlast : lastTime.clockMillis = 8210266876799999 := by decide +kernel
  have hfirst' : firstSecond = -8334601228800 := by decide +kernel
  have hlast' : lastSecond = 8210266876799 := by decide +kernel
  rw [isRepresentable_iff, hfirst, hlast, hfirst', hlast']
  omega

/-- The day of a representable time is representable from its start. -/
theorem isRepresentable_day {l : LocalTime} (h : l.IsProper)
    (hin : isRepresentable l.clockSecond = true) :
    isRepresentable (l.date.dayNumber * 86400) = true := by
  obtain ⟨-, hhour, hminute, hsecond⟩ := h
  rw [isRepresentable_iff] at hin ⊢
  simp only [firstSecond, lastSecond, LocalTime.clockSecond] at hin ⊢
  omega

/-- What a clock shows at a representable millisecond is a valid time. -/
theorem isValid_shownAt {millis : Int} (h : isRepresentable (millis / 1000) = true) :
    (shownAt millis).isValid = true := by
  obtain ⟨⟨proper, thousandths, hless, hnanos⟩, hcount⟩ := isToMillis_shownAt millis
  have hsecond : (shownAt millis).clockSecond = millis / 1000 := by
    rw [LocalTime.clockMillis, hnanos] at hcount
    omega
  have hday := isRepresentable_day proper (hsecond ▸ h)
  have hnanosecond : (shownAt millis).nanosecond < nanosInSecond := by
    rw [hnanos, nanosInSecond]
    omega
  simp [LocalTime.isValid, proper.date, proper.hour, proper.minute, proper.second, hday,
    hnanosecond]

/-! ### Labels -/

/-- A label is written for the milliseconds of representable instants. -/
theorem label_eq_some_iff {millis : Int} {label : String} :
    label? millis = some label ↔
      isRepresentable (millis / 1000) = true ∧ label.toList = writeLabel millis := by
  rw [label?, Option.ite_none_right_eq_some, Option.some_inj, ← String.toList_inj,
    String.toList_ofList, eq_comm (a := writeLabel millis)]

/-- There is a label from the first representable millisecond to the last one. -/
theorem exists_label_iff {millis : Int} :
    (∃ label, label? millis = some label) ↔
      firstTime.clockMillis ≤ millis ∧ millis ≤ lastTime.clockMillis := by
  rw [← isRepresentable_div_iff]
  simp only [label_eq_some_iff, exists_and_left, and_iff_left_iff_imp]
  exact fun _ => ⟨String.ofList (writeLabel millis), String.toList_ofList⟩

/-- A label is read back as the instant at which its millisecond begins. -/
theorem ofText_label {millis : Int} {label : String} (h : label? millis = some label) :
    ofText? label = some (Instant.ofMillis millis) := by
  obtain ⟨hin, htext⟩ := label_eq_some_iff.1 h
  have hproper := (isToMillis_shownAt millis).1.toIsProper
  rw [← String.ofList_toList (s := label), htext, ofText_of_isStamp (isStamp_writeLabel millis),
    if_pos (isValid_shownAt hin)]
  exact (toInstant_eq_some_iff hproper).2 ⟨rfl, hin⟩

/-- A label is the timestamp of one time, which a clock in UTC shows at the start of its
millisecond. -/
theorem isStamp_label_iff {millis : Int} {label : String} (h : label? millis = some label)
    {l : LocalTime} : IsStamp label.toList l ↔ l = shownAt millis := by
  constructor
  · intro hstamp
    -- Both times are what is read.
    have hread := ofText_of_isStamp hstamp
    rw [String.ofList_toList, ofText_label h] at hread
    obtain ⟨hvalid, hinstant⟩ := Option.ite_none_right_eq_some.1 hread.symm
    exact ((toInstant_eq_some_iff (LocalTime.isProper_of_isValid hvalid)).1 hinstant).1.symm
  · rintro rfl
    rw [(label_eq_some_iff.1 h).2]
    exact isStamp_writeLabel millis

/-! ### The order of labels -/

/-- For years of four digits, labels are in the order of their milliseconds. -/
theorem writeLabel_lt_iff {millis millis' : Int}
    (h : 0 ≤ (shownAt millis).date.year ∧ (shownAt millis).date.year ≤ 9999)
    (h' : 0 ≤ (shownAt millis').date.year ∧ (shownAt millis').date.year ≤ 9999) :
    writeLabel millis < writeLabel millis' ↔ millis < millis' := by
  obtain ⟨hshown, hcount⟩ := isToMillis_shownAt millis
  obtain ⟨hshown', hcount'⟩ := isToMillis_shownAt millis'
  conv_rhs => rw [← hcount, ← hcount', clockMillis_lt_iff hshown hshown']
  have hfits := hshown.fitsForm
  have hfits' := hshown'.fitsForm
  rw [writeLabel_eq, writeLabel_eq,
    (isRow_writeYear h).append_lt_append_iff (isRow_writeYear h'), List.cons_lt_cons_self,
    hfits.month.append_lt_append_iff hfits'.month, List.cons_lt_cons_self,
    hfits.day.append_lt_append_iff hfits'.day, List.cons_lt_cons_self,
    hfits.hour.append_lt_append_iff hfits'.hour, List.cons_lt_cons_self,
    hfits.minute.append_lt_append_iff hfits'.minute, List.cons_lt_cons_self,
    hfits.second.append_lt_append_iff hfits'.second, List.cons_lt_cons_self,
    hfits.decimals.append_lt_append_iff hfits'.decimals]
  -- The years are not negative, and behind the decimals all labels end in the same way.
  have hend : ¬ ['Z'] < ['Z'] := List.lt_irrefl _
  simp only [hend, and_false, or_false]
  omega

/-- A timestamp is written in ASCII. -/
theorem isAscii_of_isStamp {cs : List Char} {l : LocalTime} (h : IsStamp cs l) :
    ∀ c ∈ cs, c.toNat < 128 := by
  have hrow : ∀ {width n : Nat} {ds : List Char}, IsRow width n ds → ∀ c ∈ ds, c.toNat < 128 := by
    intro width n ds row c hc
    have hbound := (isDigit_bounds (row.digits c hc)).2
    change c.toNat - 48 < 10 at hbound
    omega
  obtain ⟨-, -, isYear, isMonth, isDay, isHour, isMinute, isSecond, isDecimals⟩ := h
  have hyear : ∀ {ds : List Char} {y : Int}, IsYear ds y → ∀ c ∈ ds, c.toNat < 128 := by
    intro ds y isYear
    cases isYear with
    | plain row => exact hrow row
    | after wide row => exact List.forall_mem_cons.2 ⟨by decide, hrow row⟩
    | before wide row => exact List.forall_mem_cons.2 ⟨by decide, hrow row⟩
  simp only [List.forall_mem_append, List.forall_mem_cons]
  exact ⟨hyear isYear, by decide, hrow isMonth, by decide, hrow isDay, by decide, hrow isHour,
    by decide, hrow isMinute, by decide, hrow isSecond, by decide, hrow isDecimals, by decide,
    List.forall_mem_nil _⟩

/-- The first time of year 0. -/
def firstOfFourDigits : LocalTime := ⟨⟨0, 1, 1⟩, 0, 0, 0, 0⟩

/-- The last time to the millisecond of year 9999. -/
def lastOfFourDigits : LocalTime := ⟨⟨9999, 12, 31⟩, 23, 59, 59, 999000000⟩

/-- Between the first time of year 0 and the last of year 9999 a year has four digits. -/
theorem year_shownAt {millis : Int} (h : firstOfFourDigits.clockMillis ≤ millis)
    (h' : millis ≤ lastOfFourDigits.clockMillis) :
    0 ≤ (shownAt millis).date.year ∧ (shownAt millis).date.year ≤ 9999 := by
  obtain ⟨hshown, hcount⟩ := isToMillis_shownAt millis
  have hfirst : firstOfFourDigits.IsToMillis :=
    ⟨⟨rfl, by decide, by decide, by decide⟩, 0, by decide, rfl⟩
  have hlast : lastOfFourDigits.IsToMillis :=
    ⟨⟨rfl, by decide, by decide, by decide⟩, 999, by decide, rfl⟩
  constructor
  · by_contra hbefore
    have hlt := (clockMillis_lt_iff hshown hfirst).2 (Or.inl (Int.not_le.1 hbefore))
    omega
  · by_contra hafter
    have hlt := (clockMillis_lt_iff hlast hshown).2 (Or.inl (Int.not_le.1 hafter))
    omega

/-- For years of four digits, labels are in the order of their milliseconds, byte by byte. -/
theorem bytes_label_lt_iff {millis millis' : Int} {label label' : String}
    (h : label? millis = some label) (h' : label? millis' = some label')
    (hyear : firstOfFourDigits.clockMillis ≤ millis ∧ millis ≤ lastOfFourDigits.clockMillis)
    (hyear' : firstOfFourDigits.clockMillis ≤ millis' ∧ millis' ≤ lastOfFourDigits.clockMillis) :
    Text.bytes label.toList < Text.bytes label'.toList ↔ millis < millis' := by
  rw [(label_eq_some_iff.1 h).2, (label_eq_some_iff.1 h').2,
    Text.bytes_lt_bytes_iff (isAscii_of_isStamp (isStamp_writeLabel millis))
      (isAscii_of_isStamp (isStamp_writeLabel millis')),
    writeLabel_lt_iff (year_shownAt hyear.1 hyear.2) (year_shownAt hyear'.1 hyear'.2)]

/-- Behind the last of these years there is a sign, which comes before all digits. -/
example : label? (lastOfFourDigits.clockMillis + 1) = some "+10000-01-01T00:00:00.000Z" := by
  decide +kernel

end TypedSearch.Calendar
