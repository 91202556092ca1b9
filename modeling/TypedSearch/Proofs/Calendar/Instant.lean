import TypedSearch.Calendar.Instant
import TypedSearch.Proofs.Calendar.Date
/-!
# `TypedSearch.Proofs.Calendar.Instant`: what clocks show

A clock with an offset from UTC shows an instant as a date and a time of day. Its reading is
computed from the instant here, and led back to it by `LocalTime.toInstant?`. So a time on a clock
is the time of one instant, whatever the offset.

* `onClock_eq_iff`: the one instant at which a clock shows a time.
* `toInstant_eq_some_iff`: a time is led back to that instant, if it is representable.
* `le_millis_iff`, `millis_le_iff`: the millisecond of an instant is the last that is not after it.
-/

set_option autoImplicit false

namespace TypedSearch.Calendar

/-! ### The time of day -/

/-- What a clock shows at an instant if it is `offset` seconds ahead of UTC. -/
def Instant.onClock (t : Instant) (offset : Int) : LocalTime :=
  let inDay := ((t.second + offset) % 86400).toNat
  ⟨Date.ofDayNumber ((t.second + offset) / 86400), inDay / 3600, inDay / 60 % 60, inDay % 60,
    t.nanosecond⟩

/-- The parts of a time are those of a calendar and a clock. The year is left open, and so are the
nanoseconds. -/
structure LocalTime.IsProper (l : LocalTime) : Prop where
  date : l.date.isValid = true
  hour : l.hour < 24
  minute : l.minute < 60
  second : l.second < 60

/-- A valid time has proper parts. -/
theorem LocalTime.isProper_of_isValid {l : LocalTime} (h : l.isValid = true) : l.IsProper := by
  simp only [isValid, Bool.and_eq_true, decide_eq_true_eq] at h
  obtain ⟨⟨⟨⟨⟨hdate, -⟩, hhour⟩, hminute⟩, hsecond⟩, -⟩ := h
  exact ⟨hdate, hhour, hminute, hsecond⟩

/-- The seconds that a clock counts from the start of 1970 on its own dates. -/
def LocalTime.clockSecond (l : LocalTime) : Int :=
  l.date.dayNumber * 86400 + l.hour * 3600 + l.minute * 60 + l.second

/-- The instant of a time is by the offset before what the clock counts. -/
theorem LocalTime.toInstant_eq (l : LocalTime) (offset : Int) :
    l.toInstant? offset = if isRepresentable (l.clockSecond - offset) then
      some ⟨l.clockSecond - offset, l.nanosecond⟩ else none := rfl

/-- A clock shows a time at one instant, by the offset before what the clock counts. -/
theorem onClock_eq_iff {t : Instant} {offset : Int} {l : LocalTime} :
    t.onClock offset = l ↔ l.IsProper ∧ t = ⟨l.clockSecond - offset, l.nanosecond⟩ := by
  obtain ⟨second, nanosecond⟩ := t
  constructor
  · rintro rfl
    have hday := dayNumber_ofDayNumber ((second + offset) / 86400)
    constructor
    · constructor
      · exact isValid_ofDayNumber _
      · show ((second + offset) % 86400).toNat / 3600 < 24
        omega
      · exact Nat.mod_lt _ (by decide)
      · exact Nat.mod_lt _ (by decide)
    · simp only [Instant.onClock, LocalTime.clockSecond, hday, Instant.mk.injEq, and_true]
      omega
  · rintro ⟨hproper, heq⟩
    obtain ⟨date, hour, minute, sec, nanos⟩ := l
    obtain ⟨hdate, hhour, hminute, hsecond⟩ := hproper
    obtain ⟨hshown, rfl⟩ := Instant.mk.inj heq
    simp only [LocalTime.clockSecond] at hshown hhour hminute hsecond
    -- What the clock counts is made of whole days, and of less than a day.
    have hdays : (second + offset) / 86400 = date.dayNumber := by omega
    have hrest : ((second + offset) % 86400).toNat = hour * 3600 + minute * 60 + sec := by omega
    simp only [Instant.onClock, hdays, hrest, ofDayNumber_dayNumber hdate, LocalTime.mk.injEq,
      true_and, and_true]
    omega

/-- A time leads to an instant exactly when the clock shows it then and the instant is
representable. -/
theorem toInstant_eq_some_iff {l : LocalTime} (h : l.IsProper) {offset : Int} {t : Instant} :
    l.toInstant? offset = some t ↔ t.onClock offset = l ∧ isRepresentable t.second = true := by
  rw [LocalTime.toInstant_eq, onClock_eq_iff]
  simp only [h, true_and]
  constructor
  · intro hread
    obtain ⟨hin, heq⟩ := Option.ite_none_right_eq_some.1 hread
    obtain rfl := Option.some.inj heq
    exact ⟨rfl, hin⟩
  · rintro ⟨rfl, hin⟩
    exact if_pos hin

/-! ### Milliseconds -/

/-- The place of an instant on the line of time, in nanoseconds from the start of 1970. Inside a
leap second the count goes on from the second before it. -/
def Instant.nanos (t : Instant) : Int := t.second * nanosInSecond + t.nanosecond

/-- The millisecond of an instant is the last that is not after it, also before 1970. -/
theorem le_millis_iff {t : Instant} {m : Int} : m ≤ t.millis ↔ m * 1000000 ≤ t.nanos := by
  simp only [Instant.millis, Instant.nanos, nanosInSecond]
  omega

/-- An instant is less than a millisecond after its millisecond. -/
theorem millis_le_iff {t : Instant} {m : Int} : t.millis ≤ m ↔ t.nanos < (m + 1) * 1000000 := by
  rw [← Int.not_le, ← le_millis_iff]
  omega

end TypedSearch.Calendar
