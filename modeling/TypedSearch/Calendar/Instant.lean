import TypedSearch.Calendar.Date
/-!
# `TypedSearch.Calendar.Instant`: points in time

An instant is a second since 1970-01-01T00:00:00 UTC and the nanoseconds past it. Nanoseconds past
the end of the second lie in a leap second, which follows it. Representable instants are those of
the years -262143 to 262142.
-/

set_option autoImplicit false

namespace TypedSearch.Calendar

/-- The number of nanoseconds in a second. -/
def nanosInSecond : Nat := 1000000000

/-- A point in time. -/
structure Instant where
  second : Int
  nanosecond : Nat
  deriving DecidableEq, Repr

/-- The first second that has a representation. -/
def firstSecond : Int := (Date.mk (-262143) 1 1).dayNumber * 86400

/-- The last second that has a representation. -/
def lastSecond : Int := (Date.mk 262142 12 31).dayNumber * 86400 + 86399

/-- Is the second one that has a representation? -/
def isRepresentable (second : Int) : Bool := firstSecond ≤ second && second ≤ lastSecond

/-- Whole milliseconds since 1970, rounded down. -/
def Instant.millis (t : Instant) : Int := t.second * 1000 + (t.nanosecond / 1000000 : Nat)

/-- The instant a positive number of days earlier. Leaving a leap second for an earlier time starts
from the second after it. -/
def Instant.minusDays (t : Instant) (days : Nat) : Instant :=
  if nanosInSecond ≤ t.nanosecond then
    ⟨t.second + 1 - 86400 * days, t.nanosecond - nanosInSecond⟩
  else ⟨t.second - 86400 * days, t.nanosecond⟩

/-- A date and a time of day without a zone. -/
structure LocalTime where
  date : Date
  hour : Nat
  minute : Nat
  second : Nat
  nanosecond : Nat
  deriving DecidableEq, Repr

/-- Are all parts within their bounds? A leap second follows second 59. -/
def LocalTime.isValid (t : LocalTime) : Bool :=
  t.date.isValid && isRepresentable (t.date.dayNumber * 86400) && t.hour < 24 && t.minute < 60 &&
    t.second < 60 &&
    (t.nanosecond < nanosInSecond || (t.second = 59 && t.nanosecond < 2 * nanosInSecond))

/-- The instant shown by a clock that is `offset` seconds ahead of UTC, if it is representable. -/
def LocalTime.toInstant? (t : LocalTime) (offset : Int) : Option Instant :=
  let second := t.date.dayNumber * 86400 + t.hour * 3600 + t.minute * 60 + t.second - offset
  if isRepresentable second then some ⟨second, t.nanosecond⟩ else none

end TypedSearch.Calendar
