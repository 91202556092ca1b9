import TypedSearch.Calendar.Instant
import TypedSearch.Decimal.Whole
import TypedSearch.Text.Blank
/-!
# `TypedSearch.Calendar.Stamp`: timestamps as text

`label?` writes a millisecond as an RFC 3339 timestamp in UTC. A year outside 0 to 9999 has a sign
and at least four digits. `ofText?` reads a timestamp with any offset, and allows for blanks in
front of the numbers, a blank in place of the `T`, and `UTC` in place of the `Z`.
-/

set_option autoImplicit false

namespace TypedSearch.Calendar

open Decimal

/-- A year in at least four digits, with a sign outside 0 to 9999. -/
def writeYear (year : Int) : List Char :=
  if 0 ≤ year ∧ year ≤ 9999 then writePadded 4 year.natAbs
  else (if year < 0 then '-' else '+') :: writePadded 4 year.natAbs

/-- The timestamp of a millisecond since 1970. -/
def writeLabel (millis : Int) : List Char :=
  let date := Date.ofDayNumber (millis / 86400000)
  let inDay := (millis % 86400000).toNat
  writeYear date.year ++ '-' :: writePadded 2 date.month ++ '-' :: writePadded 2 date.day ++
    'T' :: writePadded 2 (inDay / 3600000) ++ ':' :: writePadded 2 (inDay / 60000 % 60) ++
    ':' :: writePadded 2 (inDay / 1000 % 60) ++ '.' :: writePadded 3 (inDay % 1000) ++ ['Z']

/-- The timestamp of a millisecond since 1970, if that is representable. -/
def label? (millis : Int) : Option String :=
  if isRepresentable (millis / 1000) then some (String.ofList (writeLabel millis)) else none

/-- Reads at most `most` digits, and at least one. -/
def readDigits? (most : Nat) (cs : List Char) : Option (Nat × List Char) :=
  let ds := (cs.take most).takeWhile Char.isDigit
  if ds.isEmpty then none else some (valueOf ds, cs.drop ds.length)

/-- Reads a number of at most two digits, within bounds, with any blanks in front. -/
def readPart? (low high : Nat) (cs : List Char) : Option (Nat × List Char) := do
  let (n, rest) ← readDigits? 2 (Text.trimLeft cs)
  if low ≤ n ∧ n ≤ high then some (n, rest) else none

/-- Reads a year: four digits at most, or any number of them behind a sign. -/
def readYear? (cs : List Char) : Option (Int × List Char) := do
  match Text.trimLeft cs with
  | '-' :: rest =>
    let (n, rest) ← readDigits? rest.length rest
    some (-(n : Int), rest)
  | '+' :: rest =>
    let (n, rest) ← readDigits? rest.length rest
    some ((n : Int), rest)
  | cs =>
    let (n, rest) ← readDigits? 4 cs
    some ((n : Int), rest)

/-- Reads one character with any blanks in front. -/
def readMark? (mark : Char) (cs : List Char) : Option (List Char) :=
  match Text.trimLeft cs with
  | c :: rest => if c = mark then some rest else none
  | [] => none

/-- Reads an optional fraction of a second, in nanoseconds. Digits past the ninth are ignored. -/
def readFraction? : List Char → Option (Nat × List Char)
  | '.' :: rest =>
    let ds := rest.takeWhile Char.isDigit
    if ds.isEmpty then none
    else
      let kept := ds.take 9
      some (valueOf kept * tenTo (9 - kept.length), rest.drop ds.length)
  | cs => some (0, cs)

/-- Reads two digits of an offset. -/
def readPair? : List Char → Option (Nat × List Char)
  | a :: b :: rest =>
    if a.isDigit ∧ b.isDigit then some (valueOf [a, b], rest) else none
  | _ => none

/-- Reads an offset from UTC in seconds. -/
def readOffset? : List Char → Option (Int × List Char)
  | [] => none
  | c :: rest =>
    if c = 'Z' ∨ c = 'z' then some (0, rest)
    else if (c :: rest.take 2).map Char.toUpper = ['U', 'T', 'C'] then some (0, rest.drop 2)
    else if c = '+' ∨ c = '-' ∨ c = '−' then do
      let (hours, rest) ← readPair? rest
      let (minutes, rest) ← readPair? (rest.dropWhile fun c => c = ':' || Text.isBlank c)
      let seconds : Int := hours * 3600 + minutes * 60
      if minutes < 60 ∧ seconds < 86400 then
        some (if c = '+' then seconds else -seconds, rest)
      else none
    else none

/-- Reads a timestamp. Second 60 is the leap second behind second 59. -/
def ofText? (text : String) : Option Instant := do
  let (year, rest) ← readYear? text.toList
  let (month, rest) ← readPart? 1 12 (← readMark? '-' rest)
  let (day, rest) ← readPart? 1 31 (← readMark? '-' rest)
  let rest ← match rest with
    | 'T' :: rest => some rest
    | 't' :: rest => some rest
    | ' ' :: rest => some rest
    | _ => none
  let (hour, rest) ← readPart? 0 23 rest
  let (minute, rest) ← readPart? 0 59 (← readMark? ':' rest)
  let (second, rest) ← readPart? 0 60 (← readMark? ':' rest)
  let (nanosecond, rest) ← readFraction? rest
  let (offset, rest) ← readOffset? (Text.trimLeft rest)
  let date : Date := ⟨year, month, day⟩
  let time : LocalTime :=
    if second = 60 then ⟨date, hour, minute, 59, nanosecond + nanosInSecond⟩
    else ⟨date, hour, minute, second, nanosecond⟩
  if Text.isAllBlank rest ∧ time.isValid then time.toInstant? offset else none

end TypedSearch.Calendar
