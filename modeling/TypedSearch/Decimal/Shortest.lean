import TypedSearch.Decimal.Binary64
import TypedSearch.Decimal.Whole
/-!
# `TypedSearch.Decimal.Shortest`: the shortest decimal that reads back

Among the decimals that round to a given value, the one with the fewest digits is written, and of
several with that many digits the one nearest to the value. The search looks at grids of 1, 2, ...
17 significant digits. If any point of a grid rounds to the value, one of the value's two
neighbours on that grid does, so it is enough to try these two.

`Layout` says how the digits become a text.
-/

set_option autoImplicit false

namespace TypedSearch.Decimal

/-- The decimals that round to a value, between two bounds with a common denominator. -/
structure Interval where
  low : Nat
  value : Nat
  high : Nat
  den : Nat
  /-- Do the bounds themselves round to the value? -/
  closed : Bool

/-- The interval of a value that is not zero. Its bounds lie half way to the neighbouring
magnitudes; the one below is nearer where the distance between neighbours doubles. -/
def Binary64.interval (x : Binary64) : Interval :=
  let m := x.mantissa
  let nearerBelow := m = blockSize ∧ x.exponent ≠ -1074
  let unit := scaleByTwo (x.exponent - 2) 1 1
  { low := (4 * m - if nearerBelow then 1 else 2) * unit.1
    value := 4 * m * unit.1
    high := (4 * m + 2) * unit.1
    den := unit.2
    closed := m % 2 = 0 }

/-- Does `digits * 10 ^ e` round to the value? -/
def Interval.holds (i : Interval) (digits : Nat) (e : Int) : Bool :=
  let point := scaleByTen e digits 1
  let left := i.low * point.2
  let middle := point.1 * i.den
  let right := i.high * point.2
  if i.closed then left ≤ middle && middle ≤ right else left < middle && middle < right

/-- The exponent of the first digit of `num / den`. -/
def leadingPlace (num den : Nat) : Int :=
  let guess : Int := ((writeNat num).length : Int) - (writeNat den).length
  let scaled := scaleByTen (-guess) num den
  if scaled.1 < scaled.2 then guess - 1 else guess

/-- The neighbour of the value on the grid `10 ^ e` that rounds to the value; of two the nearer. -/
def Interval.onGrid? (i : Interval) (e : Int) : Option Nat :=
  let scaled := scaleByTen (-e) i.value i.den
  let below := scaled.1 / scaled.2
  let nearest := roundDiv scaled.1 scaled.2
  if i.holds nearest e then some nearest
  else if i.holds below e then some below
  else if i.holds (below + 1) e then some (below + 1)
  else none

/-- Moves trailing zeros of the digits into the exponent. -/
def dropZeros : Nat → Nat → Int → Nat × Int
  | 0, digits, e => (digits, e)
  | fuel + 1, digits, e =>
    if digits % 10 = 0 ∧ digits ≠ 0 then dropZeros fuel (digits / 10) (e + 1) else (digits, e)

/-- The digits and the exponent of the shortest decimal that reads back as the magnitude of `x`. -/
def Binary64.shortest (x : Binary64) : Nat × Int :=
  if x.step = 0 then (0, 0)
  else
    let i := x.interval
    let first := leadingPlace i.value i.den
    let hit := (List.range 17).findSome? fun (n : Nat) =>
      (i.onGrid? (first - n)).map fun digits => dropZeros 17 digits (first - n)
    hit.getD (0, 0)

/-- How a decimal is laid out. -/
structure Layout where
  /-- Is a number with the first digit at this power of ten written without an exponent? -/
  positional : Int → Bool
  /-- Does a whole number end in `.0`? -/
  pointZero : Bool

/-- The layout of numbers inside a document: positional from `1e-5` up to `1e16`, and always told
apart from a whole number. -/
def Layout.document : Layout := ⟨fun place => -5 ≤ place && place < 16, true⟩

/-- The layout of numbers in a condition: always positional, and nothing behind a whole number. -/
def Layout.condition : Layout := ⟨fun _ => true, false⟩

/-- Digits with the point behind the power of ten `e`. -/
def placePoint (pointZero : Bool) (ds : List Char) (e : Int) : List Char :=
  if 0 ≤ e then
    ds ++ List.replicate e.toNat '0' ++ if pointZero then ['.', '0'] else []
  else
    let places := (-e).toNat
    if places < ds.length then
      ds.take (ds.length - places) ++ '.' :: ds.drop (ds.length - places)
    else '0' :: '.' :: List.replicate (places - ds.length) '0' ++ ds

/-- Digits with one digit in front of the point and the exponent behind. -/
def placeExponent (ds : List Char) (place : Int) : List Char :=
  let sign := if place < 0 then '-' else '+'
  ds.take 1 ++ (if ds.length = 1 then [] else '.' :: ds.drop 1) ++
    'e' :: sign :: writeNat place.natAbs

/-- The text of a number. -/
def Layout.write (l : Layout) (x : Binary64) : List Char :=
  let (digits, e) := x.shortest
  let ds := writeNat digits
  let place := e + ds.length - 1
  let body := if l.positional place then placePoint l.pointZero ds e else placeExponent ds place
  if x.negative then '-' :: body else body

end TypedSearch.Decimal
