import TypedSearch.Decimal.Whole
/-!
# `TypedSearch.Decimal.Binary64`: finite 64-bit binary numbers

The values of the 64-bit binary format, infinities and NaN left out. The magnitudes, in increasing
order, are counted by `step`: the first block of `2 ^ 52` steps is the multiples of the least
magnitude, and every further block of as many steps doubles the distance between neighbours. A
value is its sign and its step, so that equal bits are equal values and `-0` differs from `0`.

Rounding goes to the nearest value, and to the one with an even mantissa from half way.
-/

set_option autoImplicit false

namespace TypedSearch.Decimal

/-- A power of two. -/
def twoTo (n : Nat) : Nat := Nat.pow 2 n

/-- The number of steps at one distance, `2 ^ 52`. -/
def blockSize : Nat := 4503599627370496

/-- A finite number of the 64-bit binary format. -/
structure Binary64 where
  /-- Is the sign a minus? -/
  negative : Bool
  /-- The place of the magnitude among all magnitudes, from zero on. -/
  step : Nat
  /-- The steps from here on would be infinity and NaN. -/
  finite : step < 2047 * blockSize
  deriving DecidableEq, Repr

/-- The quotient `num / den` rounded to a natural number, half way to the even one. -/
def roundDiv (num den : Nat) : Nat :=
  if 2 * (num % den) < den then num / den
  else if den < 2 * (num % den) then num / den + 1
  else num / den + num / den % 2

/-- The quotient `num / den`, with a power of two moved to where it is a natural number. -/
def scaleByTwo (e : Int) (num den : Nat) : Nat × Nat :=
  if e < 0 then (num, den * twoTo (-e).toNat) else (num * twoTo e.toNat, den)

/-- The power of ten `e` times `num / den`, as a quotient of natural numbers. -/
def scaleByTen (e : Int) (num den : Nat) : Nat × Nat :=
  if e < 0 then (num, den * tenTo (-e).toNat) else (num * tenTo e.toNat, den)

namespace Binary64

/-- The number zero with a plus sign. -/
def zero : Binary64 := ⟨false, 0, by decide⟩

/-- The same magnitude with the other sign. -/
def neg (x : Binary64) : Binary64 := { x with negative := !x.negative }

/-- The magnitude is `mantissa * 2 ^ exponent`. -/
def mantissa (x : Binary64) : Nat :=
  if x.step < blockSize then x.step else blockSize + x.step % blockSize

/-- The magnitude is `mantissa * 2 ^ exponent`. -/
def exponent (x : Binary64) : Int :=
  if x.step < blockSize then -1074 else (x.step / blockSize : Nat) - 1075

/-- The magnitude as a quotient of natural numbers. -/
def ratio (x : Binary64) : Nat × Nat := scaleByTwo x.exponent x.mantissa 1

/-- The exponent of the last place that a value near `num / den` keeps: 53 binary digits, and never
finer than the least magnitude. -/
def lastPlace (num den : Nat) : Int :=
  let guess : Int := (num.log2 : Int) - den.log2
  let scaled := scaleByTwo (-guess) num den
  let leading := if scaled.1 < scaled.2 then guess - 1 else guess
  max (-1074) (leading - 52)

/-- The step of the magnitude nearest to `num / den`; a step past the last finite one when the
quotient is too large. -/
def nearestStep (num den : Nat) : Nat :=
  if num = 0 then 0
  else
    let e := lastPlace num den
    let scaled := scaleByTwo (-e) num den
    (e + 1074).toNat * blockSize + roundDiv scaled.1 scaled.2

/-- The value nearest to `num / den`, with the given sign; nothing if that is infinite. -/
def nearest? (negative : Bool) (num den : Nat) : Option Binary64 :=
  if h : nearestStep num den < 2047 * blockSize then some ⟨negative, nearestStep num den, h⟩
  else none

/-- The value nearest to a whole number of at most 64 bits. -/
def ofInt? (n : Int) : Option Binary64 := nearest? (n < 0) n.natAbs 1

/-- The product of two values, rounded. -/
def mul? (x y : Binary64) : Option Binary64 :=
  nearest? (x.negative != y.negative) (x.ratio.1 * y.ratio.1) (x.ratio.2 * y.ratio.2)

/-- The quotient of two values, rounded; nothing if the second is zero. -/
def div? (x y : Binary64) : Option Binary64 :=
  if y.step = 0 then none
  else nearest? (x.negative != y.negative) (x.ratio.1 * y.ratio.2) (x.ratio.2 * y.ratio.1)

/-- The value nearest to `digits * 10 ^ e`. Far outside the range the powers of ten are not
computed: the result is infinite or zero by the exponent alone. -/
def ofDecimal? (negative : Bool) (digits : Nat) (e : Int) : Option Binary64 :=
  if digits = 0 then some { zero with negative }
  else if 400 < e then none
  else if e + digits.log2 < -1200 then some { zero with negative }
  else
    let scaled := scaleByTen e digits 1
    nearest? negative scaled.1 scaled.2

end Binary64

end TypedSearch.Decimal
