import TypedSearch.Json.Basic
import TypedSearch.Decimal.Whole
/-!
# `TypedSearch.Json.Number`: reading JSON numbers

A number without fraction and exponent that fits 64 bits is a whole number; `-0` is not one.
Every other number is binary, read in two roundings: the first digits, as many as fit 64 unsigned
bits, are rounded to a binary number, which is then multiplied with or divided by the binary number
nearest to a power of ten. A number too large for the format is malformed.

Numbers that are only skipped over are checked for their form and not for their size.
-/

set_option autoImplicit false

namespace TypedSearch.Json

open Decimal

/-- Why a text is not read. -/
inductive Fault where
  /-- The text ended too early. -/
  | endOfInput
  /-- The text is not JSON. -/
  | malformed
  /-- The text is JSON so far, and not of the shape asked for. -/
  | wrongShape
  deriving DecidableEq, Repr

/-- The fault of finding something else than what is needed here. -/
def missing (cs : List Char) : Fault := if cs.isEmpty then .endOfInput else .malformed

/-- Appends digits to a number as long as it fits 64 bits; the second part counts the digits left
over. -/
def absorb (n : Nat) : List Char → Nat × Nat
  | [] => (n, 0)
  | d :: ds =>
    let longer := 10 * n + (d.toNat - 48)
    if longer < UInt64.size then absorb longer ds else (n, ds.length + 1)

/-- Divides by a power of ten, in steps that the format can hold. Three steps bring every number
of 64 bits to zero. -/
def divideByTen : Nat → Binary64 → Nat → Option Binary64
  | 0, _, _ => some .zero
  | fuel + 1, x, e =>
    if e ≤ 308 then (Binary64.nearest? false (tenTo e) 1).bind x.div?
    else if x.step = 0 then some x
    else do divideByTen fuel (← x.div? (← Binary64.nearest? false (tenTo 308) 1)) (e - 308)

/-- The number `n * 10 ^ e` in two roundings; nothing if it is too large. -/
def scaled? (n : Nat) (e : Int) : Option Binary64 := do
  let x ← Binary64.nearest? false n 1
  if e < 0 then divideByTen 3 x e.natAbs
  else if e ≤ 308 then x.mul? (← Binary64.nearest? false (tenTo e.toNat) 1)
  else if n = 0 then some x
  else none

/-- A binary number from its sign, its first digits and its power of ten. -/
def binary (negative : Bool) (n : Nat) (e : Int) (rest : List Char) :
    Except Fault (Json × List Char) :=
  match scaled? n e with
  | some x => .ok (float (if negative then x.neg else x), rest)
  | none => .error .malformed

/-- The optional exponent, with the digits in front of it. -/
def readExponent (negative : Bool) (n : Nat) (e : Int) : List Char → Except Fault (Json × List Char)
  | [] => binary negative n e []
  | c :: rest =>
    if c = 'e' ∨ c = 'E' then
      let (down, rest) := match rest with
        | '-' :: rest => (true, rest)
        | '+' :: rest => (false, rest)
        | rest => (false, rest)
      let ds := rest.takeWhile Char.isDigit
      let rest := rest.dropWhile Char.isDigit
      if ds.isEmpty then .error (missing rest)
      else
        let power := valueOf ds
        if Int32.maxValue.toInt < power then
          if n ≠ 0 ∧ !down then .error .malformed
          else binary negative 0 0 rest
        else binary negative n (if down then e - power else e + power) rest
    else binary negative n e (c :: rest)

/-- A whole number, or the binary one nearest to it where it has no place among them. -/
def whole (negative : Bool) (n : Nat) (rest : List Char) : Except Fault (Json × List Char) :=
  if !negative then .ok (int n, rest)
  else if n = 0 ∨ (-n : Int) < Int64.minValue.toInt then binary true n 0 rest
  else .ok (int (-n), rest)

/-- Reads a number from behind its minus sign, if it has one. -/
def readNumber (negative : Bool) (cs : List Char) : Except Fault (Json × List Char) :=
  let ds := cs.takeWhile Char.isDigit
  let rest := cs.dropWhile Char.isDigit
  match ds with
  | [] => .error (missing rest)
  | '0' :: _ :: _ => .error .malformed
  | _ =>
    let (n, left) := absorb 0 ds
    match rest with
    | '.' :: rest =>
      let fs := rest.takeWhile Char.isDigit
      let rest := rest.dropWhile Char.isDigit
      if fs.isEmpty then .error (missing rest)
      else
        let (n, leftFraction) := absorb n fs
        readExponent negative n (left - (fs.length - leftFraction : Nat)) rest
    | rest =>
      if left = 0 ∧ rest.head? ≠ some 'e' ∧ rest.head? ≠ some 'E' then whole negative n rest
      else readExponent negative n left rest

/-- Skips digits, of which there must be one. -/
def skipDigits (cs : List Char) : Except Fault (List Char) :=
  if (cs.takeWhile Char.isDigit).isEmpty then .error .malformed
  else .ok (cs.dropWhile Char.isDigit)

/-- Skips an exponent, if there is one. -/
def skipExponent : List Char → Except Fault (List Char)
  | [] => .ok []
  | c :: rest =>
    if c = 'e' ∨ c = 'E' then
      match rest with
      | '-' :: rest => skipDigits rest
      | '+' :: rest => skipDigits rest
      | rest => skipDigits rest
    else .ok (c :: rest)

/-- Skips a number from behind its minus sign. A number that breaks off is malformed here. -/
def skipNumber (cs : List Char) : Except Fault (List Char) := do
  match cs with
  | '0' :: d :: _ => if d.isDigit then .error .malformed
  | _ => pure ()
  match ← skipDigits cs with
  | '.' :: rest => skipExponent (← skipDigits rest)
  | rest => skipExponent rest

end TypedSearch.Json
