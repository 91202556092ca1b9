import TypedSearch.Decimal.Whole
import TypedSearch.Text.Bytes
import TypedSearch.Text.Split
/-!
# `TypedSearch.Url.Address`: numeric addresses of hosts

An address of version 4 is a number of 32 bits, written as four decimal numbers with points. When
it is read, each part may be decimal, octal or hexadecimal, and the last part fills all that is
left. An address of version 6 is eight numbers of 16 bits, written in hexadecimal with colons; the
longest row of zeros is left out.
-/

set_option autoImplicit false

namespace TypedSearch.Address

open Decimal

/-! ### Version 4 -/

/-- A number of 32 bits in some base. -/
def inBase? (base : Nat) (cs : List Char) : Option Nat :=
  cs.foldlM (fun n c => (Text.hexValue? c).bind fun d =>
    if d < base ∧ base * n + d < UInt32.size then some (base * n + d) else none) 0

/-- Is every character a digit of the base? -/
def allDigits (base : Nat) (cs : List Char) : Bool :=
  cs.all fun c => ((Text.hexValue? c).map fun d => decide (d < base)).getD false

/-- The base that a part is written in, and its digits. -/
def baseOf : List Char → Nat × List Char
  | '0' :: 'x' :: rest => (16, rest)
  | '0' :: 'X' :: rest => (16, rest)
  | '0' :: c :: rest => (8, c :: rest)
  | cs => (10, cs)

/-- Is this a number, of any size? -/
def isNumber (cs : List Char) : Bool :=
  !cs.isEmpty && allDigits (baseOf cs).1 (baseOf cs).2

/-- The value of a part. -/
def partValue? (cs : List Char) : Option Nat :=
  if isNumber cs then inBase? (baseOf cs).1 (baseOf cs).2 else none

/-- The parts of a name between points, without an empty last one. -/
def parts (cs : List Char) : List (List Char) :=
  let all := Text.splitAll '.' cs
  if 1 < all.length ∧ all.getLast? = some [] then all.dropLast else all

/-- Does the name end in a number? Then it is an address. -/
def endsInNumber (cs : List Char) : Bool :=
  match (parts cs).getLast? with
  | some last => (!last.isEmpty && last.all Char.isDigit) || isNumber last
  | none => false

/-- Reads an address of version 4. -/
def readV4? (cs : List Char) : Option Nat := do
  let values ← (parts cs).mapM partValue?
  let last ← values.getLast?
  let front := values.dropLast
  let room := Nat.pow 256 (4 - front.length)
  if front.length ≤ 3 ∧ front.all (· < 256) ∧ last < room then
    some (front.foldl (fun n v => 256 * n + v) 0 * room + last)
  else none

/-- An address of version 4 in decimal. -/
def writeV4 (n : Nat) : List Char :=
  List.intercalate ['.']
    ([n / 16777216 % 256, n / 65536 % 256, n / 256 % 256, n % 256].map writeNat)

/-! ### Version 6 -/

/-- Reads one group of hexadecimal digits. -/
def group? (cs : List Char) : Option Nat :=
  if 1 ≤ cs.length ∧ cs.length ≤ 4 then Text.hexNumber? cs else none

/-- Reads a decimal number below 256 without leading zeros. -/
def byte? (cs : List Char) : Option Nat :=
  if 1 ≤ cs.length ∧ cs.length ≤ 3 ∧ cs.all Char.isDigit ∧ writeNat (valueOf cs) = cs ∧
      valueOf cs < 256 then some (valueOf cs)
  else none

/-- Reads the last group, which may be an address of version 4 in place of two groups. -/
def lastGroups? (cs : List Char) : Option (List Nat) :=
  if '.' ∈ cs then
    match (Text.splitAll '.' cs).mapM byte? with
    | some [a, b, c, d] => some [256 * a + b, 256 * c + d]
    | _ => none
  else (group? cs).map ([·])

/-- Reads groups with colons between them. -/
def groups? (cs : List Char) (last : Bool) : Option (List Nat) :=
  if cs.isEmpty then some []
  else do
    let all := Text.splitAll ':' cs
    let front ← all.dropLast.mapM group?
    let tail ← all.getLast?
    let tail ← if last then lastGroups? tail else (group? tail).map ([·])
    some (front ++ tail)

/-- Reads an address of version 6 as its eight groups. -/
def readV6? (cs : List Char) : Option (List Nat) :=
  match Text.splitOnce [':', ':'] cs with
  | some (before, after) => do
    let front ← groups? before false
    let back ← groups? after true
    if front.length + back.length ≤ 7 then
      some (front ++ List.replicate (8 - front.length - back.length) 0 ++ back)
    else none
  | none => do
    let all ← groups? cs true
    if all.length = 8 then some all else none

/-- The length of the row of zeros in front. -/
def zeros (gs : List Nat) : Nat := (gs.takeWhile (· = 0)).length

/-- The place of the first of the longest rows of zeros. -/
def longestZeros (gs : List Nat) : Nat :=
  (List.range gs.length).foldl
    (fun best i => if zeros (gs.drop best) < zeros (gs.drop i) then i else best) 0

/-- A group in hexadecimal. -/
def writeGroup (n : Nat) : List Char := Nat.toDigits 16 n

/-- Groups with colons between them. -/
def writeGroups (gs : List Nat) : List Char := List.intercalate [':'] (gs.map writeGroup)

/-- An address of version 6. Only a row of two zeros or more is left out. -/
def writeV6 (gs : List Nat) : List Char :=
  let i := longestZeros gs
  let n := zeros (gs.drop i)
  if n < 2 then writeGroups gs
  else writeGroups (gs.take i) ++ ':' :: ':' :: writeGroups (gs.drop (i + n))

end TypedSearch.Address
