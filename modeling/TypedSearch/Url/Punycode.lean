/-!
# `TypedSearch.Url.Punycode`: words of all characters in ASCII

Punycode writes a word in letters, digits and hyphens. The ASCII characters come first; behind a
hyphen follow the others in increasing order, each as the distance from the place of the one before
it. A distance has digits of base 36 with changing thresholds, the least first, so that small
distances are short.
-/

set_option autoImplicit false

namespace TypedSearch.Punycode

/-- The digit of a value below 36: the letters, then the decimal digits. -/
def digit (n : Nat) : Char := if n < 26 then Char.ofNat (97 + n) else Char.ofNat (22 + n)

/-- The value of a digit. -/
def digitValue? (c : Char) : Option Nat :=
  if 'a' ≤ c ∧ c ≤ 'z' then some (c.toNat - 97)
  else if 'A' ≤ c ∧ c ≤ 'Z' then some (c.toNat - 65)
  else if '0' ≤ c ∧ c ≤ '9' then some (c.toNat - 22)
  else none

/-- The threshold of a digit: a digit below it is the last one. `place` is 36 for the first digit
and 36 more for each further one. -/
def threshold (bias place : Nat) : Nat := min 26 (max 1 (place - bias))

theorem threshold_pos (bias place : Nat) : 0 < threshold bias place := by
  unfold threshold; omega

/-- Halves the weight of a distance until it is small; the second part counts the steps. -/
def settle (n steps : Nat) : Nat × Nat :=
  if 455 < n then settle (n / 35) (steps + 1) else (n, steps)
termination_by n
decreasing_by exact Nat.div_lt_self (by omega) (by omega)

/-- The bias for the next distance, by the last one and the number of characters so far. -/
def adapt (first : Bool) (distance count : Nat) : Nat :=
  let scaled := distance / if first then 700 else 2
  let (n, steps) := settle (scaled + scaled / count) 0
  36 * steps + 36 * n / (n + 38)

/-- The digits of a distance. -/
def writeDistance (bias place n : Nat) : List Char :=
  let t := threshold bias place
  if n < t then [digit n]
  else digit (t + (n - t) % (36 - t)) :: writeDistance bias (place + 36) ((n - t) / (36 - t))
termination_by n
decreasing_by
  have := threshold_pos bias place
  exact Nat.lt_of_le_of_lt (Nat.div_le_self _ _) (by omega)

/-- Where the encoder stands: the digits so far, the distance since the last character, the bias,
and how many characters are written. -/
structure Progress where
  written : List Char
  distance : Nat
  bias : Nat
  count : Nat

/-- Passes one character of the word while those with a given code are written. -/
def Progress.pass (basic code : Nat) (p : Progress) (c : Char) : Progress :=
  if c.toNat < code then { p with distance := p.distance + 1 }
  else if c.toNat = code then
    { written := p.written ++ writeDistance p.bias 36 p.distance
      distance := 0
      bias := adapt (p.count = basic) p.distance (p.count + 1)
      count := p.count + 1 }
  else p

/-- Writes the characters with the given codes, which increase; `next` is the least code that is
not written yet. -/
def writeCodes (word : List Char) (basic : Nat) : List Nat → Nat → Progress → List Char
  | [], _, p => p.written
  | code :: codes, next, p =>
    let start := { p with distance := p.distance + (code - next) * (p.count + 1) }
    let passed := word.foldl (Progress.pass basic code) start
    writeCodes word basic codes (code + 1) { passed with distance := passed.distance + 1 }

/-- Is the character in ASCII? -/
def isBasic (c : Char) : Bool := c.toNat < 0x80

/-- The codes of the characters outside ASCII, increasing and each once. -/
def otherCodes (word : List Char) : List Nat :=
  (((word.filter fun c => !isBasic c).map Char.toNat).mergeSort (· ≤ ·)).eraseDups

/-- A word in Punycode. -/
def encode (word : List Char) : List Char :=
  let basic := word.filter isBasic
  basic ++ (if basic.isEmpty then [] else ['-']) ++
    writeCodes word basic.length (otherCodes word) 0x80 ⟨[], 0, 72, basic.length⟩

/-- Reads the digits of a distance. Neither the distance nor the weight of a digit may need more
than 32 bits. -/
def readDistance? (bias : Nat) : Nat → Nat → Nat → List Char → Option (Nat × List Char)
  | _, _, _, [] => none
  | place, weight, n, c :: rest => do
    let d ← digitValue? c
    let t := threshold bias place
    let n := n + d * weight
    if UInt32.size ≤ n ∨ UInt32.size ≤ weight then none
    else if d < t then some (n, rest)
    else readDistance? bias (place + 36) (weight * (36 - t)) n rest

/-- Reads the characters outside ASCII into a word. The last one had the given code and stands in
front of `place`. -/
def readCodes? : Nat → List Char → Nat → Nat → Nat → List Char → Option (List Char)
  | 0, _, _, _, _, _ => none
  | _, word, _, _, _, [] => some word
  | fuel + 1, word, code, place, bias, cs => do
    let (distance, rest) ← readDistance? bias 36 1 0 cs
    let count := word.length + 1
    let code := code + (place + distance) / count
    let index := (place + distance) % count
    if code.isValidChar then
      readCodes? fuel (word.take index ++ Char.ofNat code :: word.drop index) code (index + 1)
        (adapt (place = 0) distance count) rest
    else none

/-- The word that a text in Punycode stands for. The last hyphen parts the ASCII characters from
the rest; without such characters there is none. -/
def decode? (cs : List Char) : Option (List Char) :=
  let tail := (cs.reverse.takeWhile (· ≠ '-')).reverse
  let basic := (cs.take (cs.length - tail.length)).dropLast
  if basic.all isBasic ∧ cs.head?.all (· ≠ '-' ∨ !basic.isEmpty) then
    readCodes? (tail.length + 1) basic 0x80 0 72 tail
  else none

end TypedSearch.Punycode
