import TypedSearch.Text.CombiningClass
import TypedSearch.Text.Decomposition
/-!
# `TypedSearch.Text.Composition`: one form for texts that mean the same

The same text can be written with letters that have accents, or with letters and accents apart, and
with accents in one order or another. `decompose` takes everything apart and puts the marks into
one order; `compose` puts together what can be.
-/

set_option autoImplicit false

namespace TypedSearch.Text

/-- Puts a character in front of a text in order. A mark goes behind the marks of lower classes. -/
def placeMark (c : Char) : List Char → List Char
  | [] => [c]
  | d :: rest =>
    if combiningClass d ≠ 0 ∧ combiningClass d < combiningClass c then d :: placeMark c rest
    else c :: d :: rest

/-- The text with the marks behind each character in the order of their classes. Marks of one class
keep their order. -/
def orderMarks (cs : List Char) : List Char := cs.foldr placeMark []

/-- The text in its parts, with the marks in order. -/
def decompose (cs : List Char) : List Char := orderMarks (cs.flatMap decomposeChar)

/-- The syllable of a leading consonant and a vowel, or of a syllable without and a trailing
consonant. -/
def composeSyllable? (a b : Nat) : Option Nat :=
  if firstLead ≤ a ∧ a < firstLead + leadCount ∧ firstVowel ≤ b ∧ b < firstVowel + vowelCount then
    some (firstSyllable + ((a - firstLead) * vowelCount + (b - firstVowel)) * tailCount)
  else if isSyllable a ∧ (a - firstSyllable) % tailCount = 0 ∧ noTail < b ∧
      b < noTail + tailCount then
    some (a + (b - noTail))
  else none

/-- The character that has just the parts of two characters. -/
def composePair? (a b : Char) : Option Char :=
  ((composeSyllable? a.toNat b.toNat).map Char.ofNat).or
    (composites.source? (decomposeChar a ++ decomposeChar b))

/-- Composes a character with what follows it. `marks` are those that stay apart, the last one
first. A mark reaches the character only past marks of lower classes, and any other character only
if nothing is between. -/
def composeFrom (c : Char) (marks : List Char) : List Char → List Char
  | [] => c :: marks.reverse
  | d :: rest =>
    let reaches := marks.head?.all fun m => combiningClass m < combiningClass d
    match if reaches then composePair? c d else none with
    | some c => composeFrom c marks rest
    | none =>
      if combiningClass d = 0 then c :: marks.reverse ++ composeFrom d [] rest
      else composeFrom c (d :: marks) rest

/-- Puts together what can be, in a text that is in its parts. -/
def compose : List Char → List Char
  | [] => []
  | c :: rest => if combiningClass c = 0 then composeFrom c [] rest else c :: compose rest

/-- The composed form of a text. -/
def normalize (cs : List Char) : List Char := compose (decompose cs)

end TypedSearch.Text
