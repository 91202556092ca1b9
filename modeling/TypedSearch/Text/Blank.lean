/-!
# `TypedSearch.Text.Blank`: white space around a text

The blank characters are those with the Unicode property White_Space. Names, values and bounds
are read without the blanks around them, and a name made of blanks alone counts as missing.
-/

set_option autoImplicit false

namespace TypedSearch.Text

/-- The code points with the property White_Space, as inclusive ranges. -/
def blankRanges : List (Nat × Nat) :=
  [(0x09, 0x0D), (0x20, 0x20), (0x85, 0x85), (0xA0, 0xA0), (0x1680, 0x1680), (0x2000, 0x200A),
   (0x2028, 0x2029), (0x202F, 0x202F), (0x205F, 0x205F), (0x3000, 0x3000)]

/-- Is the character white space in the sense of Unicode? -/
def isBlank (c : Char) : Bool :=
  blankRanges.any fun r => r.1 ≤ c.toNat && c.toNat ≤ r.2

/-- The characters without the blanks in front. -/
def trimLeft (cs : List Char) : List Char := cs.dropWhile isBlank

/-- The characters without the blanks at the end. -/
def trimRight (cs : List Char) : List Char := (cs.reverse.dropWhile isBlank).reverse

/-- The characters without the blanks on either side. -/
def trim (cs : List Char) : List Char := trimRight (trimLeft cs)

/-- A text that has nothing but blanks. -/
def isAllBlank (cs : List Char) : Bool := cs.all isBlank

/-- Neither end of the text is a blank. -/
def IsTrimmed (cs : List Char) : Prop :=
  (∀ c ∈ cs.head?, isBlank c = false) ∧ ∀ c ∈ cs.getLast?, isBlank c = false

end TypedSearch.Text
