import TypedSearch.Text.Bytes
import TypedSearch.Text.Split
/-!
# `TypedSearch.Text.Table`: properties of characters

What is known of characters beyond ASCII is kept in tables: sets of characters, and what characters
stand for. A table is written as a text of words. Each word starts with the characters it is about:
`41` is one character by its number in hexadecimal, `41-5A` are all from the one to the other, and
`100/12E` is every other one of these. In a table of what characters stand for, the numbers of that
text follow a colon, with points between them.
-/

set_option autoImplicit false

namespace TypedSearch.Text

/-- The words of a table. They stand on lines, with blanks between them. -/
def words (cs : List Char) : List (List Char) :=
  ((splitAll '\n' cs).flatMap (splitAll ' ')).filter fun word => !word.isEmpty

/-- Characters by their numbers: from the first to the last one, in steps of one or two. -/
structure CharRange where
  first : Nat
  last : Nat
  step : Nat
  deriving DecidableEq, Repr

namespace CharRange

/-- Is the character in the range? -/
def contains (r : CharRange) (c : Char) : Bool :=
  r.first ≤ c.toNat && c.toNat ≤ r.last && (c.toNat - r.first) % r.step = 0

/-- Reads a range. -/
def ofText? (cs : List Char) : Option CharRange :=
  match splitOnce ['-'] cs, splitOnce ['/'] cs with
  | some (first, last), _ => do some ⟨← hexNumber? first, ← hexNumber? last, 1⟩
  | none, some (first, last) => do some ⟨← hexNumber? first, ← hexNumber? last, 2⟩
  | none, none => (hexNumber? cs).map fun n => ⟨n, n, 1⟩

end CharRange

/-- A set of characters. -/
structure CharSet where
  ranges : List CharRange

namespace CharSet

/-- Is the character in the set? -/
def contains (s : CharSet) (c : Char) : Bool := s.ranges.any fun r => r.contains c

/-- Reads a table. -/
def ofText (s : String) : CharSet := ⟨(words s.toList).filterMap CharRange.ofText?⟩

end CharSet

/-- What the characters of a range stand for. The first one stands for the characters with the
numbers of `target`; for a further one each of these numbers is larger by as much as its own is. -/
structure CharMapping where
  source : CharRange
  target : List Nat
  deriving DecidableEq, Repr

namespace CharMapping

/-- What a character stands for. -/
def get? (m : CharMapping) (c : Char) : Option (List Char) :=
  if m.source.contains c then
    some (m.target.map fun n => Char.ofNat (n + (c.toNat - m.source.first)))
  else none

/-- Reads a range and what it stands for. -/
def ofText? (cs : List Char) : Option CharMapping := do
  let (source, target) ← splitOnce [':'] cs
  some ⟨← CharRange.ofText? source, ← (splitAll '.' target).mapM hexNumber?⟩

end CharMapping

/-- What characters stand for. -/
structure CharMap where
  mappings : List CharMapping

namespace CharMap

/-- What a character stands for, if the map knows of it. -/
def get? (m : CharMap) (c : Char) : Option (List Char) := m.mappings.findSome? fun e => e.get? c

/-- The character that stands for a text. Ranges of several characters are not looked at. -/
def source? (m : CharMap) (cs : List Char) : Option Char :=
  let target := cs.map Char.toNat
  (m.mappings.find? fun e => e.source.first = e.source.last && e.target = target).map fun e =>
    Char.ofNat e.source.first

/-- Reads a table. -/
def ofText (s : String) : CharMap := ⟨(words s.toList).filterMap CharMapping.ofText?⟩

end CharMap

end TypedSearch.Text
