import TypedSearch.Url.Domain.Direction
import TypedSearch.Url.Domain.Joiner
import TypedSearch.Url.Domain.Mapping
import TypedSearch.Url.Punycode
/-!
# `TypedSearch.Url.Domain`: names of hosts in ASCII

A name is brought into the form in which names are compared and cut into its labels. A label with
characters outside ASCII is written in Punycode behind `xn--`; one that is already written so is
read first, and must be what this form would write. Labels that could be mistaken for others are
refused.
-/

set_option autoImplicit false

namespace TypedSearch.Domain

/-- The ASCII characters that no name may hold. -/
def isForbidden (c : Char) : Bool :=
  c.toNat ≤ 0x20 || c.toNat = 0x7F ||
    c ∈ ['#', '/', ':', '<', '>', '?', '@', '[', '\\', ']', '^', '|', '%']

/-- The mark in front of a label in Punycode. -/
def punycodeMark : List Char := ['x', 'n', '-', '-']

/-- How many characters a label outside ASCII may have. -/
def labelLimit : Nat := 1000

/-- How many characters may stand behind the mark of a label in Punycode. -/
def punycodeLimit : Nat := 2000

/-- Can this stand as a label with characters outside ASCII? -/
def isLabel (label : List Char) : Bool :=
  label.length ≤ labelLimit && !label.head?.any isMark && joinersFit [] label

/-- The characters of a label in Punycode, behind its mark. They must be outside ASCII in part, and
in the form in which names are compared. -/
def readPunycode? (cs : List Char) : Option (List Char) := do
  if cs.length ≤ punycodeLimit ∧ cs.getLast?.any (· ≠ '-') ∧ cs.all isAscii then
    let label ← Punycode.decode? cs
    if normalForm? label = some label then some label else none
  else none

/-- The characters that a label stands for. -/
def readLabel? (label : List Char) : Option (List Char) := do
  let label ← if punycodeMark.isPrefixOf label then readPunycode? (label.drop punycodeMark.length)
    else some label
  if label.all isAscii || isLabel label then some label else none

/-- A label in ASCII. -/
def writeLabel (label : List Char) : List Char :=
  if label.all isAscii then label else punycodeMark ++ Punycode.encode label

/-- A name in ASCII; nothing if it cannot be the name of a host. -/
def toAscii? (cs : List Char) : Option (List Char) := do
  let name ← normalForm? cs
  if name.any isForbidden then none
  else
    let labels ← (Text.splitAll '.' name).mapM readLabel?
    if haveOneOrder labels then some (List.intercalate ['.'] (labels.map writeLabel)) else none

end TypedSearch.Domain
