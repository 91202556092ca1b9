import TypedSearch.Text.Bytes
/-!
# `TypedSearch.Text.Percent`: percent-encoding

A character that may not stand in a part of a URL is written as its UTF-8 bytes, each as a percent
sign and two upper-case hexadecimal digits. Which characters these are depends on the part.
-/

set_option autoImplicit false

namespace TypedSearch.Text.Percent

/-- A byte in its encoded form. -/
def encodeByte (b : UInt8) : List Char := '%' :: upperHex b

/-- The text with the characters of a set in their encoded form. -/
def encode (reserved : Char → Bool) (cs : List Char) : List Char :=
  cs.flatMap fun c => if reserved c then (bytes [c]).flatMap encodeByte else [c]

/-- The bytes of a text in which encoded bytes stand for themselves. A percent sign without two
digits behind it is a percent sign. -/
def decode : List Char → List UInt8
  | '%' :: a :: b :: rest =>
    match hexValue? a, hexValue? b with
    | some m, some n => UInt8.ofNat (16 * m + n) :: decode rest
    | _, _ => bytes ['%'] ++ decode (a :: b :: rest)
  | c :: rest => bytes [c] ++ decode rest
  | [] => []

/-- Control characters, and all that is not ASCII. -/
def isControl (c : Char) : Bool := c.toNat < 0x20 || 0x7F ≤ c.toNat

/-- What is encoded in a fragment. -/
def inFragment (c : Char) : Bool := isControl c || c ∈ [' ', '"', '<', '>', '\x60']

/-- What is encoded in a query; in that of a web address also the single quote. -/
def inQuery (web : Bool) (c : Char) : Bool :=
  isControl c || c ∈ [' ', '"', '#', '<', '>'] || (web && c = '\'')

/-- What is encoded in a path. -/
def inPath (c : Char) : Bool := inFragment c || c ∈ ['#', '?', '\x7b', '\x7d']

/-- What is encoded in a name or a password. -/
def inUserInfo (c : Char) : Bool :=
  inPath c || c ∈ ['/', ':', ';', '=', '@', '[', '\\', ']', '^', '|']

/-- What is encoded in one segment of a path; in that of a web address also the backslash. -/
def inSegment (web : Bool) (c : Char) : Bool := inPath c || c = '/' || c = '%' || (web && c = '\\')

end TypedSearch.Text.Percent
