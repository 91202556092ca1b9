import TypedSearch.Text.Split
import TypedSearch.Toml.Scalar
/-!
# `TypedSearch.Toml.Writer`: writing TOML documents

A document of sections, each a list of settings. A string is written in the plainest of the four
kinds that can hold it: escapes are used only where no other kind will do.
-/

set_option autoImplicit false

namespace TypedSearch.Toml

open Decimal

/-- A control character that only an escape can stand for: neither a tab nor the end of a line. -/
def isControl (c : Char) : Bool :=
  (c.toNat < 0x20 && c ≠ '\n' && c ≠ '\t') || c.toNat = 0x7F

/-- Four upper-case hexadecimal digits. -/
def fourHex (n : Nat) : List Char :=
  [Text.upperHexDigit (n / 4096 % 16), Text.upperHexDigit (n / 256 % 16),
   Text.upperHexDigit (n / 16 % 16), Text.upperHexDigit (n % 16)]

/-- A character of a string as an escape, if it needs one. -/
def escaped? (c : Char) : Option (List Char) :=
  if c = '\x08' then some ['\\', 'b']
  else if c = '\t' then some ['\\', 't']
  else if c = '\x0c' then some ['\\', 'f']
  else if c = '\r' then some ['\\', 'r']
  else if c = '\\' then some ['\\', '\\']
  else if isControl c then some ('\\' :: 'u' :: fourHex c.toNat)
  else none

/-- A character inside a string on one line. -/
def writeChar (c : Char) : List Char :=
  if c = '"' then ['\\', '"']
  else if c = '\n' then ['\\', 'n']
  else (escaped? c).getD [c]

/-- The characters of a string over several lines; `seen` quotes stand right in front. A quote is
escaped where it would be the third in a row. -/
def writeLineChars (seen : Nat) : List Char → List Char
  | [] => []
  | c :: rest =>
    if c = '"' then
      if seen < 2 then '"' :: writeLineChars (seen + 1) rest
      else '\\' :: '"' :: writeLineChars 0 rest
    else (escaped? c).getD [c] ++ writeLineChars 0 rest

/-- The end of a line in front of a text that has several lines. -/
def firstNewline (cs : List Char) : List Char := if '\n' ∈ cs then ['\n'] else []

/-- Three quotes. -/
def threeQuotes : List Char := ['"', '"', '"']

/-- Three single quotes. -/
def threeSingle : List Char := ['\'', '\'', '\'']

/-- A string with its quotes. -/
def writeString (cs : List Char) : List Char :=
  if cs.all fun c => c ≠ '"' && c ≠ '\\' && c ≠ '\n' && !isControl c then
    '"' :: cs.flatMap writeChar ++ ['"']
  else if cs.all fun c => c ≠ '\'' && c ≠ '\n' && !isControl c then '\'' :: cs ++ ['\'']
  else if (cs.all fun c => c ≠ '\\' && !isControl c) && !Text.occurs threeQuotes cs then
    threeQuotes ++ firstNewline cs ++ writeLineChars 0 cs ++ threeQuotes
  else if (cs.all fun c => !isControl c) && !Text.occurs threeSingle cs then
    threeSingle ++ firstNewline cs ++ cs ++ threeSingle
  else if '\n' ∈ cs then threeQuotes ++ '\n' :: writeLineChars 0 cs ++ threeQuotes
  else '"' :: cs.flatMap writeChar ++ ['"']

/-- A setting: a text or a whole number. -/
inductive Setting where
  | text (s : String)
  | count (n : Nat)
  deriving DecidableEq, Repr

/-- A section: its name and its settings in order. -/
structure Section where
  name : String
  settings : List (String × Setting)

/-- The value of a setting; nothing for a number that is too large. -/
def Setting.write? : Setting → Option (List Char)
  | text s => some (writeString s.toList)
  | count n => if (n : Int) ≤ maxWhole then some (writeNat n) else none

/-- A setting on its line. -/
def writeSetting? (e : String × Setting) : Option (List Char) :=
  e.2.write?.map fun v => e.1.toList ++ ' ' :: '=' :: ' ' :: v ++ ['\n']

/-- A section under its header. -/
def Section.write? (s : Section) : Option (List Char) :=
  (s.settings.mapM writeSetting?).map fun lines =>
    '[' :: s.name.toList ++ ']' :: '\n' :: lines.flatten

/-- A document of sections with an empty line between them; nothing if a number is too large. The
names are written without quotes. -/
def write? (sections : List Section) : Option String :=
  (sections.mapM Section.write?).map fun parts =>
    String.ofList (List.intercalate ['\n'] parts)

end TypedSearch.Toml
