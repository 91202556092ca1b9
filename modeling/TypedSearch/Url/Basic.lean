import TypedSearch.Decimal.Whole
import TypedSearch.Text.Percent
/-!
# `TypedSearch.Url.Basic`: URLs

A URL in its fixed form: every part is percent-encoded as it has to be. A path is the list of its
segments, each of which follows a slash.
-/

set_option autoImplicit false

namespace TypedSearch

/-- Who and where: an optional name with a password, the host and its port. A port that the scheme
has anyway is left out. -/
structure Authority where
  username : List Char
  password : Option (List Char)
  host : List Char
  port : Option Nat
  deriving DecidableEq, Repr

/-- A URL to which segments can be added. -/
structure Url where
  scheme : List Char
  authority : Option Authority
  path : List (List Char)
  query : Option (List Char)
  fragment : Option (List Char)
  deriving DecidableEq, Repr

namespace Url

/-- The schemes of the web, with the ports they have anyway. -/
def webSchemes : List (String × Option Nat) :=
  [("http", some 80), ("https", some 443), ("ws", some 80), ("wss", some 443), ("ftp", some 21),
   ("file", none)]

/-- Is this a scheme of the web? -/
def isWeb (scheme : List Char) : Bool := webSchemes.any fun e => e.1.toList = scheme

/-- The scheme of files. -/
def fileScheme : List Char := ['f', 'i', 'l', 'e']

/-- The port that a scheme has anyway. -/
def defaultPort? (scheme : List Char) : Option Nat :=
  (webSchemes.find? fun e => e.1.toList = scheme).bind (·.2)

/-- The text of the path. Where two slashes in front would be taken for those of an authority, a
segment with a point goes first. -/
def writePath (u : Url) : List Char :=
  let path := u.path.flatMap fun s => '/' :: s
  if u.authority.isNone ∧ ['/', '/'].isPrefixOf path then '/' :: '.' :: path else path

/-- The part with name and password. -/
def Authority.writeUser (a : Authority) : List Char :=
  match a.username, a.password with
  | [], none => []
  | name, none => name ++ ['@']
  | name, some password => name ++ ':' :: password ++ ['@']

/-- An authority with its slashes. -/
def Authority.write (a : Authority) : List Char :=
  '/' :: '/' :: Authority.writeUser a ++ a.host ++ match a.port with
    | some n => ':' :: Decimal.writeNat n
    | none => []

/-- A part behind its mark. -/
def writePart (mark : Char) : Option (List Char) → List Char
  | some part => mark :: part
  | none => []

/-- The text of a URL. -/
def write (u : Url) : List Char :=
  u.scheme ++ ':' :: (u.authority.map Authority.write).getD [] ++ u.writePath ++
    writePart '?' u.query ++ writePart '#' u.fragment

/-- The text of a URL. -/
def text (u : Url) : String := String.ofList u.write

/-- What is asked of the host: path and query. -/
def target (u : Url) : String :=
  String.ofList ((if u.path.isEmpty then ['/'] else u.writePath) ++ writePart '?' u.query)

/-! ### Adding to a path -/

/-- Is this a drive, as in `C:`? A bar may stand for the colon. -/
def isDrive : List Char → Bool
  | [a, b] => a.isAlpha && (b = ':' || b = '|')
  | _ => false

/-- Does a segment start with a drive, which is never taken from a path? A backslash may follow. -/
def hasDrive (segment : List Char) : Bool :=
  isDrive (segment.take 2) && (segment.drop 2).head?.all (· = '\\')

/-- The path without its last segment. -/
def shorten (path : List (List Char)) : List (List Char) :=
  match path.getLast? with
  | some last => if hasDrive last then path else path.dropLast
  | none => []

/-- The texts that mean the directory itself. -/
def sameDirectory : List (List Char) := [['.'], ['%', '2', 'e']]

/-- The texts that mean the directory above. -/
def directoryAbove : List (List Char) :=
  [['.', '.'], ['%', '2', 'e', '%', '2', 'e'], ['%', '2', 'e', '.'], ['.', '%', '2', 'e']]

/-- Adds a segment, the last one or not, as it is written. -/
def addWritten (path : List (List Char)) (segment : List Char) (last : Bool) : List (List Char) :=
  let lower := segment.map Char.toLower
  if lower ∈ directoryAbove then if last then shorten path ++ [[]] else shorten path
  else if lower ∈ sameDirectory then if last then path ++ [[]] else path
  else path ++ [segment]

/-- The path without an empty last segment, unless that is the only one. -/
def popIfEmpty (path : List (List Char)) : List (List Char) :=
  if 1 < path.length ∧ path.getLast? = some [] then path.dropLast else path

/-- Characters that are dropped from a URL. -/
def isDropped (c : Char) : Bool := c = '\t' || c = '\n' || c = '\r'

/-- The text without the characters that are dropped. -/
def unbroken (cs : List Char) : List Char := cs.filter fun c => !isDropped c

/-- A drive in front of a segment, and what is behind it, where a dropped character parts the
two. -/
def partedDrive? (segment : List Char) : Option (List Char × List Char) :=
  let drive := (unbroken segment).take 2
  let rest := (segment.dropWhile (· ≠ ':')).drop 1
  if isDrive drive ∧ drive.getLast? = some ':' ∧ rest.head?.any isDropped ∧ unbroken rest ≠ [] then
    some (drive, unbroken rest)
  else none

/-- Adds a segment with any text. An empty path takes it as the first one. -/
def addSegment (web : Bool) (path : List (List Char)) (segment : String) : List (List Char) :=
  if segment = "." ∨ segment = ".." then path
  else
    let path := if path = [[]] then [] else path
    let written := Text.Percent.encode (Text.Percent.inSegment web) (unbroken segment.toList)
    addWritten path written true

/-- The path that a text starts on a drive. The drive is written with a colon, and a dropped
character behind it parts it from the rest. -/
def drivePath? (segment : List Char) : Option (List (List Char)) :=
  let encode := Text.Percent.encode (Text.Percent.inSegment true)
  match partedDrive? segment with
  | some (drive, rest) => some [drive, encode rest]
  | none =>
    let written := encode (unbroken segment)
    if isDrive written then some [written.take 1 ++ [':']] else none

/-- Adds a segment with any text to the path of a URL. That of a file may start on a drive. -/
def addText (scheme : List Char) (path : List (List Char)) (segment : String) : List (List Char) :=
  let start :=
    if scheme = fileScheme ∧ (path = [] ∨ path = [[]]) then drivePath? segment.toList else none
  start.getD (addSegment (isWeb scheme) path segment)

/-- The URL with segments added to its path. -/
def withSegments (u : Url) (segments : List String) : Url :=
  { u with path := segments.foldl (addText u.scheme) (popIfEmpty u.path) }

/-- The URL with a pair added to its query. The pair needs no encoding. -/
def withQueryPair (u : Url) (name value : String) : Url :=
  let pair := name.toList ++ '=' :: value.toList
  { u with query := some (match u.query with
    | some (c :: rest) => c :: rest ++ '&' :: pair
    | _ => pair) }

end Url

end TypedSearch
