import TypedSearch.Url.Basic
import TypedSearch.Url.Host
/-!
# `TypedSearch.Url.Parts`: reading the parts of URLs

Each part is brought into its fixed form while it is read: case is folded where it does not count,
the port is left out where the scheme has it anyway, steps in the path are carried out, and
characters are percent-encoded where they have to be. A reader takes what belongs to its part and
leaves the rest of the text.
-/

set_option autoImplicit false

namespace TypedSearch.Url

/-- What a text denotes. -/
inductive Reading where
  | url (u : Url)
  /-- A scheme with a text behind it that is no path, so that nothing can be added. -/
  | fixed (scheme : List Char)

/-- May the character stand in a scheme? -/
def isSchemeChar (c : Char) : Bool := c.isAlphanum || c ∈ ['+', '-', '.']

/-- Reads a scheme with its colon. -/
def scheme? (cs : List Char) : Option (List Char × List Char) :=
  match cs.takeWhile isSchemeChar, cs.dropWhile isSchemeChar with
  | c :: scheme, ':' :: rest =>
    if c.isAlpha then some ((c :: scheme).map Char.toLower, rest) else none
  | _, _ => none

/-- Does a slash, which for the web may be a backslash, stand here? -/
def isSlash (web : Bool) (c : Char) : Bool := c = '/' || (web && c = '\\')

/-- Does the authority end in front of the character? -/
def endsAuthority (web : Bool) (c : Char) : Bool := isSlash web c || c = '?' || c = '#'

/-- Reads a port. -/
def readPort (scheme cs : List Char) : Except UrlError (Option Nat × List Char) :=
  let ds := cs.takeWhile Char.isDigit
  let rest := cs.dropWhile Char.isDigit
  let n := Decimal.valueOf ds
  let port := if ds.isEmpty ∨ defaultPort? scheme = some n then none else some n
  if n ≤ 65535 ∧ rest.head?.all (endsAuthority true) then .ok (port, rest) else .error .badPort

/-- Parts a text where the host in front ends. Colons between brackets belong to the host. -/
def spanHost (web inside : Bool) : List Char → List Char × List Char
  | [] => ([], [])
  | c :: rest =>
    if endsAuthority web c ∨ (c = ':' ∧ !inside) then ([], c :: rest)
    else
      let inside := if c = '[' then true else if c = ']' then false else inside
      let (host, rest) := spanHost web inside rest
      (c :: host, rest)

/-- Name and password in front of the last `@` of an authority, and what is behind. -/
def splitUser (web : Bool) (cs : List Char) : Option (List Char) × List Char :=
  let authority := cs.takeWhile fun c => !endsAuthority web c
  if '@' ∈ authority then
    let host := (authority.reverse.takeWhile (· ≠ '@')).reverse
    (some (authority.take (authority.length - host.length - 1)),
      host ++ cs.drop authority.length)
  else (none, cs)

/-- Name and password. An empty password is none. -/
def readUser (cs : List Char) : List Char × Option (List Char) :=
  let encode := Text.Percent.encode Text.Percent.inUserInfo
  let name := cs.takeWhile (· ≠ ':')
  match cs.drop (name.length + 1) with
  | [] => (encode name, none)
  | password => (encode name, some (encode password))

/-- Reads an authority behind its slashes. -/
def readAuthority (scheme cs : List Char) : Except UrlError (Authority × List Char) := do
  let web := isWeb scheme
  let (user, rest) := splitUser web cs
  let (name, password) := readUser (user.getD [])
  let (host, rest) := spanHost web false rest
  let hasUser := !name.isEmpty || password.isSome
  if host.isEmpty ∧
      (web ∨ hasUser ∨ rest.head? = some ':' ∨ (user = some [] ∧ !rest.isEmpty)) then
    .error .emptyHost
  else
    let host ← if web then Host.readWeb host else Host.readOther host
    match rest with
    | ':' :: rest => do
      let (port, rest) ← readPort scheme rest
      .ok (⟨name, password, host, port⟩, rest)
    | rest => .ok (⟨name, password, host, none⟩, rest)

/-- Reads segments up to the query, each from behind its slash, onto a path. -/
def readSegments (web : Bool) : Nat → List (List Char) → List Char →
    List (List Char) × List Char
  | 0, path, cs => (path, cs)
  | fuel + 1, path, cs =>
    let ends (c : Char) : Bool := endsAuthority web c
    let segment := Text.Percent.encode Text.Percent.inPath (cs.takeWhile fun c => !ends c)
    match cs.dropWhile fun c => !ends c with
    | c :: rest =>
      if isSlash web c then readSegments web fuel (addWritten path segment false) rest
      else (addWritten path segment true, c :: rest)
    | [] => (addWritten path segment true, [])

/-- Reads the path behind an authority. That of a web address has at least one segment. -/
def readPath (web : Bool) (cs : List Char) : List (List Char) × List Char :=
  match cs with
  | [] => if web then ([[]], []) else ([], [])
  | c :: rest =>
    if isSlash web c then readSegments web (cs.length + 1) [] rest
    else if !web ∧ (c = '?' ∨ c = '#') then ([], c :: rest)
    else readSegments web (cs.length + 1) [] (c :: rest)

/-- Reads the query and the fragment. -/
def readTail (web : Bool) (cs : List Char) : Option (List Char) × Option (List Char) :=
  let fragment (cs : List Char) : Option (List Char) :=
    match cs with
    | '#' :: rest => some (Text.Percent.encode Text.Percent.inFragment rest)
    | _ => none
  match cs with
  | '?' :: rest =>
    (some (Text.Percent.encode (Text.Percent.inQuery web) (rest.takeWhile (· ≠ '#'))),
      fragment (rest.dropWhile (· ≠ '#')))
  | cs => (none, fragment cs)

/-- Puts a URL together from what is in front of its path and the text from there on. -/
def assemble (scheme : List Char) (authority : Option Authority) (path : List (List Char))
    (tail : List Char) : Reading :=
  let (query, fragment) := readTail (isWeb scheme) tail
  .url ⟨scheme, authority, path, query, fragment⟩

end TypedSearch.Url
