import TypedSearch.Url.File
/-!
# `TypedSearch.Url.Reader`: reading URLs

A URL starts with its scheme, which tells how the rest is read. Web addresses are read more freely
than others: any number of slashes in either direction may stand behind the scheme.
-/

set_option autoImplicit false

namespace TypedSearch.Url

/-- Reads what is behind a scheme other than that of files. -/
def readRest (scheme cs : List Char) : Except UrlError Reading := do
  let underAuthority (cs : List Char) : Except UrlError Reading := do
    let (authority, rest) ← readAuthority scheme cs
    let (path, tail) := readPath (isWeb scheme) rest
    .ok (assemble scheme (some authority) path tail)
  if isWeb scheme then underAuthority (cs.dropWhile (isSlash true))
  else match cs with
    | '/' :: '/' :: rest => underAuthority rest
    | '/' :: rest =>
      let (path, tail) := readSegments false (rest.length + 1) [] rest
      .ok (assemble scheme none path tail)
    | _ => .ok (.fixed scheme)

/-- Is this a blank or a control character? -/
def isMargin (c : Char) : Bool := c.toNat ≤ 0x20

/-- Reads a URL. Blanks and control characters around it do not count, nor do tabs and ends of
lines inside. -/
def read (s : String) : Except UrlError Reading :=
  let cs := ((s.toList.dropWhile isMargin).reverse.dropWhile isMargin).reverse
  match scheme? (unbroken cs) with
  | some (scheme, rest) =>
    if scheme = fileScheme then readFile ((cs.dropWhile (· ≠ ':')).drop 1) else readRest scheme rest
  | none => .error .noScheme

end TypedSearch.Url
