import TypedSearch.Url.Parts
/-!
# `TypedSearch.Url.File`: reading the URLs of files

A file is on a host or, without one, on this machine. Its path may start on a drive, as in `C:`;
then there is no host. Empty segments in front of a path do not count.
-/

set_option autoImplicit false

namespace TypedSearch.Url

/-- The text from its first character on that is not dropped. -/
def skipDropped (cs : List Char) : List Char := cs.dropWhile isDropped

/-- A path of a file while it is read: its segments, and whether a drive stands in for the host. -/
structure FilePath where
  segments : List (List Char)
  onDrive : Bool

/-- Adds a segment to the path of a file, the last one or not. The first one may be a drive, which
is written with a colon. -/
def FilePath.add (p : FilePath) (segment : List Char) (last : Bool) : FilePath :=
  let encode := Text.Percent.encode Text.Percent.inPath
  let written := encode (unbroken segment)
  match p.segments, partedDrive? segment with
  | [], some (drive, rest) => { p with segments := [drive, encode rest] }
  | [], none =>
    if isDrive written then ⟨[written.take 1 ++ [':']], true⟩
    else { p with segments := addWritten [] written last }
  | path, _ => { p with segments := addWritten path written last }

/-- Reads segments of the path of a file up to the query, each from behind its slash. -/
def readFileSegments : Nat → FilePath → List Char → FilePath × List Char
  | 0, p, cs => (p, cs)
  | fuel + 1, p, cs =>
    let segment := cs.takeWhile fun c => !endsAuthority true c
    match cs.dropWhile fun c => !endsAuthority true c with
    | c :: rest =>
      if isSlash true c then readFileSegments fuel (p.add segment false) rest
      else (p.add segment true, c :: rest)
    | [] => (p.add segment true, [])

/-- A path without empty segments in front, unless there are no others. -/
def dropEmptyFront (path : List (List Char)) : List (List Char) :=
  match path.dropWhile List.isEmpty with
  | [] => [[]]
  | path => path

/-- Reads the path of a file from behind its first slash, and what follows it. A path on a drive has
no host. -/
def readFilePath (host cs : List Char) : Reading :=
  let (path, rest) := readFileSegments (cs.length + 1) ⟨[], false⟩ cs
  let host := if path.onDrive then [] else host
  assemble fileScheme (some ⟨[], none, host, none⟩) (dropEmptyFront path.segments) (unbroken rest)

/-- Reads what is behind the two slashes of a file. The host of this machine is none; a drive in
place of a host is the start of the path. -/
def readFileHost (cs : List Char) : Except UrlError Reading := do
  let host := unbroken (cs.takeWhile fun c => !endsAuthority true c)
  let rest := cs.dropWhile fun c => !endsAuthority true c
  if isDrive host then .ok (readFilePath [] cs)
  else if host.isEmpty then .ok (readFilePath [] rest)
  else
    let host ← Host.readWeb host
    if host = "localhost".toList then .ok (readFilePath [] rest)
    else match skipDropped rest with
      | c :: path => .ok (readFilePath host (if isSlash true c then path else c :: path))
      | [] => .ok (readFilePath host [])

/-- Reads what is behind the scheme of a file. Dropped characters are still in the text. -/
def readFile (cs : List Char) : Except UrlError Reading :=
  match skipDropped cs with
  | a :: rest =>
    if isSlash true a then
      match skipDropped rest with
      | b :: path => if isSlash true b then readFileHost path else .ok (readFilePath [] rest)
      | [] => .ok (readFilePath [] [])
    else .ok (readFilePath [] cs)
  | [] => .ok (readFilePath [] [])

end TypedSearch.Url
