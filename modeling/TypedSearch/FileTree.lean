import TypedSearch.Text.Split
/-!
# `TypedSearch.FileTree`: a tree of files

Files and directories under absolute locations, and the ways to look at them and change them by
the text of a path. A relative path starts in the working directory; `.` stays where it is and `..`
goes one directory up.
-/

set_option autoImplicit false

namespace TypedSearch

/-- What there is under a path. -/
inductive FileStatus where
  | missing
  | text (content : String)
  /-- Something that cannot be read as a text, and why. -/
  | unreadable (reason : String)
  deriving DecidableEq, Repr

/-- Something in a tree of files. -/
inductive FileNode where
  | directory
  | file (content : String)
  deriving DecidableEq, Repr

/-- The names of the directories down to a place, the outermost first. -/
abbrev Location := List String

/-- A tree of files. The outermost directory is always there. -/
structure FileTree where
  working : Location
  nodes : List (Location × FileNode)

/-- The names in a path. -/
def pathNames (path : String) : List String := (Text.splitAll '/' path.toList).map String.ofList

/-- The names without those at the end that lead nowhere else. -/
def trimNames (names : List String) : List String :=
  (names.reverse.dropWhile fun name => name = "" ∨ name = ".").reverse

/-- The path without the last name that leads somewhere. -/
def parentPath (path : String) : String :=
  "/".intercalate (trimNames (trimNames (pathNames path)).dropLast)

/-- How many bytes a name may have. -/
def nameLimit : Nat := 255

/-- How many bytes a path may have. -/
def pathLimit : Nat := 4095

/-- Can something have this name? -/
def isName (name : String) : Bool := name.utf8ByteSize ≤ nameLimit

/-- Is this the name of a file, and no step to a directory? -/
def isFileName (name : String) : Bool := name ≠ "" && name ≠ "." && name ≠ ".." && isName name

/-- Can a text be looked up as a path? -/
def isPath (path : String) : Bool := path.utf8ByteSize ≤ pathLimit && !path.toList.contains '\x00'

namespace FileTree

/-- What there is at a location. -/
def node? (t : FileTree) (place : Location) : Option FileNode :=
  if place = [] then some .directory
  else (t.nodes.find? fun e => e.1 = place).map (·.2)

/-- Puts something at a location, in place of what was there. -/
def put (t : FileTree) (place : Location) (n : FileNode) : FileTree :=
  { t with nodes := (place, n) :: t.nodes.filter fun e => e.1 ≠ place }

/-- The place that a name leads to from a directory. -/
def stepTo (place : Location) (name : String) : Location :=
  if name = "" ∨ name = "." then place
  else if name = ".." then place.dropLast
  else place ++ [name]

/-- Where a path starts. -/
def start (t : FileTree) (path : String) : Location :=
  if path.startsWith "/" then [] else t.working

/-- The place that names lead to; every name must be looked up in a directory. -/
def walk? (t : FileTree) (place : Location) : List String → Option Location
  | [] => some place
  | name :: names =>
    if t.node? place = some .directory then t.walk? (stepTo place name) names else none

/-- The place that a path leads to. -/
def locate? (t : FileTree) (path : String) : Option Location :=
  if path = "" ∨ !isPath path then none else t.walk? (t.start path) (pathNames path)

/-- Why a directory is no text. -/
def directoryReason : String := "Is a directory (os error 21)"

/-- What there is under a path. -/
def status (t : FileTree) (path : String) : FileStatus :=
  match (t.locate? path).bind t.node? with
  | some .directory => .unreadable directoryReason
  | some (.file content) => .text content
  | none => .missing

/-- Makes the directories that names lead through, up to the first that cannot be made: one with a
file in its place, or with a name that is too long. Gives the tree afterwards, and whether all of
them are there. -/
def makeDirectories (t : FileTree) (place : Location) : List String → FileTree × Bool
  | [] => (t, true)
  | name :: names =>
    let next := stepTo place name
    match t.node? next with
    | some .directory => t.makeDirectories next names
    | some (.file _) => (t, false)
    | none =>
      if isName name then (t.put next .directory).makeDirectories next names else (t, false)

/-- Makes the directory that a path leads to, and those on the way there. -/
def makeDirectory (t : FileTree) (path : String) : FileTree × Bool :=
  if isPath path then t.makeDirectories (t.start path) (pathNames path) else (t, false)

/-- Puts a file under a path, in place of what was written before. Its directory must be there. -/
def putFile? (t : FileTree) (path content : String) : Option FileTree := do
  let names := pathNames path
  let name ← names.getLast?
  let parent ← t.walk? (t.start path) names.dropLast
  if isPath path ∧ isFileName name ∧ t.node? parent = some .directory ∧
      t.node? (parent ++ [name]) ≠ some .directory then
    some (t.put (parent ++ [name]) (.file content))
  else none

/-- Writes a file, with the directories that it needs. Gives the tree afterwards, and whether the
file was written; directories are kept also where it was not. -/
def write (t : FileTree) (path content : String) : FileTree × Bool :=
  match t.makeDirectory (parentPath path) with
  | (t, false) => (t, false)
  | (t, true) =>
    match t.putFile? path content with
    | some t => (t, true)
    | none => (t, false)

end FileTree

end TypedSearch
