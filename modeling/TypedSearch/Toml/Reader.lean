import TypedSearch.Toml.Scalar
/-!
# `TypedSearch.Toml.Reader`: reading TOML documents

A document is read as a list of statements, which are then carried out one by one on the table of
the document. Containers inside one another, and the parts of a dotted key, are limited in number.
-/

set_option autoImplicit false

namespace TypedSearch.Toml

/-- A key: the names that lead to a table, and the name in it. -/
structure Key where
  path : List String
  name : String

/-- May the character stand in a name without quotes? -/
def isNameChar (c : Char) : Bool := c.isAlphanum || c = '-' || c = '_'

/-- Reads one name of a key. -/
def name? (cs : List Char) : Option (String × List Char) :=
  match cs with
  | '"' :: rest => (basic? (rest.length + 1) rest).map fun r => (String.ofList r.1, r.2)
  | '\'' :: rest => (literal? rest).map fun r => (String.ofList r.1, r.2)
  | cs =>
    let name := cs.takeWhile isNameChar
    if name.isEmpty then none else some (String.ofList name, cs.dropWhile isNameChar)

/-- Reads a key of at most `parts` names with dots between them. -/
def key? : Nat → List Char → Option (Key × List Char)
  | 0, _ => none
  | parts + 1, cs => do
    let (name, rest) ← name? (skipGap cs)
    match skipGap rest with
    | '.' :: rest => do
      let (key, rest) ← key? parts rest
      some (⟨name :: key.path, key.name⟩, rest)
    | rest => some (⟨[], name⟩, rest)

/-- How many names a key may have, and how many containers may be open inside one another. -/
def nesting : Nat := 79

/-- Reads a value on its own: no array and no inline table. -/
def scalar? (cs : List Char) : Option (Toml × List Char) :=
  match cs with
  | [] => none
  | c :: rest =>
    if c = '"' ∨ c = '\'' then (string? cs).map fun r => (str (String.ofList r.1), r.2)
    else if c = '+' ∨ c = '-' ∨ c.isDigit then number? cs
    else match c, rest with
      | 't', 'r' :: 'u' :: 'e' :: rest => some (bool true, rest)
      | 'f', 'a' :: 'l' :: 's' :: 'e' :: rest => some (bool false, rest)
      | 'i', 'n' :: 'f' :: rest => some (float none, rest)
      | 'n', 'a' :: 'n' :: rest => some (float none, rest)
      | _, _ => none

/-- Reads the items of an array up to its closing bracket. -/
def items (value : List Char → Option (Toml × List Char)) :
    Nat → List Char → Option (List Toml × List Char)
  | 0, _ => none
  | fuel + 1, cs =>
    match skipLayout true cs.length cs with
    | ']' :: rest => some ([], rest)
    | cs => do
      let (v, rest) ← value cs
      match skipLayout true rest.length rest with
      | ',' :: rest => do
        let (vs, rest) ← items value fuel rest
        some (v :: vs, rest)
      | ']' :: rest => some ([v], rest)
      | _ => none

/-- Reads a pair of a key and a value. -/
def pair? (value : List Char → Option (Toml × List Char)) (cs : List Char) :
    Option ((Key × Toml) × List Char) := do
  let (key, rest) ← key? nesting cs
  let (v, rest) ← value (skipGap (← mark? '=' rest))
  some ((key, v), rest)

/-- Reads the pairs of an inline table up to its closing brace. -/
def pairs (value : List Char → Option (Toml × List Char)) :
    Nat → List Char → Option (List (Key × Toml) × List Char)
  | 0, _ => none
  | fuel + 1, cs => do
    let (p, rest) ← pair? value cs
    match skipGap rest with
    | ',' :: rest => do
      let (ps, rest) ← pairs value fuel rest
      some (p :: ps, rest)
    | '\x7d' :: rest => some ([p], rest)
    | _ => none

/-- The inline table that pairs make. -/
def inlineTable? (ps : List (Key × Toml)) : Option Toml :=
  (ps.foldlM (fun t p => Table.addPair? p.1.path p.1.name p.2 .header t) []).map (table .inline)

/-- Reads a value that may open `depth` containers inside one another. -/
def value? (depth : Nat) (cs : List Char) : Option (Toml × List Char) :=
  match cs, depth with
  | '[' :: rest, depth + 1 =>
    (items (value? depth) (rest.length + 1) rest).map fun r => (arr r.1, r.2)
  | '\x7b' :: rest, depth + 1 =>
    match skipGap rest with
    | '\x7d' :: rest => some (table .inline [], rest)
    | rest => do
      let (ps, rest) ← pairs (value? depth) (rest.length + 1) rest
      some (← inlineTable? ps, rest)
  | cs, _ => scalar? cs

/-- A statement of a document. -/
inductive Statement where
  | header (key : Key)
  /-- A header that starts one more table of its name. -/
  | element (key : Key)
  | pair (key : Key) (value : Toml)

/-- Reads a statement from its first character on. -/
def statement? (cs : List Char) : Option (Statement × List Char) :=
  match cs with
  | '[' :: '[' :: rest => do
    let (key, rest) ← key? nesting rest
    some (.element key, ← mark? ']' (← mark? ']' rest))
  | '[' :: rest => do
    let (key, rest) ← key? nesting rest
    some (.header key, ← mark? ']' rest)
  | cs => (pair? (value? nesting) cs).map fun r => (.pair r.1.1 r.1.2, r.2)

/-- Reads the statements of a document. -/
def statements? : Nat → List Char → Option (List Statement)
  | 0, _ => none
  | fuel + 1, cs =>
    match skipLayout true cs.length cs with
    | [] => some []
    | cs => do
      let (s, rest) ← statement? cs
      let ss ← statements? fuel (← lineEnd? rest)
      some (s :: ss)

/-- A document being read: its table, and the path of the header that is in force. -/
structure Draft where
  table : Table
  current : List String

/-- Carries out a statement. -/
def Draft.step? (d : Draft) : Statement → Option Draft
  | .header key =>
    (Table.addHeader? key.path key.name d.table).map fun t => ⟨t, key.path ++ [key.name]⟩
  | .element key =>
    (Table.addElement? key.path key.name d.table).map fun t => ⟨t, key.path ++ [key.name]⟩
  | .pair key v =>
    (Table.at? false (fun origin t => Table.addPair? key.path key.name v origin t) d.current .header
      d.table).map fun t => ⟨t, d.current⟩

/-- The table that statements make. -/
def Table.ofStatements? (ss : List Statement) : Option Table :=
  (ss.foldlM Draft.step? ⟨[], []⟩).map (·.table)

/-- Reads a document. A byte-order mark in front does not count. -/
def read? (text : String) : Option Table :=
  let cs := match text.toList with
    | '\ufeff' :: rest => rest
    | cs => cs
  (statements? (cs.length + 1) cs).bind Table.ofStatements?

end TypedSearch.Toml
