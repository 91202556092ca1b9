import TypedSearch.Json.Reader
/-!
# `TypedSearch.Json.Shape`: reading JSON of a known shape

Readers for values whose shape is known beforehand. A value of another shape is the fault
`wrongShape`, found where the value starts; a scalar is read to its end first and may have a fault
of its own.

A record is written as an object or as an array of its fields in their order. In an object, members
that are no fields are skipped and a repeated field is refused; an array may leave fields out at
its end.
-/

set_option autoImplicit false

namespace TypedSearch.Json

/-- The fault of a value that has another shape. -/
def mismatch {α : Type} (cs : List Char) : Except Fault (α × List Char) :=
  match skipBetween cs with
  | [] => .error .endOfInput
  | '[' :: _ => .error .wrongShape
  | '{' :: _ => .error .wrongShape
  | cs => (readScalar cs).bind fun _ => .error .wrongShape

/-- Reads null, or a value. -/
def readOptional {α : Type} (value : List Char → Except Fault (α × List Char)) (cs : List Char) :
    Except Fault (Option α × List Char) :=
  match skipBetween cs with
  | 'n' :: rest => do .ok (none, ← readWord ['u', 'l', 'l'] rest)
  | cs => do
    let (v, rest) ← value cs
    .ok (some v, rest)

/-- Reads a string. -/
def readString (cs : List Char) : Except Fault (String × List Char) :=
  match skipBetween cs with
  | '"' :: rest => readText rest
  | cs => mismatch cs

/-- Reads a truth value. -/
def readFlag (cs : List Char) : Except Fault (Bool × List Char) :=
  match skipBetween cs with
  | 't' :: rest => do .ok (true, ← readWord ['r', 'u', 'e'] rest)
  | 'f' :: rest => do .ok (false, ← readWord ['a', 'l', 's', 'e'] rest)
  | cs => mismatch cs

/-- Reads an array. -/
def readList {α : Type} (item : List Char → Except Fault (α × List Char)) (cs : List Char) :
    Except Fault (List α × List Char) :=
  match skipBetween cs with
  | '[' :: rest => readItems item (rest.length + 1) true rest
  | cs => mismatch cs

/-- Reads an object whose values may open `depth` containers inside one another. -/
def readObject (depth : Nat) (cs : List Char) : Except Fault (Keyed Json × List Char) :=
  match skipBetween cs with
  | '{' :: rest => do
    let (pairs, rest) ← readPairs (readValue depth) rest
    .ok (Keyed.ofList pairs, rest)
  | cs => mismatch cs

/-- A field of a record that is read into a `σ`. -/
structure RecordField (σ : Type) where
  name : String
  {Value : Type}
  /-- Reads the value of the field. -/
  value : List Char → Except Fault (Value × List Char)
  set : σ → Value → σ

/-- Reads a field into a record. -/
def RecordField.read {σ : Type} (f : RecordField σ) (state : σ) (cs : List Char) :
    Except Fault (σ × List Char) := do
  let (x, rest) ← f.value cs
  .ok (f.set state x, rest)

/-- Reads one member of a record; the names of the fields read so far are kept beside it. -/
def readField {σ : Type} (fields : List (RecordField σ)) (state : σ × List String) (name : String)
    (cs : List Char) : Except Fault ((σ × List String) × List Char) :=
  match fields.find? fun f => f.name = name with
  | none => do
    let (_, rest) ← skipValue (← readColon cs)
    .ok (state, rest)
  | some f =>
    if name ∈ state.2 then .error .wrongShape
    else do
      let (s, rest) ← f.read state.1 (← readColon cs)
      .ok ((s, name :: state.2), rest)

/-- Reads the fields of a record from behind the bracket of an array. -/
def readInOrder {σ : Type} (first : Bool) (state : σ) :
    List (RecordField σ) → List Char → Except Fault (σ × List Char)
  | [], cs =>
    match skipBetween cs with
    | [] => .error .endOfInput
    | ']' :: rest => .ok (state, rest)
    | _ => .error .malformed
  | f :: fs, cs =>
    let next (cs : List Char) : Except Fault (σ × List Char) := do
      let (state, rest) ← f.read state cs
      readInOrder false state fs rest
    match skipBetween cs with
    | [] => .error .endOfInput
    | ']' :: rest => .ok (state, rest)
    | c :: rest =>
      if first then next (c :: rest)
      else if c = ',' then
        match skipBetween rest with
        | [] => .error .endOfInput
        | ']' :: _ => .error .malformed
        | cs => next cs
      else .error .malformed

/-- Reads a record, starting from the values that its fields have where they are left out. -/
def readRecord {σ : Type} (fields : List (RecordField σ)) (absent : σ) (cs : List Char) :
    Except Fault (σ × List Char) :=
  match skipBetween cs with
  | '{' :: rest => do
    let (state, rest) ←
      readMembers readText (readField fields) (rest.length + 1) true (absent, []) rest
    .ok (state.1, rest)
  | '[' :: rest => readInOrder true absent fields rest
  | cs => mismatch cs

end TypedSearch.Json
