import TypedSearch.Engine
import TypedSearch.Json.Shape
/-!
# `TypedSearch.Wire.Answer`: answers of an engine as JSON

The answer to a search holds the hits, or aggregations, or both; the answer to a lookup tells
whether the document was found. Whatever else they hold is skipped.
-/

set_option autoImplicit false

namespace TypedSearch

open Json (Fault RecordField)

/-- One hit of a search. -/
structure HitAnswer where
  id : Option String
  source : Option Json

/-- The hits of a search. -/
structure HitsAnswer where
  /-- How many documents match, where the engine tells. -/
  total : Option Nat
  hits : List HitAnswer

/-- The answer to a search. -/
structure SearchAnswer where
  hits : Option HitsAnswer
  aggregations : Option (Keyed Json)

/-- The answer to a lookup. -/
structure GetAnswer where
  found : Bool
  source : Option Json

namespace HitAnswer

/-- The fields of a hit. -/
def fields (depth : Nat) : List (RecordField HitAnswer) :=
  [⟨"_id", Json.readOptional Json.readString, fun h id => { h with id }⟩,
   ⟨"_source", Json.readOptional (Json.readValue depth), fun h source => { h with source }⟩]

/-- Reads a hit. -/
def read (depth : Nat) : List Char → Except Fault (HitAnswer × List Char) :=
  Json.readRecord (fields (depth - 1)) ⟨none, none⟩

end HitAnswer

namespace HitsAnswer

/-- The number under `value` among the members of an object, which must stand there once. -/
def totalOfPairs (pairs : List (String × Json)) : Option Nat :=
  match pairs.filter fun e => e.1 = "value" with
  | [(_, v)] => v.count?
  | _ => none

/-- Reads a total: a number, or an object that has it under `value`. -/
def readTotal (depth : Nat) (cs : List Char) : Except Fault (Nat × List Char) :=
  match Json.skipBetween cs with
  | '{' :: rest => do
    let (pairs, rest) ← Json.readPairs (Json.readValue (depth - 1)) rest
    match totalOfPairs pairs with
    | some n => .ok (n, rest)
    | none => .error .wrongShape
  | cs => do
    let (v, rest) ← Json.readValue depth cs
    match v.count? with
    | some n => .ok (n, rest)
    | none => .error .wrongShape

/-- The fields of the hits. -/
def fields (depth : Nat) : List (RecordField HitsAnswer) :=
  [⟨"total", Json.readOptional (readTotal depth), fun h total => { h with total }⟩,
   ⟨"hits", Json.readList (HitAnswer.read (depth - 1)), fun h hits => { h with hits }⟩]

/-- Reads the hits. -/
def read (depth : Nat) : List Char → Except Fault (HitsAnswer × List Char) :=
  Json.readRecord (fields (depth - 1)) ⟨none, []⟩

/-- The hits as found documents. Where the engine tells no total, the hits are all there is. -/
def toHits (h : HitsAnswer) : Hits :=
  ⟨h.total.getD h.hits.length, h.hits.map fun hit => hit.source.getD .null⟩

end HitsAnswer

namespace SearchAnswer

/-- The fields of an answer to a search. -/
def fields (depth : Nat) : List (RecordField SearchAnswer) :=
  [⟨"hits", Json.readOptional (HitsAnswer.read depth), fun a hits => { a with hits }⟩,
   ⟨"aggregations", Json.readOptional (Json.readObject (depth - 1)),
      fun a aggregations => { a with aggregations }⟩]

/-- Reads the answer to a search. The record itself is the first of the containers that may be
open inside one another. -/
def ofBytes (body : List UInt8) : Except Fault SearchAnswer :=
  Json.finish
    (Json.readRecord (fields (Json.defaultDepth - 1)) ⟨none, none⟩ (Text.octets body))

end SearchAnswer

namespace GetAnswer

/-- The fields of an answer to a lookup. -/
def fields (depth : Nat) : List (RecordField GetAnswer) :=
  [⟨"found", Json.readFlag, fun a found => { a with found }⟩,
   ⟨"_source", Json.readOptional (Json.readValue depth), fun a source => { a with source }⟩]

/-- Reads the answer to a lookup. -/
def ofBytes (body : List UInt8) : Except Fault GetAnswer :=
  Json.finish
    (Json.readRecord (fields (Json.defaultDepth - 1)) ⟨false, none⟩ (Text.octets body))

/-- The document, if it was found and its content is stored. -/
def document? (a : GetAnswer) : Option Json := if a.found then a.source else none

end GetAnswer

/-- The explanation under `error` in the body of a failed request: a text, or an object with a
`reason` or, where it has none, a `type`. -/
def explanation? (body : Json) : Option String :=
  match body.get? "error" with
  | some (.str s) => some s
  | some (.obj members) =>
    match Keyed.get? "reason" members with
    | some v => v.text?
    | none => (Keyed.get? "type" members).bind Json.text?
  | _ => none

/-- How many characters of an unexplained body are reported. -/
def reportedLength : Nat := 200

/-- The failure that a status other than success stands for, explained by the body. -/
def Failure.ofStatus (code : Nat) (body : String) : Failure :=
  let explained := match Json.read Json.defaultDepth body with
    | .ok v => explanation? v
    | .error _ => none
  .status code (explained.getD
    (if body.isEmpty then "no response body" else String.ofList (body.toList.take reportedLength)))

end TypedSearch
