import TypedSearch.Aggregation.Aggregate
import TypedSearch.Calendar.Stamp
import TypedSearch.Json.Printer
import TypedSearch.Text.Split
/-!
# `TypedSearch.Wire.TypedKeys`: computed aggregations as JSON

An engine answers each aggregation under its kind and its name with a `#` between them, so that an
answer can be read without the request. The name starts behind the first `#` and may hold others.

A node that does not have the form of its kind is `unknown`, and a group without a usable key or
count is left out; neither touches anything beside it. Of two nodes with one name the one with the
greater key stays.
-/

set_option autoImplicit false

namespace TypedSearch

namespace TypedKeys

/-- The kinds of nodes by the way they are read. -/
inductive Form where
  | filter
  | global
  | terms
  | dateHistogram
  | metric (kind : MetricKind)
  | other
  deriving DecidableEq, Repr

/-- The ways that an engine marks groups by value: by text, whole number, number and unsigned whole
number. -/
def termsMarks : List String := ["sterms", "lterms", "dterms", "umterms"]

/-- The form that a mark tells. -/
def Form.ofMark (mark : String) : Form :=
  if mark = "filter" then .filter
  else if mark = "global" then .global
  else if mark ∈ termsMarks then .terms
  else if mark = "date_histogram" then .dateHistogram
  else match MetricKind.ofName? mark with
    | some kind => .metric kind
    | none => .other

/-- The mark and the name in a key, if it has a mark. -/
def splitKey (key : String) : Option (String × String) :=
  (Text.splitOnce ['#'] key.toList).map fun parts =>
    (String.ofList parts.1, String.ofList parts.2)

/-- The key of a group as the engine itself has formatted it. -/
def formattedKey (group : Keyed Json) : Option String :=
  (Keyed.get? "key_as_string" group).bind Json.text?

/-- The key of a group of equal values. A value that is no text is written as JSON. -/
def termsKey (group : Keyed Json) : Option String :=
  match formattedKey group with
  | some s => some s
  | none =>
    match Keyed.get? "key" group with
    | some (.str s) => some s
    | some .null => none
    | some v => some v.compact
    | none => none

/-- The key of a group of times: the timestamp of its millisecond. -/
def dateKey (group : Keyed Json) : Option String :=
  match formattedKey group with
  | some s => some s
  | none => ((Keyed.get? "key" group).bind Json.int64?).bind Calendar.label?

/-- The number of documents in a node or a group. -/
def docCount? (members : Keyed Json) : Option Nat :=
  (Keyed.get? "doc_count" members).bind Json.count?

/-- The value of a metric, if it has one. -/
def metricValue? (members : Keyed Json) : Option Decimal.Binary64 :=
  (Keyed.get? "value" members).bind Json.number?

mutual

/-- Reads a node with the given mark. -/
def readNode (mark : String) : Json → Aggregate
  | .obj members =>
    match Form.ofMark mark with
    | .filter =>
      match docCount? members with
      | some n => .filter n (Keyed.ofList (readEntries false members))
      | none => .unknown mark
    | .global =>
      match docCount? members with
      | some n => .global n (Keyed.ofList (readEntries false members))
      | none => .unknown mark
    | .terms =>
      match findGroups termsKey members with
      | some groups => .terms groups
      | none => .unknown mark
    | .dateHistogram =>
      match findGroups dateKey members with
      | some groups => .dateHistogram groups
      | none => .unknown mark
    | .metric kind => .metric kind (metricValue? members)
    | .other => .unknown mark
  | _ => .unknown mark

/-- Reads the nodes among the members of an object. A member without a mark is no node, except at
the `root`, where all members are nodes. -/
def readEntries (root : Bool) : List (String × Json) → List (String × Aggregate)
  | [] => []
  | (key, v) :: rest =>
    match splitKey key with
    | some (mark, name) => (name, readNode mark v) :: readEntries root rest
    | none =>
      if root then (key, .unknown "") :: readEntries root rest else readEntries root rest

/-- Reads the groups among the members of an object. -/
def findGroups (groupKey : Keyed Json → Option String) :
    List (String × Json) → Option (List (Bucket Aggregate))
  | [] => none
  | (key, v) :: rest => if key = "buckets" then readGroups groupKey v else findGroups groupKey rest

/-- Reads a list of groups. -/
def readGroups (groupKey : Keyed Json → Option String) : Json → Option (List (Bucket Aggregate))
  | .arr items => some (readItems groupKey items)
  | _ => none

/-- Reads the groups that can be read. -/
def readItems (groupKey : Keyed Json → Option String) : List Json → List (Bucket Aggregate)
  | [] => []
  | v :: rest =>
    match readGroup groupKey v with
    | some group => group :: readItems groupKey rest
    | none => readItems groupKey rest

/-- Reads one group. -/
def readGroup (groupKey : Keyed Json → Option String) : Json → Option (Bucket Aggregate)
  | .obj members =>
    match groupKey members, docCount? members with
    | some key, some n => some ⟨key, n, Keyed.ofList (readEntries false members)⟩
    | _, _ => none
  | _ => none

end

end TypedKeys

/-- Reads the aggregations that an engine answered. -/
def Aggregates.ofTypedKeys (members : Keyed Json) : Aggregates :=
  Keyed.ofList (TypedKeys.readEntries true members)

end TypedSearch
