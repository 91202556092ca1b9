import TypedSearch.Error
/-!
# `TypedSearch.Aggregation.Metric`: metrics over sets of documents

A metric is one number computed over a set of documents. Counting needs no field; every other kind
does, and the specification of a metric cannot be without one.
-/

set_option autoImplicit false

namespace TypedSearch

/-- The kinds of metrics. -/
inductive MetricKind where
  | avg | sum | min | max
  /-- The number of values, which is the number of documents for a field that all of them have. -/
  | valueCount
  /-- The number of distinct values. -/
  | cardinality
  deriving DecidableEq, Repr

namespace MetricKind

/-- The name of a kind on the wire. -/
def name : MetricKind → String
  | avg => "avg"
  | sum => "sum"
  | min => "min"
  | max => "max"
  | valueCount => "value_count"
  | cardinality => "cardinality"

/-- All kinds. -/
def all : List MetricKind := [avg, sum, min, max, valueCount, cardinality]

/-- The kind with a name. -/
def ofName? (s : String) : Option MetricKind := all.find? fun k => k.name = s

/-- Is the metric computed from a field? -/
def needsField (k : MetricKind) : Bool := k ≠ valueCount

theorem ofName_name (k : MetricKind) : ofName? k.name = some k := by cases k <;> decide

theorem name_of_ofName {s : String} {k : MetricKind} (h : ofName? s = some k) : k.name = s := by
  simpa using List.find?_some h

end MetricKind

/-- A metric to compute. -/
structure MetricSpec (F : Type) where
  name : String
  kind : MetricKind
  field : Option F
  /-- Only counting goes without a field. -/
  has_field : kind.needsField = true → field.isSome = true

namespace MetricSpec

variable {F : Type}

/-- The metric of a kind; an error if its field is missing. -/
def ofParts (kind : MetricKind) (field : Option F) (name : String) :
    Except SearchError (MetricSpec F) :=
  if h : kind.needsField = true → field.isSome = true then .ok ⟨name, kind, field, h⟩
  else .error (.missingMetricField name kind.name)

/-- The number of documents. -/
def count (name : String) : MetricSpec F := ⟨name, .valueCount, none, fun h => absurd h (by decide)⟩

/-- The metric of a kind over a field. -/
def ofField (kind : MetricKind) (field : F) (name : String) : MetricSpec F :=
  ⟨name, kind, some field, fun _ => rfl⟩

end MetricSpec

end TypedSearch
