import TypedSearch.Aggregation.Metric
/-!
# `TypedSearch.Aggregation.Bucket`: grouping documents by a field

Documents are grouped by the values of a field, or by the calendar interval that a time falls
into. Metrics can be computed within every group.
-/

set_option autoImplicit false

namespace TypedSearch

/-- The kinds of grouping. -/
inductive BucketKind where
  | terms
  | dateHistogram
  deriving DecidableEq, Repr

namespace BucketKind

/-- The name of a kind on the wire. -/
def name : BucketKind → String
  | terms => "terms"
  | dateHistogram => "date_histogram"

/-- Reads the name of a kind. The case of ASCII letters does not count. -/
def ofText (s : String) : Except SearchError BucketKind :=
  let lower := String.ofList (s.toList.map Char.toLower)
  if lower = terms.name then .ok terms
  else if lower = dateHistogram.name then .ok dateHistogram
  else .error (.unsupportedBucketType lower)

end BucketKind

/-- How documents are grouped. -/
inductive Grouping where
  /-- By value, the given number of groups at most. -/
  | terms (size : Nat)
  /-- By interval of the calendar. -/
  | dateHistogram (interval : String)
  deriving DecidableEq, Repr

namespace Grouping

/-- The kind of a grouping. -/
def kind : Grouping → BucketKind
  | terms _ => .terms
  | dateHistogram _ => .dateHistogram

/-- The number of groups where none is given. -/
def defaultSize : Nat := 10

/-- The interval where none is given. -/
def defaultInterval : String := "1d"

/-- The grouping of a kind. A size counts for values only, an interval for times only. -/
def ofParts (kind : BucketKind) (size : Option Nat) (interval : Option String) : Grouping :=
  match kind with
  | .terms => terms (size.getD defaultSize)
  | .dateHistogram => dateHistogram (interval.getD defaultInterval)

end Grouping

/-- Groups of documents with metrics inside every group. -/
structure BucketSpec (F : Type) where
  name : String
  field : F
  grouping : Grouping
  metrics : List (MetricSpec F)

/-- Adds a metric behind the others. -/
def BucketSpec.withMetric {F : Type} (b : BucketSpec F) (m : MetricSpec F) : BucketSpec F :=
  { b with metrics := b.metrics ++ [m] }

end TypedSearch
