import TypedSearch.Aggregation.Metric
/-!
# `TypedSearch.Aggregation.Aggregate`: computed aggregations

What an engine answers to a tree of aggregations: for each name the kind of the answer, and in it
document counts, groups and numbers.
-/

set_option autoImplicit false

namespace TypedSearch

open Decimal (Binary64)

/-- A group of documents, with what was computed within it. -/
structure Bucket (α : Type) where
  /-- The common value, or the time at which an interval starts. -/
  key : String
  docCount : Nat
  children : List (String × α)

/-- A computed aggregation. -/
inductive Aggregate where
  | filter (docCount : Nat) (children : List (String × Aggregate))
  | global (docCount : Nat) (children : List (String × Aggregate))
  | terms (buckets : List (Bucket Aggregate))
  | dateHistogram (buckets : List (Bucket Aggregate))
  /-- One number, missing where there was nothing to compute it from. -/
  | metric (kind : MetricKind) (value : Option Binary64)
  /-- An answer of another kind, or one that does not have the form of its kind. -/
  | unknown (kind : String)
  deriving Inhabited

/-- Computed aggregations under their names. -/
abbrev Aggregates := Keyed Aggregate

end TypedSearch
