import TypedSearch.Aggregation.Batch
import TypedSearch.Query.Compile
/-!
# `TypedSearch.Aggregation.Tree`: batches as trees of aggregations

Every query of a batch becomes one node under its name. Conditions become a filter around the
bucket, or around the metrics. Without conditions a bucket stands alone, and metrics are taken over
the whole index.
-/

set_option autoImplicit false

namespace TypedSearch

/-- An aggregation for the engine, with the aggregations inside it under their names. -/
inductive AggregationNode where
  /-- Over the documents in scope that match a query. -/
  | filter (query : Query) (children : List (String × AggregationNode))
  /-- Over all documents of the index. -/
  | global (children : List (String × AggregationNode))
  /-- Over each group of documents with the same value. -/
  | terms (field : String) (size : Nat) (children : List (String × AggregationNode))
  /-- Over each group of documents from the same interval of the calendar. -/
  | dateHistogram (field interval : String) (children : List (String × AggregationNode))
  | metric (kind : MetricKind) (field : String)
  deriving Inhabited, Repr, BEq

/-- Aggregations under their names. -/
abbrev AggregationTree := Keyed AggregationNode

/-- The field that every document has. Counting its values counts documents. -/
def identityField : String := "_index"

variable {F : Type} [DecidableEq F] [FieldSet F]

namespace MetricSpec

/-- The name of the field that a metric is computed from. -/
def target (m : MetricSpec F) : String :=
  match m.kind, m.field with
  | .valueCount, _ => identityField
  | _, some field => FieldSet.name field
  | _, none => identityField

/-- The node of a metric. -/
def node (m : MetricSpec F) : AggregationNode := .metric m.kind m.target

/-- The nodes of several metrics. Of two with one name the later one is computed. -/
def nodes (ms : List (MetricSpec F)) : AggregationTree :=
  Keyed.ofList (ms.map fun m => (m.name, m.node))

end MetricSpec

/-- The node of a bucket. -/
def BucketSpec.node (b : BucketSpec F) : AggregationNode :=
  match b.grouping with
  | .terms size => .terms (FieldSet.name b.field) size (MetricSpec.nodes b.metrics)
  | .dateHistogram interval =>
    .dateHistogram (FieldSet.name b.field) interval (MetricSpec.nodes b.metrics)

namespace AggregationQuery

/-- What is computed over the documents that a query is about. -/
def inner (q : AggregationQuery F) : AggregationTree :=
  match q.bucket with
  | some b => [(b.name, b.node)]
  | none => MetricSpec.nodes q.metrics

/-- The node of a query without conditions. -/
def unfiltered (q : AggregationQuery F) : AggregationNode :=
  match q.bucket with
  | some b => b.node
  | none => .global (MetricSpec.nodes q.metrics)

/-- The node of a query. There is a filter even where all conditions are skipped. -/
def compile (r : Registries F) (q : AggregationQuery F) : Except SearchError AggregationNode :=
  if q.conditions.isEmpty then .ok q.unfiltered
  else (r.compile q.conditions).map fun query => .filter query q.inner

end AggregationQuery

/-- The node of a query under its name. -/
def AggregationQuery.entry (r : Registries F) (q : AggregationQuery F) :
    Except SearchError (String × AggregationNode) :=
  (q.compile r).map fun node => (q.name, node)

/-- The tree of a batch. The error is that of the first query that has one. -/
def Batch.compile (r : Registries F) (b : Batch F) : Except SearchError AggregationTree :=
  (b.queries.mapM (AggregationQuery.entry r)).map Keyed.ofList

end TypedSearch
