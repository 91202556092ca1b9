import TypedSearch.Aggregation.Aggregate
import TypedSearch.Aggregation.Batch
/-!
# `TypedSearch.Aggregation.Result`: the results of a batch

The answer of an engine is read back query by query. A query that was not answered has no result;
a metric that was not answered is left out, and one without a value is zero.
-/

set_option autoImplicit false

namespace TypedSearch

open Decimal (Binary64)

/-- A group in a result. -/
structure BucketEntry where
  key : String
  docCount : Nat
  metrics : Keyed Binary64

/-- The result of one query. -/
inductive QueryResult where
  /-- The groups in the order of the engine, and how many documents met the conditions. -/
  | bucket (entries : List BucketEntry) (filterDocCount : Option Nat)
  | metrics (values : Keyed Binary64)

/-- The results of a batch under the names of its queries. -/
structure BatchResult where
  results : Keyed QueryResult

namespace BatchResult

/-- The result of a query. -/
def get? (r : BatchResult) (query : String) : Option QueryResult := Keyed.get? query r.results

/-- The number of queries that have a result. -/
def size (r : BatchResult) : Nat := r.results.length

/-- The groups of a query, none if it has no groups. -/
def entries (r : BatchResult) (query : String) : List BucketEntry :=
  match r.get? query with
  | some (.bucket entries _) => entries
  | _ => []

/-- The number of documents behind the groups of a query: those that met its conditions, or all
that are in a group, added up in 64 bits. -/
def totalCount (r : BatchResult) (query : String) : Nat :=
  match r.get? query with
  | some (.bucket _ (some count)) => count
  | some (.bucket entries none) =>
    (entries.foldl (fun n e => n + UInt64.ofNat e.docCount) 0).toNat
  | _ => 0

/-- A metric of a query that has metrics only. -/
def metric? (r : BatchResult) (query metric : String) : Option Binary64 :=
  match r.get? query with
  | some (.metrics values) => Keyed.get? metric values
  | _ => none

end BatchResult

/-- The number that an answer to a metric stands for. -/
def Aggregate.metricValue : Aggregate → Binary64
  | metric _ (some x) => x
  | _ => .zero

variable {F : Type}

/-- The values of those metrics that were answered. -/
def MetricSpec.values (ms : List (MetricSpec F)) (answers : Aggregates) : Keyed Binary64 :=
  Keyed.ofList (ms.filterMap fun m =>
    (Keyed.get? m.name answers).map fun a => (m.name, a.metricValue))

/-- The groups of an answer; none if it is not one of groups. -/
def Aggregate.buckets : Aggregate → List (Bucket Aggregate)
  | terms buckets => buckets
  | dateHistogram buckets => buckets
  | _ => []

/-- The groups of an answer with their metrics. -/
def BucketSpec.entries (b : BucketSpec F) (answer : Aggregate) : List BucketEntry :=
  answer.buckets.map fun g => ⟨g.key, g.docCount, MetricSpec.values b.metrics g.children⟩

/-- The result that a query has by its answer. A filter without the bucket that was asked for
gives no result. -/
def AggregationQuery.result? (q : AggregationQuery F) (answer : Aggregate) : Option QueryResult :=
  match answer, q.bucket with
  | .filter docCount children, some b =>
    (Keyed.get? b.name children).map fun a => .bucket (b.entries a) (some docCount)
  | .filter _ children, none => some (.metrics (MetricSpec.values q.metrics children))
  | .global _ children, _ => some (.metrics (MetricSpec.values q.metrics children))
  | answer, some b => some (.bucket (b.entries answer) none)
  | _, none => some (.metrics [])

/-- The results of a batch by the answers of the engine. -/
def Batch.results (b : Batch F) (answers : Aggregates) : BatchResult :=
  ⟨Keyed.ofList (b.queries.filterMap fun q =>
    ((Keyed.get? q.name answers).bind q.result?).map fun r => (q.name, r))⟩

end TypedSearch
