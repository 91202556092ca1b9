import TypedSearch.Aggregation.Bucket
import TypedSearch.Condition
/-!
# `TypedSearch.Aggregation.Batch`: aggregations asked for in one request

An aggregation query has a name, conditions of its own, and either a bucket or metrics. The
queries of a batch have distinct names, under which their results come back.

* `firstRepeated_eq_none_iff`: no name is repeated exactly when all are distinct.
* `Batch.ofList_queries`, `Batch.queries_of_ofList`: every batch is made of its queries.
-/

set_option autoImplicit false

namespace TypedSearch

variable {F : Type}

/-- A named aggregation over the documents that meet its conditions. With a bucket, the metrics of
the query itself are not computed. -/
structure AggregationQuery (F : Type) where
  name : String
  conditions : List (Condition F)
  bucket : Option (BucketSpec F)
  metrics : List (MetricSpec F)
  name_not_blank : Text.isAllBlank name.toList = false
  asks_something : bucket.isSome = true ∨ metrics ≠ []

/-- Puts a query together. A blank name is an error before there being nothing to compute. -/
def AggregationQuery.ofParts (name : String) (conditions : List (Condition F))
    (bucket : Option (BucketSpec F)) (metrics : List (MetricSpec F)) :
    Except SearchError (AggregationQuery F) :=
  if hname : Text.isAllBlank name.toList = true then .error .blankQueryName
  else if hasks : bucket.isSome = true ∨ metrics ≠ [] then
    .ok ⟨name, conditions, bucket, metrics, Bool.not_eq_true _ ▸ hname, hasks⟩
  else .error (.emptyAggregation name)

/-- The first name that is among `seen` or occurs before. -/
def firstRepeated (seen : List String) : List String → Option String
  | [] => none
  | n :: ns => if n ∈ seen then some n else firstRepeated (n :: seen) ns

theorem firstRepeated_eq_none_iff {seen names : List String} :
    firstRepeated seen names = none ↔ names.Nodup ∧ ∀ n ∈ names, n ∉ seen := by
  induction names generalizing seen with
  | nil => simp [firstRepeated]
  | cons n ns ih =>
    rw [firstRepeated, List.nodup_cons]
    by_cases h : n ∈ seen
    · simp [h]
    · simp only [h, if_false, ih, List.mem_cons, not_or]
      constructor
      · rintro ⟨hnodup, hout⟩
        refine ⟨⟨fun hn => (hout n hn).1 rfl, hnodup⟩, ?_⟩
        rintro m (rfl | hm)
        · exact h
        · exact (hout m hm).2
      · rintro ⟨⟨hn, hnodup⟩, hout⟩
        exact ⟨hnodup, fun m hm => ⟨fun e => hn (e ▸ hm), hout m (Or.inr hm)⟩⟩

/-- Aggregation queries for one request: at least one, under distinct names. -/
structure Batch (F : Type) where
  queries : List (AggregationQuery F)
  queries_ne_nil : queries ≠ []
  names_nodup : (queries.map (·.name)).Nodup

/-- Makes a batch of queries. -/
def Batch.ofList (queries : List (AggregationQuery F)) : Except SearchError (Batch F) :=
  if hne : queries = [] then .error .emptyBatch
  else
    match hrep : firstRepeated [] (queries.map (·.name)) with
    | some name => .error (.duplicateQueryName name)
    | none => .ok ⟨queries, hne, (firstRepeated_eq_none_iff.1 hrep).1⟩

/-- The queries of a batch make this batch. -/
theorem Batch.ofList_queries (b : Batch F) : ofList b.queries = .ok b := by
  have hfresh : firstRepeated [] (b.queries.map (·.name)) = none :=
    firstRepeated_eq_none_iff.2 ⟨b.names_nodup, by simp⟩
  rw [ofList, dif_neg b.queries_ne_nil]
  split
  · next name hrepeated =>
    rw [hfresh] at hrepeated
    cases hrepeated
  · rfl

/-- A batch that is made of queries has these. -/
theorem Batch.queries_of_ofList {queries : List (AggregationQuery F)} {b : Batch F}
    (h : ofList queries = .ok b) : b.queries = queries := by
  rw [ofList] at h
  split at h
  · cases h
  · split at h
    · cases h
    · cases h
      rfl

/-- The usual kind of aggregation: one bucket over the documents that meet some conditions. -/
structure BucketRequest (F : Type) where
  name : String
  conditions : List (Condition F)
  field : F
  kind : BucketKind
  size : Option Nat
  interval : Option String
  metrics : List (MetricSpec F)

namespace BucketRequest

/-- The name of the bucket, made from that of the request. -/
def bucketName (r : BucketRequest F) : String := r.name ++ "_bucket"

/-- The bucket that is asked for. -/
def bucket (r : BucketRequest F) : BucketSpec F :=
  ⟨r.bucketName, r.field, Grouping.ofParts r.kind r.size r.interval, r.metrics⟩

/-- The request as an aggregation query. -/
def toQuery (r : BucketRequest F) : Except SearchError (AggregationQuery F) :=
  AggregationQuery.ofParts r.name r.conditions (some r.bucket) []

/-- A request that groups by value. -/
def terms (name : String) (conditions : List (Condition F)) (field : F) (size : Nat)
    (metrics : List (MetricSpec F)) : BucketRequest F :=
  ⟨name, conditions, field, .terms, some size, none, metrics⟩

/-- A request that groups by interval of the calendar. -/
def dateHistogram (name : String) (conditions : List (Condition F)) (field : F)
    (interval : String) (metrics : List (MetricSpec F)) : BucketRequest F :=
  ⟨name, conditions, field, .dateHistogram, none, some interval, metrics⟩

end BucketRequest

end TypedSearch
