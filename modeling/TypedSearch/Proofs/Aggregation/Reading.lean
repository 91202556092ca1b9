import TypedSearch.Proofs.Aggregation.Results
/-!
# `TypedSearch.Proofs.Aggregation.Reading`: what is read from an answer of any form

An engine may answer anything: nodes of other kinds than those asked for, nodes that nobody asked
for, or none at all. `AggregationQuery.Reads` says what the result of a query is by the node under
its name, whatever this node is, and `MetricSpec.Reads` the same of metrics and the children of a
node. A query has no result only where there is no node, or a filter without the bucket.

* `reads_values`: metrics, by the children of a node.
* `result_eq_none_iff`: the nodes from which a query has no result.
* `reads_of_result`: the result of a query, by its node.
* `mem_names_results`: the queries that have a result.
* `results_of_any`: all of it together, for a batch.
-/

set_option autoImplicit false

namespace TypedSearch

open Decimal (Binary64)

variable {F : Type}

/-! ### Metrics -/

/-- The values of metrics by the children of a node: those metrics have one that have a child under
their name, and it is the number of the child, or zero if the child has no number. -/
structure MetricSpec.Reads (ms : List (MetricSpec F)) (children : Aggregates)
    (values : Keyed Binary64) : Prop where
  names (name : String) : name ∈ Keyed.names values ↔
    (∃ m ∈ ms, m.name = name) ∧ name ∈ Keyed.names children
  number (name : String) (kind : MetricKind) (x : Binary64) : name ∈ Keyed.names values →
    Keyed.get? name children = some (.metric kind (some x)) → Keyed.get? name values = some x
  zero (name : String) (child : Aggregate) : name ∈ Keyed.names values →
    Keyed.get? name children = some child → (∀ kind x, child ≠ .metric kind (some x)) →
    Keyed.get? name values = some .zero

/-- What metrics read under a name is the number of the child of that name. -/
theorem MetricSpec.get_values {ms : List (MetricSpec F)} {children : Aggregates} {name : String}
    {child : Aggregate} (hname : name ∈ Keyed.names (values ms children))
    (hchild : Keyed.get? name children = some child) :
    Keyed.get? name (values ms children) = some child.metricValue := by
  obtain ⟨x, hx⟩ := Option.isSome_iff_exists.1 ((Keyed.isSome_get_iff name _).2 hname)
  obtain ⟨m, -, hm⟩ := List.mem_filterMap.1 (Keyed.mem_of_get_ofList hx)
  obtain ⟨a, ha, hpair⟩ := Option.map_eq_some_iff.1 hm
  cases hpair
  rw [hx, Option.some.inj (ha.symm.trans hchild)]

/-- Metrics are read from children as they are meant to be. -/
theorem MetricSpec.reads_values (ms : List (MetricSpec F)) (children : Aggregates) :
    Reads ms children (values ms children) where
  names name := by
    rw [values, Keyed.mem_names_ofList, ← Keyed.isSome_get_iff, Option.isSome_iff_exists]
    simp only [List.map_filterMap, List.mem_filterMap, Option.map_eq_some_iff, Option.map_map]
    constructor
    · rintro ⟨m, hm, a, ha, rfl⟩
      exact ⟨⟨m, hm, rfl⟩, a, ha⟩
    · rintro ⟨⟨m, hm, rfl⟩, a, ha⟩
      exact ⟨m, hm, a, ha, rfl⟩
  number _ _ _ hname hchild := get_values hname hchild
  zero _ _ hname hchild hnumber := by
    rw [get_values hname hchild, Aggregate.metricValue]
    exact hnumber

/-! ### One query -/

/-- The groups of a bucket are read from a node: in a filter from the child under the name of the
bucket, and otherwise from the answer itself. -/
inductive BucketSpec.ReadsFrom (b : BucketSpec F) : Aggregate → Aggregate → Prop where
  | inFilter {count : Nat} {children : Aggregates} {node : Aggregate}
      (found : Keyed.get? b.name children = some node) : ReadsFrom b (.filter count children) node
  | bare {node : Aggregate} (notFilter : ∀ count children, node ≠ .filter count children) :
      ReadsFrom b node node

namespace AggregationQuery

/-- The node is a filter that lacks the bucket of the query. -/
def LacksBucket (q : AggregationQuery F) (node : Aggregate) : Prop :=
  ∃ count children b, node = .filter count children ∧ q.bucket = some b ∧
    Keyed.get? b.name children = none

/-- What the result of a query is by the node under its name. -/
structure Reads (q : AggregationQuery F) (node : Aggregate) (res : QueryResult) : Prop where
  /-- It has groups exactly when the query has a bucket and the node is not a global one. -/
  bucket_iff : (∃ entries count, res = .bucket entries count) ↔
    q.bucket ≠ none ∧ ∀ count children, node ≠ .global count children
  /-- The number of documents that met the conditions is that of a filter, and comes from no other
  node. -/
  count (entries : List BucketEntry) (count : Option Nat) : res = .bucket entries count →
    ∀ n, count = some n ↔ ∃ children, node = .filter n children
  /-- The groups are those of a node of groups, one for one and in order, with the metrics of the
  bucket; there are none by a node of another kind. -/
  groups (entries : List BucketEntry) (count : Option Nat) : res = .bucket entries count →
    ∃ b inner, q.bucket = some b ∧ b.ReadsFrom node inner ∧
      (∀ groups, inner = .terms groups ∨ inner = .dateHistogram groups →
        List.Forall₂ (fun (g : Bucket Aggregate) e => e.key = g.key ∧ e.docCount = g.docCount ∧
          MetricSpec.Reads b.metrics g.children e.metrics) groups entries) ∧
      ((∀ groups, inner ≠ .terms groups ∧ inner ≠ .dateHistogram groups) → entries = [])
  /-- The metrics are read from the children of a filter or a global node; there are none by a node
  of another kind. -/
  metrics (values : Keyed Binary64) : res = .metrics values →
    (∀ count children, node = .filter count children ∨ node = .global count children →
      MetricSpec.Reads q.metrics children values) ∧
    ((∀ count children, node ≠ .filter count children ∧ node ≠ .global count children) →
      values = [])

/-- A query has no result exactly by a filter that lacks its bucket. -/
theorem result_eq_none_iff {q : AggregationQuery F} {node : Aggregate} :
    q.result? node = none ↔ q.LacksBucket node := by
  rw [LacksBucket]
  cases node <;> cases hb : q.bucket <;> simp [result?, hb]

end AggregationQuery

/-- The groups of a bucket by the node that they are read from. -/
theorem BucketSpec.entries_of_groups (b : BucketSpec F) {node : Aggregate}
    {groups : List (Bucket Aggregate)} (h : node = .terms groups ∨ node = .dateHistogram groups) :
    List.Forall₂ (fun g e => e.key = g.key ∧ e.docCount = g.docCount ∧
      MetricSpec.Reads b.metrics g.children e.metrics) groups (b.entries node) := by
  have hgroups : node.buckets = groups := by
    rcases h with rfl | rfl <;> rfl
  rw [entries, hgroups, List.forall₂_map_right_iff, List.forall₂_same]
  intro g _
  exact ⟨rfl, rfl, MetricSpec.reads_values b.metrics g.children⟩

/-- A node of another kind has no groups. -/
theorem BucketSpec.entries_eq_nil (b : BucketSpec F) {node : Aggregate}
    (h : ∀ groups, node ≠ .terms groups ∧ node ≠ .dateHistogram groups) : b.entries node = [] := by
  cases node with
  | terms groups => exact absurd rfl (h groups).1
  | dateHistogram groups => exact absurd rfl (h groups).2
  | filter | global | metric | unknown => rfl

namespace AggregationQuery

/-- A result with groups, by the node that these are read from. -/
theorem reads_bucket {q : AggregationQuery F} {node inner : Aggregate} {b : BucketSpec F}
    {count : Option Nat} (hb : q.bucket = some b) (hfrom : b.ReadsFrom node inner)
    (hglobal : ∀ count children, node ≠ .global count children)
    (hcount : ∀ n, count = some n ↔ ∃ children, node = .filter n children) :
    q.Reads node (.bucket (b.entries inner) count) where
  bucket_iff := by simp [hb, hglobal]
  count _ _ h := by
    cases h
    exact hcount
  groups _ _ h := by
    cases h
    exact ⟨b, inner, hb, hfrom, fun _ => b.entries_of_groups, b.entries_eq_nil⟩
  metrics _ h := by cases h

/-- A result with metrics, by the children of a node. -/
theorem reads_metrics {q : AggregationQuery F} {node : Aggregate} {values : Keyed Binary64}
    (h : q.bucket = none ∨ ∃ count children, node = .global count children)
    (hvalues : ∀ count children, node = .filter count children ∨ node = .global count children →
      MetricSpec.Reads q.metrics children values)
    (hnil : (∀ count children, node ≠ .filter count children ∧ node ≠ .global count children) →
      values = []) :
    q.Reads node (.metrics values) where
  bucket_iff := by
    rcases h with hb | ⟨count, children, rfl⟩
    · simp [hb]
    · simp
  count _ _ h := by cases h
  groups _ _ h := by cases h
  metrics _ h := by
    cases h
    exact ⟨hvalues, hnil⟩

/-- The result of a query, by the node under its name. -/
theorem reads_of_result {q : AggregationQuery F} {node : Aggregate} {res : QueryResult}
    (h : q.result? node = some res) : q.Reads node res := by
  have hmetrics := MetricSpec.reads_values q.metrics
  cases hb : q.bucket with
  | some b =>
    cases node with
    | filter count children =>
      simp only [result?, hb, Option.map_eq_some_iff] at h
      obtain ⟨inner, hinner, rfl⟩ := h
      exact reads_bucket hb (.inFilter hinner) (by simp) (by simp)
    | global count children =>
      -- The one node that has metrics read from it although the query has a bucket.
      simp only [result?, Option.some.injEq] at h
      subst h
      exact reads_metrics (Or.inr ⟨count, children, rfl⟩) (by simp [hmetrics]) (by simp)
    | terms | dateHistogram | metric | unknown =>
      simp only [result?, hb, Option.some.injEq] at h
      subst h
      exact reads_bucket hb (.bare (by simp)) (by simp) (by simp)
  | none =>
    cases node with
    | filter | global =>
      simp only [result?, hb, Option.some.injEq] at h
      subst h
      exact reads_metrics (Or.inl hb) (by simp [hmetrics]) (by simp)
    | terms | dateHistogram | metric | unknown =>
      simp only [result?, hb, Option.some.injEq] at h
      subst h
      exact reads_metrics (Or.inl hb) (by simp) (by simp)

end AggregationQuery

/-! ### A batch -/

/-- The queries that have a result: those with a node under their name that is not a filter without
their bucket. -/
theorem Batch.mem_names_results {b : Batch F} {answers : Aggregates} {name : String} :
    name ∈ Keyed.names (b.results answers).results ↔
      ∃ q ∈ b.queries, q.name = name ∧
        ∃ node, Keyed.get? name answers = some node ∧ ¬ q.LacksBucket node := by
  show name ∈ Keyed.names (.ofList (b.resultPairs answers)) ↔ _
  rw [Keyed.mem_names_ofList, List.mem_map]
  simp only [← AggregationQuery.result_eq_none_iff, Option.ne_none_iff_exists']
  constructor
  · rintro ⟨⟨_, res⟩, hpair, rfl⟩
    obtain ⟨q, hq, rfl, hres⟩ := mem_resultPairs.1 hpair
    obtain ⟨node, hnode, hread⟩ := Option.bind_eq_some_iff.1 hres
    exact ⟨q, hq, rfl, node, hnode, res, hread⟩
  · rintro ⟨q, hq, rfl, node, hnode, res, hread⟩
    exact ⟨(q.name, res), mem_resultPairs.2 ⟨q, hq, rfl, Option.bind_eq_some_iff.2
      ⟨node, hnode, hread⟩⟩, rfl⟩

/-- Whatever an engine answers, each query of a batch has the result that the node under its name
gives it, and nothing else in the answer counts for it. Only a query without a node has no result,
and one whose node is a filter without its bucket. -/
theorem Batch.results_of_any (b : Batch F) (answers : Aggregates) :
    Keyed.Sorted (b.results answers).results ∧
    (∀ name, name ∈ Keyed.names (b.results answers).results ↔
      ∃ q ∈ b.queries, q.name = name ∧
        ∃ node, Keyed.get? name answers = some node ∧ ¬ q.LacksBucket node) ∧
    (∀ q ∈ b.queries, ∀ res, (b.results answers).get? q.name = some res →
      ∃ node, Keyed.get? q.name answers = some node ∧ q.Reads node res) ∧
    ∀ q ∈ b.queries, ∀ (b' : Batch F) (answers' : Aggregates), q ∈ b'.queries →
      Keyed.get? q.name answers' = Keyed.get? q.name answers →
      (b'.results answers').get? q.name = (b.results answers).get? q.name := by
  refine ⟨Keyed.sorted_ofList _, fun name => mem_names_results, ?_, ?_⟩
  · intro q hq res hres
    rw [get_results answers hq, Option.bind_eq_some_iff] at hres
    obtain ⟨node, hnode, hread⟩ := hres
    exact ⟨node, hnode, AggregationQuery.reads_of_result hread⟩
  · intro q hq b' answers' hq' hsame
    rw [get_results answers hq, get_results answers' hq', hsame]

end TypedSearch
