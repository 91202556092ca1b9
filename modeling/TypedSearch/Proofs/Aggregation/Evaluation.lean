import TypedSearch.Aggregation.Result
import TypedSearch.Aggregation.Tree
import TypedSearch.Proofs.Keyed
/-!
# `TypedSearch.Proofs.Aggregation.Evaluation`: trees of aggregations over documents

An `Evaluation` is what an engine computes over sets of documents: which documents match a query,
how documents fall into groups, and the numbers of the metrics. All of it is arbitrary. Two things
are built on it:

* `Evaluation.answer` and `Evaluation.answers`: the answer to a tree, node by node. A filter narrows
  the documents in scope, a global node widens them to the whole index, and a node of groups
  answers its children once for each group.
* `Evaluation.result`: the result of a query computed from the query itself, over the documents
  that `Evaluation.scope` says it is about. No tree occurs in it.

The lemmas read the answers to the nodes of metrics and buckets:

* `get_answers`: under every name stands the answer to the node of that name.
* `values_answers`: metrics read from the answer to their nodes are the metrics of the documents.
* `entries_answer`: groups read from the answer to a bucket are the groups of the documents.
-/

set_option autoImplicit false

namespace TypedSearch

open Decimal (Binary64)

/-- What an engine computes over sets of documents. Nothing is assumed about it. -/
structure Evaluation (D : Type) where
  /-- Does a document match a query? -/
  isMatch : Query → D → Bool
  /-- The groups of documents by the value of a field, with their keys and in their order. -/
  valueGroups : String → Nat → List D → List (String × List D)
  /-- The groups of documents by the interval of a field, with their keys and in their order. -/
  timeGroups : String → String → List D → List (String × List D)
  /-- The number of a metric over documents, missing where there is none. -/
  number : MetricKind → String → List D → Option Binary64

namespace Evaluation

variable {D : Type} (e : Evaluation D) (index : List D)

/-! ### The answer to a tree -/

mutual

/-- The answer to a node over the documents in scope. `index` holds all documents. -/
def answer : AggregationNode → List D → Aggregate
  | .filter query children, docs =>
    let found := docs.filter (e.isMatch query)
    .filter found.length (answers children found)
  | .global children, _ => .global index.length (answers children index)
  | .terms field size children, docs =>
    .terms ((e.valueGroups field size docs).map fun g => ⟨g.1, g.2.length, answers children g.2⟩)
  | .dateHistogram field interval children, docs =>
    .dateHistogram
      ((e.timeGroups field interval docs).map fun g => ⟨g.1, g.2.length, answers children g.2⟩)
  | .metric kind field, docs => .metric kind (e.number kind field docs)

/-- The answers to several nodes over the documents in scope. -/
def answers : List (String × AggregationNode) → List D → List (String × Aggregate)
  | [], _ => []
  | (name, node) :: rest, docs => (name, answer node docs) :: answers rest docs

end

/-- Under every name stands the answer to the node of that name. -/
theorem get_answers (tree : AggregationTree) (docs : List D) (name : String) :
    Keyed.get? name (e.answers index tree docs)
      = (Keyed.get? name tree).map fun node => e.answer index node docs := by
  induction tree with
  | nil => rfl
  | cons entry rest ih =>
    obtain ⟨k, node⟩ := entry
    rw [answers, Keyed.get_cons, Keyed.get_cons, ih]
    split <;> rfl

/-! ### The result of a query, without a tree -/

variable {F : Type} [DecidableEq F] [FieldSet F]

/-- The documents that a query is about: all of them, or those that match its conditions. -/
def scope (r : Registries F) (q : AggregationQuery F) : Except SearchError (List D) :=
  if q.conditions.isEmpty then .ok index
  else (r.compile q.conditions).map fun query => index.filter (e.isMatch query)

/-- The number of a metric over documents, zero where there is none. -/
def value (m : MetricSpec F) (docs : List D) : Binary64 :=
  (e.number m.kind m.target docs).getD .zero

/-- The numbers of metrics over documents. Of two metrics with one name the later one counts. -/
def values (ms : List (MetricSpec F)) (docs : List D) : Keyed Binary64 :=
  .ofList (ms.map fun m => (m.name, e.value m docs))

/-- The groups of documents that a bucket asks for. -/
def groups (b : BucketSpec F) (docs : List D) : List (String × List D) :=
  match b.grouping with
  | .terms size => e.valueGroups (FieldSet.name b.field) size docs
  | .dateHistogram interval => e.timeGroups (FieldSet.name b.field) interval docs

/-- The groups of documents with their sizes and metrics. -/
def entries (b : BucketSpec F) (docs : List D) : List BucketEntry :=
  (e.groups b docs).map fun g => ⟨g.1, g.2.length, e.values b.metrics g.2⟩

/-- The result of a query over the documents it is about. Only with conditions the number of these
documents is part of a result with groups. -/
def result (q : AggregationQuery F) (docs : List D) : QueryResult :=
  match q.bucket with
  | some b => .bucket (e.entries b docs) (if q.conditions.isEmpty then none else some docs.length)
  | none => .metrics (e.values q.metrics docs)

/-- Under a name stands the number of the last metric of that name. -/
theorem get_values (ms : List (MetricSpec F)) (docs : List D) (name : String) :
    Keyed.get? name (e.values ms docs)
      = (ms.reverse.find? fun m => m.name = name).map fun m => e.value m docs :=
  Keyed.get_ofList_map _ _ ms name

/-! ### Reading the answers to metrics and buckets -/

/-- The number read from the answer to the node of a metric. -/
theorem metricValue_answer (m : MetricSpec F) (docs : List D) :
    (e.answer index m.node docs).metricValue = e.value m docs := by
  rw [MetricSpec.node, answer, value]
  cases e.number m.kind m.target docs <;> rfl

/-- Among the answers to the nodes of metrics, a name has the answer to the last metric of that
name. -/
theorem get_answers_nodes (ms : List (MetricSpec F)) (docs : List D) (name : String) :
    Keyed.get? name (e.answers index (MetricSpec.nodes ms) docs)
      = (ms.reverse.find? fun m => m.name = name).map fun m => e.answer index m.node docs := by
  rw [get_answers, MetricSpec.nodes, Keyed.get_ofList_map, Option.map_map]
  rfl

/-- Metrics read from the answers to their nodes are the metrics of the documents in scope. -/
theorem values_answers (ms : List (MetricSpec F)) (docs : List D) :
    MetricSpec.values ms (e.answers index (MetricSpec.nodes ms) docs) = e.values ms docs := by
  -- Every metric is answered, if not by its own node then by that of a later one of its name.
  have hanswered : ∀ m ∈ ms, ∃ l, ms.reverse.find? (fun x => x.name = m.name) = some l := by
    intro m hm
    rw [← Option.isSome_iff_exists, List.find?_isSome]
    exact ⟨m, List.mem_reverse.2 hm, by simp⟩
  have hread : ms.filterMap (fun m =>
        (Keyed.get? m.name (e.answers index (MetricSpec.nodes ms) docs)).map
          fun a => (m.name, a.metricValue))
      = ms.map fun m => (m.name, (Keyed.get? m.name (e.values ms docs)).getD .zero) := by
    rw [← List.filterMap_eq_map]
    refine List.filterMap_congr fun m hm => ?_
    obtain ⟨l, hl⟩ := hanswered m hm
    show _ = some (m.name, (Keyed.get? m.name (e.values ms docs)).getD .zero)
    rw [get_answers_nodes, get_values, hl]
    simp only [Option.map_some, metricValue_answer, Option.getD_some]
  refine Keyed.eq_of_get_eq (Keyed.sorted_ofList _) (Keyed.sorted_ofList _) fun name => ?_
  rw [MetricSpec.values, hread, Keyed.get_ofList_map]
  show _ = Keyed.get? name (e.values ms docs)
  cases hfound : ms.reverse.find? fun m => m.name = name with
  | none => rw [get_values, hfound]; rfl
  | some m =>
    have hname : m.name = name := by simpa using List.find?_some hfound
    rw [Option.map_some, hname, get_values, hfound]
    rfl

/-- Groups read from the answer to the node of a bucket are the groups of the documents in
scope. -/
theorem entries_answer (b : BucketSpec F) (docs : List D) :
    b.entries (e.answer index b.node docs) = e.entries b docs := by
  rw [BucketSpec.entries, entries, groups, BucketSpec.node]
  cases b.grouping with
  | terms size =>
    simp only [answer, Aggregate.buckets, List.map_map]
    refine List.map_congr_left fun g _ => ?_
    simp only [Function.comp_apply, values_answers]
  | dateHistogram interval =>
    simp only [answer, Aggregate.buckets, List.map_map]
    refine List.map_congr_left fun g _ => ?_
    simp only [Function.comp_apply, values_answers]

end Evaluation

end TypedSearch
