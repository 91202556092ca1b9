import TypedSearch.Proofs.Aggregation.Evaluation
import TypedSearch.Proofs.FirstError
import TypedSearch.Schema.Jobs
/-!
# `TypedSearch.Proofs.Aggregation.Results`: a batch asked, answered and read

`Batch.compile` makes the tree that is asked, `Batch.results` reads what comes back. The two only
meet in the names: each query stands under its own, its bucket under that of the bucket inside a
filter, its metrics under theirs. `results_answers` says that they fit. For every engine that
answers the tree faithfully, each query of the batch has exactly one result, and this is the result
computed from the query over the documents it is about.

* `get_compile`: in the tree of a batch, every query stands under its name.
* `result_answer`: one query, read from the answer to its node.
-/

set_option autoImplicit false

namespace TypedSearch

open Evaluation
open Decimal (Binary64)

variable {F : Type} [DecidableEq F] [FieldSet F]

/-! ### The tree of a batch -/

/-- The entry of a query in a tree is its name with its node. -/
theorem entry_eq_ok_iff {r : Registries F} {q : AggregationQuery F}
    {entry : String × AggregationNode} :
    q.entry r = .ok entry ↔ ∃ node, q.compile r = .ok node ∧ (q.name, node) = entry :=
  map_eq_ok_iff

/-- The names of a tree's entries are those of the queries, in order. -/
theorem names_entries {r : Registries F} {qs : List (AggregationQuery F)}
    {entries : List (String × AggregationNode)}
    (h : qs.mapM (AggregationQuery.entry r) = .ok entries) :
    entries.map (·.1) = qs.map (·.name) := by
  rw [mapM_eq_ok_iff] at h
  induction h with
  | nil => rfl
  | cons hentry _ ih =>
    obtain ⟨node, -, rfl⟩ := entry_eq_ok_iff.1 hentry
    rw [List.map_cons, List.map_cons, ih]

/-- In the tree of a batch, every query stands under its name. -/
theorem get_compile {r : Registries F} {b : Batch F} {tree : AggregationTree}
    (h : b.compile r = .ok tree) {q : AggregationQuery F} (hq : q ∈ b.queries) :
    ∃ node, q.compile r = .ok node ∧ Keyed.get? q.name tree = some node := by
  obtain ⟨entries, hentries, rfl⟩ := map_eq_ok_iff.1 h
  obtain ⟨entry, hmem, hentry⟩ := exists_of_mem_of_mapM_eq_ok hentries hq
  obtain ⟨node, hnode, rfl⟩ := entry_eq_ok_iff.1 hentry
  refine ⟨node, hnode, Keyed.get_ofList_of_nodup ?_ hmem⟩
  rw [names_entries hentries]
  exact b.names_nodup

/-! ### Reading the answer to one query -/

variable {D : Type} (e : Evaluation D) (index : List D)

/-- A query without conditions, read from the answer to its node. -/
theorem result_answer_unfiltered (q : AggregationQuery F) (h : q.conditions.isEmpty = true) :
    q.result? (e.answer index q.unfiltered index) = some (e.result q index) := by
  rw [AggregationQuery.unfiltered, result]
  cases hb : q.bucket with
  | some b =>
    -- The node of a bucket is answered by groups, so neither as a filter nor as a global node.
    have hgroups : q.result? (e.answer index b.node index)
        = some (.bucket (b.entries (e.answer index b.node index)) none) := by
      simp only [BucketSpec.node]
      cases b.grouping <;> simp only [answer, AggregationQuery.result?, hb]
    rw [hgroups, entries_answer]
    simp only [h, if_true]
  | none =>
    simp only [answer, AggregationQuery.result?, values_answers]

/-- A query with conditions, read from the answer to its filter. -/
theorem result_answer_filter (q : AggregationQuery F) (query : Query)
    (h : q.conditions.isEmpty = false) :
    q.result? (e.answer index (.filter query q.inner) index)
      = some (e.result q (index.filter (e.isMatch query))) := by
  rw [AggregationQuery.inner, result, answer]
  cases hb : q.bucket with
  | some b =>
    simp only [AggregationQuery.result?, hb, get_answers, Keyed.get_cons, if_true,
      Option.map_some, entries_answer, h, Bool.false_eq_true, if_false]
  | none =>
    simp only [AggregationQuery.result?, hb, values_answers]

/-- One query, read from the answer to its node: its result over the documents it is about. -/
theorem result_answer {r : Registries F} {q : AggregationQuery F} {node : AggregationNode}
    (h : q.compile r = .ok node) :
    ∃ docs, e.scope index r q = .ok docs ∧
      q.result? (e.answer index node index) = some (e.result q docs) := by
  rw [AggregationQuery.compile] at h
  rw [scope]
  cases hc : q.conditions.isEmpty with
  | true =>
    rw [hc, if_pos rfl] at h
    cases h
    exact ⟨index, rfl, result_answer_unfiltered e index q hc⟩
  | false =>
    rw [hc, if_neg Bool.false_ne_true] at h
    obtain ⟨query, hquery, rfl⟩ := map_eq_ok_iff.1 h
    rw [hquery]
    exact ⟨_, rfl, result_answer_filter e index q query hc⟩

/-! ### A whole batch -/

section Batch

omit [DecidableEq F] [FieldSet F]

/-- The pairs that the results of a batch are entered from. -/
def Batch.resultPairs (b : Batch F) (answers : Aggregates) : List (String × QueryResult) :=
  b.queries.filterMap fun q =>
    ((Keyed.get? q.name answers).bind q.result?).map fun res => (q.name, res)

/-- A pair is made by the query of its name. -/
theorem mem_resultPairs {b : Batch F} {answers : Aggregates} {name : String} {res : QueryResult} :
    (name, res) ∈ b.resultPairs answers ↔
      ∃ q ∈ b.queries, q.name = name ∧ (Keyed.get? q.name answers).bind q.result? = some res := by
  simp only [Batch.resultPairs, List.mem_filterMap, Option.map_eq_some_iff, Prod.mk.injEq]
  constructor
  · rintro ⟨q, hq, res', hres, hname, rfl⟩
    exact ⟨q, hq, hname, hres⟩
  · rintro ⟨q, hq, hname, hres⟩
    exact ⟨q, hq, res, hres, hname, rfl⟩

/-- The pairs have distinct names, because the queries have. -/
theorem nodup_resultPairs (b : Batch F) (answers : Aggregates) :
    ((b.resultPairs answers).map (·.1)).Nodup := by
  refine List.Sublist.nodup ?_ b.names_nodup
  rw [Batch.resultPairs]
  induction b.queries with
  | nil => exact .slnil
  | cons q qs ih =>
    rw [List.filterMap_cons]
    cases (Keyed.get? q.name answers).bind q.result? with
    | none => exact ih.cons _
    | some res => exact ih.cons_cons _

/-- The result of a query is read from the answer under its name, and from nothing else. -/
theorem get_results {b : Batch F} (answers : Aggregates) {q : AggregationQuery F}
    (hq : q ∈ b.queries) :
    (b.results answers).get? q.name = (Keyed.get? q.name answers).bind q.result? := by
  show Keyed.get? q.name (.ofList (b.resultPairs answers)) = _
  cases hres : (Keyed.get? q.name answers).bind q.result? with
  | some res =>
    have hpair : (q.name, res) ∈ b.resultPairs answers := mem_resultPairs.2 ⟨q, hq, rfl, hres⟩
    exact Keyed.get_ofList_of_nodup (nodup_resultPairs b answers) hpair
  | none =>
    rw [← Option.not_isSome_iff_eq_none, Keyed.isSome_get_iff, Keyed.mem_names_ofList]
    intro hmem
    obtain ⟨⟨name, res⟩, hpair, hname⟩ := List.mem_map.1 hmem
    obtain ⟨q', hq', hname', hres'⟩ := mem_resultPairs.1 hpair
    have hsame : q' = q := List.inj_on_of_nodup_map b.names_nodup hq' hq (hname'.trans hname)
    rw [hsame, hres] at hres'
    cases hres'

end Batch

/-- Two queries over job postings: groups of the postings of one company, with two metrics of one
name, and the number of all postings. -/
def companyBatch : Batch JobField where
  queries :=
    [⟨"meta", [.ofValue .company "META"],
      some ⟨"levels", .careerLevel, .terms 10, [.ofField .sum .minYears "n", .count "n"]⟩, [],
      by decide, by decide⟩,
     ⟨"all", [], none, [.count "n"], by decide, by decide⟩]
  queries_ne_nil := by decide
  names_nodup := by decide

end TypedSearch
