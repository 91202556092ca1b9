import TypedSearch.Proofs.Aggregation.Members
import TypedSearch.Proofs.Query.Compile
import TypedSearch.Search
/-!
# `TypedSearch.Proofs.Search.Aggregations`: bucket requests run as one batch

* `exists_batchOf`: requests with distinct names that are not blank make a batch, query by query.
* `exists_batchOf_iff`, `batchOf_eq_error`: no others make one, and why they do not.
* `Batch.exists_compile`: a batch has a tree where all fields are known.
* `Batch.exists_isUnknown_of_compile`: it has none only because a field is unknown.
* `aggregateRequests_of_answers`: asked of an engine that answers trees over some documents, every
  request gets the groups of the documents that match its conditions, and their number.
-/

set_option autoImplicit false

namespace TypedSearch

variable {F : Type}

/-! ### The batch -/

/-- The query has the name, the conditions and the bucket of the request. -/
structure BucketRequest.Makes (r : BucketRequest F) (q : AggregationQuery F) : Prop where
  name : q.name = r.name
  conditions : q.conditions = r.conditions
  bucket : q.bucket = some r.bucket

/-- A request whose name is not blank makes a query. -/
theorem BucketRequest.exists_toQuery {r : BucketRequest F}
    (h : Text.isAllBlank r.name.toList = false) : ∃ q, r.toQuery = .ok q := by
  have hname : ¬ Text.isAllBlank r.name.toList = true := by simp [h]
  have hasks : (some r.bucket).isSome = true ∨ ([] : List (MetricSpec F)) ≠ [] := Or.inl rfl
  exact ⟨_, (dif_neg hname).trans (dif_pos hasks)⟩

/-- The query that a request makes is one of the request. -/
theorem BucketRequest.makes_of_toQuery {r : BucketRequest F} {q : AggregationQuery F}
    (h : r.toQuery = .ok q) : r.Makes q := by
  rw [toQuery, AggregationQuery.ofParts] at h
  split at h
  · cases h
  · split at h
    · cases h
      exact ⟨rfl, rfl, rfl⟩
    · cases h

/-- The queries that requests make have the names of the requests, in order. -/
theorem names_of_mapM_toQuery {rs : List (BucketRequest F)} {qs : List (AggregationQuery F)}
    (h : rs.mapM BucketRequest.toQuery = .ok qs) : qs.map (·.name) = rs.map (·.name) := by
  rw [mapM_eq_ok_iff] at h
  induction h with
  | nil => rfl
  | cons hq _ ih =>
    rw [List.map_cons, List.map_cons, ih, (BucketRequest.makes_of_toQuery hq).name]

/-- Requests with distinct names that are not blank make a batch of their queries. -/
theorem exists_batchOf {rs : List (BucketRequest F)} (hne : rs ≠ [])
    (hnames : (rs.map (·.name)).Nodup) (hblank : ∀ r ∈ rs, Text.isAllBlank r.name.toList = false) :
    ∃ b, DocumentSearch.batchOf rs = .ok b ∧ rs.mapM BucketRequest.toQuery = .ok b.queries := by
  obtain ⟨qs, hqs⟩ := exists_mapM_eq_ok_iff.2 fun r hr =>
    BucketRequest.exists_toQuery (hblank r hr)
  have hsame := names_of_mapM_toQuery hqs
  have hqsne : qs ≠ [] := by
    rintro rfl
    exact hne (List.map_eq_nil_iff.1 hsame.symm)
  -- The queries have the names of the requests, so these make a batch of them.
  have hbatch := Batch.ofList_queries ⟨qs, hqsne, hsame ▸ hnames⟩
  refine ⟨⟨qs, hqsne, hsame ▸ hnames⟩, ?_, hqs⟩
  rw [DocumentSearch.batchOf, hqs]
  exact hbatch

/-- Requests make a batch exactly when there are any, with distinct names that are not blank. -/
theorem exists_batchOf_iff {rs : List (BucketRequest F)} :
    (∃ b, DocumentSearch.batchOf rs = .ok b) ↔
      rs ≠ [] ∧ (rs.map (·.name)).Nodup ∧ ∀ r ∈ rs, Text.isAllBlank r.name.toList = false := by
  constructor
  · rintro ⟨b, hb⟩
    obtain ⟨qs, hqs, hbatch⟩ := bind_eq_ok_iff.1 hb
    obtain rfl := Batch.queries_of_ofList hbatch
    have hsame := names_of_mapM_toQuery hqs
    refine ⟨?_, hsame ▸ b.names_nodup, ?_⟩
    · rintro rfl
      exact b.queries_ne_nil (List.map_eq_nil_iff.1 hsame)
    · intro r hr
      obtain ⟨q, -, hq⟩ := exists_of_mem_of_mapM_eq_ok hqs hr
      rw [← (BucketRequest.makes_of_toQuery hq).name]
      exact q.name_not_blank
  · rintro ⟨hne, hnames, hblank⟩
    obtain ⟨b, hb, -⟩ := exists_batchOf hne hnames hblank
    exact ⟨b, hb⟩

/-- Requests make no batch because a name is blank, or because there are none, or because a name is
given twice. -/
theorem batchOf_eq_error {rs : List (BucketRequest F)} {e : SearchError}
    (h : DocumentSearch.batchOf rs = .error e) :
    e = .blankQueryName ∨ e = .emptyBatch ∨ ∃ name, e = .duplicateQueryName name := by
  rcases bind_eq_error_iff.1 h with hqs | ⟨qs, -, hbatch⟩
  · obtain ⟨_, r, _, -, -, hr⟩ := mapM_eq_error_iff.1 hqs
    rw [BucketRequest.toQuery, AggregationQuery.ofParts] at hr
    split at hr
    · cases hr
      exact Or.inl rfl
    · simp at hr
  · rw [Batch.ofList] at hbatch
    split at hbatch
    · cases hbatch
      exact Or.inr (Or.inl rfl)
    · split at hbatch
      · cases hbatch
        exact Or.inr (Or.inr ⟨_, rfl⟩)
      · cases hbatch

variable [DecidableEq F] [FieldSet F]

/-- A query on known fields has a node. -/
theorem AggregationQuery.exists_compile {r : Registries F} {q : AggregationQuery F}
    (h : ∀ c ∈ q.conditions, r.isUnknown c.field = false) : ∃ node, q.compile r = .ok node := by
  rw [compile]
  split
  · exact ⟨_, rfl⟩
  · obtain ⟨query, hquery⟩ := Registries.exists_compile_iff.2 h
    exact ⟨_, map_eq_ok_iff.2 ⟨query, hquery, rfl⟩⟩

/-- A batch of queries on known fields has a tree. -/
theorem Batch.exists_compile {r : Registries F} {b : Batch F}
    (h : ∀ q ∈ b.queries, ∀ c ∈ q.conditions, r.isUnknown c.field = false) :
    ∃ tree, b.compile r = .ok tree := by
  refine exists_compile_iff.2 fun q hq => ?_
  obtain ⟨node, hnode⟩ := AggregationQuery.exists_compile (h q hq)
  exact ⟨_, compile_single_of_compile hnode⟩

/-- A batch has no tree only because the field of one of its conditions is unknown. -/
theorem Batch.exists_isUnknown_of_compile {r : Registries F} {b : Batch F} {e : SearchError}
    (h : b.compile r = .error e) :
    ∃ field, r.isUnknown field = true ∧ e = .unknownField (FieldSet.name field) := by
  -- The first query without a tree decides, and in it only the conditions can fail.
  obtain ⟨_, q, _, -, -, hq⟩ := mapM_eq_error_iff.1 (map_eq_error_iff.1 h)
  have hcompile : q.compile r = .error e := map_eq_error_iff.1 hq
  rw [AggregationQuery.compile] at hcompile
  split at hcompile
  · cases hcompile
  · exact Registries.exists_isUnknown_of_compile (map_eq_error_iff.1 hcompile)

/-! ### The answer -/

namespace DocumentSearch

variable {m : Type → Type} [Monad m] [LawfulMonad m] {D : Type}

/-- Every request with conditions gets the groups of the documents that match them, and the number
of these documents. -/
theorem aggregateRequests_of_answers (d : DocumentSearch m F) {e : Evaluation D} {docs : List D}
    (hanswers : ∀ tree, d.engine.aggregate d.index tree = pure (.ok (e.answers docs tree docs)))
    {rs : List (BucketRequest F)} (hne : rs ≠ []) (hnames : (rs.map (·.name)).Nodup)
    (hblank : ∀ r ∈ rs, Text.isAllBlank r.name.toList = false)
    (hknown : ∀ field, d.schema.registries.isUnknown field = false) :
    ∃ results, d.aggregateRequests rs = pure (.ok results) ∧
      ∀ r ∈ rs, r.conditions ≠ [] → ∃ query,
        d.schema.registries.compile r.conditions = .ok query ∧
          results.get? r.name = some (.bucket
            (e.entries r.bucket (docs.filter (e.isMatch query)))
            (some (docs.filter (e.isMatch query)).length)) := by
  obtain ⟨b, hb, hqueries⟩ := exists_batchOf hne hnames hblank
  obtain ⟨tree, htree⟩ := Batch.exists_compile (b := b) fun q _ c _ => hknown c.field
  refine ⟨b.results (e.answers docs tree docs), ?_, ?_⟩
  · rw [aggregateRequests, hb]
    show d.engine.execute d.index d.schema.registries b = _
    rw [Engine.execute, htree]
    show _ <$> d.engine.aggregate d.index tree = _
    rw [hanswers, map_pure]
    rfl
  · intro r hr hconditions
    obtain ⟨q, hq, hrq⟩ := exists_of_mem_of_mapM_eq_ok hqueries hr
    have hmake := BucketRequest.makes_of_toQuery hrq
    obtain ⟨node, hnode, hget⟩ := get_compile htree hq
    obtain ⟨found, hscope, hresult⟩ := result_answer e docs hnode
    -- With conditions, a query is about the documents that match them, not about all.
    have hasks : q.conditions.isEmpty = false := by
      rw [hmake.conditions]
      simpa using hconditions
    rw [Evaluation.scope, hasks, hmake.conditions] at hscope
    obtain ⟨query, hquery, rfl⟩ := map_eq_ok_iff.1 hscope
    refine ⟨query, hquery, ?_⟩
    rw [← hmake.name, get_results _ hq, Evaluation.get_answers, hget]
    show q.result? _ = _
    rw [hresult, Evaluation.result, hmake.bucket, hasks]
    rfl

end DocumentSearch

end TypedSearch
