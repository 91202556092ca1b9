import TypedSearch.Proofs.Aggregation.Results
/-!
# `TypedSearch.Proofs.Aggregation.Members`: the queries of a batch do not touch each other

A query has the same node in every batch that it is in. `Batch.single` is the batch of one query
alone, which everything is compared with. The order of a batch tells which error comes first and
nothing else.

* `compile_single`: a batch of one query is the node of the query under its name.
* `exists_compile_iff`, `compile_eq_error_iff`: a batch fails exactly when some query does alone,
  with the error of the first.
* `compile_eq_ok_of_perm`, `results_eq_of_perm`: in another order a batch has the same tree, and
  the same results of every answer.
-/

set_option autoImplicit false

namespace TypedSearch.Batch

variable {F : Type}

/-- The batch of one query. -/
def single (q : AggregationQuery F) : Batch F := ⟨[q], by simp, by simp⟩

/-- Queries in another order make a batch as well. -/
theorem exists_ofList_of_perm {b : Batch F} {qs : List (AggregationQuery F)}
    (h : qs.Perm b.queries) : ∃ b', ofList qs = .ok b' ∧ b'.queries = qs := by
  have hne : qs ≠ [] := by
    rintro rfl
    exact b.queries_ne_nil h.nil_eq.symm
  have hnames : (qs.map (·.name)).Nodup := (h.map _).nodup_iff.2 b.names_nodup
  exact ⟨⟨qs, hne, hnames⟩, ofList_queries ⟨qs, hne, hnames⟩, rfl⟩

/-- In another order, the queries of a batch have the same results by every answer. -/
theorem results_eq_of_perm {b b' : Batch F} (h : b'.queries.Perm b.queries)
    (answers : Aggregates) : b'.results answers = b.results answers := by
  show BatchResult.mk (.ofList (b'.resultPairs answers)) = ⟨.ofList (b.resultPairs answers)⟩
  have hpairs : (b'.resultPairs answers).Perm (b.resultPairs answers) := h.filterMap _
  rw [Keyed.ofList_eq_of_perm hpairs (nodup_resultPairs b' answers)]

variable [DecidableEq F] [FieldSet F] {r : Registries F}

/-- The tree of a batch of one query is the node of the query under its name. -/
theorem compile_single (q : AggregationQuery F) :
    (single q).compile r = (q.compile r).map fun node => [(q.name, node)] := by
  show (([q].mapM (AggregationQuery.entry r)).map Keyed.ofList) = _
  rw [mapM_cons_except, AggregationQuery.entry]
  cases q.compile r <;> rfl

/-- A query with a node has a tree alone, with this node under its name. -/
theorem compile_single_of_compile {q : AggregationQuery F} {node : AggregationNode}
    (h : q.compile r = .ok node) : (single q).compile r = .ok [(q.name, node)] := by
  rw [compile_single, h]
  rfl

/-- A query has an entry exactly when it has a tree alone. -/
theorem exists_entry_iff (q : AggregationQuery F) :
    (∃ entry, q.entry r = .ok entry) ↔ ∃ tree, (single q).compile r = .ok tree := by
  rw [compile_single, AggregationQuery.entry, exists_map_eq_ok_iff, exists_map_eq_ok_iff]

/-- A query has no entry for the reason for which it has no tree alone. -/
theorem entry_eq_error_iff {q : AggregationQuery F} {e : SearchError} :
    q.entry r = .error e ↔ (single q).compile r = .error e := by
  rw [compile_single, AggregationQuery.entry, map_eq_error_iff, map_eq_error_iff]

/-- A batch fails with the error of the first query that fails alone. -/
theorem compile_eq_error_iff {b : Batch F} {e : SearchError} :
    b.compile r = .error e ↔
      ∃ before q after, b.queries = before ++ q :: after ∧
        (∀ q' ∈ before, ∃ tree, (single q').compile r = .ok tree) ∧
        (single q).compile r = .error e := by
  rw [compile, map_eq_error_iff, mapM_eq_error_iff]
  simp only [exists_entry_iff, entry_eq_error_iff]

/-- A batch has a tree exactly when every query has one alone. -/
theorem exists_compile_iff {b : Batch F} :
    (∃ tree, b.compile r = .ok tree) ↔
      ∀ q ∈ b.queries, ∃ tree, (single q).compile r = .ok tree := by
  rw [compile, exists_map_eq_ok_iff, exists_mapM_eq_ok_iff]
  simp only [exists_entry_iff]

/-- The tree of a batch has one entry for each query. -/
theorem perm_names_compile {b : Batch F} {tree : AggregationTree} (h : b.compile r = .ok tree) :
    (Keyed.names tree).Perm (b.queries.map (·.name)) := by
  obtain ⟨entries, hentries, rfl⟩ := map_eq_ok_iff.1 h
  have hnames := names_entries hentries
  rw [← hnames]
  exact Keyed.perm_names_ofList (hnames ▸ b.names_nodup)

/-- In another order, the queries of a batch have the same tree. -/
theorem compile_eq_ok_of_perm {b b' : Batch F} (h : b'.queries.Perm b.queries)
    {tree : AggregationTree} (htree : b.compile r = .ok tree) : b'.compile r = .ok tree := by
  obtain ⟨entries, hentries, rfl⟩ := map_eq_ok_iff.1 htree
  obtain ⟨entries', hentries', hsame⟩ := exists_mapM_eq_ok_of_perm h hentries
  -- No entry takes the place of another, since the names of a batch are distinct.
  refine map_eq_ok_iff.2 ⟨entries', hentries', Keyed.ofList_eq_of_perm hsame ?_⟩
  rw [names_entries hentries']
  exact b'.names_nodup

/-- The queries of a batch are compiled as if each were alone. The batch has a tree exactly when
each of them has one; the tree has one entry for each query, which is its entry alone, and
otherwise the error is that of the first query that has one alone. In every other order, the
queries make a batch with the same tree and with the same results of every answer. -/
theorem compile_members (r : Registries F) (b : Batch F) :
    ((∃ tree, b.compile r = .ok tree) ↔
      ∀ q ∈ b.queries, ∃ tree, (single q).compile r = .ok tree) ∧
    (∀ tree, b.compile r = .ok tree →
      (Keyed.names tree).Perm (b.queries.map (·.name)) ∧
        ∀ q ∈ b.queries, ∃ node, (single q).compile r = .ok [(q.name, node)] ∧
          Keyed.get? q.name tree = some node) ∧
    (∀ e, b.compile r = .error e ↔
      ∃ before q after, b.queries = before ++ q :: after ∧
        (∀ q' ∈ before, ∃ tree, (single q').compile r = .ok tree) ∧
        (single q).compile r = .error e) ∧
    ∀ qs : List (AggregationQuery F), qs.Perm b.queries →
      ∃ b', ofList qs = .ok b' ∧ b'.queries = qs ∧
        (∀ tree, b'.compile r = .ok tree ↔ b.compile r = .ok tree) ∧
        ∀ answers, b'.results answers = b.results answers := by
  refine ⟨exists_compile_iff, ?_, fun e => compile_eq_error_iff, ?_⟩
  · intro tree htree
    refine ⟨perm_names_compile htree, fun q hq => ?_⟩
    obtain ⟨node, hnode, hget⟩ := get_compile htree hq
    exact ⟨node, compile_single_of_compile hnode, hget⟩
  · intro qs hqs
    obtain ⟨b', hb', rfl⟩ := exists_ofList_of_perm hqs
    refine ⟨b', hb', rfl, fun tree => ⟨?_, ?_⟩, results_eq_of_perm hqs⟩
    · exact compile_eq_ok_of_perm hqs.symm
    · exact compile_eq_ok_of_perm hqs

end TypedSearch.Batch
