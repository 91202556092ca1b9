import TypedSearch.Proofs.Search.Aggregations
/-!
# `TypedSearch.Proofs.Search.BucketRequests`: which bucket requests are run

Bucket requests are looked at several times before they are sent, each time all of them in order:
for blank names, for whether there are any, for names that are repeated, and for fields that are
registered nowhere. The first time that something is wrong decides the error. Where nothing is, the
requests are sent as one tree with one node for each.

* `firstRepeated_eq_some_iff`: the name that is found is the first that occurs before.
* `BucketRequest.toQuery_eq_error_iff`, `BucketRequest.entry_eq_error_iff`: what is wrong with one
  request.
* `batchOf_of_blank`, `batchOf_of_repeated`: what is wrong with the names of several.
* `compile_eq_mapM`: the tree of the batch of requests, request by request.
* `aggregateRequests_decided`: all of it.
-/

set_option autoImplicit false

namespace TypedSearch

variable {F : Type}

/-! ### Names -/

/-- The name that is found is the first among those that are seen before it. -/
theorem firstRepeated_eq_some_iff {seen names : List String} {n : String} :
    firstRepeated seen names = some n ↔
      ∃ before after, names = before ++ n :: after ∧ before.Nodup ∧
        (∀ m ∈ before, m ∉ seen) ∧ (n ∈ before ∨ n ∈ seen) := by
  -- The names that were passed are moved to those that are seen, one by one.
  induction names generalizing seen with
  | nil => simp [firstRepeated]
  | cons m ms ih =>
    rw [firstRepeated]
    by_cases hm : m ∈ seen
    · rw [if_pos hm]
      constructor
      · intro h
        cases h
        exact ⟨[], ms, rfl, .nil, by simp, .inr hm⟩
      · rintro ⟨before, after, hsplit, -, hnew, -⟩
        cases before with
        | nil =>
          cases hsplit
          rfl
        | cons m' before =>
          cases hsplit
          exact absurd hm (hnew m List.mem_cons_self)
    · rw [if_neg hm, ih]
      constructor
      · rintro ⟨before, after, rfl, hnodup, hnew, hn⟩
        refine ⟨m :: before, after, rfl, List.nodup_cons.2 ⟨?_, hnodup⟩, ?_, ?_⟩
        · exact fun hmem => hnew m hmem List.mem_cons_self
        · refine List.forall_mem_cons.2 ⟨hm, fun k hk hseen => ?_⟩
          exact hnew k hk (List.mem_cons_of_mem _ hseen)
        · simp only [List.mem_cons] at hn ⊢
          tauto
      · rintro ⟨before, after, hsplit, hnodup, hnew, hn⟩
        cases before with
        | nil =>
          cases hsplit
          simp [hm] at hn
        | cons m' before =>
          cases hsplit
          obtain ⟨hfresh, hnodup⟩ := List.nodup_cons.1 hnodup
          refine ⟨before, after, rfl, hnodup, fun k hk hseen => ?_, ?_⟩
          · rcases List.mem_cons.1 hseen with rfl | hseen
            · exact hfresh hk
            · exact hnew k (List.mem_cons_of_mem _ hk) hseen
          · simp only [List.mem_cons] at hn ⊢
            tauto

/-- Queries with a repeated name make no batch. -/
theorem Batch.ofList_of_repeated {qs : List (AggregationQuery F)} {n : String}
    (h : firstRepeated [] (qs.map (·.name)) = some n) :
    ofList qs = .error (.duplicateQueryName n) := by
  have hne : qs ≠ [] := by
    rintro rfl
    cases h
  rw [ofList, dif_neg hne]
  split
  · next name hname =>
    rw [h] at hname
    cases hname
    rfl
  · next hnone =>
    rw [h] at hnone
    cases hnone

namespace BucketRequest

/-- The name of the request has nothing but white space in it. -/
def IsBlank (r : BucketRequest F) : Prop := ∀ c ∈ r.name.toList, Text.isBlank c = true

theorem isBlank_iff (r : BucketRequest F) : r.IsBlank ↔ Text.isAllBlank r.name.toList = true := by
  rw [IsBlank, Text.isAllBlank, List.all_eq_true]

theorem isAllBlank_eq_false {r : BucketRequest F} (h : ¬ r.IsBlank) :
    Text.isAllBlank r.name.toList = false := by
  rwa [isBlank_iff, Bool.not_eq_true] at h

/-- A request makes no query exactly when its name is blank. -/
theorem toQuery_eq_error_iff {r : BucketRequest F} {e : SearchError} :
    r.toQuery = .error e ↔ r.IsBlank ∧ e = .blankQueryName := by
  rw [isBlank_iff]
  by_cases hblank : Text.isAllBlank r.name.toList = true
  · rw [toQuery, AggregationQuery.ofParts, dif_pos hblank]
    simp [hblank, eq_comm]
  · obtain ⟨q, hq⟩ := exists_toQuery (Bool.not_eq_true _ ▸ hblank)
    simp [hq, hblank]

end BucketRequest

namespace DocumentSearch

/-- Requests with a blank name among them make no batch, for this reason. -/
theorem batchOf_of_blank {rs : List (BucketRequest F)} (h : ∃ r ∈ rs, r.IsBlank) :
    batchOf rs = .error .blankQueryName := by
  obtain ⟨r, hr, hblank⟩ := h
  cases hqs : rs.mapM BucketRequest.toQuery with
  | ok qs =>
    obtain ⟨q, -, hq⟩ := exists_of_mem_of_mapM_eq_ok hqs hr
    rw [BucketRequest.toQuery_eq_error_iff.2 ⟨hblank, rfl⟩] at hq
    cases hq
  | error e =>
    -- Whichever request is the first without a query, it has none for this reason.
    obtain ⟨_, r', _, -, -, hr'⟩ := mapM_eq_error_iff.1 hqs
    rw [batchOf, hqs, (BucketRequest.toQuery_eq_error_iff.1 hr').2]
    rfl

/-- Requests whose names are not blank make no batch where a name is repeated. -/
theorem batchOf_of_repeated {rs : List (BucketRequest F)} {n : String}
    (hblank : ∀ r ∈ rs, ¬ r.IsBlank) (h : firstRepeated [] (rs.map (·.name)) = some n) :
    batchOf rs = .error (.duplicateQueryName n) := by
  obtain ⟨qs, hqs⟩ := exists_mapM_eq_ok_iff.2 fun r hr =>
    BucketRequest.exists_toQuery (BucketRequest.isAllBlank_eq_false (hblank r hr))
  rw [batchOf, hqs]
  exact Batch.ofList_of_repeated (names_of_mapM_toQuery hqs ▸ h)

end DocumentSearch

/-! ### Nodes -/

variable [DecidableEq F] [FieldSet F]

namespace BucketRequest

/-- The groups that a request asks for: by value, 10 of them unless a number is given, or by
interval of the calendar, by day unless one is given. -/
def groups (r : BucketRequest F) : AggregationNode :=
  match r.kind with
  | .terms => .terms (FieldSet.name r.field) (r.size.getD 10) (MetricSpec.nodes r.metrics)
  | .dateHistogram =>
    .dateHistogram (FieldSet.name r.field) (r.interval.getD "1d") (MetricSpec.nodes r.metrics)

theorem node_bucket (r : BucketRequest F) : r.bucket.node = r.groups := by
  rw [bucket, BucketSpec.node, groups]
  cases r.kind <;> rfl

/-- The node that stands for a request: its groups or, where it has conditions, a filter with these
and nothing else in it. -/
inductive IsNode (fields : Registries F) (r : BucketRequest F) : AggregationNode → Prop where
  | bare (unfiltered : r.conditions = []) : IsNode fields r r.groups
  | filter {query : Query} (filtered : r.conditions ≠ [])
      (compiled : fields.compile r.conditions = .ok query) :
      IsNode fields r (.filter query [(r.name ++ "_bucket", r.groups)])

/-- The node of the query that a request makes, under the name of the request. -/
def entry (fields : Registries F) (r : BucketRequest F) :
    Except SearchError (String × AggregationNode) :=
  r.toQuery >>= AggregationQuery.entry fields

/-- A request whose name is not blank has an entry as the node for its conditions has. -/
theorem entry_eq {fields : Registries F} {r : BucketRequest F} (h : ¬ r.IsBlank) :
    r.entry fields
      = if r.conditions = [] then .ok (r.name, r.groups)
        else (fields.compile r.conditions).map fun query =>
          (r.name, .filter query [(r.name ++ "_bucket", r.groups)]) := by
  obtain ⟨q, hq⟩ := exists_toQuery (isAllBlank_eq_false h)
  obtain ⟨hname, hconditions, hbucket⟩ := makes_of_toQuery hq
  have hinner : q.inner = [(r.name ++ "_bucket", r.groups)] := by
    rw [AggregationQuery.inner, hbucket, ← node_bucket]
    rfl
  have hunfiltered : q.unfiltered = r.groups := by
    rw [AggregationQuery.unfiltered, hbucket, ← node_bucket]
  rw [entry, hq]
  show q.entry fields = _
  rw [AggregationQuery.entry, AggregationQuery.compile, hconditions, hname, hinner, hunfiltered]
  by_cases hnone : r.conditions = []
  · rw [if_pos (List.isEmpty_iff.2 hnone), if_pos hnone]
    rfl
  · rw [if_neg (mt List.isEmpty_iff.1 hnone), if_neg hnone]
    cases fields.compile r.conditions <;> rfl

/-- The entry of a request is its node under its name. -/
theorem isNode_of_entry {fields : Registries F} {r : BucketRequest F} (h : ¬ r.IsBlank)
    {e : String × AggregationNode} (he : r.entry fields = .ok e) :
    e.1 = r.name ∧ r.IsNode fields e.2 := by
  rw [entry_eq h] at he
  split at he
  · next hnone =>
    cases he
    exact ⟨rfl, .bare hnone⟩
  · next hsome =>
    obtain ⟨query, hquery, rfl⟩ := map_eq_ok_iff.1 he
    exact ⟨rfl, .filter hsome hquery⟩

/-- A request has no entry exactly when the field of one of its conditions is unknown, which the
error names if it is the first. -/
theorem entry_eq_error_iff {fields : Registries F} {r : BucketRequest F} (h : ¬ r.IsBlank)
    {e : SearchError} :
    r.entry fields = .error e ↔
      ∃ passed c rest, r.conditions = passed ++ c :: rest ∧
        (∀ c' ∈ passed, fields.isUnknown c'.field = false) ∧ fields.isUnknown c.field = true ∧
        e = .unknownField (FieldSet.name c.field) := by
  rw [entry_eq h]
  by_cases hnone : r.conditions = []
  · simp [hnone]
  · rw [if_neg hnone, map_eq_error_iff, Registries.compile_eq_error_iff]

/-- A request has an entry exactly when the fields of its conditions are known. -/
theorem exists_entry_iff {fields : Registries F} {r : BucketRequest F} (h : ¬ r.IsBlank) :
    (∃ e, r.entry fields = .ok e) ↔ ∀ c ∈ r.conditions, fields.isUnknown c.field = false := by
  rw [entry_eq h]
  by_cases hnone : r.conditions = []
  · simp [hnone]
  · rw [if_neg hnone, exists_map_eq_ok_iff, Registries.exists_compile_iff]

omit [DecidableEq F] in
/-- Entries with the names of requests have these names in order. -/
theorem names_of_forall₂ {rs : List (BucketRequest F)}
    {p : BucketRequest F → AggregationNode → Prop} {entries : List (String × AggregationNode)}
    (h : List.Forall₂ (fun r e => e.1 = r.name ∧ p r e.2) rs entries) :
    entries.map (·.1) = rs.map (·.name) := by
  induction h with
  | nil => rfl
  | cons he _ ih => rw [List.map_cons, List.map_cons, he.1, ih]

end BucketRequest

/-- The tree is that of the requests: it has an entry for each, which is the node that stands for
the request under its name, and no other entry. -/
structure AggregationTree.IsOf (fields : Registries F) (rs : List (BucketRequest F))
    (tree : AggregationTree) : Prop where
  sorted : Keyed.Sorted tree
  entries : ∃ entries, tree.Perm entries ∧
    List.Forall₂ (fun r e => e.1 = r.name ∧ r.IsNode fields e.2) rs entries

/-- The tree of a batch of requests is made of their entries, in order. -/
theorem Batch.compile_eq_mapM {fields : Registries F} {rs : List (BucketRequest F)} {b : Batch F}
    (h : rs.mapM BucketRequest.toQuery = .ok b.queries) :
    b.compile fields = (rs.mapM (BucketRequest.entry fields)).map Keyed.ofList :=
  congrArg (Except.map Keyed.ofList) (mapM_of_mapM_eq_ok h)

/-- The batch of requests on known fields has a tree, which is the one of these requests. -/
theorem Batch.exists_isOf {fields : Registries F} {rs : List (BucketRequest F)} {b : Batch F}
    (h : rs.mapM BucketRequest.toQuery = .ok b.queries) (hblank : ∀ r ∈ rs, ¬ r.IsBlank)
    (hknown : ∀ r ∈ rs, ∀ c ∈ r.conditions, fields.isUnknown c.field = false) :
    ∃ tree, b.compile fields = .ok tree ∧ tree.IsOf fields rs := by
  obtain ⟨entries, hentries⟩ := exists_mapM_eq_ok_iff.2 fun r hr =>
    (BucketRequest.exists_entry_iff (hblank r hr)).2 (hknown r hr)
  have hall := mapM_eq_ok_iff.1 hentries
  have hnodes : List.Forall₂ (fun r e => e.1 = r.name ∧ r.IsNode fields e.2) rs entries :=
    List.forall₂_iff_zip.2 ⟨hall.length_eq, fun hmem =>
      BucketRequest.isNode_of_entry (hblank _ (List.of_mem_zip hmem).1)
        (List.forall₂_zip hall hmem)⟩
  -- No entry takes the place of another, since the names of a batch are distinct.
  have hnodup : (entries.map (·.1)).Nodup := by
    rw [BucketRequest.names_of_forall₂ hnodes, ← names_of_mapM_toQuery h]
    exact b.names_nodup
  refine ⟨Keyed.ofList entries, ?_, Keyed.sorted_ofList entries, entries, ?_, hnodes⟩
  · rw [compile_eq_mapM h, hentries]
    rfl
  · exact Keyed.perm_ofList hnodup

/-- The batch of requests has no tree where a field is unknown, and the error names the first. -/
theorem Batch.compile_of_unknown {fields : Registries F} {rs : List (BucketRequest F)}
    {b : Batch F} (h : rs.mapM BucketRequest.toQuery = .ok b.queries)
    (hblank : ∀ r ∈ rs, ¬ r.IsBlank)
    (hunknown : ∃ r ∈ rs, ∃ c ∈ r.conditions, fields.isUnknown c.field = true) :
    ∃ before r after, rs = before ++ r :: after ∧
      (∀ r' ∈ before, ∀ c ∈ r'.conditions, fields.isUnknown c.field = false) ∧
      ∃ passed c rest, r.conditions = passed ++ c :: rest ∧
        (∀ c' ∈ passed, fields.isUnknown c'.field = false) ∧ fields.isUnknown c.field = true ∧
        b.compile fields = .error (.unknownField (FieldSet.name c.field)) := by
  rw [compile_eq_mapM h]
  cases hentries : rs.mapM (BucketRequest.entry fields) with
  | ok entries =>
    obtain ⟨r, hr, c, hc, hfield⟩ := hunknown
    obtain ⟨e, -, he⟩ := exists_of_mem_of_mapM_eq_ok hentries hr
    have hknown := (BucketRequest.exists_entry_iff (hblank r hr)).1 ⟨e, he⟩ c hc
    rw [hknown] at hfield
    cases hfield
  | error e =>
    obtain ⟨before, r, after, rfl, hbefore, hr⟩ := mapM_eq_error_iff.1 hentries
    obtain ⟨passed, c, rest, hconditions, hpassed, hc, rfl⟩ :=
      (BucketRequest.entry_eq_error_iff (hblank r (by simp))).1 hr
    refine ⟨before, r, after, rfl, fun r' hr' => ?_, passed, c, rest, hconditions, hpassed, hc, rfl⟩
    exact (BucketRequest.exists_entry_iff (hblank r' (by simp [hr']))).1 (hbefore r' hr')

/-! ### Several requests -/

namespace DocumentSearch

variable {m : Type → Type} [Monad m]

/-- Several bucket requests on an index are decided by what is found wrong with them first. -/
structure DecidesRequests (d : DocumentSearch m F) (rs : List (BucketRequest F)) : Prop where
  /-- A blank name anywhere comes first. -/
  blank : (∃ r ∈ rs, r.IsBlank) → d.aggregateRequests rs = pure (.error .blankQueryName)
  /-- Then it counts whether there are any requests. -/
  empty : rs = [] → d.aggregateRequests rs = pure (.error .emptyBatch)
  /-- Then the first request with the name of one before it. -/
  repeated : (∀ r ∈ rs, ¬ r.IsBlank) → ¬ (rs.map (·.name)).Nodup →
    ∃ before r after, rs = before ++ r :: after ∧ (before.map (·.name)).Nodup ∧
      r.name ∈ before.map (·.name) ∧
      d.aggregateRequests rs = pure (.error (.duplicateQueryName r.name))
  /-- Then the first unknown field of the first request that has one. -/
  unknown : (∀ r ∈ rs, ¬ r.IsBlank) → (rs.map (·.name)).Nodup →
    (∃ r ∈ rs, ∃ c ∈ r.conditions, d.schema.registries.isUnknown c.field = true) →
    ∃ before r after, rs = before ++ r :: after ∧
      (∀ r' ∈ before, ∀ c ∈ r'.conditions, d.schema.registries.isUnknown c.field = false) ∧
      ∃ passed c rest, r.conditions = passed ++ c :: rest ∧
        (∀ c' ∈ passed, d.schema.registries.isUnknown c'.field = false) ∧
        d.schema.registries.isUnknown c.field = true ∧
        d.aggregateRequests rs = pure (.error (.unknownField (FieldSet.name c.field)))
  /-- Otherwise the tree of the requests is sent, and the answer is read by them. -/
  accepted : rs ≠ [] → (∀ r ∈ rs, ¬ r.IsBlank) → (rs.map (·.name)).Nodup →
    (∀ r ∈ rs, ∀ c ∈ r.conditions, d.schema.registries.isUnknown c.field = false) →
    ∃ b tree, batchOf rs = .ok b ∧ b.compile d.schema.registries = .ok tree ∧
      tree.IsOf d.schema.registries rs ∧
      d.aggregateRequests rs
        = (fun answer => (answer.mapError (.aggregationFailed d.index)).map b.results) <$>
          d.engine.aggregate d.index tree

/-- Requests that make no batch fail for the reason for which they make none. -/
theorem aggregateRequests_of_batchOf_error (d : DocumentSearch m F) {rs : List (BucketRequest F)}
    {e : SearchError} (h : batchOf rs = .error e) :
    d.aggregateRequests rs = pure (.error e) := by
  rw [aggregateRequests, h]

/-- Requests whose batch has no tree fail for the reason for which it has none. -/
theorem aggregateRequests_of_compile_error (d : DocumentSearch m F) {rs : List (BucketRequest F)}
    {b : Batch F} {e : SearchError} (hb : batchOf rs = .ok b)
    (h : b.compile d.schema.registries = .error e) :
    d.aggregateRequests rs = pure (.error e) := by
  rw [aggregateRequests, hb]
  show d.engine.execute d.index d.schema.registries b = _
  rw [Engine.execute, h]

/-- Bucket requests are refused for a blank name, else for there being none, else for the first
name that occurs before, else for the first unknown field of the first request that has one.
Otherwise they are sent as one tree, with one node for each request under its name: the groups that
it asks for, in a filter where the request has conditions. -/
theorem aggregateRequests_decided (d : DocumentSearch m F) (rs : List (BucketRequest F)) :
    d.DecidesRequests rs where
  blank h := d.aggregateRequests_of_batchOf_error (batchOf_of_blank h)
  empty h := by
    subst h
    exact d.aggregateRequests_of_batchOf_error rfl
  repeated hblank hrepeated := by
    have hfound : firstRepeated [] (rs.map (·.name)) ≠ none := fun hnone =>
      hrepeated (firstRepeated_eq_none_iff.1 hnone).1
    obtain ⟨n, hn⟩ := Option.ne_none_iff_exists'.1 hfound
    obtain ⟨names, names', hsplit, hnodup, -, hmem⟩ := firstRepeated_eq_some_iff.1 hn
    obtain ⟨before, rest, rfl, rfl, hrest⟩ := List.map_eq_append_iff.1 hsplit
    obtain ⟨r, after, rfl, rfl, rfl⟩ := List.map_eq_cons_iff.1 hrest
    refine ⟨before, r, after, rfl, hnodup, by simpa using hmem, ?_⟩
    exact d.aggregateRequests_of_batchOf_error (batchOf_of_repeated hblank hn)
  unknown hblank hnames hunknown := by
    obtain ⟨r, hr, -⟩ := id hunknown
    obtain ⟨b, hb, hqueries⟩ := exists_batchOf (List.ne_nil_of_mem hr) hnames fun r hr =>
      BucketRequest.isAllBlank_eq_false (hblank r hr)
    obtain ⟨before, r, after, hsplit, hbefore, passed, c, rest, hconditions, hpassed, hc, herror⟩ :=
      Batch.compile_of_unknown hqueries hblank hunknown
    exact ⟨before, r, after, hsplit, hbefore, passed, c, rest, hconditions, hpassed, hc,
      d.aggregateRequests_of_compile_error hb herror⟩
  accepted hne hblank hnames hknown := by
    obtain ⟨b, hb, hqueries⟩ := exists_batchOf hne hnames fun r hr =>
      BucketRequest.isAllBlank_eq_false (hblank r hr)
    obtain ⟨tree, htree, hof⟩ := Batch.exists_isOf hqueries hblank hknown
    refine ⟨b, tree, hb, htree, hof, ?_⟩
    rw [aggregateRequests, hb]
    show d.engine.execute d.index d.schema.registries b = _
    rw [Engine.execute, htree]

end DocumentSearch

end TypedSearch
