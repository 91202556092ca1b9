import TypedSearch.Proofs.Aggregation.Results
/-!
# `TypedSearch.Proofs.Aggregation.Shape`: the shape of the tree of a batch

However a batch was put together, its tree has one of four shapes under the name of each query. From
these follows what can stand at any place in the tree, at every depth.

* `AggregationQuery.shape_of_compile`: the four shapes.
* `Batch.place_of_at`: everything that stands anywhere in the tree.
* `MetricSpec.target_eq_iff`: the field of a metric, which is always the declared one unless
  documents are counted.
* `Batch.isWellFormed_of_compile`: all of it.
-/

set_option autoImplicit false

namespace TypedSearch

/-! ### Places in a tree -/

namespace AggregationNode

/-- The nodes inside a node, under their names. -/
def children : AggregationNode → AggregationTree
  | filter _ children => children
  | global children => children
  | terms _ _ children => children
  | dateHistogram _ _ children => children
  | metric _ _ => []

/-- Is the node a metric? -/
def isMetric : AggregationNode → Bool
  | metric _ _ => true
  | _ => false

/-- Does the node group documents? -/
def isBucket : AggregationNode → Bool
  | terms _ _ _ => true
  | dateHistogram _ _ _ => true
  | _ => false

end AggregationNode

namespace AggregationTree

/-- A node stands in a tree under the names on the way down to it. -/
inductive At : AggregationTree → List String → AggregationNode → Prop where
  | top {tree : AggregationTree} {name : String} {node : AggregationNode}
      (entry : (name, node) ∈ tree) : At tree [name] node
  | inside {tree : AggregationTree} {name : String} {node part : AggregationNode}
      {path : List String} (entry : (name, node) ∈ tree) (rest : At node.children path part) :
      At tree (name :: path) part

/-- What a node holds stands one name below it. -/
theorem At.child {tree : AggregationTree} {path : List String} {node part : AggregationNode}
    {name : String} (h : tree.At path node) (hpart : (name, part) ∈ node.children) :
    tree.At (path ++ [name]) part := by
  induction h with
  | top entry => exact .inside entry (.top hpart)
  | inside entry _ ih => exact .inside entry (ih hpart)

end AggregationTree

/-! ### Metrics -/

variable {F : Type} [DecidableEq F] [FieldSet F]

namespace MetricSpec

omit [DecidableEq F] [FieldSet F] in
/-- A metric is specified with a field, unless it counts documents. -/
theorem exists_ofParts_iff {kind : MetricKind} {field : Option F} {name : String} :
    (∃ m, ofParts kind field name = .ok m) ↔ kind = .valueCount ∨ field ≠ none := by
  rw [ofParts]
  cases field with
  | none => cases kind <;> simp [MetricKind.needsField]
  | some f => simp

/-- What a metric is computed from: documents are counted by the identity field, and everything else
comes from the field that was declared. -/
inductive Over (m : MetricSpec F) : String → Prop where
  | documents (counts : m.kind = .valueCount) : Over m identityField
  | field {f : F} (computes : m.kind ≠ .valueCount) (declared : m.field = some f) :
      Over m (FieldSet.name f)

omit [DecidableEq F] [FieldSet F] in
/-- A metric that counts no documents has a field. -/
theorem exists_field {m : MetricSpec F} (h : m.kind ≠ .valueCount) : ∃ f, m.field = some f := by
  have hneeds : m.kind.needsField = true := by simpa [MetricKind.needsField] using h
  exact Option.isSome_iff_exists.1 (m.has_field hneeds)

theorem target_of_counts {m : MetricSpec F} (h : m.kind = .valueCount) :
    m.target = identityField := by
  rw [target, h]

theorem target_of_field {m : MetricSpec F} {f : F} (h : m.kind ≠ .valueCount)
    (hfield : m.field = some f) : m.target = FieldSet.name f := by
  rw [target, hfield]
  split
  · next hcounts => exact absurd hcounts h
  · next hsome _ =>
    cases hsome
    rfl
  · next hnone _ => cases hnone

/-- The target is what a metric is computed from. -/
theorem target_eq_iff {m : MetricSpec F} {field : String} : m.target = field ↔ m.Over field := by
  constructor
  · rintro rfl
    by_cases hcounts : m.kind = .valueCount
    · rw [target_of_counts hcounts]
      exact .documents hcounts
    · obtain ⟨f, hf⟩ := exists_field hcounts
      rw [target_of_field hcounts hf]
      exact .field hcounts hf
  · rintro (hcounts | ⟨hcomputes, hf⟩)
    · exact target_of_counts hcounts
    · exact target_of_field hcomputes hf

/-- Where no field has the name of the identity field, only counting goes over it. -/
theorem target_eq_identityField_iff (hnames : ∀ f : F, FieldSet.name f ≠ identityField)
    {m : MetricSpec F} : m.target = identityField ↔ m.kind = .valueCount := by
  refine ⟨fun htarget => ?_, target_of_counts⟩
  by_contra hcomputes
  obtain ⟨f, hf⟩ := exists_field hcomputes
  rw [target_of_field hcomputes hf] at htarget
  exact hnames f htarget

/-- The nodes of metrics are those of the last ones under each name. -/
theorem mem_nodes_iff {ms : List (MetricSpec F)} {name : String} {node : AggregationNode} :
    (name, node) ∈ nodes ms ↔ ∃ m, LastUnder MetricSpec.name ms name m ∧ m.node = node := by
  rw [nodes, Keyed.mem_iff_get (Keyed.sorted_ofList _), Keyed.get_ofList_map,
    Option.map_eq_some_iff]
  simp only [find_reverse_eq_some_iff MetricSpec.name]

/-- There are nodes where there are metrics. -/
theorem nodes_ne_nil {ms : List (MetricSpec F)} (h : ms ≠ []) : nodes ms ≠ [] := by
  intro hnone
  obtain ⟨m, hm⟩ := List.exists_mem_of_ne_nil ms h
  have hname : m.name ∈ Keyed.names (nodes ms) := by
    rw [nodes, Keyed.mem_names_ofList, List.map_map]
    exact List.mem_map_of_mem hm
  rw [hnone] at hname
  cases hname

/-- Among the nodes of metrics stand these nodes and nothing else. -/
theorem at_nodes {ms : List (MetricSpec F)} {path : List String} {node : AggregationNode}
    (h : (nodes ms).At path node) :
    ∃ name m, path = [name] ∧ LastUnder MetricSpec.name ms name m ∧ m.node = node := by
  cases h with
  | @top _ name _ entry =>
    obtain ⟨m, hlast, rfl⟩ := mem_nodes_iff.1 entry
    exact ⟨name, m, rfl, hlast, rfl⟩
  | inside entry rest =>
    obtain ⟨m, -, rfl⟩ := mem_nodes_iff.1 entry
    -- A metric holds nothing.
    cases rest with
    | top entry => cases entry
    | inside entry => cases entry

/-- All nodes of metrics are metrics. -/
theorem isMetric_of_mem_nodes {ms : List (MetricSpec F)} {e : String × AggregationNode}
    (h : e ∈ nodes ms) : e.2.isMetric = true := by
  obtain ⟨m, -, hnode⟩ := mem_nodes_iff.1 h
  rw [← hnode]
  rfl

theorem sorted_nodes (ms : List (MetricSpec F)) : Keyed.Sorted (nodes ms) := Keyed.sorted_ofList _

end MetricSpec

/-! ### Queries -/

theorem BucketSpec.children_node (g : BucketSpec F) :
    g.node.children = MetricSpec.nodes g.metrics := by
  rw [node]
  cases g.grouping <;> rfl

theorem BucketSpec.isBucket_node (g : BucketSpec F) : g.node.isBucket = true := by
  rw [node]
  cases g.grouping <;> rfl

/-- A node that is no bucket is the node of none. -/
theorem BucketSpec.ne_node (g : BucketSpec F) {node : AggregationNode}
    (h : node.isBucket = false) : node ≠ g.node := by
  rintro rfl
  rw [g.isBucket_node] at h
  cases h

namespace AggregationQuery

/-- The shape of the node of a query: a bucket or metrics, in a filter if there are conditions. -/
inductive Shape (q : AggregationQuery F) : AggregationNode → Prop where
  | bucket {g : BucketSpec F} (unfiltered : q.conditions = []) (grouped : q.bucket = some g) :
      Shape q g.node
  | global (unfiltered : q.conditions = []) (ungrouped : q.bucket = none) :
      Shape q (.global (MetricSpec.nodes q.metrics))
  | filteredBucket {query : Query} {g : BucketSpec F} (filtered : q.conditions ≠ [])
      (grouped : q.bucket = some g) : Shape q (.filter query [(g.name, g.node)])
  | filteredMetrics {query : Query} (filtered : q.conditions ≠ []) (ungrouped : q.bucket = none) :
      Shape q (.filter query (MetricSpec.nodes q.metrics))

/-- The node of a query has one of the shapes. -/
theorem shape_of_compile {r : Registries F} {q : AggregationQuery F} {node : AggregationNode}
    (h : q.compile r = .ok node) : q.Shape node := by
  rw [compile] at h
  by_cases hnone : q.conditions = []
  · rw [if_pos (List.isEmpty_iff.2 hnone)] at h
    cases h
    rw [unfiltered]
    cases hbucket : q.bucket with
    | some g => exact .bucket hnone hbucket
    | none => exact .global hnone hbucket
  · rw [if_neg (mt List.isEmpty_iff.1 hnone)] at h
    obtain ⟨query, -, rfl⟩ := map_eq_ok_iff.1 h
    rw [inner]
    cases hbucket : q.bucket with
    | some g => exact .filteredBucket hnone hbucket
    | none => exact .filteredMetrics hnone hbucket

end AggregationQuery

/-! ### The tree of a batch -/

namespace Batch

/-- The metrics that are declared for a place in the tree of a batch. Without a bucket they are the
metrics of the query and stand under its name. Those of a bucket stand where the bucket does: under
the name of the query or, if there are conditions, under its own name in the filter there. -/
inductive Declares (b : Batch F) : List String → List (MetricSpec F) → Prop where
  | query {q : AggregationQuery F} (member : q ∈ b.queries) (ungrouped : q.bucket = none) :
      Declares b [q.name] q.metrics
  | bucket {q : AggregationQuery F} {g : BucketSpec F} (member : q ∈ b.queries)
      (grouped : q.bucket = some g) (unfiltered : q.conditions = []) :
      Declares b [q.name] g.metrics
  | filteredBucket {q : AggregationQuery F} {g : BucketSpec F} (member : q ∈ b.queries)
      (grouped : q.bucket = some g) (filtered : q.conditions ≠ []) :
      Declares b [q.name, g.name] g.metrics

/-- What stands in the tree of a batch. -/
inductive Place (b : Batch F) : List String → AggregationNode → Prop where
  | query {q : AggregationQuery F} {node : AggregationNode} (member : q ∈ b.queries)
      (shape : q.Shape node) : Place b [q.name] node
  | bucket {q : AggregationQuery F} {g : BucketSpec F} (member : q ∈ b.queries)
      (grouped : q.bucket = some g) (filtered : q.conditions ≠ []) : Place b [q.name, g.name] g.node
  | metric {path : List String} {ms : List (MetricSpec F)} {m : MetricSpec F} {name : String}
      (declared : b.Declares path ms) (last : LastUnder MetricSpec.name ms name m) :
      Place b (path ++ [name]) m.node

variable {r : Registries F} {b : Batch F} {tree : AggregationTree}

/-- The entries of a tree are the nodes of the queries under their names. -/
theorem mem_compile_iff (h : b.compile r = .ok tree) {name : String} {node : AggregationNode} :
    (name, node) ∈ tree ↔ ∃ q ∈ b.queries, q.name = name ∧ q.compile r = .ok node := by
  obtain ⟨entries, hentries, rfl⟩ := map_eq_ok_iff.1 h
  have hnodup : (entries.map (·.1)).Nodup := names_entries hentries ▸ b.names_nodup
  rw [(Keyed.perm_ofList hnodup).mem_iff, mem_iff_of_mapM_eq_ok hentries]
  simp only [entry_eq_ok_iff, Prod.mk.injEq]
  constructor
  · rintro ⟨q, hq, node', hnode, hname, rfl⟩
    exact ⟨q, hq, hname, hnode⟩
  · rintro ⟨q, hq, hname, hnode⟩
    exact ⟨q, hq, node, hnode, hname, rfl⟩

/-- Whatever stands anywhere in the tree of a batch has its place there. -/
theorem place_of_at (h : b.compile r = .ok tree) {path : List String} {node : AggregationNode}
    (hat : tree.At path node) : b.Place path node := by
  -- Below its top the tree is no longer that of a batch, so the ways down are taken step by step.
  cases hat with
  | top entry =>
    obtain ⟨q, hq, rfl, hcompile⟩ := (mem_compile_iff h).1 entry
    exact .query hq (AggregationQuery.shape_of_compile hcompile)
  | inside entry rest =>
    obtain ⟨q, hq, rfl, hcompile⟩ := (mem_compile_iff h).1 entry
    cases AggregationQuery.shape_of_compile hcompile with
    | bucket hnone hbucket =>
      rw [BucketSpec.children_node] at rest
      obtain ⟨name, m, rfl, hlast, rfl⟩ := MetricSpec.at_nodes rest
      exact .metric (.bucket hq hbucket hnone) hlast
    | global hnone hbucket =>
      obtain ⟨name, m, rfl, hlast, rfl⟩ := MetricSpec.at_nodes rest
      exact .metric (.query hq hbucket) hlast
    | filteredMetrics hsome hbucket =>
      obtain ⟨name, m, rfl, hlast, rfl⟩ := MetricSpec.at_nodes rest
      exact .metric (.query hq hbucket) hlast
    | filteredBucket hsome hbucket =>
      cases rest with
      | top entry =>
        cases List.mem_singleton.1 entry
        exact .bucket hq hbucket hsome
      | inside entry rest =>
        cases List.mem_singleton.1 entry
        rw [BucketSpec.children_node] at rest
        obtain ⟨name, m, rfl, hlast, rfl⟩ := MetricSpec.at_nodes rest
        exact .metric (.filteredBucket hq hbucket hsome) hlast

/-- Where metrics are declared, a node stands that holds theirs. -/
theorem exists_at_of_declares (h : b.compile r = .ok tree) {path : List String}
    {ms : List (MetricSpec F)} (hdeclares : b.Declares path ms) :
    ∃ node, tree.At path node ∧ node.children = MetricSpec.nodes ms := by
  have htop : ∀ q ∈ b.queries, ∃ node, q.Shape node ∧ tree.At [q.name] node := by
    intro q hq
    obtain ⟨node, hcompile, -⟩ := get_compile h hq
    exact ⟨node, AggregationQuery.shape_of_compile hcompile,
      .top ((mem_compile_iff h).2 ⟨q, hq, rfl, hcompile⟩)⟩
  cases hdeclares with
  | @query q hq hnone =>
    obtain ⟨node, hshape, hat⟩ := htop q hq
    refine ⟨node, hat, ?_⟩
    cases hshape with
    | global => rfl
    | filteredMetrics => rfl
    | bucket _ hsome => cases hnone.symm.trans hsome
    | filteredBucket _ hsome => cases hnone.symm.trans hsome
  | @bucket q g hq hbucket hunfiltered =>
    obtain ⟨node, hshape, hat⟩ := htop q hq
    refine ⟨node, hat, ?_⟩
    cases hshape with
    | bucket _ hsome =>
      cases hbucket.symm.trans hsome
      exact g.children_node
    | global _ hnone => cases hnone.symm.trans hbucket
    | filteredBucket hfiltered => exact absurd hunfiltered hfiltered
    | filteredMetrics hfiltered => exact absurd hunfiltered hfiltered
  | @filteredBucket q g hq hbucket hfiltered =>
    obtain ⟨node, hshape, hat⟩ := htop q hq
    refine ⟨g.node, hat.child ?_, g.children_node⟩
    cases hshape with
    | filteredBucket _ hsome =>
      cases hbucket.symm.trans hsome
      exact List.mem_singleton.2 rfl
    | bucket hunfiltered => exact absurd hunfiltered hfiltered
    | global hunfiltered => exact absurd hunfiltered hfiltered
    | filteredMetrics _ hnone => cases hnone.symm.trans hbucket

namespace Place

variable {path : List String}

/-- Inside of whatever has a place, the names are distinct. -/
theorem sorted_children {node : AggregationNode} (h : b.Place path node) :
    Keyed.Sorted node.children := by
  cases h with
  | query member shape =>
    cases shape with
    | @bucket g => exact g.children_node ▸ MetricSpec.sorted_nodes g.metrics
    | global => exact MetricSpec.sorted_nodes _
    | filteredBucket => exact List.pairwise_singleton _ _
    | filteredMetrics => exact MetricSpec.sorted_nodes _
  | @bucket q g => exact g.children_node ▸ MetricSpec.sorted_nodes g.metrics
  | metric => exact .nil

/-- A metric has its place as the last one that is declared under its name. -/
theorem exists_declares {kind : MetricKind} {field : String}
    (h : b.Place path (.metric kind field)) :
    ∃ above name ms m, path = above ++ [name] ∧ b.Declares above ms ∧
      LastUnder MetricSpec.name ms name m ∧ m.kind = kind ∧ m.Over field := by
  generalize hnode : AggregationNode.metric kind field = node at h
  cases h with
  | query member shape =>
    cases shape with
    | @bucket g => exact absurd hnode (g.ne_node rfl)
    | global => cases hnode
    | filteredBucket => cases hnode
    | filteredMetrics => cases hnode
  | @bucket q g => exact absurd hnode (g.ne_node rfl)
  | @metric above ms m name declared last =>
    cases hnode
    exact ⟨above, name, ms, m, rfl, declared, last, rfl, MetricSpec.target_eq_iff.1 rfl⟩

/-- A bucket holds metrics. -/
theorem isMetric_of_isBucket {node : AggregationNode} (h : b.Place path node)
    (hbucket : node.isBucket = true) : ∀ e ∈ node.children, e.2.isMetric = true := by
  have hmetrics : ∀ g : BucketSpec F, ∀ e ∈ g.node.children, e.2.isMetric = true := by
    intro g e he
    rw [g.children_node] at he
    exact MetricSpec.isMetric_of_mem_nodes he
  cases h with
  | query member shape =>
    cases shape with
    | @bucket g => exact hmetrics g
    | global => cases hbucket
    | filteredBucket => cases hbucket
    | filteredMetrics => cases hbucket
  | @bucket q g => exact hmetrics g
  | metric => cases hbucket

/-- A filter has its place at the top and holds one bucket, or metrics. -/
theorem holds_of_filter {query : Query} {children : AggregationTree}
    (h : b.Place path (.filter query children)) : path.length = 1 ∧
      ((∃ e, children = [e] ∧ e.2.isBucket = true) ∨ ∀ e ∈ children, e.2.isMetric = true) := by
  generalize hnode : AggregationNode.filter query children = node at h
  cases h with
  | query member shape =>
    cases shape with
    | @bucket g => exact absurd hnode (g.ne_node rfl)
    | global => cases hnode
    | @filteredBucket _ g =>
      cases hnode
      exact ⟨rfl, .inl ⟨(g.name, g.node), rfl, g.isBucket_node⟩⟩
    | filteredMetrics =>
      cases hnode
      exact ⟨rfl, .inr fun e he => MetricSpec.isMetric_of_mem_nodes he⟩
  | @bucket q g => exact absurd hnode (g.ne_node rfl)
  | metric => cases hnode

/-- A global node has its place at the top and holds metrics, at least one. -/
theorem holds_of_global {children : AggregationTree} (h : b.Place path (.global children)) :
    path.length = 1 ∧ children ≠ [] ∧ ∀ e ∈ children, e.2.isMetric = true := by
  generalize hnode : AggregationNode.global children = node at h
  cases h with
  | @query q _ member shape =>
    cases shape with
    | @bucket g => exact absurd hnode (g.ne_node rfl)
    | global unfiltered ungrouped =>
      cases hnode
      have hasks : q.metrics ≠ [] := by
        rcases q.asks_something with hbucket | hmetrics
        · rw [ungrouped] at hbucket
          cases hbucket
        · exact hmetrics
      exact ⟨rfl, MetricSpec.nodes_ne_nil hasks, fun e he => MetricSpec.isMetric_of_mem_nodes he⟩
    | filteredBucket => cases hnode
    | filteredMetrics => cases hnode
  | @bucket q g => exact absurd hnode (g.ne_node rfl)
  | metric => cases hnode

end Place

/-- The tree of a batch is well formed at every depth. -/
structure IsWellFormed (b : Batch F) (tree : AggregationTree) : Prop where
  /-- Names are distinct, at the top and inside of every node. -/
  sorted : Keyed.Sorted tree ∧ ∀ path node, tree.At path node → Keyed.Sorted node.children
  /-- The metrics at a place are those that are declared for it, under each name the last one. They
  are computed from the field that was declared, unless they count documents. -/
  metric (path : List String) (name : String) (kind : MetricKind) (field : String) :
    tree.At (path ++ [name]) (.metric kind field) ↔
      ∃ ms m, b.Declares path ms ∧ LastUnder MetricSpec.name ms name m ∧ m.kind = kind ∧
        m.Over field
  /-- The identity field is there to count documents, and for nothing else. -/
  identity (path : List String) (kind : MetricKind) (field : String) :
    tree.At path (.metric kind field) → (field = identityField ↔ kind = .valueCount)
  /-- Inside of a bucket there are only metrics. -/
  bucket (path : List String) (node : AggregationNode) : tree.At path node →
    node.isBucket = true → ∀ e ∈ node.children, e.2.isMetric = true
  /-- A filter stands at the top. Inside of it there is one bucket, or there are only metrics. -/
  filter (path : List String) (query : Query) (children : AggregationTree) :
    tree.At path (.filter query children) → path.length = 1 ∧
      ((∃ e, children = [e] ∧ e.2.isBucket = true) ∨ ∀ e ∈ children, e.2.isMetric = true)
  /-- A global node stands at the top. Inside of it there are metrics, and only metrics. -/
  global (path : List String) (children : AggregationTree) :
    tree.At path (.global children) → path.length = 1 ∧ children ≠ [] ∧
      ∀ e ∈ children, e.2.isMetric = true

/-- Metrics stand where they are declared, and nowhere else. -/
theorem at_metric_iff (h : b.compile r = .ok tree) {path : List String} {name : String}
    {kind : MetricKind} {field : String} :
    tree.At (path ++ [name]) (.metric kind field) ↔
      ∃ ms m, b.Declares path ms ∧ LastUnder MetricSpec.name ms name m ∧ m.kind = kind ∧
        m.Over field := by
  constructor
  · intro hat
    obtain ⟨above, name', ms, m, hpath, hm⟩ := (place_of_at h hat).exists_declares
    obtain ⟨rfl, hname⟩ := List.append_inj' hpath rfl
    cases hname
    exact ⟨ms, m, hm⟩
  · rintro ⟨ms, m, hdeclares, hlast, rfl, hover⟩
    obtain ⟨node, hat, hchildren⟩ := exists_at_of_declares h hdeclares
    refine hat.child ?_
    rw [hchildren, MetricSpec.mem_nodes_iff]
    exact ⟨m, hlast, by rw [MetricSpec.node, MetricSpec.target_eq_iff.2 hover]⟩

/-- Where no field has the name of the identity field, the tree of every batch is well formed. The
metrics that it is made of have a field unless they count documents: there are no others. -/
theorem isWellFormed_of_compile (hnames : ∀ f : F, FieldSet.name f ≠ identityField)
    (h : b.compile r = .ok tree) :
    (∀ kind (field : Option F) name, (∃ m, MetricSpec.ofParts kind field name = .ok m) ↔
        kind = .valueCount ∨ field ≠ none) ∧
      b.IsWellFormed tree := by
  refine ⟨fun kind field name => MetricSpec.exists_ofParts_iff, ?_⟩
  exact {
    sorted := by
      refine ⟨?_, fun path node hat => (place_of_at h hat).sorted_children⟩
      obtain ⟨entries, -, rfl⟩ := map_eq_ok_iff.1 h
      exact Keyed.sorted_ofList entries
    metric := fun path name kind field => at_metric_iff h
    identity := by
      intro path kind field hat
      obtain ⟨_, _, _, m, _, _, _, rfl, hover⟩ := (place_of_at h hat).exists_declares
      rw [← MetricSpec.target_eq_iff.2 hover]
      exact MetricSpec.target_eq_identityField_iff hnames
    bucket := fun path node hat => (place_of_at h hat).isMetric_of_isBucket
    filter := fun path query children hat => (place_of_at h hat).holds_of_filter
    global := fun path children hat => (place_of_at h hat).holds_of_global }

/-- The postings of each company, with two metrics of one name. -/
def companiesQuery : AggregationQuery JobField :=
  ⟨"companies", [], some ⟨"top", .company, .terms 10, [.ofField .avg .minYears "n", .count "n"]⟩,
    [], by decide, by decide⟩

/-- The open postings of each week. What the query computes besides the bucket is not asked for. -/
def openQuery : AggregationQuery JobField :=
  ⟨"open", [.flag .deleted false],
    some ⟨"trend", .createdAt, .dateHistogram "1w", [.ofField .max .minYears "peak"]⟩, [.count "n"],
    by decide, by decide⟩

/-- The postings of one company. They are counted, although a field is given. -/
def metaQuery : AggregationQuery JobField :=
  ⟨"of_meta", [.ofValue .company "META"], none,
    [.ofField .sum .minYears "years", .ofField .valueCount .company "n"], by decide, by decide⟩

/-- Four queries over job postings, one of each shape. -/
def shapesBatch : Batch JobField where
  queries := [companiesQuery, openQuery, metaQuery,
    ⟨"total", [], none, [.count "postings"], by decide, by decide⟩]
  queries_ne_nil := by decide
  names_nodup := by decide

/-- What stands in the tree of `shapesBatch`: the last metric of one name in a bucket, the metric of
a bucket in its filter, and a number of documents that is counted by the identity field. -/
theorem isWellFormed_of_compile_shapesBatch :
    (∀ f : JobField, FieldSet.name f ≠ identityField) ∧
    ∃ tree, shapesBatch.compile jobs.registries = .ok tree ∧ shapesBatch.IsWellFormed tree ∧
      tree.At ["companies", "n"] (.metric .valueCount "_index") ∧
      tree.At ["open", "trend", "peak"] (.metric .max "min_years") ∧
      tree.At ["of_meta", "n"] (.metric .valueCount "_index") ∧
      ∀ path, ¬ tree.At path (.metric .avg "_index") := by
  have hnames : ∀ f : JobField, FieldSet.name f ≠ identityField := by
    intro f
    cases f <;> decide
  have hcompile : ∃ tree, shapesBatch.compile jobs.registries = .ok tree := ⟨_, rfl⟩
  obtain ⟨tree, htree⟩ := hcompile
  have hw := (isWellFormed_of_compile hnames htree).2
  refine ⟨hnames, tree, htree, hw, ?_, ?_, ?_, fun path hat => ?_⟩
  · have hdeclares : shapesBatch.Declares ["companies"] [.ofField .avg .minYears "n", .count "n"] :=
      .bucket (q := companiesQuery) List.mem_cons_self rfl rfl
    exact (hw.metric ["companies"] "n" _ _).2
      ⟨_, _, hdeclares, lastUnder_concat _ [_] _, rfl, .documents rfl⟩
  · have hdeclares : shapesBatch.Declares ["open", "trend"] [.ofField .max .minYears "peak"] :=
      .filteredBucket (q := openQuery) (List.mem_cons_of_mem _ List.mem_cons_self) rfl
        (List.cons_ne_nil _ _)
    have hover : (MetricSpec.ofField .max JobField.minYears "peak").Over
        (FieldSet.name JobField.minYears) := .field (by decide) rfl
    exact (hw.metric ["open", "trend"] "peak" _ _).2
      ⟨_, _, hdeclares, lastUnder_concat _ [] _, rfl, hover⟩
  · have hdeclares : shapesBatch.Declares ["of_meta"]
        [.ofField .sum .minYears "years", .ofField .valueCount .company "n"] :=
      .query (q := metaQuery) (List.mem_cons_of_mem _ (List.mem_cons_of_mem _ List.mem_cons_self))
        rfl
    exact (hw.metric ["of_meta"] "n" _ _).2
      ⟨_, _, hdeclares, lastUnder_concat _ [_] _, rfl, .documents rfl⟩
  · exact absurd ((hw.identity path _ _ hat).1 rfl) (by decide)

end Batch

end TypedSearch
