import Mathlib.Logic.Function.Basic
import TypedSearch.Proofs.Keyed
import TypedSearch.Wire.Body
/-!
# `TypedSearch.Proofs.Wire.Body`: a body tells its request

A body leaves out empty groups, missing bounds and absent aggregations, and puts fields and names
given from outside beside its own keys. Here bodies are read back, key by key:

* `Query.ofBody_body`: the query of a body, through all its groups.
* `AggregationTree.ofBody_body`: the tree of a body, through all its levels.
* `SearchRequest.ofBody_body`: the page of a body, with its query and its sort.
* `bodies_tell_requests`: no two requests have one body.
-/

set_option autoImplicit false

namespace TypedSearch

/-! ### Reading bodies -/

/-- A natural number of any size. -/
def Json.natural? : Json → Option Nat
  | .int n => if 0 ≤ n then some n.toNat else none
  | _ => none

namespace Query

/-- The query of a field and a text, from the one member of an object. -/
def ofField? (make : String → String → Query) : Keyed Json → Option Query
  | [(field, .str text)] => some (make field text)
  | _ => none

/-- The query of a field and its bounds. -/
def ofBounds? : Keyed Json → Option Query
  | [(field, .obj bounds)] =>
    some (.range field ((Keyed.get? "gte" bounds).bind Json.text?)
      ((Keyed.get? "lte" bounds).bind Json.text?))
  | _ => none

mutual

/-- The query of a body. -/
def ofBody? : Json → Option Query
  | .obj [(kind, .obj members)] =>
    if kind = "match_all" then some .matchAll
    else if kind = "term" then ofField? .term members
    else if kind = "match" then ofField? .fullText members
    else if kind = "range" then ofBounds? members
    else if kind = "bool" then do
      let must ← groupOf? .must members
      let should ← groupOf? .should members
      let filter ← groupOf? .filter members
      let mustNot ← groupOf? .mustNot members
      some (.bool must should filter mustNot
        ((Keyed.get? "minimum_should_match" members).bind Json.natural?))
    else none
  | _ => none

/-- The clauses of a role, none where the group is left out. -/
def groupOf? (role : Role) : List (String × Json) → Option (List Query)
  | [] => some []
  | (key, v) :: rest => if key = role.name then clausesOf? v else groupOf? role rest

/-- The clauses of a group. -/
def clausesOf? : Json → Option (List Query)
  | .arr items => ofBodies? items
  | _ => none

/-- The queries of bodies. -/
def ofBodies? : List Json → Option (List Query)
  | [] => some []
  | v :: rest => do some ((← ofBody? v) :: (← ofBodies? rest))

end

end Query

namespace AggregationNode

/-- The aggregation that stands under the name of its kind, around others. -/
def ofKind? (kind : String) (v : Json) (children : AggregationTree) : Option AggregationNode :=
  if kind = "filter" then (Query.ofBody? v).map fun query => .filter query children
  else if kind = "global" then some (.global children)
  else if kind = "terms" then do
    let field ← (v.get? "field").bind Json.text?
    let size ← (v.get? "size").bind Json.natural?
    some (.terms field size children)
  else if kind = "date_histogram" then do
    let field ← (v.get? "field").bind Json.text?
    let interval ← (v.get? "calendar_interval").bind Json.text?
    some (.dateHistogram field interval children)
  else do
    let kind ← MetricKind.ofName? kind
    let field ← (v.get? "field").bind Json.text?
    some (.metric kind field)

mutual

/-- The aggregation of a body: one member tells the kind, another one may hold others inside. -/
def ofBody? : Json → Option AggregationNode
  | .obj members => do
    let children ← insideOf? members
    let (kind, v) ← members.find? fun e => e.1 ≠ "aggs"
    ofKind? kind v children
  | _ => none

/-- The aggregations inside another one, none where they are left out. -/
def insideOf? : List (String × Json) → Option (List (String × AggregationNode))
  | [] => some []
  | (key, v) :: rest => if key = "aggs" then treeOf? v else insideOf? rest

/-- The aggregations of a tree. -/
def treeOf? : Json → Option (List (String × AggregationNode))
  | .obj members => ofBodies? members
  | _ => none

/-- The aggregations of bodies under their names. -/
def ofBodies? : List (String × Json) → Option (List (String × AggregationNode))
  | [] => some []
  | (name, v) :: rest => do some ((name, ← ofBody? v) :: (← ofBodies? rest))

end

end AggregationNode

/-- The tree of a body. -/
def AggregationTree.ofBody? (v : Json) : Option AggregationTree := AggregationNode.treeOf? v

/-- The tree of a request for aggregations only. -/
def AggregationTree.ofRequestBody? (v : Json) : Option AggregationTree :=
  (v.get? "aggs").bind AggregationTree.ofBody?

/-- The direction with a name. -/
def SortOrder.ofName? (name : String) : Option SortOrder :=
  [SortOrder.ascending, SortOrder.descending].find? fun order => order.name = name

/-- The sort of a body. -/
def SortKey.ofBody? : Json → Option SortKey
  | .obj [(field, v)] => do
    let order ← ((v.get? "order").bind Json.text?).bind SortOrder.ofName?
    some ⟨field, order⟩
  | _ => none

/-- The sort of a list of sorts that holds one. -/
def SortKey.ofBodies? : Json → Option SortKey
  | .arr [v] => SortKey.ofBody? v
  | _ => none

/-- The page of a body. -/
def SearchRequest.ofBody? (v : Json) : Option SearchRequest := do
  let query ← (v.get? "query").bind Query.ofBody?
  let start ← (v.get? "from").bind Json.natural?
  let size ← (v.get? "size").bind Json.natural?
  match v.get? "sort" with
  | none => some ⟨query, start, size, none⟩
  | some sort => (SortKey.ofBodies? sort).map fun s => ⟨query, start, size, some s⟩

@[simp] theorem Json.natural_nat (n : Nat) : (Json.nat n).natural? = some n := by
  simp [Json.nat, Json.natural?]

/-- What can be read back from what is written is told apart by it. -/
theorem injective_of_read {α β : Type} {write : α → β} {read : β → Option α}
    (h : ∀ a, read (write a) = some a) : Function.Injective write := by
  intro a b hab
  have hread := h a
  rw [hab, h b] at hread
  exact (Option.some.inj hread).symm

/-! ### Queries -/

namespace Query

theorem get_optional (name key : String) (v : Option Json) :
    Keyed.get? name (optional key v) = if key = name then v else none := by
  cases v with
  | none => rw [optional, Keyed.get_nil, ite_self]
  | some v => rw [optional, Keyed.get_cons, Keyed.get_nil]

theorem get_clauseGroup (name : String) (role : Role) (clauses : List Json) :
    Keyed.get? name (clauseGroup role clauses)
      = if role.name = name then (if clauses.isEmpty then none else some (.arr clauses))
        else none := by
  cases clauses with
  | nil => simp [clauseGroup]
  | cons v rest => simp [clauseGroup]

/-- The members of a boolean query. -/
def boolMembers (c : Clauses) : Keyed Json :=
  clauseGroup .filter (bodies c.filter) ++
    optional "minimum_should_match" (c.minimumShouldMatch.map .nat) ++
    clauseGroup .must (bodies c.must) ++ clauseGroup .mustNot (bodies c.mustNot) ++
    clauseGroup .should (bodies c.should)

/-- The clauses of a role stand under its name, unless there are none. -/
theorem get_boolMembers (c : Clauses) (role : Role) :
    Keyed.get? role.name (boolMembers c)
      = if (bodies (c.group role)).isEmpty then none else some (.arr (bodies (c.group role))) := by
  cases role <;>
    simp [boolMembers, Keyed.get_append, get_clauseGroup, get_optional, Role.name, Clauses.group]

theorem get_minimum (c : Clauses) :
    Keyed.get? "minimum_should_match" (boolMembers c) = c.minimumShouldMatch.map .nat := by
  simp [boolMembers, Keyed.get_append, get_clauseGroup, get_optional, Role.name]

/-- A group is the one that stands under the name of the role. -/
theorem groupOf_eq (role : Role) (members : Keyed Json) :
    groupOf? role members = (Keyed.get? role.name members).elim (some []) clausesOf? := by
  induction members with
  | nil => rfl
  | cons e rest ih =>
    obtain ⟨key, v⟩ := e
    rw [groupOf?, Keyed.get_cons]
    split
    · rfl
    · exact ih

/-- A group is read back if its clauses are, and an empty one also. -/
theorem groupOf_boolMembers {c : Clauses} {role : Role}
    (h : ofBodies? (bodies (c.group role)) = some (c.group role)) :
    groupOf? role (boolMembers c) = some (c.group role) := by
  rw [groupOf_eq, get_boolMembers]
  -- An empty group is left out, and a group that is left out is read as empty.
  cases hbodies : bodies (c.group role) with
  | nil =>
    rw [hbodies] at h
    exact h
  | cons v rest =>
    rw [hbodies] at h
    exact h

mutual

/-- A query is read back from its body. -/
theorem ofBody_body : (q : Query) → ofBody? q.body = some q
  | matchAll => by simp [body, Json.member, ofBody?]
  | term field value => by simp [body, Json.member, ofBody?, ofField?]
  | fullText field text => by simp [body, Json.member, ofBody?, ofField?]
  | range field gte lte => by
    have hgte : (Keyed.get? "gte" (optional "gte" (gte.map .str) ++
        optional "lte" (lte.map .str))).bind Json.text? = gte := by
      cases gte <;> simp [Keyed.get_append, get_optional, Json.text?]
    have hlte : (Keyed.get? "lte" (optional "gte" (gte.map .str) ++
        optional "lte" (lte.map .str))).bind Json.text? = lte := by
      cases lte <;> simp [Keyed.get_append, get_optional, Json.text?]
    simp [body, Json.member, ofBody?, ofBounds?, hgte, hlte]
  | bool must should filter mustNot minimum => by
    -- The four groups and the minimum stand under five different names.
    let c : Clauses := ⟨must, should, filter, mustNot, minimum⟩
    have hmust : groupOf? .must (boolMembers c) = some must :=
      groupOf_boolMembers (ofBodies_bodies must)
    have hshould : groupOf? .should (boolMembers c) = some should :=
      groupOf_boolMembers (ofBodies_bodies should)
    have hfilter : groupOf? .filter (boolMembers c) = some filter :=
      groupOf_boolMembers (ofBodies_bodies filter)
    have hmustNot : groupOf? .mustNot (boolMembers c) = some mustNot :=
      groupOf_boolMembers (ofBodies_bodies mustNot)
    have hminimum : (Keyed.get? "minimum_should_match" (boolMembers c)).bind Json.natural?
        = minimum := by
      rw [get_minimum]
      cases minimum <;> simp [c]
    have hbody : body (bool must should filter mustNot minimum)
        = .obj [("bool", .obj (boolMembers c))] := by rw [body]; rfl
    simp [hbody, ofBody?, hmust, hshould, hfilter, hmustNot, hminimum]

/-- Queries are read back from their bodies. -/
theorem ofBodies_bodies : (qs : List Query) → ofBodies? (bodies qs) = some qs
  | [] => rfl
  | q :: qs => by
    have hhead := ofBody_body q
    have htail := ofBodies_bodies qs
    simp [bodies, ofBodies?, hhead, htail]

end

end Query

/-! ### Aggregations -/

namespace AggregationNode

/-- The aggregations inside are those that stand under `aggs`. -/
theorem insideOf_eq (members : Keyed Json) :
    insideOf? members = (Keyed.get? "aggs" members).elim (some []) treeOf? := by
  induction members with
  | nil => rfl
  | cons e rest ih =>
    obtain ⟨key, v⟩ := e
    rw [insideOf?, Keyed.get_cons]
    split
    · rfl
    · exact ih

/-- The member of the kind is told from the one of the aggregations inside, which are read back if
their bodies are. -/
theorem ofBody_childGroup {kind : String} (hkind : kind ≠ "aggs") (v : Json)
    {children : AggregationTree} (h : ofBodies? (bodies children) = some children) :
    ofBody? (.obj (childGroup (bodies children) ++ [(kind, v)])) = ofKind? kind v children := by
  -- The member of the kind has another name than the one that holds the aggregations inside.
  have hinside : insideOf? (childGroup (bodies children) ++ [(kind, v)]) = some children := by
    rw [insideOf_eq, Keyed.get_append]
    cases hbodies : bodies children with
    | nil =>
      rw [hbodies] at h
      simpa [childGroup, hkind, ofBodies?] using h
    | cons e rest =>
      rw [hbodies] at h
      simpa [childGroup, treeOf?] using h
  have hfind : (childGroup (bodies children) ++ [(kind, v)]).find? (fun e => e.1 ≠ "aggs")
      = some (kind, v) := by
    rw [childGroup]
    split <;> simp [hkind]
  rw [ofBody?, hinside, hfind]
  rfl

/-- The kinds of metrics are no kinds of other aggregations. -/
theorem ofKind_metric (kind : MetricKind) (field : String) (children : AggregationTree) :
    ofKind? kind.name (.member "field" (.str field)) children = some (.metric kind field) := by
  cases kind <;> rfl

theorem ofKind_terms (field : String) (size : Nat) (children : AggregationTree) :
    ofKind? "terms" (.obj [("field", .str field), ("size", .nat size)]) children
      = some (.terms field size children) := by
  have hfield : ((Json.obj [("field", .str field), ("size", .nat size)]).get? "field").bind
      Json.text? = some field := rfl
  have hsize : ((Json.obj [("field", .str field), ("size", .nat size)]).get? "size").bind
      Json.natural? = some size := Json.natural_nat size
  rw [ofKind?, if_neg (by decide), if_neg (by decide), if_pos rfl, hfield, hsize]
  rfl

theorem ofKind_dateHistogram (field interval : String) (children : AggregationTree) :
    ofKind? "date_histogram" (.obj [("calendar_interval", .str interval), ("field", .str field)])
      children = some (.dateHistogram field interval children) := by
  rw [ofKind?, if_neg (by decide), if_neg (by decide), if_neg (by decide), if_pos rfl]
  rfl

mutual

/-- An aggregation is read back from its body. -/
theorem ofBody_body : (node : AggregationNode) → ofBody? node.body = some node
  | filter query children => by
    rw [body, ofBody_childGroup (by decide) query.body (ofBodies_bodies children), ofKind?,
      if_pos rfl, Query.ofBody_body]
    rfl
  | global children => by
    rw [body, ofBody_childGroup (by decide) _ (ofBodies_bodies children)]
    rfl
  | terms field size children => by
    rw [body, ofBody_childGroup (by decide) _ (ofBodies_bodies children), ofKind_terms]
  | dateHistogram field interval children => by
    rw [body, ofBody_childGroup (by decide) _ (ofBodies_bodies children), ofKind_dateHistogram]
  | metric kind field => by
    have hkind : kind.name ≠ "aggs" := by cases kind <;> decide
    -- A metric has the body of an aggregation with none inside.
    have hnone : ofBodies? (bodies []) = some [] := by rw [bodies, ofBodies?]
    have hmetric := ofBody_childGroup hkind (.member "field" (.str field)) hnone
    rw [ofKind_metric] at hmetric
    rw [body]
    exact hmetric

/-- Aggregations are read back from their bodies, each under its name. -/
theorem ofBodies_bodies : (nodes : List (String × AggregationNode)) →
    ofBodies? (bodies nodes) = some nodes
  | [] => by rw [bodies, ofBodies?]
  | (name, node) :: rest => by
    have hhead := ofBody_body node
    have htail := ofBodies_bodies rest
    simp [bodies, ofBodies?, hhead, htail]

end

end AggregationNode

/-- A tree is read back from its body. -/
theorem AggregationTree.ofBody_body (tree : AggregationTree) :
    AggregationTree.ofBody? (AggregationTree.body tree) = some tree := by
  rw [AggregationTree.ofBody?, AggregationTree.body, AggregationNode.treeOf?]
  exact AggregationNode.ofBodies_bodies tree

/-- A tree is read back from a request for it. -/
theorem AggregationTree.ofRequestBody_requestBody (tree : AggregationTree) :
    AggregationTree.ofRequestBody? (AggregationTree.requestBody tree) = some tree :=
  AggregationTree.ofBody_body tree

/-! ### Pages -/

theorem SortOrder.ofName_name (order : SortOrder) : SortOrder.ofName? order.name = some order := by
  cases order <;> decide

/-- A sort is read back from its body. -/
theorem SortKey.ofBody_body (s : SortKey) : SortKey.ofBody? s.body = some s := by
  have horder := SortOrder.ofName_name s.order
  simp [SortKey.body, Json.member, SortKey.ofBody?, Json.get?, Json.members?, Json.text?, horder]

/-- A page is read back from its body, with its query and its sort. -/
theorem SearchRequest.ofBody_body (r : SearchRequest) : SearchRequest.ofBody? r.body = some r := by
  -- All members but the sort are always there.
  have hget (name : String) : r.body.get? name
      = Keyed.get? name ([("from", .nat r.start), ("query", r.query.body), ("size", .nat r.size)] ++
          Query.optional "sort" (r.sort.map fun s => .arr [s.body]) ++
          [("track_total_hits", .bool true)]) := rfl
  have hquery : (r.body.get? "query").bind Query.ofBody? = some r.query := by
    rw [hget]
    exact Query.ofBody_body r.query
  have hstart : (r.body.get? "from").bind Json.natural? = some r.start := by
    rw [hget]
    exact Json.natural_nat r.start
  have hsize : (r.body.get? "size").bind Json.natural? = some r.size := by
    rw [hget]
    exact Json.natural_nat r.size
  have hsort : r.body.get? "sort" = r.sort.map fun s => .arr [s.body] := by
    rw [hget, Keyed.get_append, Keyed.get_append, Query.get_optional]
    simp
  rw [SearchRequest.ofBody?, hquery, hstart, hsize, hsort]
  obtain ⟨query, start, size, sort⟩ := r
  cases sort with
  | none => rfl
  | some s => simp [SortKey.ofBodies?, SortKey.ofBody_body]

/-- A page and a tree are asked for in different bodies. -/
theorem SearchRequest.body_ne_requestBody (r : SearchRequest) (tree : AggregationTree) :
    r.body ≠ AggregationTree.requestBody tree := by
  intro h
  -- A page always has a query, a request for aggregations never.
  have hquery := congrArg (Json.get? "query") h
  cases hquery

/-- Queries, trees and pages are read back from their bodies, so that no two requests have one
body. -/
theorem bodies_tell_requests :
    (∀ q : Query, Query.ofBody? q.body = some q) ∧
    (∀ tree : AggregationTree, AggregationTree.ofBody? (AggregationTree.body tree) = some tree) ∧
    (∀ r : SearchRequest, SearchRequest.ofBody? r.body = some r) ∧
    Function.Injective Query.body ∧
    Function.Injective SearchRequest.body ∧
    Function.Injective AggregationTree.requestBody ∧
    ∀ (r : SearchRequest) (tree : AggregationTree), r.body ≠ AggregationTree.requestBody tree := by
  exact ⟨Query.ofBody_body, AggregationTree.ofBody_body, SearchRequest.ofBody_body,
    injective_of_read Query.ofBody_body, injective_of_read SearchRequest.ofBody_body,
    injective_of_read AggregationTree.ofRequestBody_requestBody, SearchRequest.body_ne_requestBody⟩

end TypedSearch
