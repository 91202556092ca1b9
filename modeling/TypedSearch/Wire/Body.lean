import TypedSearch.Engine
/-!
# `TypedSearch.Wire.Body`: requests as JSON bodies

The body that an engine is sent for a query, a page of documents, or a tree of aggregations. Empty
groups, missing bounds and aggregations without others inside are left out. The members of every
object below are in increasing order of their names.
-/

set_option autoImplicit false

namespace TypedSearch

/-- An object with one member. -/
def Json.member (name : String) (v : Json) : Json := .obj [(name, v)]

namespace Query

/-- A member that is left out where there is no value. -/
def optional (name : String) (v : Option Json) : List (String × Json) :=
  match v with
  | some v => [(name, v)]
  | none => []

/-- A group of clauses, left out where it is empty. -/
def clauseGroup (role : Role) (clauses : List Json) : List (String × Json) :=
  if clauses.isEmpty then [] else [(role.name, .arr clauses)]

mutual

/-- The body of a query. -/
def body : Query → Json
  | matchAll => .member "match_all" (.obj [])
  | term field value => .member "term" (.member field (.str value))
  | fullText field text => .member "match" (.member field (.str text))
  | range field gte lte =>
    .member "range" (.member field
      (.obj (optional "gte" (gte.map .str) ++ optional "lte" (lte.map .str))))
  | bool must should filter mustNot minimum =>
    .member "bool" (.obj (clauseGroup .filter (bodies filter) ++
      optional "minimum_should_match" (minimum.map .nat) ++ clauseGroup .must (bodies must) ++
      clauseGroup .mustNot (bodies mustNot) ++ clauseGroup .should (bodies should)))

/-- The bodies of queries. -/
def bodies : List Query → List Json
  | [] => []
  | q :: qs => body q :: bodies qs

end

end Query

namespace AggregationNode

/-- The aggregations inside another one, left out where there are none. -/
def childGroup (children : List (String × Json)) : List (String × Json) :=
  if children.isEmpty then [] else [("aggs", .obj children)]

mutual

/-- The body of an aggregation. -/
def body : AggregationNode → Json
  | filter query children => .obj (childGroup (bodies children) ++ [("filter", query.body)])
  | global children => .obj (childGroup (bodies children) ++ [("global", .obj [])])
  | terms field size children =>
    .obj (childGroup (bodies children) ++
      [("terms", .obj [("field", .str field), ("size", .nat size)])])
  | dateHistogram field interval children =>
    .obj (childGroup (bodies children) ++
      [("date_histogram", .obj [("calendar_interval", .str interval), ("field", .str field)])])
  | metric kind field => .member kind.name (.member "field" (.str field))

/-- The bodies of aggregations under their names. -/
def bodies : List (String × AggregationNode) → List (String × Json)
  | [] => []
  | (name, node) :: rest => (name, body node) :: bodies rest

end

end AggregationNode

/-- The body of a tree inside a request. -/
def AggregationTree.body (tree : AggregationTree) : Json := .obj (AggregationNode.bodies tree)

/-- The body of a request for aggregations only. -/
def AggregationTree.requestBody (tree : AggregationTree) : Json :=
  .obj [("aggs", AggregationTree.body tree), ("size", .nat 0)]

/-- The name of a direction on the wire. -/
def SortOrder.name : SortOrder → String
  | ascending => "asc"
  | descending => "desc"

/-- The body of a sort. -/
def SortKey.body (s : SortKey) : Json :=
  .member s.field (.obj [("missing", .str "_last"), ("order", .str s.order.name)])

/-- The body of a request for documents. -/
def SearchRequest.body (r : SearchRequest) : Json :=
  .obj ([("from", .nat r.start), ("query", r.query.body), ("size", .nat r.size)] ++
    Query.optional "sort" (r.sort.map fun s => .arr [s.body]) ++
    [("track_total_hits", .bool true)])

end TypedSearch
