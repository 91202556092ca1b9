import TypedSearch.Aggregation.Result
import TypedSearch.Aggregation.Tree
/-!
# `TypedSearch.Engine`: what is asked of a search engine

An engine answers three kinds of calls, each in one round trip. What a round trip does besides is
left open: an `Engine m` answers in `m`. `Engine.recorded` notes the calls that are made.
-/

set_option autoImplicit false

namespace TypedSearch

/-- The direction of a sort. -/
inductive SortOrder where
  | ascending
  | descending
  deriving DecidableEq, Repr

/-- A sort by one field. Documents without the field come last. -/
structure SortKey where
  field : String
  order : SortOrder
  deriving DecidableEq, Repr

/-- A request for documents. Without a sort they come in the order of their scores. -/
structure SearchRequest where
  query : Query
  /-- How many of the results to pass over. -/
  start : Nat
  /-- How many to answer with at most. -/
  size : Nat
  sort : Option SortKey
  deriving BEq, Repr

/-- Found documents, null for those whose content is not stored, and how many there are in all. -/
structure Hits where
  total : Nat
  documents : List Json

/-- A search engine. The first argument of each call is the name of the index. -/
structure Engine (m : Type → Type) where
  search : String → SearchRequest → m (Except Failure Hits)
  aggregate : String → AggregationTree → m (Except Failure Aggregates)
  /-- The document with an identifier, nothing if there is none. -/
  get : String → String → m (Except Failure (Option Json))

/-- A call of an engine. -/
inductive Call where
  | search (index : String) (request : SearchRequest)
  | aggregate (index : String) (tree : AggregationTree)
  | get (index : String) (id : String)

namespace Engine

variable {m : Type → Type} [Monad m]

/-- The engine with every call noted before it is made, behind those made earlier. -/
def recorded (engine : Engine m) : Engine (StateT (List Call) m) where
  search index request := do
    modify (· ++ [.search index request])
    engine.search index request
  aggregate index tree := do
    modify (· ++ [.aggregate index tree])
    engine.aggregate index tree
  get index id := do
    modify (· ++ [.get index id])
    engine.get index id

variable {F : Type} [DecidableEq F] [FieldSet F]

/-- Runs a batch in one call. -/
def execute (engine : Engine m) (index : String) (r : Registries F) (b : Batch F) :
    m (Except SearchError BatchResult) :=
  match b.compile r with
  | .error e => pure (.error e)
  | .ok tree =>
    (fun answer => (answer.mapError (.aggregationFailed index)).map b.results) <$>
      engine.aggregate index tree

end Engine

end TypedSearch
