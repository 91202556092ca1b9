import TypedSearch.Page
import TypedSearch.Schema.Basic
import TypedSearch.Window
/-!
# `TypedSearch.Search`: searching one index

A `DocumentSearch` is an index of an engine with its schema. A search adds the default conditions,
asks for one document more than wanted, and cuts the page from what comes back.
-/

set_option autoImplicit false

namespace TypedSearch

/-- An index of an engine, with its schema. -/
structure DocumentSearch (m : Type → Type) (F : Type) where
  engine : Engine m
  schema : Schema F
  index : String

variable {m : Type → Type} [Monad m] {F : Type} [DecidableEq F] [FieldSet F]

namespace Schema

/-- The request for a window, with clauses that only raise the score. With a condition on a
relevance field the results come in the order of their scores. -/
def buildRequest (s : Schema F) (w : Window F) (boosts : List Query) :
    Except SearchError SearchRequest :=
  let w := w.withDefaultConditions s.defaults
  (s.registries.compile w.conditions).map fun q =>
    { query := q.withBoosts boosts
      start := w.start
      size := w.fetchSize
      sort := if s.relevance.any w.hasConditionOn then none else some s.sort }

/-- Reads a stored document. -/
def readDocument (s : Schema F) (v : Json) : Except Failure Document :=
  (s.model.decode v).mapError .mismatch

/-- Reads a hit. One without content is none. -/
def readHit (s : Schema F) (v : Json) : Except Failure (Option Document) :=
  if v.isNull then .ok none else (s.readDocument v).map some

/-- The page of a given size that is cut from hits. -/
def readPage (s : Schema F) (size : Nat) (hits : Hits) : Except Failure (Page Document) :=
  (Page.ofFetched hits.documents size hits.total).filterMapM s.readHit

end Schema

namespace DocumentSearch

/-- A failure as the error of a search on the index. -/
def failed (d : DocumentSearch m F) (cause : Failure) : SearchError := .searchFailed d.index cause

/-- One page of documents. -/
def search (d : DocumentSearch m F) (w : Window F) (boosts : List Query) :
    m (Except SearchError (Page Document)) :=
  match d.schema.buildRequest w boosts with
  | .error e => pure (.error e)
  | .ok request =>
    (fun answer => (answer.bind (d.schema.readPage w.size)).mapError d.failed) <$>
      d.engine.search d.index request

/-- The answer to a lookup, from what the engine found. -/
def readFound (d : DocumentSearch m F) (id : String) (found : Except Failure (Option Json)) :
    Except SearchError Document :=
  match found with
  | .error cause => .error (d.failed cause)
  | .ok none => .error (.documentNotFound d.index id)
  | .ok (some v) => (d.schema.readDocument v).mapError d.failed

/-- The document with an identifier. -/
def get (d : DocumentSearch m F) (id : String) : m (Except SearchError Document) :=
  d.readFound id <$> d.engine.get d.index id

/-- The results of a batch. -/
def aggregate (d : DocumentSearch m F) (b : Batch F) : m (Except SearchError BatchResult) :=
  d.engine.execute d.index d.schema.registries b

/-- The batch that several bucket requests make. -/
def batchOf (requests : List (BucketRequest F)) : Except SearchError (Batch F) := do
  Batch.ofList (← requests.mapM BucketRequest.toQuery)

/-- The results of several bucket requests, run as one batch. -/
def aggregateRequests (d : DocumentSearch m F) (requests : List (BucketRequest F)) :
    m (Except SearchError BatchResult) :=
  match batchOf requests with
  | .error e => pure (.error e)
  | .ok b => d.aggregate b

end DocumentSearch

end TypedSearch
