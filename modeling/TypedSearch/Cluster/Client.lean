import TypedSearch.Cluster.Exchange
import TypedSearch.Config.Basic
import TypedSearch.Url.Reader
import TypedSearch.Wire.Answer
import TypedSearch.Wire.Body
import TypedSearch.Wire.TypedKeys
/-!
# `TypedSearch.Cluster.Client`: a cluster as a search engine

A `Client` is made from settings. It turns each call of an engine into one request and its answer
into the answer of the call, so that with a transport it is an `Engine`.
-/

set_option autoImplicit false

namespace TypedSearch

/-- What is known about a cluster: where it is, and who asks. -/
structure Client where
  base : Url
  /-- The header with name and password of the settings. Every request has it. -/
  credentials : Option String
  /-- The header with the key of the settings. Only a request that names nobody has it. -/
  key : Option String
  deriving DecidableEq, Repr

/-- May the byte stand in the value of a header? -/
def isHeaderByte (b : UInt8) : Bool := b = 9 || (32 ≤ b && b ≠ 127)

namespace ClusterConfig

/-- The URL without slashes behind it. -/
def trimmedUrl (c : ClusterConfig) : String :=
  String.ofList (c.url.toList.reverse.dropWhile (· = '/')).reverse

/-- The URL that paths are added to. -/
def base (c : ClusterConfig) : Except Failure Url :=
  match Url.read c.trimmedUrl with
  | .error e => .error (.invalidUrl (c.url ++ ": " ++ e.message))
  | .ok (.fixed _) => .error (.invalidUrl c.url)
  | .ok (.url u) => .ok u

/-- The header with name and password. An API key goes before them. -/
def credentials (c : ClusterConfig) : Option String :=
  match c.apiKey, c.username with
  | none, some name =>
    let bytes (s : String) : List UInt8 := Text.bytes s.toList
    some (basicCredentials (bytes name) (bytes (c.password.getD "")))
  | _, _ => none

/-- The header with the API key. -/
def key (c : ClusterConfig) : Except Failure (Option String) :=
  match c.apiKey with
  | some key =>
    if (Text.bytes key.toList).all isHeaderByte then .ok (some ("ApiKey " ++ key))
    else .error (.invalidSetting "API key contains invalid header characters")
  | none => .ok none

end ClusterConfig

namespace Client

/-- The client that settings describe. -/
def ofConfig (c : ClusterConfig) : Except Failure Client := do
  .ok ⟨← c.base, c.credentials, ← c.key⟩

/-- A request for what is under the base. Name and password in the URL go into a header, in front of
the one with those of the settings. -/
def request (c : Client) (method : Method) (url : Url) (body : Option Json) : Request :=
  let named := (url.credentials?.map fun who => basicCredentials who.1 who.2).toList ++
    c.credentials.toList
  ⟨method, if url.credentials?.isSome then url.withoutCredentials else url,
    if named.isEmpty then c.key.toList else named, body⟩

/-- Where an index is searched. -/
def searchUrl (c : Client) (index : String) : Url :=
  (c.base.withSegments [index, "_search"]).withQueryPair "typed_keys" "true"

/-- Where a document is. -/
def documentUrl (c : Client) (index id : String) : Url :=
  c.base.withSegments [index, "_doc", id]

/-- The request for a call. -/
def requestOf (c : Client) : Call → Request
  | .search index request => c.request .post (c.searchUrl index) (some request.body)
  | .aggregate index tree =>
    c.request .post (c.searchUrl index) (some (AggregationTree.requestBody tree))
  | .get index id => c.request .get (c.documentUrl index id) none

/-- Are requests sent to URLs with this scheme? -/
def isSent (scheme : List Char) : Bool := scheme = "http".toList || scheme = "https".toList

/-- Sends the request for a call. -/
def send {m : Type → Type} [Monad m] (c : Client) (transport : Transport m) (call : Call) :
    m (Except Failure Response) :=
  if isSent c.base.scheme then
    (fun response => match response with
      | some response => .ok response
      | none => .error .exchange) <$> transport (c.requestOf call)
  else pure (.error .exchange)

/-- The answer to a search. -/
def readSearch (r : Response) : Except Failure SearchAnswer :=
  if r.isSuccess then (SearchAnswer.ofBytes r.body).mapError .unreadable
  else .error (.ofStatus r.status r.report)

/-- The hits that a search was answered. -/
def readHits (r : Response) : Except Failure Hits := do
  match (← readSearch r).hits with
  | some hits => .ok hits.toHits
  | none => .error (.unexpected "search response has no hits")

/-- The aggregations that a search was answered. An answer without them has none. -/
def readAggregates (r : Response) : Except Failure Aggregates := do
  .ok (((← readSearch r).aggregations.map Aggregates.ofTypedKeys).getD [])

/-- The document that a lookup was answered, if there is one. -/
def readDocument (r : Response) : Except Failure (Option Json) :=
  if r.status = notFound then .ok none
  else if r.isSuccess then
    match GetAnswer.ofBytes r.body with
    | .ok answer => .ok answer.document?
    | .error _ => .error .exchange
  else .error (.ofStatus r.status r.report)

/-- The cluster as a search engine. -/
def engine {m : Type → Type} [Monad m] (c : Client) (transport : Transport m) : Engine m where
  search index request := (·.bind readHits) <$> c.send transport (.search index request)
  aggregate index tree := (·.bind readAggregates) <$> c.send transport (.aggregate index tree)
  get index id := (·.bind readDocument) <$> c.send transport (.get index id)

end Client

end TypedSearch
