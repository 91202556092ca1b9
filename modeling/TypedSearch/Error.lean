import TypedSearch.Json.Mismatch
import TypedSearch.Json.Number
/-!
# `TypedSearch.Error`: what can go wrong

`Failure` is why a round trip to the search engine gave no answer, `SearchError` why a search, an
aggregation or a part of one is refused. `message` words them. Failures that only pass on what a
reader or a connection found say no more than where it went wrong; `message?` leaves those out.
-/

set_option autoImplicit false

namespace TypedSearch

/-- Why a round trip gave no answer. -/
inductive Failure where
  /-- The engine itself gave up. -/
  | engine (reason : String)
  /-- The cluster answered with a status other than success. -/
  | status (code : Nat) (reason : String)
  /-- The answer is not the JSON that was expected. -/
  | unreadable (fault : Json.Fault)
  /-- A document holds something else than it may. -/
  | mismatch (cause : Json.Mismatch)
  /-- The answer lacks what every answer has. -/
  | unexpected (detail : String)
  /-- The address of the cluster is not a URL to send to. -/
  | invalidUrl (detail : String)
  /-- A setting of the client cannot be used. -/
  | invalidSetting (detail : String)
  /-- Sending or receiving failed, or the body of a looked-up document cannot be decoded. -/
  | exchange
  deriving DecidableEq, Repr

/-- The wording of a failure. -/
def Failure.message : Failure → String
  | engine reason => reason
  | status code reason => "Elasticsearch returned " ++ Decimal.natText code ++ ": " ++ reason
  | unreadable _ => "JSON error"
  | mismatch cause => cause.message
  | unexpected detail => "Unexpected response shape: " ++ detail
  | invalidUrl detail => "Invalid URL: " ++ detail
  | invalidSetting detail => "Invalid client configuration: " ++ detail
  | exchange => "HTTP error"

/-- Does the wording tell all there is to tell? -/
def Failure.isWorded : Failure → Bool
  | unreadable _ => false
  | mismatch _ => false
  | exchange => false
  | _ => true

/-- The wording of a failure that tells all there is to tell. -/
def Failure.message? (f : Failure) : Option String := if f.isWorded then some f.message else none

/-- Why a request is refused or failed. -/
inductive SearchError where
  | unknownField (name : String)
  | unsupportedBucketType (name : String)
  | missingMetricField (metric : String) (kind : String)
  | invalidWindow (start stop : Int)
  | invalidCondition (reason : String)
  | blankQueryName
  | emptyAggregation (query : String)
  | emptyBatch
  | duplicateQueryName (query : String)
  | aggregationFailed (index : String) (cause : Failure)
  | searchFailed (index : String) (cause : Failure)
  | documentNotFound (index : String) (id : String)
  deriving DecidableEq, Repr

/-- A text between single quotes. -/
def quoted (s : String) : String := "'" ++ s ++ "'"

/-- The failure behind an error. -/
def SearchError.cause? : SearchError → Option Failure
  | aggregationFailed _ cause => some cause
  | searchFailed _ cause => some cause
  | _ => none

/-- The wording of an error. -/
def SearchError.message : SearchError → String
  | unknownField name => "Unknown field: " ++ name
  | unsupportedBucketType name => "Unsupported bucket type: " ++ name
  | missingMetricField metric kind =>
    "Metric " ++ quoted metric ++ " of type " ++ kind ++ " requires a field"
  | invalidWindow start stop =>
    "Invalid query window: to (" ++ Decimal.intText stop ++ ") is before from (" ++
      Decimal.intText start ++ ")"
  | invalidCondition reason => "Invalid condition: " ++ reason
  | blankQueryName => "Aggregation query name must not be blank"
  | emptyAggregation query =>
    "Aggregation query " ++ quoted query ++ " has neither a bucket nor metrics"
  | emptyBatch => "Aggregation batch must contain at least one query"
  | duplicateQueryName query => "Duplicate aggregation query name: " ++ query
  | aggregationFailed index cause =>
    "Aggregation failed on index " ++ quoted index ++ ": " ++ cause.message
  | searchFailed index cause => "Search failed on index " ++ quoted index ++ ": " ++ cause.message
  | documentNotFound index id => "Document " ++ quoted id ++ " not found in index " ++ quoted index

/-- The wording of an error that tells all there is to tell. -/
def SearchError.message? (e : SearchError) : Option String :=
  if e.cause?.all Failure.isWorded then some e.message else none

end TypedSearch
