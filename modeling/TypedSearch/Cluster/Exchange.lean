import TypedSearch.Json.Basic
import TypedSearch.Text.Bytes
import TypedSearch.Url.Basic
/-!
# `TypedSearch.Cluster.Exchange`: requests to a cluster and their answers

A request goes to a URL and may carry a JSON body. How it gets there is a `Transport`, which is an
argument of all that needs it.
-/

set_option autoImplicit false

namespace TypedSearch

/-- The methods of requests. -/
inductive Method where
  | get
  | post
  deriving DecidableEq, Repr

/-- The text of a method. -/
def Method.text : Method → String
  | get => "GET"
  | post => "POST"

/-- A request. -/
structure Request where
  method : Method
  url : Url
  /-- Who asks, as the values of a header that may stand there more than once. -/
  authorization : List String
  body : Option Json

/-- The type of the body, where there is one. -/
def Request.contentType? (r : Request) : Option String := r.body.map fun _ => "application/json"

/-- An answer to a request. -/
structure Response where
  status : Nat
  body : List UInt8
  deriving DecidableEq, Repr

/-- Did the request succeed? -/
def Response.isSuccess (r : Response) : Bool := 200 ≤ r.status && r.status < 300

/-- The status that tells that there is nothing at a URL. -/
def notFound : Nat := 404

/-- The body of an answer as text to report. -/
def Response.report (r : Response) : String := String.ofList (Text.repaired r.body)

/-- What brings requests to a cluster. Nothing comes back where the cluster is not reached. -/
abbrev Transport (m : Type → Type) := Request → m (Option Response)

/-- The transport that reaches no cluster. -/
def Transport.unreachable {m : Type → Type} [Monad m] : Transport m := fun _ => pure none

/-- The transport with every request noted before it is sent, behind those sent earlier. -/
def Transport.recorded {m : Type → Type} [Monad m] (transport : Transport m) :
    Transport (StateT (List Request) m) := fun request => do
  modify (· ++ [request])
  transport request

/-- Name and password as the value of a header. -/
def basicCredentials (name password : List UInt8) : String :=
  "Basic " ++ String.ofList (Text.base64 (name ++ Text.bytes [':'] ++ password))

/-- Name and password in a URL. A password that is not UTF-8 counts as none, and so do both where
the name is not. -/
def Url.credentials? (u : Url) : Option (List UInt8 × List UInt8) := do
  let authority ← u.authority
  let name ← Text.ofBytes? (Text.Percent.decode authority.username)
  let password := authority.password.bind fun p => Text.ofBytes? (Text.Percent.decode p)
  if name.isEmpty ∧ password.isNone then none
  else some (Text.bytes name, Text.bytes (password.getD []))

/-- The URL without name and password. -/
def Url.withoutCredentials (u : Url) : Url :=
  { u with authority := u.authority.map fun a => { a with username := [], password := none } }

end TypedSearch
