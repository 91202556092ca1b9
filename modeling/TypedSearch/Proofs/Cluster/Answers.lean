import TypedSearch.Proofs.Aggregation.Results
import TypedSearch.Proofs.Cluster.Addresses
import TypedSearch.Proofs.Document
import TypedSearch.Proofs.Wire.AnswerBodies
import TypedSearch.Search
/-!
# `TypedSearch.Proofs.Cluster.Answers`: how answers of a cluster are classified

A lookup, a search and an aggregation all come to one answer of the cluster, a status and a body.
What is absent is kept apart from what failed: the status 404 tells a lookup that there is no
document and is a failure everywhere else, and an answer without hits is a failure while one without
aggregations is not.

* `Client.readDocument_eq_some_iff`, `Client.readDocument_eq_none_iff`, `Client.readHits_eq_ok_iff`,
  `Client.readAggregates_eq_ok_iff`: the answers by the status and what the body holds.
* `Client.ofAnswer_of_finish`: what is done with each answer decides what an operation does,
  whatever effects the transport has.
* `Client.answers_classified`: all three operations.
-/

set_option autoImplicit false

namespace TypedSearch

/-! ### Answers -/

/-- The request succeeded: its status is one of the 200s. -/
def Response.Succeeds (r : Response) : Prop := 200 ≤ r.status ∧ r.status < 300

instance (r : Response) : Decidable r.Succeeds :=
  inferInstanceAs (Decidable (200 ≤ r.status ∧ r.status < 300))

theorem Response.isSuccess_iff {r : Response} : r.isSuccess = true ↔ r.Succeeds := by
  simp [isSuccess, Succeeds]

/-- What is not there was not a success. -/
theorem Response.status_ne_of_succeeds {r : Response} (h : r.Succeeds) : r.status ≠ 404 := by
  obtain ⟨-, hlt⟩ := h
  omega

/-- The failure of a request tells the status. -/
theorem Failure.exists_ofStatus (code : Nat) (body : String) :
    ∃ reason, ofStatus code body = .status code reason := ⟨_, rfl⟩

namespace Client

/-- A search is answered exactly by a success with a body that is an answer. -/
theorem readSearch_eq_ok_iff {r : Response} {a : SearchAnswer} :
    readSearch r = .ok a ↔ r.Succeeds ∧ SearchAnswer.ofBytes r.body = .ok a := by
  rw [readSearch, ← Response.isSuccess_iff]
  split
  · next h => simp [mapError_eq_ok_iff, h]
  · next h => simp [h]

/-- The answer to a search that is no success is the failure with its status. -/
theorem readSearch_of_refused {r : Response} (h : ¬ r.Succeeds) :
    ∃ reason, readSearch r = .error (.status r.status reason) := by
  obtain ⟨reason, hreason⟩ := Failure.exists_ofStatus r.status r.report
  refine ⟨reason, ?_⟩
  rw [readSearch, if_neg (mt Response.isSuccess_iff.1 h), hreason]

/-- Hits are those of a success with a body that has some. -/
theorem readHits_eq_ok_iff {r : Response} {hits : Hits} :
    readHits r = .ok hits ↔ r.Succeeds ∧
      ∃ aggregations, SearchBody r.body (some hits) aggregations := by
  rw [readHits, bind_eq_ok_iff]
  simp only [readSearch_eq_ok_iff, ← SearchAnswer.exists_ofBytes_iff, Option.map_eq_some_iff]
  constructor
  · rintro ⟨a, ⟨hsuccess, hbody⟩, hhits⟩
    cases hfound : a.hits with
    | none =>
      rw [hfound] at hhits
      cases hhits
    | some h =>
      rw [hfound] at hhits
      exact ⟨hsuccess, a.aggregations, a, hbody, ⟨h, hfound, Except.ok.inj hhits⟩, rfl⟩
  · rintro ⟨hsuccess, _, a, hbody, ⟨h, hfound, rfl⟩, -⟩
    exact ⟨a, ⟨hsuccess, hbody⟩, by rw [hfound]⟩

/-- Aggregations are those of a success, whatever they are. -/
theorem readAggregates_eq_ok_iff {r : Response} {found : Aggregates} :
    readAggregates r = .ok found ↔ r.Succeeds ∧
      ∃ hits aggregations, SearchBody r.body hits aggregations ∧
        (aggregations.map Aggregates.ofTypedKeys).getD [] = found := by
  rw [readAggregates, bind_eq_ok_iff]
  simp only [readSearch_eq_ok_iff, Except.ok.injEq, ← SearchAnswer.exists_ofBytes_iff]
  constructor
  · rintro ⟨a, ⟨hsuccess, hbody⟩, hfound⟩
    exact ⟨hsuccess, _, _, ⟨a, hbody, rfl, rfl⟩, hfound⟩
  · rintro ⟨hsuccess, _, _, ⟨a, hbody, rfl, rfl⟩, hfound⟩
    exact ⟨a, ⟨hsuccess, hbody⟩, hfound⟩

/-- Hits and aggregations of an answer that is no success are the failure with its status. -/
theorem readHits_readAggregates_of_refused {r : Response} (h : ¬ r.Succeeds) :
    ∃ reason, readHits r = .error (.status r.status reason) ∧
      readAggregates r = .error (.status r.status reason) := by
  obtain ⟨reason, hreason⟩ := readSearch_of_refused h
  refine ⟨reason, ?_, ?_⟩
  · rw [readHits, hreason]
    rfl
  · rw [readAggregates, hreason]
    rfl

/-- A lookup that is answered by a success is one that its body answers. -/
theorem readDocument_eq_ok_iff {r : Response} {found : Option Json} (h : r.Succeeds) :
    readDocument r = .ok found ↔ ∃ a, GetAnswer.ofBytes r.body = .ok a ∧ a.document? = found := by
  rw [readDocument, notFound, if_neg (Response.status_ne_of_succeeds h),
    if_pos (Response.isSuccess_iff.2 h)]
  cases GetAnswer.ofBytes r.body with
  | error fault => simp
  | ok a => simp

/-- The answer to a lookup that is no success tells that there is nothing, or it is a failure. -/
theorem readDocument_of_not_succeeds {r : Response} {found : Option Json} (h : ¬ r.Succeeds) :
    readDocument r = .ok found ↔ r.status = 404 ∧ found = none := by
  rw [readDocument, notFound, if_neg (mt Response.isSuccess_iff.1 h)]
  split
  · next hstatus => simp [hstatus, eq_comm]
  · next hstatus => simp [hstatus]

/-- The document in the answer to a lookup is that of a success with a body that has it. -/
theorem readDocument_eq_some_iff {r : Response} {v : Json} :
    readDocument r = .ok (some v) ↔ r.Succeeds ∧ LookupBody r.body true v ∧ v ≠ .null := by
  by_cases h : r.Succeeds
  · rw [readDocument_eq_ok_iff h, GetAnswer.exists_document_iff]
    simp [h]
  · rw [readDocument_of_not_succeeds h]
    simp [h]

/-- There is no document in the answer to a lookup exactly where the status tells so or the body of
a success does. -/
theorem readDocument_eq_none_iff {r : Response} :
    readDocument r = .ok none ↔ r.status = 404 ∨ r.Succeeds ∧
      ∃ found v, LookupBody r.body found v ∧ (found = false ∨ v = .null) := by
  by_cases h : r.Succeeds
  · rw [readDocument_eq_ok_iff h, GetAnswer.exists_no_document_iff]
    simp [h, Response.status_ne_of_succeeds h]
  · rw [readDocument_of_not_succeeds h]
    simp [h]

/-- The answer to a lookup that is neither a success nor tells that there is nothing is the failure
with its status. -/
theorem readDocument_of_refused {r : Response} (h : ¬ r.Succeeds) (hstatus : r.status ≠ 404) :
    ∃ reason, readDocument r = .error (.status r.status reason) := by
  obtain ⟨reason, hreason⟩ := Failure.exists_ofStatus r.status r.report
  refine ⟨reason, ?_⟩
  rw [readDocument, notFound, if_neg hstatus, if_neg (mt Response.isSuccess_iff.1 h), hreason]

end Client

/-! ### Operations -/

variable {m : Type → Type} {F : Type}

/-- What a lookup in an index makes of an answer. -/
structure LookupOutcome (schema : Schema F) (index id : String) (r : Response)
    (outcome : Except SearchError Document) : Prop where
  /-- A document is what a success has as the source of a document that was found. -/
  document : ∀ doc, outcome = .ok doc ↔ r.Succeeds ∧
    ∃ v, LookupBody r.body true v ∧ v ≠ .null ∧ schema.model.decode? v = some doc
  /-- There is none where the status tells so, or a success with nothing in it. -/
  absent : outcome = .error (.documentNotFound index id) ↔ r.status = 404 ∨ r.Succeeds ∧
    ∃ found v, LookupBody r.body found v ∧ (found = false ∨ v = .null)
  /-- All else is a failed search. -/
  failed : (∃ doc, outcome = .ok doc) ∨ outcome = .error (.documentNotFound index id) ∨
    ∃ cause, outcome = .error (.searchFailed index cause)
  /-- The failure has the status of an answer that is none of these. -/
  refused : ¬ r.Succeeds → r.status ≠ 404 →
    ∃ reason, outcome = .error (.searchFailed index (.status r.status reason))

/-- What a search in an index makes of an answer. -/
structure SearchOutcome (schema : Schema F) (index : String) (size : Nat) (r : Response)
    (outcome : Except SearchError (Page Document)) : Prop where
  /-- A page is cut from the hits of a success. -/
  page : ∀ p, outcome = .ok p ↔ r.Succeeds ∧ ∃ hits aggregations,
    SearchBody r.body (some hits) aggregations ∧ schema.readPage size hits = .ok p
  /-- All else is a failed search. -/
  failed : (∃ p, outcome = .ok p) ∨ ∃ cause, outcome = .error (.searchFailed index cause)
  /-- The failure has the status of an answer that is no success, 404 or another. -/
  refused : ¬ r.Succeeds →
    ∃ reason, outcome = .error (.searchFailed index (.status r.status reason))

/-- What the aggregation of a batch in an index makes of an answer. -/
structure AggregationOutcome (index : String) (b : Batch F) (r : Response)
    (outcome : Except SearchError BatchResult) : Prop where
  /-- Results are read from the body of a success, whatever aggregations it has. -/
  results : ∀ result, outcome = .ok result ↔ r.Succeeds ∧ ∃ hits aggregations,
    SearchBody r.body hits aggregations ∧
      b.results ((aggregations.map Aggregates.ofTypedKeys).getD []) = result
  /-- Without aggregations there are no results. -/
  nothing : ∀ hits, r.Succeeds → SearchBody r.body hits none → outcome = .ok ⟨[]⟩
  /-- All else is a failed aggregation. -/
  failed : (∃ result, outcome = .ok result) ∨
    ∃ cause, outcome = .error (.aggregationFailed index cause)
  /-- The failure has the status of an answer that is no success, 404 or another. -/
  refused : ¬ r.Succeeds →
    ∃ reason, outcome = .error (.aggregationFailed index (.status r.status reason))

namespace DocumentSearch

/-- A lookup gives the document that is found, where it reads by the schema. -/
theorem readFound_eq_ok_iff {d : DocumentSearch m F} {id : String}
    {found : Except Failure (Option Json)} {doc : Document} :
    d.readFound id found = .ok doc ↔
      ∃ v, found = .ok (some v) ∧ d.schema.model.decode? v = some doc := by
  rcases found with cause | (- | v)
  · simp [readFound]
  · simp [readFound]
  · simp [readFound, mapError_eq_ok_iff, Schema.readDocument,
      DocumentModel.decode_eq_some_iff_ok]

/-- A lookup tells that there is no document where none is found. -/
theorem readFound_eq_absent_iff {d : DocumentSearch m F} {id : String}
    {found : Except Failure (Option Json)} :
    d.readFound id found = .error (.documentNotFound d.index id) ↔ found = .ok none := by
  rcases found with cause | (- | v)
  · simp [readFound, failed]
  · simp [readFound]
  · simp [readFound, mapError_eq_error_iff, failed]

/-- A lookup gives a document, or tells that there is none, or fails. -/
theorem readFound_cases (d : DocumentSearch m F) (id : String)
    (found : Except Failure (Option Json)) :
    (∃ doc, d.readFound id found = .ok doc) ∨
      d.readFound id found = .error (.documentNotFound d.index id) ∨
      ∃ cause, d.readFound id found = .error (.searchFailed d.index cause) := by
  rcases found with cause | (- | v)
  · exact .inr (.inr ⟨cause, rfl⟩)
  · exact .inr (.inl rfl)
  · cases hdoc : d.schema.readDocument v with
    | error cause => exact .inr (.inr ⟨cause, by rw [readFound, hdoc]; rfl⟩)
    | ok doc => exact .inl ⟨doc, by rw [readFound, hdoc]; rfl⟩

/-- What is made of the answer to a lookup. -/
theorem lookupOutcome (d : DocumentSearch m F) (id : String) (r : Response) :
    LookupOutcome d.schema d.index id r (d.readFound id (Client.readDocument r)) where
  document doc := by
    rw [readFound_eq_ok_iff]
    simp only [Client.readDocument_eq_some_iff]
    constructor
    · rintro ⟨v, ⟨hsuccess, hbody, hne⟩, hdoc⟩
      exact ⟨hsuccess, v, hbody, hne, hdoc⟩
    · rintro ⟨hsuccess, v, hbody, hne, hdoc⟩
      exact ⟨v, ⟨hsuccess, hbody, hne⟩, hdoc⟩
  absent := by rw [readFound_eq_absent_iff, Client.readDocument_eq_none_iff]
  failed := d.readFound_cases id _
  refused h hstatus := by
    obtain ⟨reason, hreason⟩ := Client.readDocument_of_refused h hstatus
    exact ⟨reason, by rw [hreason]; rfl⟩

/-- What is made of the answer to a search. -/
theorem searchOutcome (d : DocumentSearch m F) (size : Nat) (r : Response) :
    SearchOutcome d.schema d.index size r
      (((Client.readHits r).bind (d.schema.readPage size)).mapError d.failed) where
  page p := by
    rw [mapError_eq_ok_iff]
    show Client.readHits r >>= d.schema.readPage size = _ ↔ _
    rw [bind_eq_ok_iff]
    simp only [Client.readHits_eq_ok_iff]
    constructor
    · rintro ⟨hits, ⟨hsuccess, aggregations, hbody⟩, hp⟩
      exact ⟨hsuccess, hits, aggregations, hbody, hp⟩
    · rintro ⟨hsuccess, hits, aggregations, hbody, hp⟩
      exact ⟨hits, ⟨hsuccess, aggregations, hbody⟩, hp⟩
  failed := by
    cases (Client.readHits r).bind (d.schema.readPage size) with
    | error cause => exact .inr ⟨cause, rfl⟩
    | ok p => exact .inl ⟨p, rfl⟩
  refused h := by
    obtain ⟨reason, hreason, -⟩ := Client.readHits_readAggregates_of_refused h
    exact ⟨reason, by rw [hreason]; rfl⟩

end DocumentSearch

/-- Where nothing is answered, a batch has no results. -/
theorem Batch.results_nil (b : Batch F) : b.results [] = ⟨[]⟩ := by
  have hnone : b.queries.filterMap (fun q =>
      ((Keyed.get? q.name []).bind q.result?).map fun r => (q.name, r)) = [] :=
    List.filterMap_eq_nil_iff.2 fun _ _ => rfl
  rw [results, hnone]
  rfl

/-- What is made of the answer to an aggregation. -/
theorem aggregationOutcome (index : String) (b : Batch F) (r : Response) :
    AggregationOutcome index b r
      (((Client.readAggregates r).mapError (.aggregationFailed index)).map b.results) where
  results result := by
    rw [map_eq_ok_iff]
    simp only [mapError_eq_ok_iff, Client.readAggregates_eq_ok_iff]
    constructor
    · rintro ⟨_, ⟨hsuccess, hits, aggregations, hbody, rfl⟩, hresult⟩
      exact ⟨hsuccess, hits, aggregations, hbody, hresult⟩
    · rintro ⟨hsuccess, hits, aggregations, hbody, hresult⟩
      exact ⟨_, ⟨hsuccess, hits, aggregations, hbody, rfl⟩, hresult⟩
  nothing hits hsuccess hbody := by
    rw [Client.readAggregates_eq_ok_iff.2 ⟨hsuccess, hits, none, hbody, rfl⟩]
    exact congrArg Except.ok b.results_nil
  failed := by
    cases Client.readAggregates r with
    | error cause => exact .inr ⟨cause, rfl⟩
    | ok found => exact .inl ⟨b.results found, rfl⟩
  refused h := by
    obtain ⟨reason, -, hreason⟩ := Client.readHits_readAggregates_of_refused h
    exact ⟨reason, by rw [hreason]; rfl⟩

/-! ### Transports -/

namespace Client

variable [Monad m]

/-- The answer of the cluster to the request for a call, where there is one. -/
def answer (c : Client) (transport : Transport m) (call : Call) : m (Option Response) :=
  if isSent c.base.scheme then transport (c.requestOf call) else pure none

/-- An operation does with the answer to a call what is told of it. Where there is no answer it
fails for this reason. -/
def OfAnswer {α : Type} (answer : m (Option Response)) (failed : Failure → SearchError)
    (classified : Response → Except SearchError α → Prop) (x : m (Except SearchError α)) : Prop :=
  ∃ outcome : Response → Except SearchError α, (∀ r, classified r (outcome r)) ∧
    x = (fun answer => answer.elim (.error (failed .exchange)) outcome) <$> answer

/-- A call gives its answer, or else fails. -/
theorem send_eq [LawfulMonad m] (c : Client) (transport : Transport m) (call : Call) :
    c.send transport call
      = (fun answer => answer.elim (.error .exchange) .ok) <$> c.answer transport call := by
  rw [send, answer]
  split
  · refine congrArg (· <$> _) (funext fun answer => ?_)
    cases answer <;> rfl
  · rw [map_pure]
    rfl

/-- An operation that reads an answer and finishes with what it reads is classified by what it
finishes with, if failures stay failures. -/
theorem ofAnswer_of_finish [LawfulMonad m] {α β : Type} (c : Client) (transport : Transport m)
    (call : Call) {read : Response → Except Failure β} {failed : Failure → SearchError}
    {finish : Except Failure β → Except SearchError α}
    {classified : Response → Except SearchError α → Prop}
    (hfailed : ∀ cause, finish (.error cause) = .error (failed cause))
    (hread : ∀ r, classified r (finish (read r))) :
    OfAnswer (c.answer transport call) failed classified
      (finish <$> (·.bind read) <$> c.send transport call) := by
  refine ⟨fun r => finish (read r), hread, ?_⟩
  -- Both sides change the same answer, so that they can be compared at each answer by itself.
  rw [send_eq, ← comp_map, ← comp_map]
  refine congrArg (· <$> _) (funext fun answer => ?_)
  cases answer with
  | none => exact hfailed .exchange
  | some r => rfl

variable [DecidableEq F] [FieldSet F]

/-- Lookups, searches and aggregations in an index of a cluster do with its answers what is told of
them, whatever effects the transport has: what is not there is kept apart from what failed, and a
failure that is due to the status carries the status. -/
theorem answers_classified [LawfulMonad m] (c : Client) (transport : Transport m)
    (schema : Schema F) (index : String) :
    let d : DocumentSearch m F := ⟨c.engine transport, schema, index⟩
    (∀ id, OfAnswer (c.answer transport (.get index id)) (.searchFailed index)
        (LookupOutcome schema index id) (d.get id)) ∧
      (∀ w boosts request, schema.buildRequest w boosts = .ok request →
        OfAnswer (c.answer transport (.search index request)) (.searchFailed index)
          (SearchOutcome schema index w.size) (d.search w boosts)) ∧
      ∀ b tree, b.compile schema.registries = .ok tree →
        OfAnswer (c.answer transport (.aggregate index tree)) (.aggregationFailed index)
          (AggregationOutcome index b) (d.aggregate b) := by
  intro d
  refine ⟨fun id => ?_, fun w boosts request hrequest => ?_, fun b tree htree => ?_⟩
  · exact c.ofAnswer_of_finish transport (.get index id) (fun _ => rfl) (d.lookupOutcome id)
  · rw [DocumentSearch.search, hrequest]
    exact c.ofAnswer_of_finish transport (.search index request) (fun _ => rfl)
      (d.searchOutcome w.size)
  · show OfAnswer _ _ _ (d.engine.execute index schema.registries b)
    rw [Engine.execute, htree]
    exact c.ofAnswer_of_finish transport (.aggregate index tree) (fun _ => rfl)
      (aggregationOutcome index b)

/-- Job postings in `nearby`, which answers every request with a status and a body. -/
def answering (status : Nat) (body : List UInt8) : DocumentSearch Id JobField :=
  ⟨nearby.engine fun _ => some ⟨status, body⟩, jobs, "jobs"⟩

/-- The answer to a lookup that found a posting. -/
def foundBody : List UInt8 :=
  Text.bytes "\x7b\"found\":true,\"_source\":\x7b\"company\":\"META\"\x7d\x7d".toList

/-- The answer to a search that found the same posting. -/
def hitsBody : List UInt8 :=
  Text.bytes ("\x7b\"hits\":\x7b\"total\":\x7b\"value\":1\x7d,\"hits\":".toList ++
    "[\x7b\"_id\":\"1\",\"_source\":\x7b\"company\":\"META\"\x7d\x7d]\x7d\x7d".toList)

/-- The answer to an aggregation of nothing. -/
def nothingBody : List UInt8 := Text.bytes "\x7b\"aggregations\":null\x7d".toList

/-- With the status 404 there is no document and the search of a page fails. A success gives the
document that it found, alone or on a page, and without aggregations it gives no results. -/
theorem answers_classified_nearby :
    (answering 404 []).get "1" = .error (.documentNotFound "jobs" "1") ∧
      (∃ reason, (answering 404 []).search ⟨[], 0, 10, by decide, by decide⟩ []
        = .error (.searchFailed "jobs" (.status 404 reason))) ∧
      (∃ doc, jobs.model.decode? (.obj [("company", .str "META")]) = some doc ∧
        (answering 200 foundBody).get "1" = .ok doc ∧
        (answering 200 hitsBody).search ⟨[], 0, 10, by decide, by decide⟩ []
          = .ok ⟨[doc], false, 1⟩) ∧
      (answering 200 nothingBody).aggregate companyBatch = .ok ⟨[]⟩ := by
  have hclassified := fun r => answers_classified (m := Id) nearby (fun _ => some r) jobs "jobs"
  refine ⟨?_, ?_, ⟨_, rfl, ?_, ?_⟩, ?_⟩
  · obtain ⟨outcome, houtcome, hsame⟩ := (hclassified ⟨404, []⟩).1 "1"
    rw [answering, hsame]
    exact (houtcome ⟨404, []⟩).absent.2 (.inl rfl)
  · obtain ⟨outcome, houtcome, hsame⟩ :=
      (hclassified ⟨404, []⟩).2.1 ⟨[], 0, 10, by decide, by decide⟩ [] _ rfl
    rw [answering, hsame]
    exact (houtcome ⟨404, []⟩).refused (by decide)
  · have hbody : GetAnswer.ofBytes foundBody
        = .ok ⟨true, some (.obj [("company", .str "META")])⟩ := rfl
    obtain ⟨outcome, houtcome, hsame⟩ := (hclassified ⟨200, foundBody⟩).1 "1"
    rw [answering, hsame]
    exact ((houtcome ⟨200, foundBody⟩).document _).2
      ⟨by decide, _, (GetAnswer.ofBytes_eq_ok_iff.1 hbody).1, by simp, rfl⟩
  · have hbody : SearchAnswer.ofBytes hitsBody
        = .ok ⟨some ⟨some 1, [⟨some "1", some (.obj [("company", .str "META")])⟩]⟩, none⟩ := rfl
    obtain ⟨outcome, houtcome, hsame⟩ :=
      (hclassified ⟨200, hitsBody⟩).2.1 ⟨[], 0, 10, by decide, by decide⟩ [] _ rfl
    rw [answering, hsame]
    exact ((houtcome ⟨200, hitsBody⟩).page _).2
      ⟨by decide, _, _, SearchAnswer.exists_ofBytes_iff.1 ⟨_, hbody, rfl, rfl⟩, rfl⟩
  · have hbody : SearchAnswer.ofBytes nothingBody = .ok ⟨none, none⟩ := rfl
    obtain ⟨outcome, houtcome, hsame⟩ := (hclassified ⟨200, nothingBody⟩).2.2 companyBatch _ rfl
    rw [answering, hsame]
    exact (houtcome ⟨200, nothingBody⟩).nothing none (by decide)
      (SearchAnswer.exists_ofBytes_iff.1 ⟨_, hbody, rfl, rfl⟩)

end Client

end TypedSearch
