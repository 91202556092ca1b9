import TypedSearch.Cli.Run
import TypedSearch.Proofs.Search.DeletedFilter
import TypedSearch.Proofs.Search.RoundTrips
/-!
# `TypedSearch.Proofs.Cli.Preview`: a search is shown as it is sent

Searching and showing a search are prepared alike, and what is prepared is refused for the same
reasons. What a search hands to the cluster is seen with an engine that notes its calls, and what
goes out with a transport that notes its requests.

* `Client.run_ask_recorded`: what goes out for a call.
* `Search.prepare_eq_error_iff`: why a search is refused, in the order in which the reasons count.
* `compile_eq_ok_iff`, `compile_eq_error_iff`: what is shown.
* `Search.issues_of_prepare`: what is sent.
* `compile_previews_search`: what is shown is what is sent, for each schema.
-/

set_option autoImplicit false

namespace TypedSearch

variable {m : Type → Type} [Monad m]

/-! ### What goes out for a call -/

namespace Client

/-- The requests that go out for a call: one, if the scheme is one of those that are sent to. -/
def sent (c : Client) (call : Call) : List Request :=
  if isSent c.base.scheme then [c.requestOf call] else []

/-- A recording transport notes what goes out for a call, and otherwise brings the same answer. -/
theorem run_send_recorded [LawfulMonad m] (c : Client) (transport : Transport m) (call : Call)
    (log : List Request) :
    (c.send transport.recorded call).run log
      = (fun answer => (answer, log ++ c.sent call)) <$> c.send transport call := by
  rw [send, send, sent]
  cases isSent c.base.scheme with
  | true =>
    rw [if_pos rfl, if_pos rfl, if_pos rfl, StateT.run_map, Transport.recorded, run_modify_bind,
      ← comp_map, ← comp_map]
    rfl
  | false => simp

/-- With a recording transport the cluster answers as with the transport itself. -/
theorem run_ask_recorded [LawfulMonad m] (c : Client) (transport : Transport m) (call : Call)
    (log : List Request) :
    ((c.engine transport.recorded).ask call).run log
      = (fun answer => (answer, log ++ c.sent call)) <$> (c.engine transport).ask call := by
  have hsend := c.run_send_recorded transport call log
  cases call with
  | search index request => exact run_map_noting hsend (·.bind readHits)
  | aggregate index tree => exact run_map_noting hsend (·.bind readAggregates)
  | get index id => exact run_map_noting hsend (·.bind readDocument)

/-- The request for a search goes to where the index is searched. Name and password of the URL are
moved from there into a header. -/
theorem url_requestOf_search (c : Client) (index : String) (request : SearchRequest) :
    (c.requestOf (.search index request)).url.withoutCredentials
      = (c.searchUrl index).withoutCredentials := by
  rw [requestOf, Client.request]
  cases (c.searchUrl index).credentials? with
  | none => rfl
  | some credentials =>
    -- The second time there is nothing left to take out.
    simp only [Option.isSome_some, if_true, Url.withoutCredentials, Option.map_map]
    rfl

end Client

namespace Cli

variable {F : Type} [DecidableEq F] [FieldSet F]

/-! ### What is refused -/

/-- The offset of the first result of a search. -/
def Search.first (s : Search) : Int := max ((s.start.map Int64.toInt).getD 0) 0

/-- Are all conditions of a search conditions on fields of the schema? -/
def Search.IsRead (F : Type) [DecidableEq F] [FieldSet F] (s : Search) : Prop :=
  ∀ text ∈ s.conditions, ∃ c : Condition F, Condition.ofText text = .ok c

/-- Why a search is refused before anything is sent. -/
inductive Search.Refused (F : Type) [DecidableEq F] [FieldSet F] (config : Config) (s : Search) :
    List String → Prop
  /-- The first condition that cannot be read tells why. -/
  | condition {before after : List String} {text : String} {e : SearchError}
      (split : s.conditions = before ++ text :: after)
      (read : ∀ t ∈ before, ∃ c : Condition F, Condition.ofText t = .ok c)
      (unread : Condition.ofText (F := F) text = .error e) :
      Refused F config s (("Invalid --where " ++ quoted text) :: messagesOf e)
  /-- All conditions are read, and the last result lies before the first. -/
  | window {stop : Int64} (read : s.IsRead F) (given : s.stop = some stop)
      (lt_first : stop.toInt < s.first) :
      Refused F config s (messagesOf (.invalidWindow s.first stop.toInt))
  /-- Conditions and window are fine, and the settings are not those of a client. -/
  | client {messages : List String} (read : s.IsRead F)
      (first_le : ∀ stop, s.stop = some stop → s.first ≤ stop.toInt)
      (unusable : connect config = .error messages) : Refused F config s messages

/-- Conditions are not read exactly where one cannot be, and the first such one tells why. -/
theorem readConditions_eq_error_iff {texts messages : List String} :
    readConditions (F := F) texts = .error messages ↔
      ∃ before text after e, texts = before ++ text :: after ∧
        (∀ t ∈ before, ∃ c : Condition F, Condition.ofText t = .ok c) ∧
        Condition.ofText (F := F) text = .error e ∧
        messages = ("Invalid --where " ++ quoted text) :: messagesOf e := by
  rw [readConditions, mapM_eq_error_iff]
  simp only [mapError_eq_ok_iff, mapError_eq_error_iff]
  constructor
  · rintro ⟨before, text, after, hsplit, hread, e, he, rfl⟩
    exact ⟨before, text, after, e, hsplit, hread, he, rfl⟩
  · rintro ⟨before, text, after, e, hsplit, hread, he, rfl⟩
    exact ⟨before, text, after, hsplit, hread, e, he, rfl⟩

/-- Conditions are read together exactly when each is. -/
theorem exists_readConditions_iff {s : Search} :
    (∃ cs, readConditions (F := F) s.conditions = .ok cs) ↔ s.IsRead F := by
  rw [readConditions, exists_mapM_eq_ok_iff]
  simp only [mapError_eq_ok_iff]
  rfl

/-- There is no window exactly where a condition cannot be read, or where the last result is told
and lies before the first. -/
theorem Search.window_eq_error_iff {config : Config} {s : Search} {messages : List String} :
    s.window (F := F) config = .error messages ↔
      readConditions (F := F) s.conditions = .error messages ∨
        s.IsRead F ∧ ∃ stop, s.stop = some stop ∧ stop.toInt < s.first ∧
          messages = messagesOf (.invalidWindow s.first stop.toInt) := by
  rw [window, bind_eq_error_iff, ← exists_readConditions_iff]
  simp only [mapError_eq_error_iff, Window.withDefaults_eq_error_iff]
  refine or_congr_right ?_
  constructor
  · rintro ⟨cs, hcs, e, ⟨stop, hstop, hlt, rfl⟩, rfl⟩
    exact ⟨⟨cs, hcs⟩, stop, hstop, hlt, rfl⟩
  · rintro ⟨⟨cs, hcs⟩, stop, hstop, hlt, rfl⟩
    exact ⟨cs, hcs, _, ⟨stop, hstop, hlt, rfl⟩, rfl⟩

/-- There is a window exactly where all conditions are read and the last result, if it is told, does
not lie before the first. -/
theorem Search.exists_window_iff {config : Config} {s : Search} :
    (∃ w, s.window (F := F) config = .ok w) ↔
      s.IsRead F ∧ ∀ stop, s.stop = some stop → s.first ≤ stop.toInt := by
  constructor
  · rintro ⟨w, hw⟩
    have hread : s.IsRead F := by
      obtain ⟨cs, hcs, -⟩ := bind_eq_ok_iff.1 hw
      exact exists_readConditions_iff.1 ⟨cs, hcs⟩
    refine ⟨hread, fun stop hstop => Int.not_lt.1 fun hlt => ?_⟩
    rw [window_eq_error_iff.2 (.inr ⟨hread, stop, hstop, hlt, rfl⟩)] at hw
    cases hw
  · rintro ⟨hread, hle⟩
    cases hw : s.window (F := F) config with
    | ok w => exact ⟨w, rfl⟩
    | error messages =>
      obtain hunread | ⟨-, stop, hstop, hlt, -⟩ := window_eq_error_iff.1 hw
      · obtain ⟨cs, hcs⟩ := exists_readConditions_iff.2 hread
        rw [hcs] at hunread
        cases hunread
      · exact absurd (hle stop hstop) (Int.not_le.2 hlt)

/-- Nothing is prepared for a search exactly where it is refused. -/
theorem Search.prepare_eq_error_iff {config : Config} {s : Search} {messages : List String} :
    s.prepare (F := F) config = .error messages ↔ s.Refused F config messages := by
  have hsplit : s.prepare (F := F) config = .error messages ↔
      s.window (F := F) config = .error messages ∨
        (∃ w, s.window (F := F) config = .ok w) ∧ connect config = .error messages := by
    -- Once there is a window only the client can be refused: putting both together cannot fail.
    rw [prepare, bind_eq_error_iff]
    simp only [bind_eq_error_iff, reduceCtorEq, and_false, exists_false, or_false]
    rw [exists_and_right]
  rw [hsplit, window_eq_error_iff, exists_window_iff, readConditions_eq_error_iff]
  constructor
  · rintro ((⟨before, text, after, e, hs, hread, he, rfl⟩ | ⟨hread, _, hstop, hlt, rfl⟩) |
      ⟨⟨hread, hle⟩, hclient⟩)
    · exact .condition hs hread he
    · exact .window hread hstop hlt
    · exact .client hread hle hclient
  · intro h
    cases h with
    | condition hs hread he => exact .inl (.inl ⟨_, _, _, _, hs, hread, he, rfl⟩)
    | window hread hstop hlt => exact .inl (.inr ⟨hread, _, hstop, hlt, rfl⟩)
    | client hread hle hclient => exact .inr ⟨⟨hread, hle⟩, hclient⟩

/-! ### What is shown -/

/-- An index and a body as they are shown. -/
def shown (index : String) (body : Json) : Json :=
  .ofMembers [("index", .str index), ("body", body)]

/-- Is every window of a schema one that has a request? -/
def HasRequests (schema : Schema F) : Prop :=
  ∀ w : Window F, ∃ request, schema.buildRequest w [] = .ok request

/-- Nothing is shown exactly where a search is refused. -/
theorem compile_eq_error_iff {config : Config} {s : Search} {schema : Schema F}
    {messages : List String} (hschema : HasRequests schema) :
    compile config s schema = .error messages ↔ s.Refused F config messages := by
  rw [← Search.prepare_eq_error_iff, compile, bind_eq_error_iff]
  -- Nothing fails behind the preparation, since every window has a request.
  refine or_iff_left ?_
  rintro ⟨⟨w, client⟩, -, hshown⟩
  obtain ⟨request, hrequest⟩ := hschema w
  simp only [hrequest] at hshown
  cases hshown

/-- What is shown is the request for the window that is prepared. -/
theorem compile_eq_ok_iff {config : Config} {s : Search} {schema : Schema F} {preview : Json} :
    compile config s schema = .ok preview ↔
      ∃ w client request, s.prepare config = .ok (w, client) ∧
        schema.buildRequest w [] = .ok request ∧
        shown (indexOf config.indices s.schema) request.body = preview := by
  rw [compile, bind_eq_ok_iff]
  simp only [bind_eq_ok_iff, mapError_eq_ok_iff, Except.ok.injEq, Prod.exists, shown]
  constructor
  · rintro ⟨w, client, hprepare, request, hrequest, rfl⟩
    exact ⟨w, client, request, hprepare, hrequest, rfl⟩
  · rintro ⟨w, client, request, hprepare, hrequest, rfl⟩
    exact ⟨w, client, hprepare, request, hrequest, rfl⟩

/-! ### What is sent -/

/-- One page of documents, from an engine that is made of the client. -/
def searchOver (config : Config) (engineOf : Client → Engine m) (s : Search) (schema : Schema F) :
    m Answer :=
  match s.prepare config with
  | .error messages => pure (.error messages)
  | .ok (window, client) =>
    Answer.ofResult (Page.toJson Document.toJson) <$>
      (DocumentSearch.mk (engineOf client) schema (indexOf config.indices s.schema)).search
        window []

/-- A search takes the cluster as its engine. -/
theorem search_eq_searchOver (config : Config) (transport : Transport m) (s : Search)
    (schema : Schema F) :
    search config transport s schema = searchOver config (·.engine transport) s schema := rfl

/-- What an engine replies to the search of a window, as an answer. -/
def Search.answerTo (config : Config) (s : Search) (schema : Schema F) (w : Window F)
    (reply : Except Failure Hits) : Answer :=
  .ofResult (Page.toJson Document.toJson)
    ((reply.bind (schema.readPage w.size)).mapError
      (.searchFailed (indexOf config.indices s.schema)))

/-- A prepared search asks the engine once, for the request of its window. -/
theorem searchOver_of_prepare [LawfulMonad m] {config : Config} {engineOf : Client → Engine m}
    {s : Search} {schema : Schema F} {w : Window F} {client : Client} {request : SearchRequest}
    (hprepare : s.prepare config = .ok (w, client))
    (hrequest : schema.buildRequest w [] = .ok request) :
    searchOver config engineOf s schema
      = s.answerTo config schema w <$>
        (engineOf client).ask (.search (indexOf config.indices s.schema) request) := by
  rw [searchOver, hprepare]
  show _ <$> (DocumentSearch.search _ w []) = _
  rw [DocumentSearch.search, hrequest, ← comp_map]
  rfl

/-- A search that reaches the cluster. It makes one call of the engine, and what goes out for the
call is posted to where the index is searched, with the body of the request. -/
structure Search.Issues (config : Config) (transport : Transport m) (s : Search)
    (schema : Schema F) (client : Client) (index : String) (request : SearchRequest) : Prop where
  connects : connect config = .ok client
  calls (log : List Call) :
    (searchOver config (fun c => (c.engine transport).recorded) s schema).run log
      = (fun answer => (answer, log ++ [.search index request])) <$>
        search config transport s schema
  sends (log : List Request) :
    (search config transport.recorded s schema).run log
      = (fun answer => (answer, log ++ client.sent (.search index request))) <$>
        search config transport s schema
  posts : (client.requestOf (.search index request)).method = .post
  body : (client.requestOf (.search index request)).body = some request.body
  url : (client.requestOf (.search index request)).url.withoutCredentials
    = (client.searchUrl index).withoutCredentials

/-- A prepared search reaches the cluster with the request of its window. -/
theorem Search.issues_of_prepare [LawfulMonad m] {config : Config} {transport : Transport m}
    {s : Search} {schema : Schema F} {w : Window F} {client : Client} {request : SearchRequest}
    (hprepare : s.prepare config = .ok (w, client))
    (hrequest : schema.buildRequest w [] = .ok request) :
    s.Issues config transport schema client (indexOf config.indices s.schema) request where
  connects := by
    obtain ⟨w', -, hconnect⟩ := bind_eq_ok_iff.1 hprepare
    obtain ⟨client', hclient, hpair⟩ := bind_eq_ok_iff.1 hconnect
    cases hpair
    exact hclient
  calls log := by
    rw [search_eq_searchOver, searchOver_of_prepare hprepare hrequest,
      searchOver_of_prepare hprepare hrequest]
    exact run_map_noting ((client.engine transport).run_ask_recorded _ log) _
  sends log := by
    rw [search_eq_searchOver, search_eq_searchOver, searchOver_of_prepare hprepare hrequest,
      searchOver_of_prepare hprepare hrequest]
    exact run_map_noting (client.run_ask_recorded transport _ log) _
  posts := rfl
  body := rfl
  url := client.url_requestOf_search _ request

/-- A search that is refused ends without a call, and so without a request. -/
theorem Search.searchOver_of_refused {config : Config} {engineOf : Client → Engine m} {s : Search}
    {schema : Schema F} {messages : List String} (h : s.Refused F config messages) :
    searchOver config engineOf s schema = pure (.error messages) := by
  rw [searchOver, prepare_eq_error_iff.2 h]

/-! ### What is shown and what is sent -/

/-- What is shown of a search is what is sent for it, and where nothing is shown nothing is sent and
the messages are the same. -/
structure Search.IsPreviewed (config : Config) (transport : Transport m) (s : Search)
    (schema : Schema F) : Prop where
  sends {preview : Json} (h : compile config s schema = .ok preview) :
    ∃ client request,
      preview = shown (indexOf config.indices s.schema) request.body ∧
        s.Issues config transport schema client (indexOf config.indices s.schema) request
  refuses (messages : List String) :
    compile config s schema = .error messages ↔ s.Refused F config messages
  fails {messages : List String} (h : compile config s schema = .error messages) :
    search config transport s schema = pure (.error messages) ∧
      (∀ log, (searchOver config (fun c => (c.engine transport).recorded) s schema).run log
        = pure (.error messages, log)) ∧
      ∀ log, (search config transport.recorded s schema).run log = pure (.error messages, log)

/-- A search is shown as it is sent where every window has a request. -/
theorem Search.isPreviewed [LawfulMonad m] (config : Config) (transport : Transport m)
    (s : Search) {schema : Schema F} (hschema : HasRequests schema) :
    s.IsPreviewed config transport schema where
  sends h := by
    obtain ⟨w, client, request, hprepare, hrequest, rfl⟩ := compile_eq_ok_iff.1 h
    exact ⟨client, request, rfl, issues_of_prepare hprepare hrequest⟩
  refuses messages := compile_eq_error_iff hschema
  fails h := by
    have hrefused := (compile_eq_error_iff hschema).1 h
    refine ⟨searchOver_of_refused hrefused, fun log => ?_, fun log => ?_⟩
    · rw [searchOver_of_refused hrefused, StateT.run_pure]
    · rw [search_eq_searchOver, searchOver_of_refused hrefused, StateT.run_pure]

/-- Where all fields are known every window has a request. -/
theorem hasRequests_of_known {schema : Schema F}
    (known : ∀ field, schema.registries.isUnknown field = false) : HasRequests schema :=
  fun _ => Schema.exists_buildRequest_iff.2 fun c _ => known c.field

/-- All fields of community posts are known. -/
theorem isUnknown_communityPosts (field : PostField) :
    communityPosts.registries.isUnknown field = false :=
  SchemaName.isUnknown_eq_false .communityPosts field

/-- For every schema, what is shown of a search is what is sent for it, and where nothing is shown
nothing is sent and the messages are the same. -/
theorem compile_previews_search [LawfulMonad m] (config : Config) (transport : Transport m)
    (s : Search) : s.schema.apply (s.IsPreviewed config transport) := by
  cases hname : s.schema with
  | jobs => exact s.isPreviewed config transport (hasRequests_of_known jobs_softDeletes.known)
  | techBlogs =>
    exact s.isPreviewed config transport (hasRequests_of_known techBlogs_softDeletes.known)
  | communityPosts =>
    exact s.isPreviewed config transport (hasRequests_of_known isUnknown_communityPosts)

/-- The first page of the postings of a company. -/
def companySearch : Search := ⟨.jobs, ["company=META"], none, none⟩

/-- Postings by a field that there is not, up to an offset before the first. -/
def salarySearch : Search := ⟨.jobs, ["company=META", "salary=100"], none, some (-1)⟩

/-- One search is shown and sent, the other is refused for its second condition. -/
theorem compile_previews_search_twoSearches :
    (∃ client request, compile .default companySearch jobs = .ok (shown "jobs" request.body) ∧
      companySearch.Issues .default (m := Id) .unreachable jobs client "jobs" request) ∧
    compile .default salarySearch jobs
      = .error ["Invalid --where 'salary=100'", "Unknown field: salary"] ∧
    search (m := Id) .default .unreachable salarySearch jobs
      = pure (.error ["Invalid --where 'salary=100'", "Unknown field: salary"]) := by
  have hshown : (compile .default companySearch jobs).toOption.isSome = true := rfl
  have hcompany : companySearch.IsPreviewed .default (m := Id) .unreachable jobs :=
    compile_previews_search .default .unreachable companySearch
  have hsalary : salarySearch.IsPreviewed .default (m := Id) .unreachable jobs :=
    compile_previews_search .default .unreachable salarySearch
  have hrefused : compile .default salarySearch jobs
      = .error ["Invalid --where 'salary=100'", "Unknown field: salary"] :=
    (hsalary.refuses _).2 (.condition (show _ = ["company=META"] ++ "salary=100" :: [] from rfl)
      (List.forall_mem_singleton.2 ⟨.ofValue JobField.company "META", rfl⟩) rfl)
  refine ⟨?_, hrefused, (hsalary.fails hrefused).1⟩
  cases hcompile : compile .default companySearch jobs with
  | ok preview =>
    obtain ⟨client, request, rfl, hissues⟩ := hcompany.sends hcompile
    exact ⟨client, request, rfl, hissues⟩
  | error messages =>
    rw [hcompile] at hshown
    cases hshown

end Cli

end TypedSearch
