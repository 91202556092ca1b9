import TypedSearch.Proofs.Search.Paging
/-!
# `TypedSearch.Proofs.Search.PageContents`: a page is decided by the hits on it

A search treats the hits in three steps. It cuts the list to the size of the page, drops the hits
that are null, and reads the others as documents up to the first that is none. So only the hits on
the page are read. Those behind it count for one thing, whether there is a next page, and there it
does not matter what they hold.

* `Page.filterMapM_eq_error_iff`, `Page.filterMapM_eq_ok_iff`: the last two steps, for any way of
  reading the items of a page.
* `Schema.readPage_eq_error_iff`, `Schema.readPage_eq_ok_iff`: all three steps.
* `Schema.readPage_of_take_eq`: hits with the same page make the same page.
* `search_decided`: the answer of a search, from the hits that the engine has found.
-/

set_option autoImplicit false

namespace TypedSearch

/-! ### Reading the items of a page -/

section
variable {α β ε : Type} {p : Page α} {f : α → Except ε (Option β)}

/-- A page fails exactly with the error of its first item that fails. -/
theorem Page.filterMapM_eq_error_iff {e : ε} :
    p.filterMapM f = .error e ↔
      ∃ before x after, p.items = before ++ x :: after ∧ (∀ y ∈ before, ∃ z, f y = .ok z) ∧
        f x = .error e := by
  rw [filterMapM, map_eq_error_iff, mapM_eq_error_iff]

/-- A page is read exactly when every item is. It then has the results that are something, and
what else it says is as before. -/
theorem Page.filterMapM_eq_ok_iff {p' : Page β} :
    p.filterMapM f = .ok p' ↔
      ∃ results, List.Forall₂ (fun x z => f x = .ok z) p.items results ∧
        p' = ⟨results.filterMap id, p.hasNext, p.totalHits⟩ := by
  rw [filterMapM, map_eq_ok_iff]
  simp only [mapM_eq_ok_iff, @eq_comm _ p']

end

/-! ### Reading the hits on a page -/

namespace Schema

variable {F : Type} {s : Schema F} {size total : Nat} {hits : List Json}

/-- A document fails exactly when it is refused, for what it is refused for. -/
theorem readDocument_eq_error_iff {v : Json} {cause : Failure} :
    s.readDocument v = .error cause ↔
      ∃ mismatch, s.model.Refuses v mismatch ∧ cause = .mismatch mismatch := by
  rw [readDocument, mapError_eq_error_iff]
  simp only [DocumentModel.decode_eq_error_iff, @eq_comm _ cause]

/-- A hit fails exactly when it is not null and is refused as a document, for what it is refused
for. -/
theorem readHit_eq_error_iff {v : Json} {cause : Failure} :
    s.readHit v = .error cause ↔ v.isNull = false ∧
      ∃ mismatch, s.model.Refuses v mismatch ∧ cause = .mismatch mismatch := by
  rw [readHit]
  cases v.isNull with
  | true => simp
  | false => simp [map_eq_error_iff, readDocument_eq_error_iff]

/-- A hit is read as nothing when it is null, and otherwise as the document that it holds. -/
theorem readHit_eq_ok_iff {v : Json} {result : Option Document} :
    s.readHit v = .ok result ↔
      v.isNull = true ∧ result = none ∨
        v.isNull = false ∧ ∃ doc, s.model.decode? v = some doc ∧ result = some doc := by
  rw [readHit]
  cases v.isNull with
  | true => simp [eq_comm]
  | false =>
    simp only [readDocument, DocumentModel.decode_eq_some_iff_ok]
    cases s.model.decode v with
    | error mismatch => simp [Except.map, Except.mapError]
    | ok doc => simp [Except.map, Except.mapError, eq_comm]

/-- A hit is read exactly when it is null or holds a document. -/
theorem exists_readHit_iff {v : Json} : (∃ result, s.readHit v = .ok result) ↔ s.Readable v := by
  simp only [readHit_eq_ok_iff, Readable]
  cases v.isNull with
  | true => simp
  | false => simp

/-- Where all hits are read, those that are not null hold the documents that are found, in order. -/
theorem map_decode_of_readHit {results : List (Option Document)}
    (h : List.Forall₂ (fun v z => s.readHit v = .ok z) hits results) :
    (hits.filter fun v => !v.isNull).map s.model.decode? = (results.filterMap id).map some := by
  induction h with
  | nil => rfl
  | @cons v z hits results hv _ ih =>
    rcases readHit_eq_ok_iff.1 hv with ⟨hnull, rfl⟩ | ⟨hnull, doc, hdoc, rfl⟩
    · simpa [hnull] using ih
    · simpa [hnull, hdoc] using ih

/-- The page fails exactly with the cause for which the first hit on it that is not null and holds
no document is refused. -/
theorem readPage_eq_error_iff {cause : Failure} :
    s.readPage size ⟨total, hits⟩ = .error cause ↔
      ∃ before v after, hits.take size = before ++ v :: after ∧ (∀ u ∈ before, s.Readable u) ∧
        v.isNull = false ∧ ∃ mismatch, s.model.Refuses v mismatch ∧ cause = .mismatch mismatch := by
  rw [readPage, Page.filterMapM_eq_error_iff]
  simp only [exists_readHit_iff, readHit_eq_error_iff]
  exact Iff.rfl

/-- A page that is read has the documents of the hits on it that are not null. Whether there is a
next page is told by the number of hits, and the total is the one that was told. -/
theorem readPage_eq_ok_iff {p : Page Document} :
    s.readPage size ⟨total, hits⟩ = .ok p ↔
      ∃ results, List.Forall₂ (fun v z => s.readHit v = .ok z) (hits.take size) results ∧
        p = ⟨results.filterMap id, decide (size < hits.length), total⟩ := by
  rw [readPage, Page.filterMapM_eq_ok_iff]
  exact Iff.rfl

/-- There is a page exactly when every hit on it is null or holds a document. -/
theorem exists_readPage_iff :
    (∃ p, s.readPage size ⟨total, hits⟩ = .ok p) ↔ ∀ v ∈ hits.take size, s.Readable v := by
  rw [readPage, Page.filterMapM, exists_map_eq_ok_iff, exists_mapM_eq_ok_iff]
  simp only [exists_readHit_iff]
  exact Iff.rfl

/-- Lists of hits with the same hits on the page make the same page, up to whether there is a next
page. That is told by the number of hits alone. -/
theorem readPage_of_take_eq {hits' : List Json} (h : hits'.take size = hits.take size) :
    s.readPage size ⟨total, hits'⟩ = (s.readPage size ⟨total, hits⟩).map fun p =>
      { p with hasNext := decide (size < hits'.length) } := by
  simp only [readPage, Page.ofFetched, Page.filterMapM, h]
  cases (hits.take size).mapM s.readHit with
  | error cause => rfl
  | ok results => rfl

/-- A null in place of a hit leaves a page that can be read, with the same total and the same word
on the next page. -/
theorem readPage_set_null {p : Page Document} (h : s.readPage size ⟨total, hits⟩ = .ok p)
    (i : Nat) :
    ∃ p', s.readPage size ⟨total, hits.set i .null⟩ = .ok p' ∧ p'.hasNext = p.hasNext ∧
      p'.totalHits = p.totalHits := by
  have hall : ∀ v ∈ (hits.set i .null).take size, s.Readable v := by
    intro v hv
    rw [List.take_set] at hv
    rcases List.mem_or_eq_of_mem_set hv with hold | rfl
    · exact exists_readPage_iff.1 ⟨p, h⟩ v hold
    · exact Or.inl rfl
  obtain ⟨p', hp'⟩ := exists_readPage_iff.2 hall
  obtain ⟨_, -, rfl⟩ := readPage_eq_ok_iff.1 h
  obtain ⟨_, -, rfl⟩ := readPage_eq_ok_iff.1 hp'
  exact ⟨_, hp', by rw [List.length_set], rfl⟩

end Schema

/-! ### The answer of a search -/

variable {m : Type → Type} {F : Type}

/-- What a search for a page of a size answers where the engine has found hits and told a total:

- `fails_iff`: it fails exactly when a hit on the page is not null and holds no document;
- `first_cause`: the error names the index, with the cause for which the first such hit is refused:
  what it holds in its first field of another kind, and what is needed there;
- `page`: otherwise the page has the documents of the hits on it that are not null, in order; there
  is a next page exactly when there are more hits than fit, and the total is the one that was
  told. -/
structure DocumentSearch.DecidedBy (d : DocumentSearch m F) (size total : Nat) (hits : List Json)
    (answer : Except SearchError (Page Document)) : Prop where
  fails_iff : (∃ e, answer = .error e) ↔
    ∃ v ∈ hits.take size, v.isNull = false ∧ d.schema.model.decode? v = none
  first_cause : ∀ e, answer = .error e →
    ∃ before v after cause, hits.take size = before ++ v :: after ∧
      (∀ u ∈ before, d.schema.Readable u) ∧ v.isNull = false ∧
      d.schema.model.Refuses v cause ∧ e = .searchFailed d.index (.mismatch cause)
  page : ∀ p, answer = .ok p →
    ((hits.take size).filter fun v => !v.isNull).map d.schema.model.decode? = p.items.map some ∧
      p.hasNext = decide (size < hits.length) ∧ p.totalHits = total

namespace DocumentSearch

/-- What is read from hits is decided by those on the page. -/
theorem decidedBy_readPage (d : DocumentSearch m F) (size total : Nat) (hits : List Json) :
    d.DecidedBy size total hits ((d.schema.readPage size ⟨total, hits⟩).mapError d.failed) where
  fails_iff := by
    -- There is an error exactly when there is no page, that is when some hit cannot be read.
    have hfails : (∃ cause, d.schema.readPage size ⟨total, hits⟩ = .error cause) ↔
        ¬ ∃ p, d.schema.readPage size ⟨total, hits⟩ = .ok p := by
      cases d.schema.readPage size ⟨total, hits⟩ with
      | error cause => simp
      | ok p => simp
    have herror : (∃ e, (d.schema.readPage size ⟨total, hits⟩).mapError d.failed = .error e) ↔
        ∃ cause, d.schema.readPage size ⟨total, hits⟩ = .error cause := by
      simp [mapError_eq_error_iff]
    rw [herror, hfails, Schema.exists_readPage_iff]
    simp [Schema.Readable, Option.eq_none_iff_forall_ne_some]
  first_cause := by
    intro e he
    obtain ⟨cause, hcause, rfl⟩ := mapError_eq_error_iff.1 he
    obtain ⟨before, v, after, hsplit, hbefore, hnull, mismatch, hv, rfl⟩ :=
      Schema.readPage_eq_error_iff.1 hcause
    exact ⟨before, v, after, mismatch, hsplit, hbefore, hnull, hv, rfl⟩
  page := by
    intro p hp
    obtain ⟨results, hresults, rfl⟩ := Schema.readPage_eq_ok_iff.1 (mapError_eq_ok_iff.1 hp)
    exact ⟨Schema.map_decode_of_readHit hresults, rfl, rfl⟩

variable [Monad m] [DecidableEq F] [FieldSet F]

/-- A search answers with what it reads from the answer of the engine to its one request. Hits
decide it by those on the page alone: with the same hits there, lists of hits have the same answer
up to whether there is a next page, and that is told by their number. A null in place of a hit
changes neither the total nor whether there is a next page. -/
theorem search_decided (d : DocumentSearch m F) (w : Window F) (boosts : List Query)
    {request : SearchRequest} (hrequest : d.schema.buildRequest w boosts = .ok request) :
    ∃ read : Except Failure Hits → Except SearchError (Page Document),
      d.search w boosts = read <$> d.engine.search d.index request ∧
      (∀ cause, read (.error cause) = .error (.searchFailed d.index cause)) ∧
      ∀ total hits,
        d.DecidedBy w.size total hits (read (.ok ⟨total, hits⟩)) ∧
        (∀ hits', hits'.take w.size = hits.take w.size →
          read (.ok ⟨total, hits'⟩) = (read (.ok ⟨total, hits⟩)).map fun p =>
            { p with hasNext := decide (w.size < hits'.length) }) ∧
        ∀ p i, read (.ok ⟨total, hits⟩) = .ok p →
          ∃ p', read (.ok ⟨total, hits.set i .null⟩) = .ok p' ∧ p'.hasNext = p.hasNext ∧
            p'.totalHits = p.totalHits := by
  refine ⟨fun answer => (answer.bind (d.schema.readPage w.size)).mapError d.failed, ?_, ?_, ?_⟩
  · rw [search, hrequest]
  · intro cause
    rfl
  · intro total hits
    refine ⟨d.decidedBy_readPage w.size total hits, ?_, ?_⟩
    · intro hits' hsame
      show (d.schema.readPage w.size ⟨total, hits'⟩).mapError d.failed
        = ((d.schema.readPage w.size ⟨total, hits⟩).mapError d.failed).map _
      rw [Schema.readPage_of_take_eq hsame]
      cases d.schema.readPage w.size ⟨total, hits⟩ with
      | error cause => rfl
      | ok p => rfl
    · intro p i hp
      obtain ⟨p', hp', hsame⟩ := Schema.readPage_set_null (mapError_eq_ok_iff.1 hp) i
      exact ⟨p', mapError_eq_ok_iff.2 hp', hsame⟩

end DocumentSearch

/-- Four hits: a posting, one without content, one whose company is no text and whose last word on
deletion is no flag, and one whose years are no number. -/
def brokenHits : List Json :=
  [.obj [("company", .str "META")], .null, .obj [("company", .int 7), ("deleted", .str "no")],
   .obj [("min_years", .str "three")]]

/-- An index of job postings where every search finds these hits. -/
def brokenPostings : DocumentSearch Id JobField where
  engine :=
    { search := fun _ _ => .ok ⟨4, brokenHits⟩
      aggregate := fun _ _ => .ok []
      get := fun _ _ => .ok none }
  schema := jobs
  index := "jobs"

/-- The page of two has one posting and a next page. The page of four has both hits on it that are
refused, and fails for the company in the first of them. -/
theorem search_decided_brokenPostings :
    (∀ n h, ∃ request, jobs.buildRequest (.page [] n 0 h) [] = .ok request) ∧
      (∃ p, brokenPostings.search (.page [] 2 0 (by decide)) [] = .ok p ∧
        brokenPostings.DecidedBy 2 4 brokenHits (.ok p) ∧ p.items.length = 1 ∧ p.hasNext = true) ∧
      brokenPostings.search (.page [] 4 0 (by decide)) []
        = .error (.searchFailed "jobs" (.mismatch ⟨.int 7, .text⟩)) ∧
      brokenPostings.DecidedBy 4 4 brokenHits
        (.error (.searchFailed "jobs" (.mismatch ⟨.int 7, .text⟩))) := by
  have hknown : ∀ c ∈ [] ++ jobs.defaults, jobs.registries.isUnknown c.field = false := by
    intro c hc
    rw [List.mem_singleton.1 hc]
    rfl
  have hrequest : ∀ n h, ∃ request, jobs.buildRequest (.page [] n 0 h) [] = .ok request :=
    fun n h => Schema.exists_buildRequest_iff.2 hknown
  have hdecided : ∀ n h, brokenPostings.DecidedBy n 4 brokenHits
      (brokenPostings.search (.page [] n 0 h) []) := by
    intro n h
    obtain ⟨request, hbuilt⟩ := hrequest n h
    obtain ⟨read, hsearch, -, hread⟩ := brokenPostings.search_decided _ [] hbuilt
    rw [hsearch, ← Window.size_page [] n 0 h]
    exact (hread 4 brokenHits).1
  exact ⟨hrequest, ⟨_, rfl, hdecided 2 (by decide), rfl, rfl⟩, rfl, hdecided 4 (by decide)⟩

end TypedSearch
