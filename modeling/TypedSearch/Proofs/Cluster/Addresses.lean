import Mathlib.Data.Set.Function
import TypedSearch.Cluster.Client
import TypedSearch.Proofs.Url.Segments
/-!
# `TypedSearch.Proofs.Cluster.Addresses`: where documents and indexes are

The name of an index and the identifier of a document are segments of a URL. Texts that are not kept
in a path are no part of it, or not as they are: an identifier of two points is the address of no
document, and a tab makes no difference to an address.

* `Client.exists_root`: requests go to the path and query that they are made for.
* `Client.extends_root_iff`: which documents and indexes have an address of their own.
* `Client.not_extends_root_nearby`: documents that have none.
-/

set_option autoImplicit false

namespace TypedSearch.Client

open Url (Keeps Extends)

/-- The URL that all requests of the client are under. -/
def root (c : Client) : Url := (c.request .get c.base none).url

/-- Requests go to the base with another authority, the one of the root, and with the path and query
that they are made for. -/
theorem exists_root (c : Client) :
    ∃ authority, c.root = { c.base with authority } ∧
      ∀ method path query body, (c.request method { c.base with path, query } body).url
        = { c.base with authority, path, query } := by
  -- Who asks is told by the authority, so that path and query make no difference to it.
  have hsame : ∀ path query, ({ c.base with path, query } : Url).credentials?
      = c.base.credentials? := fun _ _ => rfl
  cases hwho : c.base.credentials? with
  | none =>
    refine ⟨c.base.authority, ?_, fun method path query body => ?_⟩
    · rw [root, request, hwho]
      rfl
    · rw [request, hsame, hwho]
      rfl
  | some credentials =>
    refine ⟨c.base.withoutCredentials.authority, ?_, fun method path query body => ?_⟩
    · rw [root, request, hwho]
      rfl
    · rw [request, hsame, hwho]
      rfl

/-- A request for what is under the base goes to the same place under the root. -/
theorem url_request_withSegments (c : Client) (method : Method) (texts : List String)
    (body : Option Json) :
    (c.request method (c.base.withSegments texts) body).url = c.root.withSegments texts := by
  obtain ⟨authority, hroot, hurl⟩ := c.exists_root
  rw [hroot]
  exact hurl method _ c.base.query body

/-- A search goes to the place of the index under the root, with a pair in the query. -/
theorem url_request_searchUrl (c : Client) (index : String) (body : Option Json) :
    (c.request .post (c.searchUrl index) body).url
      = (c.root.withQueryPair "typed_keys" "true").withSegments [index, "_search"] := by
  obtain ⟨authority, hroot, hurl⟩ := c.exists_root
  rw [hroot]
  exact hurl .post _ _ body

/-- The root takes a text first if the base does. -/
theorem takes_root_iff {c : Client} {s : String} : c.root.Takes s ↔ c.base.Takes s := by
  obtain ⟨authority, hroot, -⟩ := c.exists_root
  rw [hroot]
  exact Iff.rfl

/-- The URL of a lookup tells index and document exactly when the name of the index is taken and the
identifier of the document is kept. -/
theorem extends_documentUrl_iff {c : Client} {index id : String} {body : Option Json} :
    c.root.Extends [index, "_doc", id] (c.request .get (c.documentUrl index id) body).url ↔
      c.base.Takes index ∧ Keeps id := by
  rw [documentUrl, url_request_withSegments, Url.extends_withSegments_iff, takes_root_iff,
    List.forall_mem_cons, List.forall_mem_singleton]
  have hmiddle : Keeps "_doc" := by decide
  rw [and_iff_right hmiddle]

/-- The URL of a search tells the index exactly when the name of the index is taken. -/
theorem extends_searchUrl_iff {c : Client} {index : String} {body : Option Json} :
    (c.root.withQueryPair "typed_keys" "true").Extends [index, "_search"]
        (c.request .post (c.searchUrl index) body).url ↔ c.base.Takes index := by
  rw [url_request_searchUrl, Url.extends_withSegments_iff, List.forall_mem_singleton]
  have hlast : Keeps "_search" := by decide
  rw [and_iff_left hlast]
  exact takes_root_iff

/-- The URL of a lookup tells index and document exactly when the name of the index is taken and the
identifier is kept. That of a search tells the index exactly when its name is taken. Lookups with
such names and identifiers have the same URL only if both are the same. -/
theorem extends_root_iff (c : Client) :
    (∀ index id, c.root.Extends [index, "_doc", id] (c.requestOf (.get index id)).url ↔
      c.base.Takes index ∧ Keeps id) ∧
    (∀ index request, (c.root.withQueryPair "typed_keys" "true").Extends [index, "_search"]
      (c.requestOf (.search index request)).url ↔ c.base.Takes index) ∧
    (∀ index tree, (c.root.withQueryPair "typed_keys" "true").Extends [index, "_search"]
      (c.requestOf (.aggregate index tree)).url ↔ c.base.Takes index) ∧
    Set.InjOn (fun p : String × String => (c.requestOf (.get p.1 p.2)).url)
      {p | c.base.Takes p.1 ∧ Keeps p.2} := by
  refine ⟨fun _ _ => extends_documentUrl_iff, fun _ _ => extends_searchUrl_iff,
    fun _ _ => extends_searchUrl_iff, ?_⟩
  rintro ⟨index, id⟩ h ⟨index', id'⟩ h' heq
  obtain ⟨segments, hurl, hsegments, -⟩ := extends_documentUrl_iff.2 h
  obtain ⟨segments', hurl', hsegments', -⟩ := extends_documentUrl_iff.2 h'
  have hpath : c.root.kept ++ segments = c.root.kept ++ segments' :=
    congrArg Url.path (hurl.symm.trans (heq.trans hurl'))
  -- The segments are the same, and so are the texts that they stand for.
  rw [List.append_cancel_left hpath, hsegments'] at hsegments
  simp only [List.map_cons, List.map_nil, List.cons.injEq, true_and, and_true] at hsegments
  obtain ⟨hindex, hid⟩ := hsegments
  rw [String.toList_inj.1 (Text.bytes_injective hindex),
    String.toList_inj.1 (Text.bytes_injective hid)]

/-- The cluster at the usual port of this machine. -/
def nearby : Client where
  base := ⟨"http".toList, some ⟨[], none, "localhost".toList, some 9200⟩, [[]], none, none⟩
  credentials := none
  key := none

/-- Documents in `nearby`, the cluster of the default settings. One or two points are no part of an
address, and a tab is dropped from it, by which a text may become a step. -/
theorem not_extends_root_nearby :
    ofConfig Config.default.elasticsearch = .ok nearby ∧
      (nearby.requestOf (.get "jobs" "..")).url = (nearby.requestOf (.get "jobs" ".")).url ∧
      (nearby.requestOf (.get "jobs" "..")).url.text = "http://localhost:9200/jobs/_doc" ∧
      (nearby.requestOf (.get "jobs" ".\t.")).url.text = "http://localhost:9200/jobs/" ∧
      ¬ nearby.root.Extends ["jobs", "_doc", ".."] (nearby.requestOf (.get "jobs" "..")).url ∧
      (nearby.requestOf (.get "jobs" "a\tb")).url = (nearby.requestOf (.get "jobs" "ab")).url ∧
      ¬ nearby.root.Extends ["jobs", "_doc", "a\tb"]
        (nearby.requestOf (.get "jobs" "a\tb")).url := by
  refine ⟨by decide +kernel, rfl, by decide +kernel, by decide +kernel, ?_, rfl, ?_⟩
  · exact fun h => absurd (extends_documentUrl_iff.1 h).2 (by decide)
  · exact fun h => absurd (extends_documentUrl_iff.1 h).2 (by decide)

end TypedSearch.Client
