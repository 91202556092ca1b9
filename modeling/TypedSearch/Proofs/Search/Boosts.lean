import Mathlib.Data.List.Nodup
import TypedSearch.Proofs.Query.Semantics
import TypedSearch.Proofs.Search.Request
import TypedSearch.Schema.Catalog
/-!
# `TypedSearch.Proofs.Search.Boosts`: boosts leave the matches as they are

A boost is a clause that documents may match, and that raises the score of those that do. The query
under the boosts has to match, and so nothing else has to: `boosts_keep_matches` says that boosts
leave the matches of any query as they are, and that the documents that match a request are those
that match the conditions of its window and the defaults that the window lacks.

* `exists_matches_buildRequest`: what is matched by a request.
* `SchemaName.nodup_defaults`: no index has two defaults on one field.
-/

set_option autoImplicit false

namespace TypedSearch

namespace Schema

variable {F : Type} [DecidableEq F] [FieldSet F] {s : Schema F} {w : Window F}
  {boosts : List Query}

/-- The documents that match a request are those that match the conditions of the window and,
behind them, the defaults that it lacks. -/
theorem exists_matches_buildRequest {D : Type} (o : Oracle D) {request : SearchRequest}
    (h : s.buildRequest w boosts = .ok request) :
    ∃ q, s.registries.compile (w.conditions ++ w.lacking s.defaults) = .ok q ∧
      ∀ d, o.holds request.query d = o.holds q d := by
  obtain ⟨q, hq, rfl⟩ := buildRequest_eq_ok_iff.1 h
  rw [Window.conditions_withDefaultConditions] at hq
  exact ⟨q, hq, o.holds_withBoosts q boosts⟩

end Schema

/-- No index has two defaults on one field. -/
theorem SchemaName.nodup_defaults (n : SchemaName) :
    n.apply fun s => (s.defaults.map (·.field)).Nodup := by
  cases n with
  | jobs => exact List.nodup_singleton _
  | techBlogs => exact List.nodup_singleton _
  | communityPosts => exact List.nodup_nil

/-- Boosts never change what a query matches, however often they are added. So the documents that
match the request for a window are those that match its conditions and, behind them, the defaults
that it lacks; there is no request where these have no query, for the same reason. Of defaults on
distinct fields, as all indices have them, a window lacks those on whose field it has no
condition. -/
theorem boosts_keep_matches {D F : Type} [DecidableEq F] [FieldSet F] (o : Oracle D) :
    (∀ (q : Query) (boosts : List (List Query)) (d : D),
      o.holds (boosts.foldl Query.withBoosts q) d = o.holds q d) ∧
    (∀ (s : Schema F) (w : Window F) (boosts : List Query),
      (∀ request, s.buildRequest w boosts = .ok request →
        ∃ q, s.registries.compile (w.conditions ++ w.lacking s.defaults) = .ok q ∧
          ∀ d, o.holds request.query d = o.holds q d) ∧
      (∀ e, s.buildRequest w boosts = .error e ↔
        s.registries.compile (w.conditions ++ w.lacking s.defaults) = .error e) ∧
      ((s.defaults.map (·.field)).Nodup →
        w.lacking s.defaults = s.defaults.filter fun c => !w.hasConditionOn c.field)) ∧
    ∀ n : SchemaName, n.apply fun s => (s.defaults.map (·.field)).Nodup := by
  refine ⟨o.holds_foldl_withBoosts, fun s w boosts => ⟨?_, ?_, ?_⟩, SchemaName.nodup_defaults⟩
  · intro request hrequest
    exact Schema.exists_matches_buildRequest o hrequest
  · intro e
    rw [Schema.buildRequest_eq_error_iff, Window.conditions_withDefaultConditions]
  · intro hdistinct
    exact w.lacking_of_nodup hdistinct

end TypedSearch
