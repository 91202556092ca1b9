import TypedSearch.Proofs.Query.Compile
import TypedSearch.Proofs.Window
import TypedSearch.Search
/-!
# `TypedSearch.Proofs.Search.Request`: the request for a window

* `buildRequest_eq_ok_iff`: what a request holds.
* `exists_buildRequest_iff`: there is one exactly when the fields of the conditions and of the
  defaults are known.
* `exists_unknownField_of_buildRequest`: otherwise the error names an unknown field.
-/

set_option autoImplicit false

namespace TypedSearch

/-- The query under the boosts can be told from the whole. -/
theorem Query.withBoosts_injective (boosts : List Query) {q q' : Query}
    (h : q.withBoosts boosts = q'.withBoosts boosts) : q = q' := by
  rw [withBoosts, withBoosts] at h
  cases hempty : boosts.isEmpty with
  | true => simpa [hempty] using h
  | false => simpa [hempty] using h

namespace Schema

variable {F : Type} [DecidableEq F] [FieldSet F] {s : Schema F} {w : Window F}
  {boosts : List Query}

/-- A request asks for the stretch of its window and one document more, with the query of its
conditions and the defaults. -/
theorem buildRequest_eq_ok_iff {request : SearchRequest} :
    s.buildRequest w boosts = .ok request ↔
      ∃ q, s.registries.compile (w.withDefaultConditions s.defaults).conditions = .ok q ∧
        request = {
          query := q.withBoosts boosts
          start := w.start
          size := w.fetchSize
          sort := if s.relevance.any (w.withDefaultConditions s.defaults).hasConditionOn then none
            else some s.sort } := by
  rw [buildRequest, map_eq_ok_iff]
  simp only [Window.fetchSize_withDefaultConditions,
    (Window.stretch_withDefaultConditions w s.defaults).1]
  simp only [eq_comm]

/-- A window has no request for the reason for which its conditions have no query. -/
theorem buildRequest_eq_error_iff {e : SearchError} :
    s.buildRequest w boosts = .error e ↔
      s.registries.compile (w.withDefaultConditions s.defaults).conditions = .error e :=
  map_eq_error_iff

/-- A window has a request exactly when the fields of its conditions and of the defaults are
known. -/
theorem exists_buildRequest_iff :
    (∃ request, s.buildRequest w boosts = .ok request) ↔
      ∀ c ∈ w.conditions ++ s.defaults, s.registries.isUnknown c.field = false := by
  rw [buildRequest, exists_map_eq_ok_iff, Registries.exists_compile_iff]
  exact Window.forall_field_withDefaultConditions w s.defaults (s.registries.isUnknown · = false)

/-- A window with a condition or a default on an unknown field fails with the name of such a
field. -/
theorem exists_unknownField_of_buildRequest
    (h : ∃ c ∈ w.conditions ++ s.defaults, s.registries.isUnknown c.field = true) :
    ∃ field, s.registries.isUnknown field = true ∧
      s.buildRequest w boosts = .error (.unknownField (FieldSet.name field)) := by
  obtain ⟨c, hc, hunknown⟩ := h
  cases hrequest : s.buildRequest w boosts with
  | ok request =>
    have hknown := exists_buildRequest_iff.1 ⟨request, hrequest⟩ c hc
    rw [hknown] at hunknown
    cases hunknown
  | error e =>
    obtain ⟨field, hfield, rfl⟩ :=
      Registries.exists_isUnknown_of_compile (buildRequest_eq_error_iff.1 hrequest)
    exact ⟨field, hfield, rfl⟩

end Schema

end TypedSearch
