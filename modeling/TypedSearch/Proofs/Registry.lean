import TypedSearch.Proofs.LastEntry
import TypedSearch.Schema.Catalog
/-!
# `TypedSearch.Proofs.Registry`: what is registered for a field

* `get_register`: a registration replaces an earlier one of its field and no other.
* `get_ofList`: of several registrations of a field the last one counts.
* `mem_of_get_ofList`: nothing is registered but what was entered.
* `SchemaName.isUnknown_eq_false`: every field of an index is registered.
-/

set_option autoImplicit false

namespace TypedSearch

namespace Registry

variable {F σ : Type} [DecidableEq F]

/-- A registration replaces an earlier one of its field and no other. -/
theorem get_register (r : Registry F σ) (field other : F) (s : σ) :
    (r.register field s).get? other = if field = other then some s else r.get? other := by
  rw [register, get?, List.find?_cons]
  by_cases h : field = other
  · simp [h]
  · -- The registrations that are taken out are on the registered field, so none is on the other.
    have hskip : (r.entries.filter fun e => e.1 ≠ field).find? (fun e => e.1 = other)
        = r.entries.find? fun e => e.1 = other := by
      rw [List.find?_filter]
      congr 1
      funext e
      by_cases he : e.1 = other
      · simp [he, Ne.symm h]
      · simp [he]
    simp only [h, decide_false, if_false, hskip]
    rfl

/-- Of several registrations of a field the last one counts. -/
theorem get_ofList (registrations : List (F × σ)) (field : F) :
    (ofList registrations).get? field
      = (registrations.reverse.find? fun e => e.1 = field).map (·.2) := by
  rw [ofList, find_foldl_enter get? (fun r e other => get_register r e.1 other e.2)]
  exact Option.or_none

/-- Nothing is registered but what was entered. -/
theorem mem_of_get_ofList {registrations : List (F × σ)} {field : F} {s : σ}
    (h : (ofList registrations).get? field = some s) : (field, s) ∈ registrations :=
  mem_of_find_foldl_enter get? (fun r e other => get_register r e.1 other e.2) rfl h

end Registry

/-- Every field of an index is registered for values or for ranges. -/
theorem SchemaName.isUnknown_eq_false (n : SchemaName) :
    n.apply fun s => ∀ field, s.registries.isUnknown field = false := by
  cases n with
  | jobs => intro field; cases field <;> rfl
  | techBlogs => intro field; cases field <;> rfl
  | communityPosts => intro field; cases field <;> rfl

end TypedSearch
