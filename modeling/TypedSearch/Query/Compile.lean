import TypedSearch.Query.Basic
import TypedSearch.Condition
import TypedSearch.Registry
/-!
# `TypedSearch.Query.Compile`: conditions as a query

Every condition becomes at most one clause. A field registered for values is asked for its value,
whatever else it is registered for; a field registered for ranges only is asked for its bounds. A
condition that lacks what its field is asked for is skipped. The clauses are then sorted by role.
-/

set_option autoImplicit false

namespace TypedSearch

variable {F : Type} [DecidableEq F] [FieldSet F]

/-- The clause of a condition with its role; nothing if the condition is skipped. -/
def Registries.clause? (r : Registries F) (c : Condition F) :
    Except SearchError (Option (Role × Query)) :=
  match r.values.get? c.field with
  | some s => .ok (c.value.map fun v => (s.role, s.build (FieldSet.name c.field) v))
  | none =>
    match r.ranges.get? c.field with
    | some s =>
      .ok (if c.hasBounds then some (s.role, s.build (FieldSet.name c.field) c.gte c.lte) else none)
    | none => .error (.unknownField (FieldSet.name c.field))

/-- The clauses of conditions, in order. The first unknown field is the error. -/
def Registries.clauses (r : Registries F) (cs : List (Condition F)) :
    Except SearchError (List (Role × Query)) :=
  (cs.mapM r.clause?).map (·.filterMap id)

/-- The query that a list of conditions compiles to. -/
def Registries.compile (r : Registries F) (cs : List (Condition F)) : Except SearchError Query :=
  (r.clauses cs).map fun clauses => (Clauses.ofList clauses).compose

end TypedSearch
