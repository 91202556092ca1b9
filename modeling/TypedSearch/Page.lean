import TypedSearch.Json.Basic
/-!
# `TypedSearch.Page`: one page of results

A page is cut from a list of results that may hold one more than were asked for.
-/

set_option autoImplicit false

namespace TypedSearch

/-- A page of results. -/
structure Page (α : Type) where
  items : List α
  hasNext : Bool
  totalHits : Nat
  deriving DecidableEq, Repr

namespace Page

variable {α β ε : Type}

/-- The first `requested` of the fetched results; any further one tells of a next page. -/
def ofFetched (fetched : List α) (requested totalHits : Nat) : Page α :=
  ⟨fetched.take requested, requested < fetched.length, totalHits⟩

/-- Changes the items in order up to the first error, and drops those that become nothing. Whether
there is a next page, and the total, stay as they were. -/
def filterMapM (p : Page α) (f : α → Except ε (Option β)) : Except ε (Page β) :=
  (p.items.mapM f).map fun items => ⟨items.filterMap id, p.hasNext, p.totalHits⟩

/-- A page as JSON. -/
def toJson (item : α → Json) (p : Page α) : Json :=
  .ofMembers [("items", .arr (p.items.map item)), ("has_next", .bool p.hasNext),
    ("total_hits", .nat p.totalHits)]

end Page

end TypedSearch
