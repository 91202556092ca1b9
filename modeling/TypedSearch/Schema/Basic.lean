import TypedSearch.Document
import TypedSearch.Engine
/-!
# `TypedSearch.Schema.Basic`: what is known about an index

A schema tells how the fields of an index are asked, which of them rank by relevance, which
conditions hold unless the caller sets others, and what the documents look like.
-/

set_option autoImplicit false

namespace TypedSearch

/-- What is known about an index with a given set of fields. -/
structure Schema (F : Type) where
  /-- The name on the command line. -/
  name : String
  registries : Registries F
  /-- The fields on which a condition makes the score the order of the results. -/
  relevance : List F
  /-- The conditions that hold for fields without a condition of their own. -/
  defaults : List (Condition F)
  /-- The order of results where the score is not. -/
  sort : SortKey
  model : DocumentModel

/-- The order of results in all three indices: the newest first. -/
def newestFirst : SortKey := ⟨"created_at", .descending⟩

/-- Registers every field of a list in the same way. -/
def registerAll {F σ : Type} (fields : List F) (s : σ) : List (F × σ) := fields.map fun f => (f, s)

end TypedSearch
