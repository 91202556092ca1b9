import TypedSearch.Schema.CommunityPosts
import TypedSearch.Schema.Jobs
import TypedSearch.Schema.TechBlogs
/-!
# `TypedSearch.Schema.Catalog`: the schemas by name

The three schemas have fields of their own, so that what is done with a schema that is named at run
time is done with any of them: `SchemaName.apply`.
-/

set_option autoImplicit false

namespace TypedSearch

/-- The schemas that can be named. -/
inductive SchemaName where
  | jobs
  | techBlogs
  | communityPosts
  deriving DecidableEq, Repr

namespace SchemaName

/-- All schemas. -/
def all : List SchemaName := [jobs, techBlogs, communityPosts]

/-- Applies a function to the schema with a name. -/
def apply {α : Type} (f : ∀ {F : Type} [DecidableEq F] [FieldSet F], Schema F → α) :
    SchemaName → α
  | jobs => f TypedSearch.jobs
  | techBlogs => f TypedSearch.techBlogs
  | communityPosts => f TypedSearch.communityPosts

/-- The name of a schema. -/
def text (n : SchemaName) : String := n.apply fun s => s.name

/-- The schema with a name. -/
def ofText? (s : String) : Option SchemaName := all.find? fun n => n.text = s

end SchemaName

end TypedSearch
