import TypedSearch.Schema.Basic
import TypedSearch.Schema.BlogField
/-!
# `TypedSearch.Schema.TechBlogs`: the index of tech-blog articles

Deleted articles are left out unless a search says otherwise.
-/

set_option autoImplicit false

namespace TypedSearch

namespace BlogField

/-- The fields that hold exact values. -/
def exact : List BlogField :=
  [docId, techBlogId, url, company, thumbnailUrl, techCategories, originalUrl]

/-- The fields that hold text to be searched. -/
def texts : List BlogField := [title, oneLiner, summary, koreanSummary, searchWord, markdownBody]

/-- The fields that are asked for ranges. -/
def ranges : List BlogField :=
  [popularityViewCount, popularityCommentCount, popularityLikeCount, createdAt, updatedAt]

/-- How the fields are asked. -/
def registries : Registries BlogField where
  values := .ofList (registerAll exact (.term .filter) ++ registerAll texts (.fullText .should) ++
    [(deleted, .term .must)])
  ranges := .ofList (registerAll ranges ⟨.filter⟩)

/-- The modelled fields of an article. -/
def model : DocumentModel :=
  [("doc_id", .text), ("tech_blog_id", .int64), ("url", .text), ("company", .text),
   ("title", .text), ("one_liner", .text), ("summary", .text), ("thumbnail_url", .text),
   ("tech_categories", .texts), ("original_url", .text), ("deleted", .flag),
   ("created_at", .int64), ("updated_at", .int64)]

end BlogField

/-- The index of tech-blog articles. -/
def techBlogs : Schema BlogField where
  name := "tech-blogs"
  registries := BlogField.registries
  relevance := [.searchWord, .title, .summary]
  defaults := [.flag .deleted false]
  sort := newestFirst
  model := BlogField.model

end TypedSearch
