import TypedSearch.Schema.Basic
import TypedSearch.Schema.PostField
/-!
# `TypedSearch.Schema.CommunityPosts`: the index of community posts

Deleted posts are found like any others.
-/

set_option autoImplicit false

namespace TypedSearch

namespace PostField

/-- The fields that hold exact values. -/
def exact : List PostField :=
  [docId, communityPostId, userId, category, company, location, linkedJobId, isFromJobComment]

/-- The fields that hold text to be searched. -/
def texts : List PostField := [title, markdownBody]

/-- The fields that are asked for ranges. -/
def ranges : List PostField :=
  [popularityViewCount, popularityCommentCount, popularityLikeCount, createdAt, updatedAt]

/-- How the fields are asked. -/
def registries : Registries PostField where
  values := .ofList (registerAll exact (.term .filter) ++ registerAll texts (.fullText .should) ++
    [(deleted, .term .must)])
  ranges := .ofList (registerAll ranges ⟨.filter⟩)

/-- The modelled fields of a post. -/
def model : DocumentModel :=
  [("doc_id", .text), ("community_post_id", .int64), ("user_id", .int64), ("category", .text),
   ("title", .text), ("markdown_body", .text), ("company", .text), ("location", .text),
   ("linked_job_id", .int64), ("deleted", .flag), ("created_at", .int64)]

end PostField

/-- The index of community posts. -/
def communityPosts : Schema PostField where
  name := "community-posts"
  registries := PostField.registries
  relevance := [.title, .markdownBody]
  defaults := []
  sort := newestFirst
  model := PostField.model

end TypedSearch
