import TypedSearch.Field
/-!
# `TypedSearch.Schema.PostField`: the fields of community posts
-/

set_option autoImplicit false

namespace TypedSearch

/-- A field of a community post. -/
inductive PostField where
  | docId | communityPostId | userId | category | title | markdownBody | company | location
  | linkedJobId | isFromJobComment | popularityViewCount | popularityCommentCount
  | popularityLikeCount | deleted | createdAt | updatedAt
  deriving DecidableEq, Repr

namespace PostField

/-- The name of a field on the wire. -/
def wireName : PostField → String
  | docId => "doc_id"
  | communityPostId => "community_post_id"
  | userId => "user_id"
  | category => "category"
  | title => "title"
  | markdownBody => "markdown_body"
  | company => "company"
  | location => "location"
  | linkedJobId => "linked_job_id"
  | isFromJobComment => "is_from_job_comment"
  | popularityViewCount => "popularity_view_count"
  | popularityCommentCount => "popularity_comment_count"
  | popularityLikeCount => "popularity_like_count"
  | deleted => "deleted"
  | createdAt => "created_at"
  | updatedAt => "updated_at"

/-- The fields in the order of their declaration. -/
def declared : List PostField :=
  [docId, communityPostId, userId, category, title, markdownBody, company, location, linkedJobId,
   isFromJobComment, popularityViewCount, popularityCommentCount, popularityLikeCount, deleted,
   createdAt, updatedAt]

instance : FieldSet PostField where
  all := declared
  name := wireName
  mem_all f := by cases f <;> decide
  find_name f := by cases f <;> decide

instance : WordNames PostField where
  name_chars f := by cases f <;> decide

end PostField

end TypedSearch
