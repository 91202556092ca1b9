import TypedSearch.Field
/-!
# `TypedSearch.Schema.BlogField`: the fields of tech-blog articles
-/

set_option autoImplicit false

namespace TypedSearch

/-- A field of a tech-blog article. -/
inductive BlogField where
  | docId | techBlogId | url | company | title | oneLiner | summary | koreanSummary | markdownBody
  | thumbnailUrl | techCategories | originalUrl | popularityViewCount | popularityCommentCount
  | popularityLikeCount | deleted | createdAt | updatedAt
  /-- The keywords kept with the article. -/
  | searchWord
  deriving DecidableEq, Repr

namespace BlogField

/-- The name of a field on the wire. -/
def wireName : BlogField → String
  | docId => "doc_id"
  | techBlogId => "tech_blog_id"
  | url => "url"
  | company => "company"
  | title => "title"
  | oneLiner => "one_liner"
  | summary => "summary"
  | koreanSummary => "korean_summary"
  | markdownBody => "markdown_body"
  | thumbnailUrl => "thumbnail_url"
  | techCategories => "tech_categories"
  | originalUrl => "original_url"
  | popularityViewCount => "popularity_view_count"
  | popularityCommentCount => "popularity_comment_count"
  | popularityLikeCount => "popularity_like_count"
  | deleted => "deleted"
  | createdAt => "created_at"
  | updatedAt => "updated_at"
  | searchWord => "search_word"

/-- The fields in the order of their declaration. -/
def declared : List BlogField :=
  [docId, techBlogId, url, company, title, oneLiner, summary, koreanSummary, markdownBody,
   thumbnailUrl, techCategories, originalUrl, popularityViewCount, popularityCommentCount,
   popularityLikeCount, deleted, createdAt, updatedAt, searchWord]

instance : FieldSet BlogField where
  all := declared
  name := wireName
  mem_all f := by cases f <;> decide
  find_name f := by cases f <;> decide

instance : WordNames BlogField where
  name_chars f := by cases f <;> decide

end BlogField

end TypedSearch
