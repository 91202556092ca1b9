import TypedSearch.Field
/-!
# `TypedSearch.Schema.JobField`: the fields of job postings
-/

set_option autoImplicit false

namespace TypedSearch

/-- A field of a job posting. -/
inductive JobField where
  | docId | jobId | url | company | title | organization | oneLineSummary | minYears | maxYears
  | experienceRequired | careerLevel | employmentType | positionCategory | remotePolicy
  | techCategories | startedAt | endedAt | isOpenEnded | isClosed | locations | fullDescription
  | hasAssignment | hasCodingTest | hasLiveCoding | interviewCount | interviewDays
  | compensationMinBasePay | compensationMaxBasePay | compensationCurrency | compensationUnit
  | compensationHasStockOption | popularityViewCount | popularityCommentCount
  | popularityLikeCount | deleted | createdAt | updatedAt
  /-- Free text looked for in the title, the summary and the description. -/
  | searchWord
  deriving DecidableEq, Repr

namespace JobField

/-- The name of a field on the wire. -/
def wireName : JobField → String
  | docId => "doc_id"
  | jobId => "job_id"
  | url => "url"
  | company => "company"
  | title => "title"
  | organization => "organization"
  | oneLineSummary => "one_line_summary"
  | minYears => "min_years"
  | maxYears => "max_years"
  | experienceRequired => "experience_required"
  | careerLevel => "career_level"
  | employmentType => "employment_type"
  | positionCategory => "position_category"
  | remotePolicy => "remote_policy"
  | techCategories => "tech_categories"
  | startedAt => "started_at"
  | endedAt => "ended_at"
  | isOpenEnded => "is_open_ended"
  | isClosed => "is_closed"
  | locations => "locations"
  | fullDescription => "full_description"
  | hasAssignment => "has_assignment"
  | hasCodingTest => "has_coding_test"
  | hasLiveCoding => "has_live_coding"
  | interviewCount => "interview_count"
  | interviewDays => "interview_days"
  | compensationMinBasePay => "compensation_min_base_pay"
  | compensationMaxBasePay => "compensation_max_base_pay"
  | compensationCurrency => "compensation_currency"
  | compensationUnit => "compensation_unit"
  | compensationHasStockOption => "compensation_has_stock_option"
  | popularityViewCount => "popularity_view_count"
  | popularityCommentCount => "popularity_comment_count"
  | popularityLikeCount => "popularity_like_count"
  | deleted => "deleted"
  | createdAt => "created_at"
  | updatedAt => "updated_at"
  | searchWord => "search_word"

/-- The fields in the order of their declaration. -/
def declared : List JobField :=
  [docId, jobId, url, company, title, organization, oneLineSummary, minYears, maxYears,
   experienceRequired, careerLevel, employmentType, positionCategory, remotePolicy,
   techCategories, startedAt, endedAt, isOpenEnded, isClosed, locations, fullDescription,
   hasAssignment, hasCodingTest, hasLiveCoding, interviewCount, interviewDays,
   compensationMinBasePay, compensationMaxBasePay, compensationCurrency, compensationUnit,
   compensationHasStockOption, popularityViewCount, popularityCommentCount,
   popularityLikeCount, deleted, createdAt, updatedAt, searchWord]

instance : FieldSet JobField where
  all := declared
  name := wireName
  mem_all f := by cases f <;> decide
  find_name f := by cases f <;> decide

instance : WordNames JobField where
  name_chars f := by cases f <;> decide

end JobField

end TypedSearch
