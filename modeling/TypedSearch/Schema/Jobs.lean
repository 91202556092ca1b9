import TypedSearch.Schema.Basic
import TypedSearch.Schema.JobField
/-!
# `TypedSearch.Schema.Jobs`: the index of job postings

Deleted postings are left out unless a search says otherwise.
-/

set_option autoImplicit false

namespace TypedSearch

namespace JobField

/-- The fields that hold exact values. -/
def exact : List JobField :=
  [docId, jobId, url, company, organization, careerLevel, experienceRequired, employmentType,
   positionCategory, remotePolicy, techCategories, isOpenEnded, isClosed, locations, hasAssignment,
   hasCodingTest, hasLiveCoding, compensationCurrency, compensationUnit, compensationHasStockOption]

/-- The fields that hold text to be searched. -/
def texts : List JobField := [title, oneLineSummary, fullDescription]

/-- The fields that are asked for ranges. -/
def ranges : List JobField :=
  [minYears, maxYears, startedAt, endedAt, interviewCount, interviewDays, createdAt, updatedAt,
   compensationMinBasePay, compensationMaxBasePay, popularityViewCount, popularityCommentCount,
   popularityLikeCount]

/-- How the fields are asked. A search word is looked for in three fields at once. -/
def registries : Registries JobField where
  values := .ofList (registerAll exact (.term .filter) ++ registerAll texts (.fullText .should) ++
    [(deleted, .term .must),
     (searchWord, .fanOut ["title", "one_line_summary", "full_description"])])
  ranges := .ofList (registerAll ranges ⟨.filter⟩)

/-- The modelled fields of a job posting. -/
def model : DocumentModel :=
  [("doc_id", .text), ("job_id", .int64), ("url", .text), ("company", .text), ("title", .text),
   ("organization", .text), ("one_line_summary", .text), ("min_years", .int32),
   ("max_years", .int32), ("experience_required", .flag), ("career_level", .text),
   ("employment_type", .text), ("position_category", .text), ("remote_policy", .text),
   ("tech_categories", .texts), ("locations", .texts), ("is_closed", .flag), ("deleted", .flag),
   ("created_at", .int64), ("updated_at", .int64)]

end JobField

/-- The index of job postings. -/
def jobs : Schema JobField where
  name := "jobs"
  registries := JobField.registries
  relevance := [.title, .oneLineSummary, .fullDescription, .searchWord]
  defaults := [.flag .deleted false]
  sort := newestFirst
  model := JobField.model

end TypedSearch
