import TypedSearch.Aggregation.Result
import TypedSearch.Schema.JobField
/-!
# `TypedSearch.Stats.Daily`: daily statistics of job postings

Seven aggregations over the postings that are open, sent as one batch. Where only a number is
wanted, the number is that of the documents that met the conditions.
-/

set_option autoImplicit false

namespace TypedSearch.Daily

open Calendar (Instant)

/-- Conditions of one's own, and those of an open posting. -/
def openJobs (extra : List (Condition JobField)) : List (Condition JobField) :=
  extra ++ [.flag .deleted false, .flag .isClosed false]

/-- The one metric of every group: its documents are counted. -/
def counting : List (MetricSpec JobField) := [.count "count"]

/-- A request of which only the number of documents is read. -/
def counted (name : String) (extra : List (Condition JobField)) : BucketRequest JobField :=
  .terms name (openJobs extra) .company 1 counting

/-- How many days the trend goes back. -/
def trendDays : Nat := 7

/-- The seven requests at a point in time. -/
def requests (now : Instant) : List (BucketRequest JobField) :=
  [.terms "by_company" (openJobs []) .company 10 counting,
   .terms "by_position_category" (openJobs []) .positionCategory 100 counting,
   counted "junior_count" [.atMost .minYears (.whole 3)],
   counted "senior_count" [.atLeast .minYears (.whole 5)],
   counted "experience_required_junior_count"
     [.flag .experienceRequired true, .atMost .minYears (.whole 2)],
   counted "no_experience_required_count" [.flag .experienceRequired false],
   .dateHistogram "recent_trend"
     (openJobs [.timeRange .createdAt (some (now.minusDays trendDays)) (some now)]) .createdAt "1d"
     counting]

/-- A group and the number of its documents. -/
structure KeyCount where
  key : String
  count : Nat
  deriving DecidableEq, Repr

/-- The statistics of a day. -/
structure Stats where
  topCompanies : List KeyCount
  topPositionCategories : List KeyCount
  juniorCount : Nat
  seniorCount : Nat
  experienceRequiredJuniorCount : Nat
  noExperienceRequiredCount : Nat
  recentTrend : List KeyCount
  deriving DecidableEq, Repr

/-- The groups of a query with their sizes. -/
def keyCounts (r : BatchResult) (query : String) : List KeyCount :=
  (r.entries query).map fun e => ⟨e.key, e.docCount⟩

/-- The statistics that the results of the seven requests give. -/
def Stats.ofResult (r : BatchResult) : Stats where
  topCompanies := keyCounts r "by_company"
  topPositionCategories := keyCounts r "by_position_category"
  juniorCount := r.totalCount "junior_count"
  seniorCount := r.totalCount "senior_count"
  experienceRequiredJuniorCount := r.totalCount "experience_required_junior_count"
  noExperienceRequiredCount := r.totalCount "no_experience_required_count"
  recentTrend := keyCounts r "recent_trend"

/-- Groups as JSON. -/
def keyCountsJson (groups : List KeyCount) : Json :=
  .arr (groups.map fun g => .ofMembers [("key", .str g.key), ("count", .nat g.count)])

/-- Statistics as JSON. -/
def Stats.toJson (s : Stats) : Json :=
  .ofMembers
    [("top_companies", keyCountsJson s.topCompanies),
     ("top_position_categories", keyCountsJson s.topPositionCategories),
     ("junior_count", .nat s.juniorCount),
     ("senior_count", .nat s.seniorCount),
     ("experience_required_junior_count", .nat s.experienceRequiredJuniorCount),
     ("no_experience_required_count", .nat s.noExperienceRequiredCount),
     ("recent_trend", keyCountsJson s.recentTrend)]

end TypedSearch.Daily
