import TypedSearch.Calendar.Stamp
import TypedSearch.Proofs.Registry
import TypedSearch.Proofs.Search.Aggregations
import TypedSearch.Stats.Daily
/-!
# `TypedSearch.Proofs.Stats.Daily`: the daily statistics count what they name

The statistics are asked for in seven requests and picked out of the results by name. Here they are
compared with what they name: groups and numbers of stored postings, computed from the postings.

* `Document.holdsFlag`, `Document.within`: what a condition asks of a stored posting.
* `ComparesPostings`: an engine that compares stored postings with flags and whole numbers.
* `filter_openJobs`: which postings a request is about.
* `Instant.millis_minusDays`: the first millisecond of the trend.
* `ofResult_requests`: the statistics of the results of the seven requests.
-/

set_option autoImplicit false

namespace TypedSearch

open Calendar (Instant)

/-! ### What postings hold -/

/-- The truth value in a slot for one. -/
def Slot.flag? : Slot → Option Bool
  | flag value => value
  | _ => none

/-- The whole number in a slot for one. -/
def Slot.whole? : Slot → Option Int
  | whole value => value
  | _ => none

/-- The text in a slot for one. -/
def Slot.text? : Slot → Option String
  | text value => value
  | _ => none

namespace Document

/-- Does the document hold this truth value in the field? -/
def holdsFlag (field : String) (b : Bool) (d : Document) : Bool :=
  (Keyed.get? field d.slots).bind Slot.flag? == some b

/-- Does the document hold a whole number in the field that lies between the bounds that are given,
both included? -/
def within (field : String) (low high : Option Int) (d : Document) : Bool :=
  ((Keyed.get? field d.slots).bind Slot.whole?).any fun n => low.all (· ≤ n) && high.all (n ≤ ·)

/-- Is the posting neither deleted nor closed? -/
def isOpen (d : Document) : Bool := d.holdsFlag "deleted" false && d.holdsFlag "is_closed" false

end Document

/-- An engine that compares stored postings by what they hold. A flag is compared with its text, and
a whole number lies between bounds that are written in decimal. All other comparisons, and how
documents are grouped, are left open. -/
structure ComparesPostings (e : Evaluation Document) (o : Oracle Document) : Prop where
  isMatch : ∀ q d, e.isMatch q d = o.holds q d
  flag : ∀ field b d, (field, .flag) ∈ JobField.model →
    o.term field (Scalar.flag b).display d = d.holdsFlag field b
  whole : ∀ field low high d, (field, .int32) ∈ JobField.model ∨ (field, .int64) ∈ JobField.model →
    o.range field (low.map Decimal.intText) (high.map Decimal.intText) d = d.within field low high

/-! ### The time window -/

/-- Some days earlier are as many milliseconds earlier, also from a leap second. -/
theorem Calendar.Instant.millis_minusDays (t : Instant) (days : Nat) :
    (t.minusDays days).millis = t.millis - days * 86400000 := by
  rw [Instant.minusDays]
  split
  · next hleap =>
    -- The second that is added is taken from the nanoseconds again.
    simp only [Calendar.nanosInSecond] at hleap
    simp only [Instant.millis, Calendar.nanosInSecond]
    omega
  · simp only [Instant.millis]
    omega

namespace Daily

/-! ### What the conditions mean -/

variable {e : Evaluation Document} {o : Oracle Document}

/-- A condition on a flag requires the flag to be held. -/
theorem means_flag (h : ComparesPostings e o) (field : JobField) {role : Role}
    (hmodel : (FieldSet.name field, .flag) ∈ JobField.model)
    (hregistered : jobs.registries.values.get? field = some (.term role))
    (hrole : role = .must ∨ role = .filter) (b : Bool) :
    jobs.registries.Means o (.flag field b) (Document.holdsFlag (FieldSet.name field) b) := by
  have hasks : jobs.registries.Asks (.flag field b) role
      (.term (FieldSet.name field) (Scalar.flag b).display) :=
    Registries.Asks.value (c := .flag field b) (s := .term role) hregistered rfl
  exact ⟨role, _, Registries.clause_eq_some_iff.2 hasks, hrole, fun d => h.flag _ b d hmodel⟩

/-- A condition with bounds requires a number within the bounds. -/
theorem means_range (h : ComparesPostings e o) (field : JobField) (low high : Option Int)
    (hmodel : (FieldSet.name field, .int32) ∈ JobField.model ∨
      (FieldSet.name field, .int64) ∈ JobField.model)
    (hvalues : jobs.registries.values.get? field = none)
    (hregistered : jobs.registries.ranges.get? field = some ⟨.filter⟩)
    (hbound : low.isSome = true ∨ high.isSome = true) :
    jobs.registries.Means o
      (.range field (low.map Decimal.intText) (high.map Decimal.intText))
      (Document.within (FieldSet.name field) low high) := by
  have hgiven : low.map Decimal.intText ≠ none ∨ high.map Decimal.intText ≠ none := by
    simpa [Option.isSome_iff_ne_none] using hbound
  have hasks : jobs.registries.Asks
      (.range field (low.map Decimal.intText) (high.map Decimal.intText)) .filter
      (.range (FieldSet.name field) (low.map Decimal.intText) (high.map Decimal.intText)) :=
    Registries.Asks.range (c := .range field _ _) (s := ⟨.filter⟩) hvalues hregistered hgiven
  exact ⟨.filter, _, Registries.clause_eq_some_iff.2 hasks, Or.inr rfl,
    fun d => h.whole _ low high d hmodel⟩

/-- The postings that a request is about are those among the open ones that meet its own
conditions. -/
theorem filter_openJobs (h : ComparesPostings e o) {extra : List (Condition JobField)}
    {ps : List (Document → Bool)} (hextra : List.Forall₂ (jobs.registries.Means o) extra ps)
    {query : Query} (hquery : jobs.registries.compile (openJobs extra) = .ok query)
    (docs : List Document) :
    docs.filter (e.isMatch query)
      = (docs.filter Document.isOpen).filter fun d => ps.all fun p => p d := by
  have hdeleted := means_flag h .deleted (by decide) rfl (Or.inl rfl) false
  have hclosed := means_flag h .isClosed (by decide) rfl (Or.inr rfl) false
  have hopen : List.Forall₂ (jobs.registries.Means o) (openJobs extra)
      (ps ++ [Document.holdsFlag "deleted" false, Document.holdsFlag "is_closed" false]) :=
    List.rel_append hextra (.cons hdeleted (.cons hclosed .nil))
  rw [List.filter_filter]
  refine List.filter_congr ?_
  intro d _
  have hholds := Registries.holds_compile_of_means hopen hquery d
  rw [h.isMatch, Bool.eq_iff_iff, hholds]
  simp [Document.isOpen, or_imp, forall_and]

/-! ### Reading the results -/

/-- Groups of documents with their sizes. -/
def sizes {D : Type} (groups : List (String × List D)) : List KeyCount :=
  groups.map fun g => ⟨g.1, g.2.length⟩

/-- The groups of a query are read with their sizes. -/
theorem keyCounts_of_get {results : BatchResult} {name : String} {b : BucketSpec JobField}
    {found : List Document} {count : Option Nat}
    (h : results.get? name = some (.bucket (e.entries b found) count)) :
    keyCounts results name = sizes (e.groups b found) := by
  rw [keyCounts, BatchResult.entries, h, Evaluation.entries, List.map_map]
  rfl

/-- A number that was sent along is the total, whatever the groups are. -/
theorem totalCount_of_get {results : BatchResult} {name : String} {entries : List BucketEntry}
    {count : Nat} (h : results.get? name = some (.bucket entries (some count))) :
    results.totalCount name = count := by
  rw [BatchResult.totalCount, h]

/-- The seven requests are answered, each with the groups of the open postings that meet its own
conditions, and with their number. -/
theorem aggregateRequests_requests {m : Type → Type} [Monad m] [LawfulMonad m] (engine : Engine m)
    (index : String) (h : ComparesPostings e o) (docs : List Document)
    (hanswers : ∀ tree, engine.aggregate index tree = pure (.ok (e.answers docs tree docs)))
    (now : Instant) :
    ∃ results,
      (⟨engine, jobs, index⟩ : DocumentSearch m JobField).aggregateRequests (requests now)
        = pure (.ok results) ∧
      ∀ r ∈ requests now, ∀ extra ps, r.conditions = openJobs extra →
        List.Forall₂ (jobs.registries.Means o) extra ps →
        let found := (docs.filter Document.isOpen).filter fun d => ps.all fun p => p d
        keyCounts results r.name = sizes (e.groups r.bucket found) ∧
          results.totalCount r.name = found.length := by
  have hnames : (requests now).map (·.name)
      = ["by_company", "by_position_category", "junior_count", "senior_count",
         "experience_required_junior_count", "no_experience_required_count", "recent_trend"] := rfl
  have hnodup : ((requests now).map (·.name)).Nodup := by
    rw [hnames]
    decide
  have hblank : ∀ r ∈ requests now, Text.isAllBlank r.name.toList = false := by
    have hall : ∀ name ∈ (requests now).map (·.name), Text.isAllBlank name.toList = false := by
      rw [hnames]
      decide
    exact fun r hr => hall _ (List.mem_map_of_mem hr)
  -- Every field of postings is registered, so no request can fail.
  have hknown : ∀ field, jobs.registries.isUnknown field = false :=
    SchemaName.isUnknown_eq_false .jobs
  obtain ⟨results, hrun, hresults⟩ :=
    DocumentSearch.aggregateRequests_of_answers ⟨engine, jobs, index⟩ hanswers (by simp [requests])
      hnodup hblank hknown
  refine ⟨results, hrun, ?_⟩
  intro r hr extra ps hconditions hextra
  have hne : r.conditions ≠ [] := by
    rw [hconditions]
    simp [openJobs]
  obtain ⟨query, hquery, hget⟩ := hresults r hr hne
  rw [hconditions] at hquery
  rw [filter_openJobs h hextra hquery] at hget
  exact ⟨keyCounts_of_get hget, totalCount_of_get hget⟩

/-- The statistics of the results are the groups and the numbers of open postings that they name.
The trend is about the last seven days, to the millisecond. -/
theorem ofResult_requests {m : Type → Type} [Monad m] [LawfulMonad m] (engine : Engine m)
    (index : String) (h : ComparesPostings e o) (docs : List Document)
    (hanswers : ∀ tree, engine.aggregate index tree = pure (.ok (e.answers docs tree docs)))
    (now : Instant) :
    ∃ results,
      (⟨engine, jobs, index⟩ : DocumentSearch m JobField).aggregateRequests (requests now)
        = pure (.ok results) ∧
      let opened := docs.filter Document.isOpen
      Stats.ofResult results =
        { topCompanies := sizes (e.valueGroups "company" 10 opened)
          topPositionCategories := sizes (e.valueGroups "position_category" 100 opened)
          juniorCount := opened.countP fun d => d.within "min_years" none (some 3)
          seniorCount := opened.countP fun d => d.within "min_years" (some 5) none
          experienceRequiredJuniorCount := opened.countP fun d =>
            d.holdsFlag "experience_required" true && d.within "min_years" none (some 2)
          noExperienceRequiredCount := opened.countP fun d =>
            d.holdsFlag "experience_required" false
          recentTrend := sizes (e.timeGroups "created_at" "1d" (opened.filter fun d =>
            d.within "created_at" (some (now.millis - 7 * 86400000)) (some now.millis))) } := by
  obtain ⟨results, hrun, hread⟩ := aggregateRequests_requests engine index h docs hanswers now
  refine ⟨results, hrun, ?_⟩
  -- What the conditions of the requests mean, beside those of open postings.
  have hrequired := means_flag h .experienceRequired (by decide) rfl (Or.inr rfl)
  have hyears (low high : Option Int) := means_range h .minYears low high (by decide) rfl rfl
  have hcreated (low high : Int) :=
    means_range h .createdAt (some low) (some high) (by decide) rfl rfl (Or.inl rfl)
  -- The results of the requests, one after the other.
  have hcompany := (hread _ (List.mem_of_getElem? (i := 0) rfl) [] [] rfl .nil).1
  have hcategory := (hread _ (List.mem_of_getElem? (i := 1) rfl) [] [] rfl .nil).1
  have hjunior := (hread _ (List.mem_of_getElem? (i := 2) rfl) _ _ rfl
    (.cons (hyears none (some 3) (Or.inr rfl)) .nil)).2
  have hsenior := (hread _ (List.mem_of_getElem? (i := 3) rfl) _ _ rfl
    (.cons (hyears (some 5) none (Or.inl rfl)) .nil)).2
  have hrequiredJunior := (hread _ (List.mem_of_getElem? (i := 4) rfl) _ _ rfl
    (.cons (hrequired true) (.cons (hyears none (some 2) (Or.inr rfl)) .nil))).2
  have hnoneRequired := (hread _ (List.mem_of_getElem? (i := 5) rfl) _ _ rfl
    (.cons (hrequired false) .nil)).2
  have htrend := (hread _ (List.mem_of_getElem? (i := 6) rfl) _ _ rfl
    (.cons (hcreated (now.minusDays trendDays).millis now.millis) .nil)).1
  simp only [List.all_nil, List.filter_true] at hcompany hcategory
  simp only [List.all_cons, List.all_nil, Bool.and_true, ← List.countP_eq_length_filter]
    at hjunior hsenior hrequiredJunior hnoneRequired
  simp only [List.all_cons, List.all_nil, Bool.and_true, Calendar.Instant.millis_minusDays]
    at htrend
  intro opened
  rw [Stats.ofResult, Stats.mk.injEq]
  exact ⟨hcompany, hcategory, hjunior, hsenior, hrequiredJunior, hnoneRequired, htrend⟩

/-- A posting of a company for developers that was not deleted. -/
def posting (company : String) (years : Option Int) (required closed : Bool) (created : Int) :
    Document :=
  ⟨[("company", .text (some company)), ("position_category", .text (some "developer")),
    ("min_years", .whole years), ("experience_required", .flag (some required)),
    ("is_closed", .flag (some closed)), ("deleted", .flag (some false)),
    ("created_at", .whole (some created))], []⟩

/-- Four postings, the last one closed. One is exactly a week old on 2025-10-27, and one a
millisecond older. -/
def fourPostings : List Document :=
  [posting "META" (some 2) true false 1760954400000,
   posting "META" (some 6) false false 1760918400000,
   posting "ACME" none false false 1760918399999,
   posting "ACME" (some 1) true true 1760954400000]

/-- Compares flags with their texts, and whole numbers with bounds in decimal. -/
def postingOracle : Oracle Document where
  term field text d :=
    ((Keyed.get? field d.slots).bind Slot.flag?).any fun b => (Scalar.flag b).display = text
  fullText _ _ _ := false
  range field low high d :=
    ((Keyed.get? field d.slots).bind Slot.whole?).any fun n =>
      low.all (fun text => (Decimal.readInt? text.toList).any (· ≤ n)) &&
        high.all (fun text => (Decimal.readInt? text.toList).any (n ≤ ·))

/-- Documents by their texts in a field, in the order in which the texts occur first. -/
def groupByText (field : String) (docs : List Document) : List (String × List Document) :=
  (docs.filterMap fun d => (Keyed.get? field d.slots).bind Slot.text?).eraseDups.map fun text =>
    (text, docs.filter fun d => (Keyed.get? field d.slots).bind Slot.text? = some text)

/-- Documents by the days of their milliseconds in a field. -/
def groupByDay (field : String) (docs : List Document) : List (String × List Document) :=
  (docs.filterMap fun d => ((Keyed.get? field d.slots).bind Slot.whole?).map (· / 86400000)
    ).eraseDups.map fun day =>
      ((Calendar.label? (day * 86400000)).getD "", docs.filter fun d =>
        d.within field (some (day * 86400000)) (some (day * 86400000 + 86399999)))

/-- An engine that groups postings by text and by day, and counts documents. -/
def postingEvaluation : Evaluation Document where
  isMatch := postingOracle.holds
  valueGroups field size docs := (groupByText field docs).take size
  timeGroups field _ docs := groupByDay field docs
  number kind _ docs := if kind = .valueCount then Decimal.Binary64.ofInt? docs.length else none

/-- The engine compares postings by what they hold. -/
theorem comparesPostings_postingEvaluation : ComparesPostings postingEvaluation postingOracle where
  isMatch _ _ := rfl
  flag field b d _ := by
    show ((Keyed.get? field d.slots).bind Slot.flag?).any _ = _
    rw [Document.holdsFlag]
    cases (Keyed.get? field d.slots).bind Slot.flag? with
    | none => rfl
    | some value => cases value <;> cases b <;> decide
  whole field low high d _ := by
    -- A bound that is written in decimal is read back as the same number.
    have hread (n : Int) : Decimal.readInt? (Decimal.intText n).toList = some n := by
      rw [Decimal.intText, String.toList_ofList, Decimal.readInt_writeInt]
    show ((Keyed.get? field d.slots).bind Slot.whole?).any _ = _
    rw [Document.within]
    cases low <;> cases high <;> simp [hread]

/-- An index of these postings. -/
def postingEngine : Engine Id where
  search _ _ := .ok ⟨0, []⟩
  aggregate _ tree := .ok (postingEvaluation.answers fourPostings tree fourPostings)
  get _ _ := .ok none

/-- The statistics of the four postings on 2025-10-27. -/
theorem ofResult_requests_fourPostings :
    ∃ results,
      (⟨postingEngine, jobs, "jobs"⟩ : DocumentSearch Id JobField).aggregateRequests
        (requests ⟨1761523200, 0⟩) = pure (.ok results) ∧
      Stats.ofResult results =
        { topCompanies := [⟨"META", 2⟩, ⟨"ACME", 1⟩]
          topPositionCategories := [⟨"developer", 3⟩]
          juniorCount := 1
          seniorCount := 1
          experienceRequiredJuniorCount := 1
          noExperienceRequiredCount := 2
          recentTrend := [⟨"2025-10-20T00:00:00.000Z", 2⟩] } := by
  obtain ⟨results, hrun, hstats⟩ := ofResult_requests postingEngine "jobs"
    comparesPostings_postingEvaluation fourPostings (fun _ => rfl) ⟨1761523200, 0⟩
  exact ⟨results, hrun, hstats.trans (by decide +kernel)⟩

end Daily

end TypedSearch
