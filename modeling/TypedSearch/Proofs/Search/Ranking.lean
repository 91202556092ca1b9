import TypedSearch.Proofs.Query.Form
import TypedSearch.Proofs.Search.Request
/-!
# `TypedSearch.Proofs.Search.Ranking`: when results come in the order of their scores

The results of a request without a sort come in the order of their scores. A request has no sort
where the window has a condition on a relevance field, whatever the condition is compiled to. One
with a value becomes a text whose words count for the score. One without a value, such as a range,
becomes nothing, because these fields are registered for values; alone it leaves nothing to rank by.

* `scoresBy_iff`: the texts that a condition on a relevance field lets count are its value.
* `sort_eq_none_iff`: the conditions under which a request has no sort.
* `rankedByText_iff`: a score that results are ordered by counts words exactly when one of those
  conditions has a value.
* `SchemaName.ranks`: all of this for every index.
* `not_rankedByText_titledRange`: with a range alone, results are ranked by nothing.
-/

set_option autoImplicit false

namespace TypedSearch

/-! ### Texts that count for the score -/

/-- Do the clauses of the group count for the score? -/
def Role.scores : Role → Bool
  | must | should => true
  | filter | mustNot => false

namespace ValueStrategy

/-- Does a value become words of a text that count for the score? -/
def ranksText : ValueStrategy → Bool
  | fullText role => role.scores
  | fanOut targets => !targets.isEmpty
  | _ => false

variable {s : ValueStrategy}

/-- The texts in the clause for a value are the value. -/
theorem eq_of_at_build (h : s.ranksText = true) {name value target text : String} {path : List Role}
    (hpart : (s.build name value).At path (.fullText target text)) : text = value := by
  cases s with
  | fullText role =>
    cases (Query.at_of_clauses_eq_none rfl hpart).2
    rfl
  | fanOut targets =>
    rcases Query.at_fanOut hpart with ⟨-, heq⟩ | ⟨target', -, heq⟩
    · cases heq
    · cases heq
      rfl
  | term role => cases h
  | custom role clause => cases h

/-- The value is a text in its clause, and counts for the score. -/
theorem exists_at_build (h : s.ranksText = true) (name value : String) :
    ∃ path target, (s.build name value).At path (.fullText target value) ∧
      ∀ r ∈ s.role :: path, r.scores = true := by
  cases s with
  | fullText role => exact ⟨[], name, .here _, List.forall_mem_singleton.2 h⟩
  | fanOut targets =>
    -- The text is looked for in the first of the fields, with a clause that may match.
    cases targets with
    | nil => cases h
    | cons target targets =>
      refine ⟨[.should], target, .clause (List.mem_cons_self ..) (.here _), ?_⟩
      simp [role, Role.scores]
  | term role => cases h
  | custom role clause => cases h

end ValueStrategy

namespace Schema

variable {F : Type} [DecidableEq F] [FieldSet F]

/-- The words of a text count for the score of a query because a condition asks for them. -/
def ScoresBy (s : Schema F) (base : Query) (c : Condition F) (text : String) : Prop :=
  ∃ role clause path target, s.registries.Asks c role clause ∧ clause ∈ base.group role ∧
    clause.At path (.fullText target text) ∧ ∀ r ∈ role :: path, r.scores = true

/-- If the request for a window has no sort, words count for the score that a condition on a
relevance field asks for. -/
def RankedByText (s : Schema F) (w : Window F) (boosts : List Query) : Prop :=
  ∀ request base, s.buildRequest w boosts = .ok request →
    s.registries.compile (w.withDefaultConditions s.defaults).conditions = .ok base →
    request.sort = none →
      ∃ c ∈ w.conditions, c.field ∈ s.relevance ∧ ∃ text, s.ScoresBy base c text

/-- An index that can be ranked by text. All fields are known, no default is on a relevance field,
and a value for a relevance field becomes words that count for the score. -/
structure RanksTexts (s : Schema F) : Prop where
  known (field : F) : s.registries.isUnknown field = false
  defaults : ∀ c ∈ s.defaults, c.field ∉ s.relevance
  texts : ∀ field ∈ s.relevance, (s.registries.values.get? field).any (·.ranksText) = true

variable {s : Schema F} {w : Window F} {boosts : List Query} {request : SearchRequest}
  {base : Query}

/-- The texts that count for the score because of a condition on a relevance field are its
value. -/
theorem scoresBy_iff (h : s.RanksTexts) {cs : List (Condition F)}
    (hbase : s.registries.compile cs = .ok base) {c : Condition F} (hc : c ∈ cs)
    (hfield : c.field ∈ s.relevance) (text : String) :
    s.ScoresBy base c text ↔ c.value = some text := by
  obtain ⟨strategy, hstrategy, hranks⟩ := (Option.any_eq_true ..).1 (h.texts c.field hfield)
  constructor
  · rintro ⟨role, clause, path, target, hasks, -, hpart, -⟩
    cases hasks with
    | value registered given =>
      obtain rfl := Option.some.inj (hstrategy.symm.trans registered)
      rw [given, ValueStrategy.eq_of_at_build hranks hpart]
    | range notForValues registered given =>
      -- A relevance field is registered for values, so it is never asked for a range.
      cases hstrategy.symm.trans notForValues
  · intro hvalue
    have hasks := Registries.Asks.value hstrategy hvalue
    obtain ⟨path, target, hpart, hscores⟩ :=
      ValueStrategy.exists_at_build hranks (FieldSet.name c.field) text
    exact ⟨strategy.role, _, path, target, hasks,
      (Registries.mem_group_iff_of_compile hbase).2 ⟨c, hc, hasks⟩, hpart, hscores⟩

/-! ### The sort of a request -/

/-- A request has no sort exactly when a condition of the window is on a relevance field. -/
theorem sort_eq_none_iff (h : s.RanksTexts) (hrequest : s.buildRequest w boosts = .ok request) :
    request.sort = none ↔ ∃ c ∈ w.conditions, c.field ∈ s.relevance := by
  obtain ⟨q, -, rfl⟩ := buildRequest_eq_ok_iff.1 hrequest
  have hany : s.relevance.any (w.withDefaultConditions s.defaults).hasConditionOn = true ↔
      ∃ c ∈ w.conditions, c.field ∈ s.relevance := by
    simp only [List.any_eq_true, Window.hasConditionOn_withDefaultConditions]
    simp only [Window.hasConditionOn_iff]
    constructor
    · rintro ⟨_, hfield, ⟨c, hc, rfl⟩ | ⟨c, hc, rfl⟩⟩
      · exact ⟨c, hc, hfield⟩
      · -- Such a default would take the sort away from every window.
        exact absurd hfield (h.defaults c hc)
    · rintro ⟨c, hc, hfield⟩
      exact ⟨c.field, hfield, Or.inl ⟨c, hc, rfl⟩⟩
  rw [← hany]
  cases s.relevance.any (w.withDefaultConditions s.defaults).hasConditionOn <;> simp

/-- A request with a sort has that of the index. -/
theorem sort_eq_of_ne_none (hrequest : s.buildRequest w boosts = .ok request)
    (hsort : request.sort ≠ none) : request.sort = some s.sort := by
  obtain ⟨q, -, rfl⟩ := buildRequest_eq_ok_iff.1 hrequest
  exact if_neg fun hany => hsort (if_pos hany)

/-- A window has a request, with the compiled query under the boosts. -/
theorem exists_request (h : s.RanksTexts) (w : Window F) (boosts : List Query) :
    ∃ request base, s.buildRequest w boosts = .ok request ∧
      s.registries.compile (w.withDefaultConditions s.defaults).conditions = .ok base ∧
      request.query = base.withBoosts boosts := by
  obtain ⟨base, hbase⟩ := Registries.exists_compile_iff.2 fun c
    (_ : c ∈ (w.withDefaultConditions s.defaults).conditions) => h.known c.field
  exact ⟨_, base, buildRequest_eq_ok_iff.2 ⟨base, hbase, rfl⟩, hbase, rfl⟩

/-- Results that come in the order of their scores are ranked by words exactly when one of the
conditions that this order is due to has a value. -/
theorem rankedByText_iff (h : s.RanksTexts) (w : Window F) (boosts : List Query) :
    s.RankedByText w boosts ↔
      (∀ c ∈ w.conditions, c.field ∉ s.relevance) ∨
        ∃ c ∈ w.conditions, c.field ∈ s.relevance ∧ c.value ≠ none := by
  -- A window has one request and one query, so those are the ones that the statement speaks of.
  obtain ⟨request, base, hrequest, hbase, -⟩ := exists_request h w boosts
  have hscores : ∀ c ∈ w.conditions, c.field ∈ s.relevance →
      ((∃ text, s.ScoresBy base c text) ↔ c.value ≠ none) := by
    intro c hc hfield
    simp only [scoresBy_iff h hbase (w.mem_withDefaultConditions_of_mem s.defaults hc) hfield,
      Option.ne_none_iff_exists']
  constructor
  · intro hranked
    by_cases hsort : request.sort = none
    · obtain ⟨c, hc, hfield, htext⟩ := hranked request base hrequest hbase hsort
      exact Or.inr ⟨c, hc, hfield, (hscores c hc hfield).1 htext⟩
    · rw [sort_eq_none_iff h hrequest] at hsort
      exact Or.inl fun c hc hfield => hsort ⟨c, hc, hfield⟩
  · intro hvalue request' base' hrequest' hbase' hsort
    obtain rfl := Except.ok.inj (hbase.symm.trans hbase')
    obtain ⟨c, hc, hfield⟩ := (sort_eq_none_iff h hrequest').1 hsort
    rcases hvalue with hnone | ⟨c', hc', hfield', hvalue⟩
    · exact absurd hfield (hnone c hc)
    · exact ⟨c', hc', hfield', (hscores c' hc' hfield').2 hvalue⟩

/-- What is requested for a window, and how its results are ordered. `base` is the query under the
boosts. -/
structure Ranks (s : Schema F) (w : Window F) (boosts : List Query) (request : SearchRequest)
    (base : Query) : Prop where
  built : s.buildRequest w boosts = .ok request
  compiled : s.registries.compile (w.withDefaultConditions s.defaults).conditions = .ok base
  boosted : request.query = base.withBoosts boosts
  /-- The results come in the order of their scores where a condition is on a relevance field. -/
  byScore : request.sort = none ↔ ∃ c ∈ w.conditions, c.field ∈ s.relevance
  /-- Otherwise they come in the order of the index. -/
  byDefault : request.sort ≠ none → request.sort = some s.sort
  /-- A condition on a relevance field lets words count for the score exactly when it has a value,
  which has these words. -/
  scored : ∀ c ∈ w.conditions, c.field ∈ s.relevance → ∀ text,
    s.ScoresBy base c text ↔ c.value = some text

/-- Every window has a request, and its results are ordered in this way. -/
theorem exists_ranks (h : s.RanksTexts) (w : Window F) (boosts : List Query) :
    ∃ request base, s.Ranks w boosts request base := by
  obtain ⟨request, base, hrequest, hbase, hquery⟩ := exists_request h w boosts
  exact ⟨request, base, hrequest, hbase, hquery, sort_eq_none_iff h hrequest,
    sort_eq_of_ne_none hrequest, fun c hc hfield =>
      scoresBy_iff h hbase (w.mem_withDefaultConditions_of_mem s.defaults hc) hfield⟩

end Schema

/-! ### The indices -/

/-- All indices can be ranked by text. -/
theorem SchemaName.ranksTexts (n : SchemaName) : n.apply fun s => s.RanksTexts := by
  cases n with
  | jobs => exact ⟨isUnknown_eq_false .jobs, by decide, by decide⟩
  | techBlogs => exact ⟨isUnknown_eq_false .techBlogs, by decide, by decide⟩
  | communityPosts => exact ⟨isUnknown_eq_false .communityPosts, by decide, by decide⟩

/-- For every index, every window and all boosts there is a request. Its results come in the order
of their scores exactly when a condition of the window is on a relevance field, and in the order of
the index otherwise. Such a condition lets the words of its value count for the score, if it has
one. So there is something to rank by exactly when one of them has a value, or there is none. -/
theorem SchemaName.ranks (n : SchemaName) :
    n.apply fun s => ∀ w boosts,
      (∃ request base, s.Ranks w boosts request base) ∧
        (s.RankedByText w boosts ↔
          (∀ c ∈ w.conditions, c.field ∉ s.relevance) ∨
            ∃ c ∈ w.conditions, c.field ∈ s.relevance ∧ c.value ≠ none) := by
  have h := n.ranksTexts
  cases n <;>
    exact fun w boosts => ⟨Schema.exists_ranks h w boosts, Schema.rankedByText_iff h w boosts⟩

/-- The first twenty job postings whose title lies between two bounds. -/
def titledRange : Window JobField where
  conditions := [.range .title (some "1") (some "2")]
  start := 0
  stop := 20
  start_le_stop := by decide
  stop_le := by decide

/-- A range on the title, as it can be written as text, is a condition on a relevance field. So the
request has no sort, but nothing else is asked for than that the postings are not deleted. -/
theorem not_rankedByText_titledRange :
    Condition.ofText "title=1..2" = .ok (.range JobField.title (some "1") (some "2")) ∧
      jobs.buildRequest titledRange [] = .ok
        ⟨.bool [.term "deleted" "false"] [] [] [] none, 0, 21, none⟩ ∧
      ¬ jobs.RankedByText titledRange [] := by
  refine ⟨rfl, rfl, ?_⟩
  rw [Schema.rankedByText_iff (SchemaName.ranksTexts .jobs)]
  rintro (hnone | ⟨c, hc, -, hvalue⟩)
  · exact hnone _ List.mem_cons_self List.mem_cons_self
  · rw [List.mem_singleton.1 hc] at hvalue
    exact hvalue rfl

end TypedSearch
