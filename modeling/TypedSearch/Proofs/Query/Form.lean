import TypedSearch.Proofs.Query.Compile
import TypedSearch.Proofs.Registry
import TypedSearch.Schema.Catalog
/-!
# `TypedSearch.Proofs.Query.Form`: the form of compiled queries

Every condition that is not skipped becomes one clause in the group of its role, and the clauses of
a group keep the order of their conditions. `HasForm` says so, and what else the query looks like
where fields are asked in the standard ways: nothing but a text looked for in several fields is a
boolean query inside another, and every range has a bound. `Query.At` tells where a query stands in
another.

* `forall₂_asks_of_clauses`: the clauses are those of the conditions that are not skipped, in order.
* `range_of_asks`, `bool_of_asks`: the ranges and the boolean queries in a single clause.
* `mem_group_iff_of_compile`: the groups of a compiled query hold what its conditions ask for.
* `clauses_append`: the clauses of two lists, one behind the other.
* `compile_form`: the form of a compiled query, and the query of two lists in terms of theirs.
-/

set_option autoImplicit false

namespace TypedSearch

/-! ### Queries inside queries -/

namespace Query

/-- The clauses of a role in a query. A query that is not boolean has none. -/
def group (q : Query) (role : Role) : List Query := (q.clauses?.getD .empty).group role

/-- A query stands in another one: as the whole of it, or in a clause of the group that the path
begins with. -/
inductive At : Query → List Role → Query → Prop where
  | here (q : Query) : At q [] q
  | clause {q clause part : Query} {role : Role} {path : List Role} (member : clause ∈ q.group role)
      (inside : At clause path part) : At q (role :: path) part

/-- A query without clauses holds no other query. -/
theorem at_of_clauses_eq_none {q part : Query} {path : List Role} (h : q.clauses? = none)
    (hpart : q.At path part) : path = [] ∧ part = q := by
  cases hpart with
  | here => exact ⟨rfl, rfl⟩
  | @clause _ _ _ role _ member inside =>
    rw [group, h] at member
    cases role <;> cases member

/-- A text looked for in several fields holds the texts looked for in each of them. -/
theorem at_fanOut {targets : List String} {field text : String} {part : Query} {path : List Role}
    (hpart : ((ValueStrategy.fanOut targets).build field text).At path part) :
    path = [] ∧ part = (ValueStrategy.fanOut targets).build field text ∨
      ∃ target ∈ targets, part = .fullText target text := by
  cases hpart with
  | here => exact Or.inl ⟨rfl, rfl⟩
  | @clause _ clause _ role _ member inside =>
    have hshould : clause ∈ targets.map fun target => .fullText target text := by
      cases role with
      | should => exact member
      | must => cases member
      | filter => cases member
      | mustNot => cases member
    obtain ⟨target, htarget, rfl⟩ := List.mem_map.1 hshould
    exact Or.inr ⟨target, htarget, (at_of_clauses_eq_none rfl inside).2⟩

end Query

namespace Clauses

/-- A clause makes the number of clauses larger by one. -/
theorem count_add (c : Clauses) (role : Role) (q : Query) : (c.add role q).count = c.count + 1 := by
  cases role <;> simp only [add, count, List.length_append, List.length_singleton] <;> omega

/-- Sorting clauses loses none and doubles none. -/
theorem count_ofList (clauses : List (Role × Query)) : (ofList clauses).count = clauses.length := by
  -- Whatever was sorted before stays, so the induction is over every start.
  have key : ∀ c : Clauses,
      (clauses.foldl (fun c e => c.add e.1 e.2) c).count = c.count + clauses.length := by
    induction clauses with
    | nil => exact fun _ => rfl
    | cons e clauses ih =>
      intro c
      rw [List.foldl_cons, ih, count_add, List.length_cons]
      omega
  exact (key empty).trans (Nat.zero_add _)

/-- The query of clauses has their groups, also where it matches everything. -/
theorem group_compose {c : Clauses} (h : c.minimumShouldMatch = none) (role : Role) :
    c.compose.group role = c.group role := by
  rcases compose_cases h with ⟨hnone, heq⟩ | ⟨-, heq⟩
  · obtain ⟨hmust, hshould, hfilter, hmustNot⟩ := c.count_eq_zero_iff.1 hnone
    rw [heq]
    cases role with
    | must => exact hmust.symm
    | should => exact hshould.symm
    | filter => exact hfilter.symm
    | mustNot => exact hmustNot.symm
  · rw [heq]
    cases role <;> rfl

end Clauses

namespace Registries

variable {F : Type} [DecidableEq F] [FieldSet F]

/-! ### The clauses of conditions -/

/-- Does a condition lack what its field is asked for? -/
def skips (r : Registries F) (c : Condition F) : Bool :=
  if r.values.contains c.field then c.value.isNone else !c.hasBounds

/-- A condition on a known field has a clause unless it is skipped. -/
theorem skips_eq_isNone {r : Registries F} {c : Condition F} {found : Option (Role × Query)}
    (h : r.clause? c = .ok found) : r.skips c = found.isNone := by
  rw [clause?] at h
  rw [skips, Registry.contains]
  cases hvalues : r.values.get? c.field with
  | some s =>
    rw [hvalues] at h
    cases h
    simp
  | none =>
    cases hranges : r.ranges.get? c.field with
    | some s =>
      simp only [hvalues, hranges] at h
      cases h
      cases c.hasBounds <;> simp
    | none =>
      simp only [hvalues, hranges] at h
      cases h

/-- The clauses are those of the conditions that are not skipped, in order. -/
theorem forall₂_asks_of_clauses {r : Registries F} {cs : List (Condition F)}
    {clauses : List (Role × Query)} (h : r.clauses cs = .ok clauses) :
    List.Forall₂ (fun c e => r.Asks c e.1 e.2) (cs.filter fun c => !r.skips c) clauses := by
  obtain ⟨found, hfound, rfl⟩ := map_eq_ok_iff.1 h
  clear h
  rw [mapM_eq_ok_iff] at hfound
  -- On what was found for each condition: a skipped one drops out of both lists.
  induction hfound with
  | nil => exact .nil
  | @cons c o cs found hc _ ih =>
    rw [List.filter_cons, skips_eq_isNone hc]
    cases o with
    | none => exact ih
    | some e => exact .cons (clause_eq_some_iff.1 hc) ih

/-- The clauses of two lists of conditions, one behind the other. -/
theorem clauses_append (r : Registries F) (a b : List (Condition F)) :
    r.clauses (a ++ b)
      = (r.clauses a).bind fun xs => (r.clauses b).map fun ys => xs ++ ys := by
  rw [clauses, clauses, clauses, List.mapM_append]
  cases a.mapM r.clause? with
  | error e => rfl
  | ok xs =>
    cases b.mapM r.clause? with
    | error e => rfl
    | ok ys => exact congrArg Except.ok List.filterMap_append

/-! ### The standard ways of asking -/

/-- Every field is asked in one of the standard ways: for an exact value, for the words of a text in
the field or in several others, or for a range with its bounds included. -/
structure IsStandard (r : Registries F) : Prop where
  values (field : F) (role : Role) (clause : String → String → Query) :
    r.values.get? field ≠ some (.custom role clause)
  ranges (field : F) (s : RangeStrategy) : r.ranges.get? field = some s → s.form = inclusive

omit [FieldSet F] in
/-- Registries that are built from the standard ways of asking. -/
theorem isStandard_ofList {values : List (F × ValueStrategy)} {ranges : List (F × RangeStrategy)}
    (hvalues : ∀ e ∈ values, ∀ role clause, e.2 ≠ .custom role clause)
    (hranges : ∀ e ∈ ranges, e.2.form = inclusive) :
    IsStandard ⟨.ofList values, .ofList ranges⟩ where
  values _ role clause hget := hvalues _ (Registry.mem_of_get_ofList hget) role clause rfl
  ranges _ _ hget := hranges _ (Registry.mem_of_get_ofList hget)

variable {r : Registries F} {c : Condition F} {role : Role} {clause : Query} {path : List Role}

omit [FieldSet F] in
/-- A range with its bounds included is nothing but the range. -/
theorem IsStandard.build_eq (h : r.IsStandard) {field : F} {s : RangeStrategy}
    (hs : r.ranges.get? field = some s) (name : String) (gte lte : Option String) :
    s.build name gte lte = .range name gte lte := by
  rw [RangeStrategy.build, h.ranges field s hs]
  rfl

/-- Every range in a clause has a bound. -/
theorem range_of_asks (h : r.IsStandard) (hasks : r.Asks c role clause) {field : String}
    {gte lte : Option String} (hpart : clause.At path (.range field gte lte)) :
    gte ≠ none ∨ lte ≠ none := by
  cases hasks with
  | @value s v registered given =>
    cases s with
    | term role => cases (Query.at_of_clauses_eq_none rfl hpart).2
    | fullText role => cases (Query.at_of_clauses_eq_none rfl hpart).2
    | fanOut targets =>
      rcases Query.at_fanOut hpart with ⟨-, heq⟩ | ⟨target, -, heq⟩
      · cases heq
      · cases heq
    | custom role clause => exact absurd registered (h.values c.field role clause)
  | @range s notForValues registered given =>
    rw [h.build_eq registered] at hpart
    cases (Query.at_of_clauses_eq_none rfl hpart).2
    exact given

/-- The only boolean query in a clause is a text looked for in several fields, as the whole clause
and with the role `must`. -/
theorem bool_of_asks (h : r.IsStandard) (hasks : r.Asks c role clause) {inner : Clauses}
    (hpart : clause.At path inner.toQuery) :
    path = [] ∧ role = .must ∧ ∃ targets text, r.values.get? c.field = some (.fanOut targets) ∧
      c.value = some text ∧
      inner = ⟨[], targets.map fun target => .fullText target text, [], [], some 1⟩ := by
  obtain ⟨must, should, filter, mustNot, minimum⟩ := inner
  cases hasks with
  | @value s text registered given =>
    cases s with
    | term role => cases (Query.at_of_clauses_eq_none rfl hpart).2
    | fullText role => cases (Query.at_of_clauses_eq_none rfl hpart).2
    | fanOut targets =>
      rcases Query.at_fanOut hpart with ⟨hpath, heq⟩ | ⟨target, -, heq⟩
      · cases heq
        exact ⟨hpath, rfl, targets, text, registered, given, rfl⟩
      · cases heq
    | custom role clause => exact absurd registered (h.values c.field role clause)
  | @range s notForValues registered given =>
    rw [h.build_eq registered] at hpart
    cases (Query.at_of_clauses_eq_none rfl hpart).2

/-! ### The form of a query -/

/-- The form of the query of some conditions. -/
structure HasForm (r : Registries F) (cs : List (Condition F)) (q : Query) : Prop where
  /-- It matches everything by its form exactly when all conditions are skipped. -/
  matchAll : q = .matchAll ↔ ∀ c ∈ cs, r.skips c = true
  /-- Otherwise it is boolean, with one clause for each condition that is not skipped. Some clause
  of `should` is required if there is one. -/
  bool : q ≠ .matchAll → ∃ groups, q.clauses? = some groups ∧
    groups.count = (cs.filter fun c => !r.skips c).length ∧
    groups.minimumShouldMatch = if groups.should = [] then none else some 1
  /-- The groups hold what these conditions ask for, by role and in their order. -/
  groups : ∃ clauses : List (Role × Query),
    List.Forall₂ (fun c e => r.Asks c e.1 e.2) (cs.filter fun c => !r.skips c) clauses ∧
      ∀ role, q.group role = (clauses.filter fun e => e.1 = role).map (·.2)
  /-- Every range has a bound. -/
  ranges (path : List Role) (field : String) (gte lte : Option String) :
    q.At path (.range field gte lte) → gte ≠ none ∨ lte ≠ none
  /-- A boolean query inside is a clause of `must`, and a text looked for in several fields. -/
  nested (path : List Role) (inner : Clauses) : q.At path inner.toQuery → path ≠ [] →
    path = [.must] ∧ ∃ c ∈ cs, ∃ targets text, r.values.get? c.field = some (.fanOut targets) ∧
      c.value = some text ∧
      inner = ⟨[], targets.map fun target => .fullText target text, [], [], some 1⟩

/-- The groups of the query of some conditions hold what the conditions ask for. -/
theorem mem_group_iff_of_compile {cs : List (Condition F)} {q : Query} (h : r.compile cs = .ok q) :
    clause ∈ q.group role ↔ ∃ c ∈ cs, r.Asks c role clause := by
  obtain ⟨clauses, hclauses, rfl⟩ := map_eq_ok_iff.1 h
  rw [Clauses.group_compose (Clauses.minimumShouldMatch_ofList clauses),
    Clauses.mem_group_ofList, mem_clauses_iff hclauses]

/-- What stands inside the query of some conditions stands in what one of them asks for. -/
theorem exists_asks_of_at {cs : List (Condition F)} {q part : Query} (h : r.compile cs = .ok q)
    (hpart : q.At (role :: path) part) :
    ∃ c ∈ cs, ∃ clause, r.Asks c role clause ∧ clause.At path part := by
  cases hpart with
  | @clause _ clause _ _ _ member inside =>
    obtain ⟨c, hc, hasks⟩ := (mem_group_iff_of_compile h).1 member
    exact ⟨c, hc, clause, hasks, inside⟩

/-- A compiled query has the form that its conditions give it. -/
theorem hasForm_of_compile (h : r.IsStandard) {cs : List (Condition F)} {q : Query}
    (hq : r.compile cs = .ok q) : r.HasForm cs q := by
  -- What stands inside is found by how the query was compiled, the rest by how it is composed.
  have hcompile := hq
  obtain ⟨clauses, hclauses, rfl⟩ := map_eq_ok_iff.1 hq
  have hasks := forall₂_asks_of_clauses hclauses
  have hopen := Clauses.minimumShouldMatch_ofList clauses
  -- There are as many clauses as conditions that are not skipped.
  have hcount : (Clauses.ofList clauses).count = (cs.filter fun c => !r.skips c).length := by
    rw [Clauses.count_ofList, hasks.length_eq]
  have hskipped : (Clauses.ofList clauses).count = 0 ↔ ∀ c ∈ cs, r.skips c = true := by
    rw [hcount, List.length_eq_zero_iff, List.filter_eq_nil_iff]
    simp
  refine ⟨?_, ?_, ⟨clauses, hasks, ?_⟩, ?_, ?_⟩
  · rw [← hskipped]
    rcases Clauses.compose_cases hopen with ⟨hnone, heq⟩ | ⟨hsome, heq⟩
    · simp [heq, hnone]
    · simp [heq, hsome, Clauses.toQuery]
  · intro hne
    rcases Clauses.compose_cases hopen with ⟨-, heq⟩ | ⟨-, heq⟩
    · exact absurd heq hne
    · rw [heq]
      exact ⟨_, rfl, hcount, rfl⟩
  · intro role
    rw [Clauses.group_compose hopen, Clauses.group_ofList]
  · intro path field gte lte hpart
    cases path with
    | nil =>
      -- The whole query matches everything or is boolean, so it is no range.
      generalize hwhole : (Clauses.ofList clauses).compose = whole at hpart
      cases hpart
      rcases Clauses.compose_cases hopen with ⟨-, heq⟩ | ⟨-, heq⟩
      · cases heq.symm.trans hwhole
      · cases heq.symm.trans hwhole
    | cons role path =>
      obtain ⟨c, -, clause, hclause, hinside⟩ := exists_asks_of_at hcompile hpart
      exact range_of_asks h hclause hinside
  · intro path inner hpart hinside
    obtain ⟨role, path, rfl⟩ := List.exists_cons_of_ne_nil hinside
    obtain ⟨c, hc, clause, hclause, hinside⟩ := exists_asks_of_at hcompile hpart
    obtain ⟨rfl, rfl, hfanOut⟩ := bool_of_asks h hclause hinside
    exact ⟨rfl, c, hc, hfanOut⟩

/-! ### Two lists of conditions -/

/-- The groups of the query of two lists are those of their queries, one behind the other. -/
theorem group_of_compile_append {a b : List (Condition F)} {q qa qb : Query}
    (hq : r.compile (a ++ b) = .ok q) (ha : r.compile a = .ok qa) (hb : r.compile b = .ok qb)
    (role : Role) : q.group role = qa.group role ++ qb.group role := by
  obtain ⟨xs, hxs, rfl⟩ := map_eq_ok_iff.1 ha
  obtain ⟨ys, hys, rfl⟩ := map_eq_ok_iff.1 hb
  have hboth : r.clauses (a ++ b) = .ok (xs ++ ys) := by
    rw [clauses_append, hxs, hys]
    rfl
  rw [compile, hboth] at hq
  cases hq
  simp only [Clauses.group_compose (Clauses.minimumShouldMatch_ofList _), Clauses.group_ofList,
    List.filter_append, List.map_append]

/-- Two lists have no query for the reason of the first, or else for that of the second. -/
theorem compile_append_eq_error_iff {a b : List (Condition F)} {e : SearchError} :
    r.compile (a ++ b) = .error e ↔
      r.compile a = .error e ∨ (∃ qa, r.compile a = .ok qa) ∧ r.compile b = .error e := by
  simp only [compile, clauses_append, map_eq_error_iff]
  cases r.clauses a with
  | error e' => simp [Except.bind, Except.map]
  | ok xs =>
    cases r.clauses b with
    | error e' => simp [Except.bind, Except.map]
    | ok ys => simp [Except.bind, Except.map]

/-- Where fields are asked in the standard ways, a compiled query has the form of its conditions.
Two lists of conditions have a query exactly when each of them has one. Its groups are theirs, those
of the first list in front, and where it is missing the error is that of the first list that has
one. -/
theorem compile_form (h : r.IsStandard) :
    (∀ cs q, r.compile cs = .ok q → r.HasForm cs q) ∧
      ∀ a b,
        ((∃ q, r.compile (a ++ b) = .ok q) ↔
          (∃ qa, r.compile a = .ok qa) ∧ ∃ qb, r.compile b = .ok qb) ∧
        (∀ q qa qb, r.compile (a ++ b) = .ok q → r.compile a = .ok qa → r.compile b = .ok qb →
          ∀ role, q.group role = qa.group role ++ qb.group role) ∧
        ∀ e, r.compile (a ++ b) = .error e ↔
          r.compile a = .error e ∨ (∃ qa, r.compile a = .ok qa) ∧ r.compile b = .error e := by
  refine ⟨fun cs q hq => hasForm_of_compile h hq, fun a b => ⟨?_, ?_, ?_⟩⟩
  · simp only [exists_compile_iff, List.forall_mem_append]
  · intro q qa qb hq ha hb role
    exact group_of_compile_append hq ha hb role
  · intro e
    exact compile_append_eq_error_iff

end Registries

/-- All indices are asked in the standard ways. -/
theorem SchemaName.isStandard (n : SchemaName) : n.apply fun s => s.registries.IsStandard := by
  cases n <;>
    exact Registries.isStandard_ofList (by simp [registerAll, or_imp, forall_and])
      (by simp [registerAll])

/-- Conditions on job postings: two filters, a required word, a preferred one, and a range on a
field that is asked for its value. -/
def kafkaConditions : List (Condition JobField) :=
  [.ofValue .company "META", .range .deleted (some "1") none, .ofValue .searchWord "kafka",
   .ofValue .title "rust", .range .minYears none (some "3")]

/-- The query of `kafkaConditions`, with four clauses for five conditions. -/
def kafkaQuery : Query :=
  .bool
    [.bool [] [.fullText "title" "kafka", .fullText "one_line_summary" "kafka",
      .fullText "full_description" "kafka"] [] [] (some 1)]
    [.fullText "title" "rust"] [.term "company" "META", .range "min_years" none (some "3")] []
    (some 1)

/-- The form of `kafkaQuery`. -/
theorem Registries.compile_form_kafkaConditions :
    jobs.registries.IsStandard ∧ jobs.registries.compile kafkaConditions = .ok kafkaQuery ∧
      jobs.registries.HasForm kafkaConditions kafkaQuery := by
  have hstandard : jobs.registries.IsStandard := SchemaName.isStandard .jobs
  exact ⟨hstandard, rfl, (compile_form hstandard).1 kafkaConditions kafkaQuery rfl⟩

end TypedSearch
