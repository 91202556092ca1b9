import TypedSearch.Proofs.FirstError
import TypedSearch.Proofs.Query.Semantics
import TypedSearch.Query.Compile
/-!
# `TypedSearch.Proofs.Query.Compile`: the query means what the conditions say

`Registries.Asks` is what a single condition asks for, `Registries.Meets` what the conditions
together ask of a document. Both speak of the conditions alone; the boolean query, its groups and
the number of required clauses do not occur in them.

* `clauses_eq_error_iff`: the first condition on an unknown field is the error.
* `mem_clauses_iff`: the clauses are what the conditions ask for.
* `compile_meaning`: a list of conditions fails only for an unknown field, and its query is matched
  by the documents that meet the conditions.
* `exists_compile_iff`, `exists_isUnknown_of_compile`: conditions have a query exactly when all of
  their fields are known, and otherwise the error names one that is not.
* `holds_compile_of_means`: the query of conditions that are required, each with its own meaning.
* `requires_compile_iff`: the clauses that the query requires are those asked for with `must`.
-/

set_option autoImplicit false

namespace TypedSearch

/-- Some bound is given exactly when one of the two is. -/
theorem Condition.hasBounds_iff {F : Type} (c : Condition F) :
    c.hasBounds = true ↔ c.gte ≠ none ∨ c.lte ≠ none := by
  rw [hasBounds, Bool.or_eq_true, Option.isSome_iff_ne_none, Option.isSome_iff_ne_none]

namespace Registries

variable {F : Type} [DecidableEq F] [FieldSet F]

/-- What a condition asks for: a field that is registered for values is asked for the value of the
condition, and a field that is registered for ranges only is asked for its bounds. A condition
without what its field is asked for asks for nothing. -/
inductive Asks (r : Registries F) (c : Condition F) : Role → Query → Prop where
  | value {s : ValueStrategy} {v : String} (registered : r.values.get? c.field = some s)
      (given : c.value = some v) : Asks r c s.role (s.build (FieldSet.name c.field) v)
  | range {s : RangeStrategy} (notForValues : r.values.get? c.field = none)
      (registered : r.ranges.get? c.field = some s) (given : c.gte ≠ none ∨ c.lte ≠ none) :
      Asks r c s.role (s.build (FieldSet.name c.field) c.gte c.lte)

/-- What a list of conditions asks of a document. -/
structure Meets {D : Type} (r : Registries F) (o : Oracle D) (cs : List (Condition F)) (d : D) :
    Prop where
  /-- Whatever is asked for with `must` or `filter` matches. -/
  required : ∀ c ∈ cs, ∀ role q, r.Asks c role q → role = .must ∨ role = .filter →
    o.holds q d = true
  /-- Nothing that is asked for with `mustNot` matches. -/
  excluded : ∀ c ∈ cs, ∀ q, r.Asks c .mustNot q → o.holds q d = false
  /-- Where something is asked for with `should`, some such thing matches. -/
  preferred : (∃ c ∈ cs, ∃ q, r.Asks c .should q) →
    ∃ c ∈ cs, ∃ q, r.Asks c .should q ∧ o.holds q d = true

/-! ### One condition -/

/-- A condition fails exactly when its field is unknown, with the name of the field. -/
theorem clause_eq_error_iff {r : Registries F} {c : Condition F} {e : SearchError} :
    r.clause? c = .error e ↔
      r.isUnknown c.field = true ∧ e = .unknownField (FieldSet.name c.field) := by
  rw [clause?, isUnknown, Registry.contains, Registry.contains]
  cases r.values.get? c.field with
  | some s => simp
  | none =>
    cases r.ranges.get? c.field with
    | some s => simp
    | none => simp [eq_comm]

/-- A condition on a known field has its clause, or is skipped. -/
theorem exists_clause_iff {r : Registries F} {c : Condition F} :
    (∃ found, r.clause? c = .ok found) ↔ r.isUnknown c.field = false := by
  cases h : r.clause? c with
  | ok found =>
    have hne : r.isUnknown c.field ≠ true := by
      intro hunknown
      rw [clause_eq_error_iff.2 ⟨hunknown, rfl⟩] at h
      cases h
    simpa using hne
  | error e => simp [(clause_eq_error_iff.1 h).1]

/-- The clause of a condition is what the condition asks for. -/
theorem clause_eq_some_iff {r : Registries F} {c : Condition F} {role : Role} {q : Query} :
    r.clause? c = .ok (some (role, q)) ↔ r.Asks c role q := by
  rw [clause?]
  constructor
  · intro h
    cases hvalues : r.values.get? c.field with
    | some s =>
      rw [hvalues] at h
      obtain ⟨v, hv, hclause⟩ := Option.map_eq_some_iff.1 (Except.ok.inj h)
      cases hclause
      exact .value hvalues hv
    | none =>
      cases hranges : r.ranges.get? c.field with
      | some s =>
        simp only [hvalues, hranges, Except.ok.injEq, Option.ite_none_right_eq_some,
          Condition.hasBounds_iff] at h
        obtain ⟨hbounds, hclause⟩ := h
        cases hclause
        exact .range hvalues hranges hbounds
      | none =>
        simp only [hvalues, hranges] at h
        cases h
  · rintro (⟨hvalues, hv⟩ | ⟨hvalues, hranges, hbounds⟩)
    · rw [hvalues, hv]
      rfl
    · simp only [hvalues, hranges]
      rw [if_pos (c.hasBounds_iff.2 hbounds)]

/-! ### A list of conditions -/

/-- The first condition on an unknown field is the error of the clauses. -/
theorem clauses_eq_error_iff {r : Registries F} {cs : List (Condition F)} {e : SearchError} :
    r.clauses cs = .error e ↔
      ∃ before c after, cs = before ++ c :: after ∧
        (∀ c' ∈ before, r.isUnknown c'.field = false) ∧ r.isUnknown c.field = true ∧
        e = .unknownField (FieldSet.name c.field) := by
  rw [clauses, map_eq_error_iff, mapM_eq_error_iff]
  simp only [exists_clause_iff, clause_eq_error_iff]

/-- The clauses are what the conditions ask for. -/
theorem mem_clauses_iff {r : Registries F} {cs : List (Condition F)}
    {clauses : List (Role × Query)} (h : r.clauses cs = .ok clauses) (role : Role) (q : Query) :
    (role, q) ∈ clauses ↔ ∃ c ∈ cs, r.Asks c role q := by
  obtain ⟨found, hfound, rfl⟩ := map_eq_ok_iff.1 h
  simp only [List.mem_filterMap, id_eq, exists_eq_right, mem_iff_of_mapM_eq_ok hfound,
    clause_eq_some_iff]

/-- A document matches composed clauses exactly when it meets the conditions they come from. -/
theorem holds_compose_iff {D : Type} {r : Registries F} {cs : List (Condition F)}
    {clauses : List (Role × Query)} (h : r.clauses cs = .ok clauses) (o : Oracle D) (d : D) :
    o.holds (Clauses.ofList clauses).compose d = true ↔ r.Meets o cs d := by
  -- Each group has what is asked for with its role, so the four parts correspond one by one.
  have hgroup : ∀ role q, q ∈ (Clauses.ofList clauses).group role ↔ ∃ c ∈ cs, r.Asks c role q := by
    intro role q
    rw [Clauses.mem_group_ofList, mem_clauses_iff h]
  rw [Clauses.holds_compose o (Clauses.minimumShouldMatch_ofList clauses)]
  constructor
  · rintro ⟨hmust, hfilter, hmustNot, hshould⟩
    refine ⟨?_, ?_, ?_⟩
    · rintro c hc role q hasks (rfl | rfl)
      · exact hmust q ((hgroup .must q).2 ⟨c, hc, hasks⟩)
      · exact hfilter q ((hgroup .filter q).2 ⟨c, hc, hasks⟩)
    · intro c hc q hasks
      exact hmustNot q ((hgroup .mustNot q).2 ⟨c, hc, hasks⟩)
    · rintro ⟨c, hc, q, hasks⟩
      have hmem := (hgroup .should q).2 ⟨c, hc, hasks⟩
      obtain ⟨q', hq', hholds⟩ := hshould (List.ne_nil_of_mem hmem)
      obtain ⟨c', hc', hasks'⟩ := (hgroup .should q').1 hq'
      exact ⟨c', hc', q', hasks', hholds⟩
  · rintro ⟨hrequired, hexcluded, hpreferred⟩
    refine ⟨?_, ?_, ?_, ?_⟩
    · intro q hq
      obtain ⟨c, hc, hasks⟩ := (hgroup .must q).1 hq
      exact hrequired c hc .must q hasks (Or.inl rfl)
    · intro q hq
      obtain ⟨c, hc, hasks⟩ := (hgroup .filter q).1 hq
      exact hrequired c hc .filter q hasks (Or.inr rfl)
    · intro q hq
      obtain ⟨c, hc, hasks⟩ := (hgroup .mustNot q).1 hq
      exact hexcluded c hc q hasks
    · intro hne
      obtain ⟨q, hq⟩ := List.exists_mem_of_ne_nil _ hne
      obtain ⟨c, hc, hasks⟩ := (hgroup .should q).1 hq
      obtain ⟨c', hc', q', hasks', hholds⟩ := hpreferred ⟨c, hc, q, hasks⟩
      exact ⟨q', (hgroup .should q').2 ⟨c', hc', hasks'⟩, hholds⟩

/-! ### The query -/

/-- The first condition on an unknown field is the error. -/
theorem compile_eq_error_iff {r : Registries F} {cs : List (Condition F)} {e : SearchError} :
    r.compile cs = .error e ↔
      ∃ before c after, cs = before ++ c :: after ∧
        (∀ c' ∈ before, r.isUnknown c'.field = false) ∧ r.isUnknown c.field = true ∧
        e = .unknownField (FieldSet.name c.field) := by
  rw [compile, map_eq_error_iff, clauses_eq_error_iff]

/-- Conditions have no query only because the field of one of them is unknown. -/
theorem exists_isUnknown_of_compile {r : Registries F} {cs : List (Condition F)} {e : SearchError}
    (h : r.compile cs = .error e) :
    ∃ field, r.isUnknown field = true ∧ e = .unknownField (FieldSet.name field) := by
  obtain ⟨_, c, _, -, -, hunknown, he⟩ := compile_eq_error_iff.1 h
  exact ⟨c.field, hunknown, he⟩

/-- Conditions have a query exactly when all of their fields are known. -/
theorem exists_compile_iff {r : Registries F} {cs : List (Condition F)} :
    (∃ q, r.compile cs = .ok q) ↔ ∀ c ∈ cs, r.isUnknown c.field = false := by
  rw [compile, exists_map_eq_ok_iff, clauses, exists_map_eq_ok_iff, exists_mapM_eq_ok_iff]
  simp only [exists_clause_iff]

/-- The condition requires just those documents for which the predicate is true. -/
def Means {D : Type} (r : Registries F) (o : Oracle D) (c : Condition F) (p : D → Bool) : Prop :=
  ∃ role query, r.clause? c = .ok (some (role, query)) ∧ (role = .must ∨ role = .filter) ∧
    ∀ d, o.holds query d = p d

/-- Conditions that require something each require all of it together. -/
theorem holds_compile_of_means {D : Type} {r : Registries F} {o : Oracle D}
    {cs : List (Condition F)} {ps : List (D → Bool)} (h : List.Forall₂ (r.Means o) cs ps)
    {q : Query} (hq : r.compile cs = .ok q) (d : D) :
    o.holds q d = true ↔ ∀ p ∈ ps, p d = true := by
  obtain ⟨clauses, hclauses, hroles, hholds⟩ : ∃ clauses, r.clauses cs = .ok clauses ∧
      (∀ e ∈ clauses, e.1 = .must ∨ e.1 = .filter) ∧
      ((∀ e ∈ clauses, o.holds e.2 d = true) ↔ ∀ p ∈ ps, p d = true) := by
    clear hq
    induction h with
    | nil => exact ⟨[], rfl, by simp, by simp⟩
    | cons hmeans _ ih =>
      obtain ⟨role, query, hclause, hrole, hquery⟩ := hmeans
      obtain ⟨clauses, hclauses, hroles, hholds⟩ := ih
      obtain ⟨found, hfound, rfl⟩ := map_eq_ok_iff.1 hclauses
      refine ⟨(role, query) :: found.filterMap id, ?_, ?_, ?_⟩
      · rw [Registries.clauses, mapM_cons_except, hclause, hfound]
        rfl
      · exact List.forall_mem_cons.2 ⟨hrole, hroles⟩
      · rw [List.forall_mem_cons, List.forall_mem_cons, hholds, hquery]
  obtain ⟨clauses', hclauses', rfl⟩ := map_eq_ok_iff.1 hq
  obtain rfl : clauses = clauses' := Except.ok.inj (hclauses.symm.trans hclauses')
  rw [Clauses.holds_compose_of_required o hroles, hholds]

/-- The clauses that the query requires are those asked for with `must`. -/
theorem requires_compile_iff {r : Registries F} {cs : List (Condition F)} {q : Query}
    (h : r.compile cs = .ok q) (clause : Query) :
    (∃ groups, q.clauses? = some groups ∧ clause ∈ groups.must) ↔
      ∃ c ∈ cs, r.Asks c .must clause := by
  obtain ⟨clauses, hclauses, rfl⟩ := map_eq_ok_iff.1 h
  rw [Clauses.mem_must_compose (Clauses.minimumShouldMatch_ofList clauses),
    ← mem_clauses_iff hclauses]
  exact Clauses.mem_group_ofList clauses .must clause

/-- A list of conditions fails exactly when some field is unknown, and then with the first unknown
field in the order of the list. Otherwise a document matches its query exactly when it meets the
conditions. -/
theorem compile_meaning {D : Type} (r : Registries F) (cs : List (Condition F)) :
    ((∃ e, r.compile cs = .error e) ↔ ∃ c ∈ cs, r.isUnknown c.field = true) ∧
      (∀ e, r.compile cs = .error e →
        ∃ before c after, cs = before ++ c :: after ∧
          (∀ c' ∈ before, r.isUnknown c'.field = false) ∧ r.isUnknown c.field = true ∧
          e = .unknownField (FieldSet.name c.field)) ∧
      (∀ q, r.compile cs = .ok q →
        ∀ (o : Oracle D) (d : D), o.holds q d = true ↔ r.Meets o cs d) := by
  refine ⟨⟨?_, ?_⟩, fun e => compile_eq_error_iff.1, ?_⟩
  · rintro ⟨e, he⟩
    obtain ⟨before, c, after, rfl, -, hunknown, -⟩ := compile_eq_error_iff.1 he
    exact ⟨c, by simp, hunknown⟩
  · rintro ⟨c, hc, hunknown⟩
    cases h : r.compile cs with
    | error e => exact ⟨e, rfl⟩
    | ok q =>
      have hknown := exists_compile_iff.1 ⟨q, h⟩ c hc
      rw [hknown] at hunknown
      cases hunknown
  · intro q h o d
    obtain ⟨clauses, hclauses, rfl⟩ := map_eq_ok_iff.1 h
    exact holds_compose_iff hclauses o d

end Registries

end TypedSearch
