import TypedSearch.Proofs.Registry
import TypedSearch.Proofs.Search.Request
/-!
# `TypedSearch.Proofs.Search.DeletedFilter`: when deleted documents are left out

Job postings and tech-blog articles carry a mark when they are deleted, and by default a search
requires the mark to be false. The default is added where no condition is on the mark. A condition
on the mark that has no value, such as a range, keeps the default away, and compiles to nothing
itself, because the mark is registered for values.

* `requiresDeleted_of_softDeletes`: the values that a request compares the mark with.
* `requiresDeleted_iff`: for both indices, the mark is compared with some value exactly when no
  condition is on it or one of those that are has a value.
* `not_requiresDeleted_markedRange`: with a range alone, the mark is compared with nothing.
-/

set_option autoImplicit false

namespace TypedSearch

/-- Fields that are registered alike have the same registration. -/
theorem eq_of_mem_registerAll {F σ : Type} {fields : List F} {form form' : σ} {field : F}
    (h : (field, form) ∈ registerAll fields form') : form = form' := by
  obtain ⟨field', -, hentry⟩ := List.mem_map.1 h
  exact (Prod.mk.inj hentry).2.symm

variable {F : Type} [DecidableEq F] [FieldSet F]

namespace Schema

/-- The request for a window requires the field `deleted` to hold a value: the query under the
boosts has the comparison among the clauses that have to match. -/
def RequiresDeleted (s : Schema F) (w : Window F) (boosts : List Query) (value : String) : Prop :=
  ∃ (request : SearchRequest) (base : Query) (groups : Clauses),
    s.buildRequest w boosts = .ok request ∧ request.query = base.withBoosts boosts ∧
      base.clauses? = some groups ∧ .term "deleted" value ∈ groups.must

/-- An index whose documents carry a mark when they are deleted. All fields are known, the mark is
false by default, and the field `deleted` is required to hold the values of the mark and no
others. -/
structure SoftDeletes (s : Schema F) (mark : F) : Prop where
  known (field : F) : s.registries.isUnknown field = false
  defaults : s.defaults = [.flag mark false]
  asks (c : Condition F) (value : String) :
    s.registries.Asks c .must (.term "deleted" value) ↔ c.field = mark ∧ c.value = some value

/-! ### What is compared with the mark -/

/-- Where all fields are known, a request requires what is asked for with `must` by the conditions
and the defaults. -/
theorem requiresDeleted_iff_asks {s : Schema F}
    (known : ∀ field, s.registries.isUnknown field = false) (w : Window F) (boosts : List Query)
    (value : String) :
    s.RequiresDeleted w boosts value ↔
      ∃ c ∈ (w.withDefaultConditions s.defaults).conditions,
        s.registries.Asks c .must (.term "deleted" value) := by
  obtain ⟨q, hq⟩ := Registries.exists_compile_iff.2 fun c
    (_ : c ∈ (w.withDefaultConditions s.defaults).conditions) => known c.field
  rw [← Registries.requires_compile_iff hq]
  constructor
  · rintro ⟨request, base, groups, hrequest, hbase, hgroups, hmem⟩
    obtain ⟨q', hq', rfl⟩ := buildRequest_eq_ok_iff.1 hrequest
    -- The boosts may be a boolean query too; what is under them is still the compiled query.
    have hsame : q' = q := Except.ok.inj (hq'.symm.trans hq)
    have hquery : q' = base := Query.withBoosts_injective boosts hbase
    rw [← hsame, hquery]
    exact ⟨groups, hgroups, hmem⟩
  · rintro ⟨groups, hgroups, hmem⟩
    exact ⟨_, q, groups, buildRequest_eq_ok_iff.2 ⟨q, hq, rfl⟩, rfl, hgroups, hmem⟩

/-- The values that a request compares the mark with. -/
theorem requiresDeleted_of_softDeletes {s : Schema F} {mark : F} (h : s.SoftDeletes mark)
    (w : Window F) (boosts : List Query) (value : String) :
    s.RequiresDeleted w boosts value ↔
      (∀ c ∈ w.conditions, c.field ≠ mark) ∧ value = "false" ∨
        ∃ c ∈ w.conditions, c.field = mark ∧ c.value = some value := by
  have hfree : w.hasConditionOn mark = false ↔ ∀ c ∈ w.conditions, c.field ≠ mark := by
    rw [← Bool.not_eq_true, Window.hasConditionOn_iff]
    simp
  have hadded : ∀ c, c ∈ (w.withDefaultConditions s.defaults).conditions ↔
      c ∈ w.conditions ∨ w.hasConditionOn mark = false ∧ c = .flag mark false := by
    intro c
    rw [h.defaults]
    exact Window.mem_withDefault w (.flag mark false) c
  rw [requiresDeleted_iff_asks h.known]
  simp only [h.asks, hadded, ← hfree]
  constructor
  · rintro ⟨c, hc | ⟨hnone, rfl⟩, hfield, hvalue⟩
    · exact Or.inr ⟨c, hc, hfield, hvalue⟩
    · exact Or.inl ⟨hnone, (Option.some.inj hvalue).symm⟩
  · rintro (⟨hnone, rfl⟩ | ⟨c, hc, hfield, hvalue⟩)
    · exact ⟨.flag mark false, Or.inr ⟨hnone, rfl⟩, rfl, rfl⟩
    · exact ⟨c, Or.inl hc, hfield, hvalue⟩

/-- The mark is compared with some value exactly when no condition is on it or one of those that
are has a value. -/
theorem exists_requiresDeleted_iff {s : Schema F} {mark : F} (h : s.SoftDeletes mark)
    (w : Window F) (boosts : List Query) :
    (∃ value, s.RequiresDeleted w boosts value) ↔
      (∀ c ∈ w.conditions, c.field ≠ mark) ∨
        ∃ c ∈ w.conditions, c.field = mark ∧ c.value ≠ none := by
  simp only [requiresDeleted_of_softDeletes h]
  constructor
  · rintro ⟨value, ⟨hnone, -⟩ | ⟨c, hc, hfield, hvalue⟩⟩
    · exact Or.inl hnone
    · refine Or.inr ⟨c, hc, hfield, ?_⟩
      rw [hvalue]
      exact Option.some_ne_none value
  · rintro (hnone | ⟨c, hc, hfield, hvalue⟩)
    · exact ⟨"false", Or.inl ⟨hnone, rfl⟩⟩
    · obtain ⟨value, hvalue⟩ := Option.ne_none_iff_exists'.1 hvalue
      exact ⟨value, Or.inr ⟨c, hc, hfield, hvalue⟩⟩

/-! ### The indices with a mark -/

/-- Where fields are registered as filters and ranked texts, the mark as required, and all others
to be looked for in several fields, `deleted` is required to hold the values of the mark. -/
theorem asks_deleted_iff {r : Registries F} {mark : F} {exact texts ranges : List F}
    {rest : List (F × ValueStrategy)}
    (hvalues : r.values = .ofList (registerAll exact (.term .filter) ++
      registerAll texts (.fullText .should) ++ (mark, .term .must) :: rest))
    (hrest : ∀ e ∈ rest, ∃ targets, e.2 = .fanOut targets)
    (hranges : r.ranges = .ofList (registerAll ranges ⟨.filter⟩))
    (hmark : r.values.get? mark = some (.term .must)) (hname : FieldSet.name mark = "deleted")
    (c : Condition F) (value : String) :
    r.Asks c .must (.term "deleted" value) ↔ c.field = mark ∧ c.value = some value := by
  constructor
  · intro h
    -- The role and the query are fixed, so they are set apart before the cases are split.
    generalize hrole : Role.must = role at h
    generalize hquery : Query.term "deleted" value = query at h
    cases h with
    | value registered given =>
      rw [hvalues] at registered
      rcases List.mem_append.1 (Registry.mem_of_get_ofList registered) with hmem | hmem
      · -- A filter and a ranked text have other roles.
        rcases List.mem_append.1 hmem with hmem | hmem
        · rw [eq_of_mem_registerAll hmem] at hrole
          cases hrole
        · rw [eq_of_mem_registerAll hmem] at hrole
          cases hrole
      · rcases List.mem_cons.1 hmem with hentry | hmem
        · obtain ⟨hfield, rfl⟩ := Prod.mk.inj hentry
          obtain ⟨-, rfl⟩ := Query.term.inj hquery
          exact ⟨hfield, given⟩
        · -- A text looked for in several fields is no comparison with a value.
          obtain ⟨targets, htargets⟩ := hrest _ hmem
          cases htargets
          cases hquery
    | range notForValues registered given =>
      rw [hranges] at registered
      rw [eq_of_mem_registerAll (Registry.mem_of_get_ofList registered)] at hrole
      cases hrole
  · rintro ⟨hfield, hvalue⟩
    have hasks := Registries.Asks.value (r := r) (c := c) (hfield ▸ hmark) hvalue
    rwa [hfield, hname] at hasks

end Schema

/-- Job postings carry a mark when they are deleted. -/
theorem jobs_softDeletes : jobs.SoftDeletes .deleted where
  known := SchemaName.isUnknown_eq_false .jobs
  defaults := rfl
  asks := Schema.asks_deleted_iff rfl (by simp) rfl rfl rfl

/-- Tech-blog articles carry a mark when they are deleted. -/
theorem techBlogs_softDeletes : techBlogs.SoftDeletes .deleted where
  known := SchemaName.isUnknown_eq_false .techBlogs
  defaults := rfl
  asks := Schema.asks_deleted_iff rfl (by simp) rfl rfl rfl

/-- For both indices and every window, the request compares the mark with some value exactly when
no condition of the window is on the mark or one of those that are has a value; it compares the
mark with `false` by default, and otherwise with the values that were given. -/
theorem requiresDeleted_iff (boosts : List Query) :
    (∀ w : Window JobField,
      ((∃ value, jobs.RequiresDeleted w boosts value) ↔
        (∀ c ∈ w.conditions, c.field ≠ .deleted) ∨
          ∃ c ∈ w.conditions, c.field = .deleted ∧ c.value ≠ none) ∧
      ∀ value, jobs.RequiresDeleted w boosts value ↔
        (∀ c ∈ w.conditions, c.field ≠ .deleted) ∧ value = "false" ∨
          ∃ c ∈ w.conditions, c.field = .deleted ∧ c.value = some value) ∧
    ∀ w : Window BlogField,
      ((∃ value, techBlogs.RequiresDeleted w boosts value) ↔
        (∀ c ∈ w.conditions, c.field ≠ .deleted) ∨
          ∃ c ∈ w.conditions, c.field = .deleted ∧ c.value ≠ none) ∧
      ∀ value, techBlogs.RequiresDeleted w boosts value ↔
        (∀ c ∈ w.conditions, c.field ≠ .deleted) ∧ value = "false" ∨
          ∃ c ∈ w.conditions, c.field = .deleted ∧ c.value = some value := by
  constructor
  · intro w
    exact ⟨Schema.exists_requiresDeleted_iff jobs_softDeletes w boosts,
      Schema.requiresDeleted_of_softDeletes jobs_softDeletes w boosts⟩
  · intro w
    exact ⟨Schema.exists_requiresDeleted_iff techBlogs_softDeletes w boosts,
      Schema.requiresDeleted_of_softDeletes techBlogs_softDeletes w boosts⟩

/-- The first ten job postings whose mark lies between two bounds. -/
def markedRange : Window JobField where
  conditions := [.range .deleted (some "1") (some "2")]
  start := 0
  stop := 10
  start_le_stop := by decide
  stop_le := by decide

/-- A range on the mark, as it can be written as text, is a condition on the mark. So the default
is not added, and as nothing else is, deleted postings are found too. -/
theorem not_requiresDeleted_markedRange :
    Condition.ofText "deleted=1..2" = .ok (.range JobField.deleted (some "1") (some "2")) ∧
      (jobs.buildRequest markedRange []).map (·.query) = .ok .matchAll ∧
      ¬ ∃ value, jobs.RequiresDeleted markedRange [] value := by
  refine ⟨rfl, rfl, ?_⟩
  rw [Schema.exists_requiresDeleted_iff jobs_softDeletes]
  rintro (hnone | ⟨c, hc, -, hvalue⟩)
  · exact hnone _ List.mem_cons_self rfl
  · rw [List.mem_singleton.1 hc] at hvalue
    exact hvalue rfl

end TypedSearch
