import Mathlib.Data.List.Basic
import TypedSearch.Query.Basic
import TypedSearch.Registry
/-!
# `TypedSearch.Proofs.Query.Semantics`: which documents a query matches

An `Oracle` decides the comparisons of a query for documents, and nothing is assumed about it. A
boolean query matches when all of `must` and all of `filter` match, none of `must_not` does, and
enough of `should` do. How many are enough is set by the query; where it is not, one is enough if
there is nothing in `must` and `filter`, and none is needed otherwise.

* `holds_bool`: this rule, as conditions on the members of the groups.
* `holds_fanOut`: a text looked for in several fields has to be in one of them.
* `holds_withBoosts`: clauses that only raise the score leave the matches as they are.
* `compose_cases`: the two forms of a query that is composed of clauses.
* `holds_compose`: what a document has to do to match clauses that were sorted by role.
* `holds_compose_of_required`: with required clauses only, it has to match each of them.
-/

set_option autoImplicit false

namespace TypedSearch

/-- Decides the comparisons of a query for documents. -/
structure Oracle (D : Type) where
  term : String → String → D → Bool
  fullText : String → String → D → Bool
  range : String → Option String → Option String → D → Bool

/-- How many clauses of `should` have to match in a boolean query. -/
def requiredShould (must should filter : List Query) (minimum : Option Nat) : Nat :=
  minimum.getD (if should ≠ [] ∧ must = [] ∧ filter = [] then 1 else 0)

namespace Oracle

variable {D : Type} (o : Oracle D)

mutual

/-- Does a document match a query? -/
def holds : Query → D → Bool
  | .matchAll, _ => true
  | .term field value, d => o.term field value d
  | .fullText field text, d => o.fullText field text d
  | .range field gte lte, d => o.range field gte lte d
  | .bool must should filter mustNot minimum, d =>
    allHold must d && allHold filter d && count mustNot d == 0 &&
      decide (requiredShould must should filter minimum ≤ count should d)

/-- Does a document match every query of a list? -/
def allHold : List Query → D → Bool
  | [], _ => true
  | q :: qs, d => holds q d && allHold qs d

/-- How many queries of a list a document matches. -/
def count : List Query → D → Nat
  | [], _ => 0
  | q :: qs, d => (if holds q d then 1 else 0) + count qs d

end

/-! ### The rule of boolean queries -/

/-- A document matches every query of a list exactly when it matches each of them. -/
theorem allHold_iff (qs : List Query) (d : D) :
    o.allHold qs d = true ↔ ∀ q ∈ qs, o.holds q d = true := by
  induction qs with
  | nil => simp [allHold]
  | cons q qs ih => rw [allHold, Bool.and_eq_true, ih, List.forall_mem_cons]

/-- The number of matched queries counts the members of the list that hold. -/
theorem count_eq_countP (qs : List Query) (d : D) : o.count qs d = qs.countP (o.holds · d) := by
  induction qs with
  | nil => rfl
  | cons q qs ih => rw [count, ih, List.countP_cons, Nat.add_comm]

/-- No query of a list is matched exactly when none of its members holds. -/
theorem count_eq_zero_iff (qs : List Query) (d : D) :
    o.count qs d = 0 ↔ ∀ q ∈ qs, o.holds q d = false := by
  rw [count_eq_countP, List.countP_eq_zero]
  simp

/-- Some query of a list is matched exactly when one of its members holds. -/
theorem one_le_count_iff (qs : List Query) (d : D) :
    1 ≤ o.count qs d ↔ ∃ q ∈ qs, o.holds q d = true := by
  rw [count_eq_countP]
  exact List.countP_pos_iff

/-- The rule of boolean queries, on the members of the groups. -/
theorem holds_bool (must should filter mustNot : List Query) (minimum : Option Nat) (d : D) :
    o.holds (.bool must should filter mustNot minimum) d = true ↔
      (∀ q ∈ must, o.holds q d = true) ∧ (∀ q ∈ filter, o.holds q d = true) ∧
        (∀ q ∈ mustNot, o.holds q d = false) ∧
        requiredShould must should filter minimum ≤ o.count should d := by
  rw [holds]
  simp only [Bool.and_eq_true, beq_iff_eq, decide_eq_true_eq, allHold_iff, count_eq_zero_iff,
    and_assoc]

/-- A text looked for in several fields has to be in one of them. -/
theorem holds_fanOut (targets : List String) (field text : String) (d : D) :
    o.holds ((ValueStrategy.fanOut targets).build field text) d = true ↔
      ∃ target ∈ targets, o.fullText target text d = true := by
  rw [ValueStrategy.build, holds_bool]
  show _ ∧ _ ∧ _ ∧ 1 ≤ _ ↔ _
  rw [one_le_count_iff]
  simp [holds]

/-- Clauses that only raise the score leave the matches as they are. -/
theorem holds_withBoosts (q : Query) (boosts : List Query) (d : D) :
    o.holds (q.withBoosts boosts) d = o.holds q d := by
  rw [Query.withBoosts]
  split
  · rfl
  · -- The query below is a clause that has to match, so none of the boosts has to.
    rw [Bool.eq_iff_iff, holds_bool]
    simp [requiredShould]

/-- They do so however often such clauses are added. -/
theorem holds_foldl_withBoosts (q : Query) (boosts : List (List Query)) (d : D) :
    o.holds (boosts.foldl Query.withBoosts q) d = o.holds q d := by
  induction boosts generalizing q with
  | nil => rfl
  | cons first boosts ih => rw [List.foldl_cons, ih, holds_withBoosts]

end Oracle

/-! ### Clauses sorted by role -/

namespace Clauses

/-- The fold behind `ofList`, from any groups: each group grows by the clauses of its role. -/
theorem group_foldl_add (clauses : List (Role × Query)) (c : Clauses) (role : Role) :
    (clauses.foldl (fun c e => c.add e.1 e.2) c).group role
      = c.group role ++ (clauses.filter fun e => e.1 = role).map (·.2) := by
  induction clauses generalizing c with
  | nil => simp
  | cons e clauses ih =>
    rw [List.foldl_cons, ih, group_add, List.append_assoc, List.filter_cons]
    by_cases h : e.1 = role
    · simp [h]
    · simp [h]

/-- A group holds the clauses of its role, in order. -/
theorem group_ofList (clauses : List (Role × Query)) (role : Role) :
    (ofList clauses).group role = (clauses.filter fun e => e.1 = role).map (·.2) := by
  rw [ofList, group_foldl_add]
  cases role <;> rfl

/-- The members of a group are the clauses that were entered with its role. -/
theorem mem_group_ofList (clauses : List (Role × Query)) (role : Role) (q : Query) :
    q ∈ (ofList clauses).group role ↔ (role, q) ∈ clauses := by
  rw [group_ofList, List.mem_map]
  constructor
  · rintro ⟨⟨role', q'⟩, hmem, rfl⟩
    obtain ⟨hmem, hrole⟩ := List.mem_filter.1 hmem
    rwa [← of_decide_eq_true hrole]
  · intro h
    exact ⟨(role, q), List.mem_filter.2 ⟨h, decide_eq_true rfl⟩, rfl⟩

/-- A clause leaves the required number of `should` clauses as it is. -/
theorem minimumShouldMatch_add (c : Clauses) (role : Role) (q : Query) :
    (c.add role q).minimumShouldMatch = c.minimumShouldMatch := by
  cases role <;> rfl

/-- Sorting clauses leaves open how many of `should` have to match. -/
theorem minimumShouldMatch_ofList (clauses : List (Role × Query)) :
    (ofList clauses).minimumShouldMatch = none := by
  have key : ∀ c : Clauses, c.minimumShouldMatch = none →
      (clauses.foldl (fun c e => c.add e.1 e.2) c).minimumShouldMatch = none := by
    induction clauses with
    | nil => exact fun _ hc => hc
    | cons e clauses ih =>
      intro c hc
      exact ih _ ((minimumShouldMatch_add c e.1 e.2).trans hc)
  exact key empty rfl

/-- There are no clauses exactly when all groups are empty. -/
theorem count_eq_zero_iff (c : Clauses) :
    c.count = 0 ↔ c.must = [] ∧ c.should = [] ∧ c.filter = [] ∧ c.mustNot = [] := by
  simp [count, and_assoc]

/-- The two forms of the query of clauses whose number of required `should` clauses is left open.
Where there are no clauses it matches everything; otherwise it has their groups, and one clause of
`should` is required if there is one. -/
theorem compose_cases {c : Clauses} (h : c.minimumShouldMatch = none) :
    c.count = 0 ∧ c.compose = .matchAll ∨
      c.count ≠ 0 ∧ c.compose
        = toQuery { c with minimumShouldMatch := if c.should = [] then none else some 1 } := by
  have hempty : c.isEmpty = true ↔ c.count = 0 := by
    simp [count_eq_zero_iff, isEmpty, and_assoc]
  rw [compose]
  by_cases hnone : c.count = 0
  · exact Or.inl ⟨hnone, if_pos (hempty.2 hnone)⟩
  · refine Or.inr ⟨hnone, ?_⟩
    rw [if_neg (mt hempty.1 hnone)]
    by_cases hshould : c.should = []
    · rw [if_pos (List.isEmpty_iff.2 hshould), if_pos hshould, ← h]
    · rw [if_neg (mt List.isEmpty_iff.1 hshould), if_neg hshould]

/-- What a document has to do to match the query that groups stand for, where the number of
`should` clauses is left open. -/
theorem holds_compose {D : Type} (o : Oracle D) {c : Clauses} (h : c.minimumShouldMatch = none)
    (d : D) :
    o.holds c.compose d = true ↔
      (∀ q ∈ c.must, o.holds q d = true) ∧ (∀ q ∈ c.filter, o.holds q d = true) ∧
        (∀ q ∈ c.mustNot, o.holds q d = false) ∧
        (c.should ≠ [] → ∃ q ∈ c.should, o.holds q d = true) := by
  rcases compose_cases h with ⟨hnone, heq⟩ | ⟨-, heq⟩
  · rw [heq]
    simp [Oracle.holds, c.count_eq_zero_iff.1 hnone]
  · rw [heq, toQuery, Oracle.holds_bool]
    by_cases hshould : c.should = []
    · -- Without a `should` clause none is required, whether or not there are other clauses.
      simp [hshould, requiredShould]
    · rw [if_neg hshould]
      show _ ∧ _ ∧ _ ∧ 1 ≤ _ ↔ _
      rw [Oracle.one_le_count_iff]
      simp [hshould]

/-- Where every clause is required, a document has to match each of them and nothing else. -/
theorem holds_compose_of_required {D : Type} (o : Oracle D) {clauses : List (Role × Query)}
    (h : ∀ e ∈ clauses, e.1 = .must ∨ e.1 = .filter) (d : D) :
    o.holds (ofList clauses).compose d = true ↔ ∀ e ∈ clauses, o.holds e.2 d = true := by
  have hgroup : ∀ role q, q ∈ (ofList clauses).group role ↔ (role, q) ∈ clauses :=
    mem_group_ofList clauses
  rw [holds_compose o (minimumShouldMatch_ofList clauses)]
  constructor
  · rintro ⟨hmust, hfilter, -, -⟩ ⟨role, q⟩ hmem
    rcases h _ hmem with rfl | rfl
    · exact hmust q ((hgroup .must q).2 hmem)
    · exact hfilter q ((hgroup .filter q).2 hmem)
  · intro hall
    -- No clause is excluded or preferred, so these two groups are empty.
    have hempty : ∀ role q, q ∈ (ofList clauses).group role → role = .must ∨ role = .filter :=
      fun role q hq => h _ ((hgroup role q).1 hq)
    refine ⟨fun q hq => hall _ ((hgroup .must q).1 hq),
      fun q hq => hall _ ((hgroup .filter q).1 hq), fun q hq => ?_, fun hne => ?_⟩
    · rcases hempty .mustNot q hq with hrole | hrole <;> cases hrole
    · obtain ⟨q, hq⟩ := List.exists_mem_of_ne_nil _ hne
      rcases hempty .should q hq with hrole | hrole <;> cases hrole

/-- The clauses that the query of groups requires are those of `must`. -/
theorem mem_must_compose {c : Clauses} (h : c.minimumShouldMatch = none) (q : Query) :
    (∃ groups, c.compose.clauses? = some groups ∧ q ∈ groups.must) ↔ q ∈ c.must := by
  rcases compose_cases h with ⟨hnone, heq⟩ | ⟨-, heq⟩
  · rw [heq]
    simp [Query.clauses?, c.count_eq_zero_iff.1 hnone]
  · rw [heq]
    simp [Query.clauses?, toQuery]

end Clauses

end TypedSearch
