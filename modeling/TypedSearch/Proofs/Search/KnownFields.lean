import TypedSearch.Proofs.Condition
import TypedSearch.Proofs.Registry
import TypedSearch.Proofs.Search.RoundTrips
/-!
# `TypedSearch.Proofs.Search.KnownFields`: where an unknown field can come from

The error for an unknown field has two sources: a name that no field has, where a condition is read,
and a field that is registered nowhere, where conditions are compiled. In the three indices every
field is registered, so that only the first of them is left.

* `Schema.compiles_iff`: everything that is asked of an index compiles exactly when all fields are
  known.
* `Operation.exists_isUnknown_of_answerFrom`: an operation fails for an unknown field only where one
  is registered nowhere.
* `Condition.ofText_eq_unknownField_iff`: the texts that fail for an unknown field.
* `SchemaName.compiles`: what follows for every index.
-/

set_option autoImplicit false

namespace TypedSearch

variable {F : Type} [DecidableEq F] [FieldSet F]

/-! ### Compiling -/

/-- Whatever is asked of an index compiles. -/
structure Schema.Compiles (s : Schema F) : Prop where
  /-- Every window has a request. -/
  windows (w : Window F) (boosts : List Query) : ∃ request, s.buildRequest w boosts = .ok request
  /-- Every batch has a tree. -/
  batches (b : Batch F) : ∃ tree, b.compile s.registries = .ok tree
  /-- Bucket requests make a batch with a tree exactly when there are any, with distinct names that
  are not blank. -/
  bucketRequests (rs : List (BucketRequest F)) :
    (∃ b tree, DocumentSearch.batchOf rs = .ok b ∧ b.compile s.registries = .ok tree) ↔
      rs ≠ [] ∧ (rs.map (·.name)).Nodup ∧ ∀ r ∈ rs, Text.isAllBlank r.name.toList = false

/-- The window with one condition, for a value of a field, and no results. -/
def Window.onField (field : F) : Window F := ⟨[.ofValue field ""], 0, 0, by decide, by decide⟩

/-- Whatever is asked of an index compiles exactly when all of its fields are known. -/
theorem Schema.compiles_iff {s : Schema F} :
    s.Compiles ↔ ∀ field, s.registries.isUnknown field = false := by
  constructor
  · intro h field
    -- One window with a condition on the field tells whether it is known.
    exact exists_buildRequest_iff.1 (h.windows (.onField field) []) (.ofValue field "")
      (List.mem_cons_self ..)
  · intro hknown
    have hbatches : ∀ b : Batch F, ∃ tree, b.compile s.registries = .ok tree :=
      fun b => Batch.exists_compile fun q _ c _ => hknown c.field
    refine ⟨fun w boosts => exists_buildRequest_iff.2 fun c _ => hknown c.field, hbatches, ?_⟩
    intro rs
    rw [← exists_batchOf_iff]
    constructor
    · rintro ⟨b, tree, hb, -⟩
      exact ⟨b, hb⟩
    · rintro ⟨b, hb⟩
      obtain ⟨tree, htree⟩ := hbatches b
      exact ⟨b, tree, hb, htree⟩

/-! ### Operations -/

/-- A call does not fail for an unknown field, so that only the reading of its reply can. -/
theorem Plan.exists_read_of_answerFrom {c : Call} {read : c.Content → Except SearchError Outcome}
    {reply : Replies} {name : String}
    (h : (call c read).answerFrom reply = .error (.unknownField name)) :
    ∃ content, read content = .error (.unknownField name) := by
  rw [answerFrom] at h
  cases hreply : reply c with
  | ok content =>
    rw [hreply] at h
    exact ⟨content, h⟩
  | error failure =>
    rw [hreply] at h
    cases c <;> cases h

namespace Operation

/-- The registries that an operation compiles conditions with. -/
def registries (s : Schema F) : Operation F → Registries F
  | execute _ r _ => r
  | _ => s.registries

/-- A batch fails for an unknown field only where one is registered nowhere. -/
theorem exists_isUnknown_of_planBatch {index : String} {r : Registries F} {b : Batch F}
    {reply : Replies} {name : String}
    (h : (planBatch index r b).answerFrom reply = .error (.unknownField name)) :
    ∃ field, r.isUnknown field = true ∧ FieldSet.name field = name := by
  rw [planBatch] at h
  cases htree : b.compile r with
  | error e =>
    rw [htree] at h
    obtain ⟨field, hunknown, rfl⟩ := Batch.exists_isUnknown_of_compile htree
    cases h
    exact ⟨field, hunknown, rfl⟩
  | ok tree =>
    rw [htree] at h
    obtain ⟨found, hread⟩ := Plan.exists_read_of_answerFrom h
    cases hread

/-- An operation fails for an unknown field only where one is registered nowhere. -/
theorem exists_isUnknown_of_answerFrom {s : Schema F} {index : String} {op : Operation F}
    {reply : Replies} {name : String}
    (h : (op.plan s index).answerFrom reply = .error (.unknownField name)) :
    ∃ field, (op.registries s).isUnknown field = true ∧ FieldSet.name field = name := by
  have hrequest : ∀ {w boosts}, s.buildRequest w boosts = .error (.unknownField name) →
      ∃ field, s.registries.isUnknown field = true ∧ FieldSet.name field = name := by
    intro w boosts hrequest
    obtain ⟨field, hunknown, hname⟩ :=
      Registries.exists_isUnknown_of_compile (Schema.buildRequest_eq_error_iff.1 hrequest)
    exact ⟨field, hunknown, (SearchError.unknownField.inj hname).symm⟩
  cases op with
  | buildRequest w boosts => exact hrequest (map_eq_error_iff.1 h)
  | search w boosts =>
    rw [plan] at h
    cases hbuilt : s.buildRequest w boosts with
    | error e =>
      rw [hbuilt] at h
      cases h
      exact hrequest hbuilt
    | ok request =>
      rw [hbuilt] at h
      obtain ⟨hits, hread⟩ := Plan.exists_read_of_answerFrom h
      -- What is said about the hits of the index is that the search failed.
      obtain ⟨_, -, hfailed⟩ := mapError_eq_error_iff.1 (map_eq_error_iff.1 hread)
      cases hfailed
  | aggregate b => exact exists_isUnknown_of_planBatch h
  | aggregateRequests rs =>
    rw [plan] at h
    cases hb : DocumentSearch.batchOf rs with
    | error e =>
      -- The errors of the requests themselves are about the names of queries.
      rw [hb] at h
      obtain rfl | rfl | ⟨name, rfl⟩ := batchOf_eq_error hb <;> cases h
    | ok b =>
      rw [hb] at h
      exact exists_isUnknown_of_planBatch h
  | get id =>
    obtain ⟨found, hread⟩ := Plan.exists_read_of_answerFrom h
    cases found with
    | none => cases hread
    | some v =>
      obtain ⟨_, -, hfailed⟩ := mapError_eq_error_iff.1 (map_eq_error_iff.1 hread)
      cases hfailed
  | execute index r b => exact exists_isUnknown_of_planBatch h

end Operation

/-! ### Reading -/

/-- A text fails for an unknown field exactly when no field has the name in front of its first
equals sign, which is the name in the error. -/
theorem Condition.ofText_eq_unknownField_iff {text name : String} :
    (ofText text : Except SearchError (Condition F)) = .error (.unknownField name) ↔
      (∃ operand, Sides text.toList name.toList operand) ∧ ∀ f : F, FieldSet.name f ≠ name := by
  constructor
  · intro h
    by_cases hmem : '=' ∈ text.toList
    · obtain ⟨name', operand, hsides⟩ := exists_sides_iff.2 hmem
      obtain ⟨hfree, hname⟩ := (ofText_eq_error_iff_of_sides hsides).1 h
      obtain rfl := SearchError.unknownField.inj hname
      exact ⟨⟨operand, by rwa [String.toList_ofList]⟩, hfree⟩
    · rw [ofText_of_not_mem hmem] at h
      cases h
  · rintro ⟨⟨operand, hsides⟩, hfree⟩
    rw [ofText_eq_error_iff_of_sides hsides, String.ofList_toList]
    exact ⟨hfree, rfl⟩

/-- The error for an unknown field is about a name that no field has, and comes from reading it. -/
structure Schema.UnknownByName (s : Schema F) : Prop where
  reading (text name : String) :
    (Condition.ofText text : Except SearchError (Condition F)) = .error (.unknownField name) ↔
      (∃ operand, Condition.Sides text.toList name.toList operand) ∧
        ∀ f : F, FieldSet.name f ≠ name
  /-- Whatever was called before and however the engine replies, no operation on the index fails in
  this way. One with registries of its own may. -/
  answers (op : Operation F) (index : String) (reply : List Call → Replies) (past : List Call)
    (name : String) : op.registries s = s.registries →
      ((op.run ⟨.remembering reply, s, index⟩).run past).1 ≠ .error (.unknownField name)

/-- Where all fields are known, the error for an unknown field comes from reading names. -/
theorem Schema.Compiles.unknownByName {s : Schema F} (h : s.Compiles) : s.UnknownByName where
  reading text name := Condition.ofText_eq_unknownField_iff
  answers op index reply past name hregistries hanswer := by
    rw [op.run_eq_run_plan, Plan.run_remembering] at hanswer
    obtain ⟨field, hunknown, -⟩ := Operation.exists_isUnknown_of_answerFrom hanswer
    rw [hregistries, Schema.compiles_iff.1 h field] at hunknown
    cases hunknown

/-- For every index, each window has a request and each batch has a tree, and so has the batch of
bucket requests if there are any, with distinct names that are not blank. So no operation on the
index fails for an unknown field; reading a condition does exactly when no field has the name that
is written there. -/
theorem SchemaName.compiles (n : SchemaName) : n.apply fun s => s.Compiles ∧ s.UnknownByName := by
  have h := n.isUnknown_eq_false
  cases n <;>
    exact ⟨Schema.compiles_iff.2 h, (Schema.compiles_iff.2 h).unknownByName⟩

end TypedSearch
