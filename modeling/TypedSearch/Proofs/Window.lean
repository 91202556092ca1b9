import Mathlib.Data.List.Basic
import TypedSearch.Window
/-!
# `TypedSearch.Proofs.Window`: windows with default conditions

* `mem_withDefault`: a default condition is added exactly where no condition is on its field.
* `hasConditionOn_withDefaultConditions`: afterwards there are conditions on the fields of the
  window and on those of the defaults.
* `stretch_withDefaultConditions`: the stretch of results is kept.
* `conditions_withDefaultConditions`: the conditions of the window come first, and behind them those
  of the defaults that it lacks.
-/

set_option autoImplicit false

namespace TypedSearch.Window

variable {F : Type} [DecidableEq F]

/-- There is a condition on a field exactly when some condition of the window is on it. -/
theorem hasConditionOn_iff (w : Window F) (field : F) :
    w.hasConditionOn field = true ↔ ∃ c ∈ w.conditions, c.field = field := by
  simp [hasConditionOn]

/-! ### Windows that are refused -/

omit [DecidableEq F] in
/-- Offsets make no window exactly where the end lies before the start. -/
theorem ofOffsets_eq_error_iff {cs : List (Condition F)} {start stop : Int}
    {h : stop ≤ maxOffset} {e : SearchError} :
    ofOffsets cs start stop h = .error e ↔
      stop < max start 0 ∧ e = .invalidWindow (max start 0) stop := by
  rw [ofOffsets, ← Int.not_le]
  by_cases hle : max start 0 ≤ stop
  · simp [hle]
  · simp [hle, eq_comm]

omit [DecidableEq F] in
/-- With missing offsets filled in there is no window exactly where the end is given and lies before
the start. -/
theorem withDefaults_eq_error_iff {cs : List (Condition F)} {start stop : Option Int64}
    {pageSize : UInt64} {e : SearchError} :
    withDefaults cs start stop pageSize = .error e ↔
      ∃ last, stop = some last ∧ last.toInt < max ((start.map Int64.toInt).getD 0) 0 ∧
        e = .invalidWindow (max ((start.map Int64.toInt).getD 0) 0) last.toInt := by
  have hfirst : max ((start.map Int64.toInt).getD 0) 0 ≤ maxOffset := by
    cases start with
    | none => decide
    | some first => exact Int.max_le.2 ⟨first.toInt_le, by decide⟩
  have hagain : max (max ((start.map Int64.toInt).getD 0) 0) 0
      = max ((start.map Int64.toInt).getD 0) 0 := by omega
  cases stop with
  | some last =>
    refine (ofOffsets_eq_error_iff (h := last.toInt_le)).trans ?_
    rw [hagain]
    simp
  | none =>
    -- A page is not cut off before its start, for that is no larger than the largest offset.
    refine (ofOffsets_eq_error_iff (h := Int.min_le_right _ _)).trans ?_
    rw [hagain]
    simp only [reduceCtorEq, false_and, exists_false, iff_false, not_and]
    omega

/-! ### One default condition -/

/-- A default condition is added exactly where no condition is on its field. -/
theorem mem_withDefault (w : Window F) (c c' : Condition F) :
    c' ∈ (w.withDefault c).conditions ↔
      c' ∈ w.conditions ∨ w.hasConditionOn c.field = false ∧ c' = c := by
  rw [withDefault]
  cases w.hasConditionOn c.field with
  | true => simp
  | false => simp

/-- With a default condition there are conditions on the fields of the window and on its field. -/
theorem hasConditionOn_withDefault (w : Window F) (c : Condition F) (field : F) :
    (w.withDefault c).hasConditionOn field = true ↔
      w.hasConditionOn field = true ∨ c.field = field := by
  simp only [hasConditionOn_iff, mem_withDefault]
  constructor
  · rintro ⟨c', hmem | ⟨-, rfl⟩, hfield⟩
    · exact Or.inl ⟨c', hmem, hfield⟩
    · exact Or.inr hfield
  · rintro (⟨c', hmem, hfield⟩ | hfield)
    · exact ⟨c', Or.inl hmem, hfield⟩
    · cases hon : w.hasConditionOn c.field with
      | false => exact ⟨c, Or.inr ⟨rfl, rfl⟩, hfield⟩
      | true =>
        obtain ⟨c', hmem, hsame⟩ := (hasConditionOn_iff w c.field).1 hon
        exact ⟨c', Or.inl hmem, hsame.trans hfield⟩

/-- A default condition keeps the stretch of results. -/
theorem stretch_withDefault (w : Window F) (c : Condition F) :
    (w.withDefault c).start = w.start ∧ (w.withDefault c).stop = w.stop := by
  rw [withDefault]
  split
  · exact ⟨rfl, rfl⟩
  · exact ⟨rfl, rfl⟩

/-! ### All default conditions -/

/-- With default conditions there are conditions on the fields of the window and on theirs. -/
theorem hasConditionOn_withDefaultConditions (w : Window F) (cs : List (Condition F)) (field : F) :
    (w.withDefaultConditions cs).hasConditionOn field = true ↔
      w.hasConditionOn field = true ∨ ∃ c ∈ cs, c.field = field := by
  rw [withDefaultConditions]
  induction cs generalizing w with
  | nil => simp
  | cons c cs ih =>
    rw [List.foldl_cons, ih, hasConditionOn_withDefault, List.exists_mem_cons_iff, or_assoc]

/-- With default conditions, the fields that there are conditions on are those of the conditions and
of the defaults together: a default that is left out has its field among them already. -/
theorem exists_field_withDefaultConditions (w : Window F) (cs : List (Condition F)) (field : F) :
    (∃ c ∈ (w.withDefaultConditions cs).conditions, c.field = field) ↔
      ∃ c ∈ w.conditions ++ cs, c.field = field := by
  rw [← hasConditionOn_iff, hasConditionOn_withDefaultConditions, hasConditionOn_iff]
  simp only [List.mem_append, or_and_right, exists_or]

/-- Something holds of the fields of all conditions with the defaults exactly when it does of those
of the window and of those of the defaults. -/
theorem forall_field_withDefaultConditions (w : Window F) (cs : List (Condition F))
    (p : F → Prop) :
    (∀ c ∈ (w.withDefaultConditions cs).conditions, p c.field) ↔
      ∀ c ∈ w.conditions ++ cs, p c.field := by
  have hfields := w.exists_field_withDefaultConditions cs
  constructor
  · intro h c hc
    obtain ⟨c', hc', hfield⟩ := (hfields c.field).2 ⟨c, hc, rfl⟩
    rw [← hfield]
    exact h c' hc'
  · intro h c hc
    obtain ⟨c', hc', hfield⟩ := (hfields c.field).1 ⟨c, hc, rfl⟩
    rw [← hfield]
    exact h c' hc'

/-- Default conditions keep the stretch of results. -/
theorem stretch_withDefaultConditions (w : Window F) (cs : List (Condition F)) :
    (w.withDefaultConditions cs).start = w.start ∧ (w.withDefaultConditions cs).stop = w.stop := by
  rw [withDefaultConditions]
  induction cs generalizing w with
  | nil => exact ⟨rfl, rfl⟩
  | cons c cs ih =>
    obtain ⟨hstart, hstop⟩ := stretch_withDefault w c
    rw [List.foldl_cons, (ih _).1, (ih _).2, hstart, hstop]
    exact ⟨rfl, rfl⟩

/-- Default conditions keep the number of results to fetch. -/
theorem fetchSize_withDefaultConditions (w : Window F) (cs : List (Condition F)) :
    (w.withDefaultConditions cs).fetchSize = w.fetchSize := by
  obtain ⟨hstart, hstop⟩ := stretch_withDefaultConditions w cs
  rw [fetchSize, fetchSize, size, size, hstart, hstop]

/-! ### The conditions that a window lacks -/

/-- What a window lacks of some conditions: for every field that it has no condition on, the first
of them that is on the field. -/
def lacking (w : Window F) (cs : List (Condition F)) : List (Condition F) :=
  (cs.filter fun c => !w.hasConditionOn c.field).eraseDupsBy fun c c' => c.field == c'.field

/-- A condition is lacked where no condition is on its field, and is then no longer lacked behind
it. -/
theorem lacking_cons (w : Window F) (c : Condition F) (cs : List (Condition F)) :
    w.lacking (c :: cs) =
      if w.hasConditionOn c.field then w.lacking cs else c :: (w.withDefault c).lacking cs := by
  cases hon : w.hasConditionOn c.field with
  | true => simp [lacking, hon]
  | false =>
    have hsame : ∀ c' : Condition F, (w.withDefault c).hasConditionOn c'.field
        = (w.hasConditionOn c'.field || c'.field == c.field) := by
      intro c'
      rw [Bool.eq_iff_iff, hasConditionOn_withDefault, Bool.or_eq_true, beq_iff_eq,
        @eq_comm _ c.field]
    rw [lacking, List.filter_cons_of_pos (by simp [hon]), List.eraseDupsBy_cons, List.filter_filter,
      if_neg Bool.false_ne_true, lacking]
    congr 3
    funext c'
    rw [hsame, Bool.not_or, Bool.and_comm]
    cases c'.field == c.field <;> rfl

/-- Default conditions come behind the conditions of the window, as far as it lacks them. -/
theorem conditions_withDefaultConditions (w : Window F) (cs : List (Condition F)) :
    (w.withDefaultConditions cs).conditions = w.conditions ++ w.lacking cs := by
  induction cs generalizing w with
  | nil => exact (List.append_nil _).symm
  | cons c cs ih =>
    show ((w.withDefault c).withDefaultConditions cs).conditions = _
    rw [ih, lacking_cons]
    cases hon : w.hasConditionOn c.field <;> simp [withDefault, hon]

/-- A default on a field of the window is left out, and so is the second of two on one field. -/
example : ((⟨[.ofValue 1 "a"], 0, 9, by decide, by decide⟩ : Window Nat).withDefaultConditions
    [.ofValue 1 "b", .ofValue 2 "c", .ofValue 2 "d"]).conditions
      = [.ofValue 1 "a", .ofValue 2 "c"] := by decide

/-- Default conditions take none of the conditions away. -/
theorem mem_withDefaultConditions_of_mem (w : Window F) (cs : List (Condition F))
    {c : Condition F} (h : c ∈ w.conditions) : c ∈ (w.withDefaultConditions cs).conditions := by
  rw [conditions_withDefaultConditions]
  exact List.mem_append_left _ h

/-- Of conditions on distinct fields a window lacks all those on whose field it has none. -/
theorem lacking_of_nodup (w : Window F) {cs : List (Condition F)}
    (h : (cs.map (·.field)).Nodup) :
    w.lacking cs = cs.filter fun c => !w.hasConditionOn c.field := by
  have hdistinct : ((cs.filter fun c => !w.hasConditionOn c.field).map (·.field)).Nodup :=
    (List.filter_sublist.map _).nodup h
  rw [lacking]
  generalize cs.filter (fun c => !w.hasConditionOn c.field) = left at hdistinct ⊢
  induction left with
  | nil => rfl
  | cons c left ih =>
    obtain ⟨hfirst, hrest⟩ := List.nodup_cons.1 hdistinct
    rw [List.eraseDupsBy_cons, List.filter_eq_self.2, ih hrest]
    intro c' hc'
    have hother : c'.field ≠ c.field := fun heq => hfirst (List.mem_map.2 ⟨c', hc', heq⟩)
    simpa using hother

end TypedSearch.Window
