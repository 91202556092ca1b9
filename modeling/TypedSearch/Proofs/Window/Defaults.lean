import Mathlib.Data.List.Induction
import TypedSearch.Proofs.Window
/-!
# `TypedSearch.Proofs.Window.Defaults`: which default conditions are added

Whether a default condition is added is decided when those in front of it may have been added
already. `additions` tells it from the window and the defaults as they are given, by their places.

* `conditions_eq_append_additions`: these are added, behind the conditions of the window.
* `additions_eq_lacking`: they are what the window lacks of the defaults.
* `withDefaultConditions_of_hasConditionOn`: nothing is added where there is a condition on every
  field.
* `additions_of_perm`: defaults on distinct fields are added in the order they are given in.
* `withDefaultConditions_extends`: all of it.
-/

set_option autoImplicit false

namespace TypedSearch.Window

variable {F : Type} [DecidableEq F]

/-- Is the default at a place among others new, so that neither a condition of the window nor a
default in front of the place is on its field? -/
def isNew (w : Window F) (cs : List (Condition F)) (e : Condition F × Nat) : Bool :=
  decide (∀ c ∈ w.conditions ++ cs.take e.2, c.field ≠ e.1.field)

/-- The defaults that are new at their places, in order. -/
def additions (w : Window F) (cs : List (Condition F)) : List (Condition F) :=
  (cs.zipIdx.filter (w.isNew cs)).map (·.1)

/-- Defaults behind a place do not count for it. -/
theorem isNew_append (w : Window F) (cs more : List (Condition F)) {e : Condition F × Nat}
    (h : e.2 ≤ cs.length) : w.isNew (cs ++ more) e = w.isNew cs e := by
  rw [isNew, isNew, List.take_append_of_le_length h]

/-- A default behind others leaves what these add as it is, and is added itself unless a condition
of the window or one of them is on its field. -/
theorem additions_concat (w : Window F) (cs : List (Condition F)) (c : Condition F) :
    w.additions (cs ++ [c]) =
      w.additions cs ++ if ∃ c' ∈ w.conditions ++ cs, c'.field = c.field then [] else [c] := by
  have hfront : cs.zipIdx.filter (w.isNew (cs ++ [c])) = cs.zipIdx.filter (w.isNew cs) := by
    refine List.filter_congr fun e he => ?_
    have hplace : e.2 < cs.length := by simpa using List.snd_lt_of_mem_zipIdx he
    exact w.isNew_append cs [c] (Nat.le_of_lt hplace)
  have hlast : w.isNew (cs ++ [c]) (c, 0 + cs.length)
      = decide (∀ c' ∈ w.conditions ++ cs, c'.field ≠ c.field) := by
    rw [Nat.zero_add, w.isNew_append cs [c] (Nat.le_refl _), isNew, List.take_length]
  rw [additions, List.zipIdx_append, List.filter_append, List.map_append, hfront, ← additions,
    List.zipIdx_singleton, List.filter_singleton, hlast]
  by_cases hold : ∃ c' ∈ w.conditions ++ cs, c'.field = c.field
  · have hnot : ¬ ∀ c' ∈ w.conditions ++ cs, c'.field ≠ c.field := by simpa using hold
    rw [if_pos hold, decide_eq_false hnot]
    rfl
  · have hnew : ∀ c' ∈ w.conditions ++ cs, c'.field ≠ c.field := by simpa using hold
    rw [if_neg hold, decide_eq_true hnew]
    rfl

/-- The conditions of the window come first, and behind them the defaults that are added. -/
theorem conditions_eq_append_additions (w : Window F) (cs : List (Condition F)) :
    (w.withDefaultConditions cs).conditions = w.conditions ++ w.additions cs := by
  induction cs using List.reverseRecOn with
  | nil => exact (List.append_nil _).symm
  | append_singleton cs c ih =>
    -- The decision on the last default depends on those in front of it by their fields only.
    have hon : (w.withDefaultConditions cs).hasConditionOn c.field = true ↔
        ∃ c' ∈ w.conditions ++ cs, c'.field = c.field := by
      rw [hasConditionOn_iff, exists_field_withDefaultConditions]
    have hlast : (w.withDefaultConditions (cs ++ [c])).conditions
        = ((w.withDefaultConditions cs).withDefault c).conditions := by
      rw [withDefaultConditions, List.foldl_append]
      rfl
    rw [hlast, additions_concat, withDefault]
    by_cases hold : ∃ c' ∈ w.conditions ++ cs, c'.field = c.field
    · rw [if_pos (hon.2 hold), if_pos hold, List.append_nil, ih]
    · rw [if_neg (mt hon.1 hold), if_neg hold, ih, List.append_assoc]

/-- Where there are conditions on the fields of all defaults, nothing is added. -/
theorem withDefaultConditions_of_hasConditionOn {w : Window F} {cs : List (Condition F)}
    (h : ∀ c ∈ cs, w.hasConditionOn c.field = true) : w.withDefaultConditions cs = w := by
  rw [withDefaultConditions]
  induction cs with
  | nil => rfl
  | cons c cs ih =>
    obtain ⟨hc, hcs⟩ := List.forall_mem_cons.1 h
    rw [List.foldl_cons, withDefault, if_pos hc, ih hcs]

/-- The defaults that are added are those that the window lacks. -/
theorem additions_eq_lacking (w : Window F) (cs : List (Condition F)) :
    w.additions cs = w.lacking cs :=
  List.append_cancel_left
    ((w.conditions_eq_append_additions cs).symm.trans (w.conditions_withDefaultConditions cs))

/-- In another order, defaults on distinct fields are added in that order. -/
theorem additions_of_perm (w : Window F) {cs cs' : List (Condition F)}
    (h : (cs.map (·.field)).Nodup) (hperm : cs'.Perm cs) :
    w.additions cs' = cs'.filter (· ∈ w.additions cs) ∧
      (w.additions cs').Perm (w.additions cs) := by
  have h' : (cs'.map (·.field)).Nodup := (hperm.map _).nodup_iff.2 h
  rw [additions_eq_lacking, additions_eq_lacking, w.lacking_of_nodup h, w.lacking_of_nodup h']
  refine ⟨List.filter_congr fun c hc => ?_, hperm.filter _⟩
  have hmem : c ∈ cs := hperm.mem_iff.1 hc
  simp [hmem]

/-- Default conditions extend a window. Its own conditions stay as they are, and behind them come
those defaults, in order, on whose field neither a condition of the window nor an earlier default
is. The stretch of results is kept, and the same defaults a second time change nothing. Defaults on
distinct fields that are given in another order add the same conditions in that order. -/
theorem withDefaultConditions_extends (w : Window F) (cs : List (Condition F)) :
    (w.withDefaultConditions cs).conditions = w.conditions ++ w.additions cs ∧
    ((w.withDefaultConditions cs).start = w.start ∧ (w.withDefaultConditions cs).stop = w.stop ∧
      (w.withDefaultConditions cs).size = w.size) ∧
    (w.withDefaultConditions cs).withDefaultConditions cs = w.withDefaultConditions cs ∧
    ∀ cs', cs'.Perm cs → (cs.map (·.field)).Nodup →
      (w.withDefaultConditions cs').conditions
          = w.conditions ++ cs'.filter (· ∈ w.additions cs) ∧
        (cs'.filter (· ∈ w.additions cs)).Perm (w.additions cs) := by
  obtain ⟨hstart, hstop⟩ := w.stretch_withDefaultConditions cs
  refine ⟨w.conditions_eq_append_additions cs, ⟨hstart, hstop, ?_⟩, ?_, ?_⟩
  · rw [size, size, hstart, hstop]
  · refine withDefaultConditions_of_hasConditionOn fun c hc => ?_
    exact (w.hasConditionOn_withDefaultConditions cs c.field).2 (Or.inr ⟨c, hc, rfl⟩)
  · intro cs' hperm hdistinct
    obtain ⟨horder, hsame⟩ := w.additions_of_perm hdistinct hperm
    rw [w.conditions_eq_append_additions cs', ← horder]
    exact ⟨rfl, hsame⟩

end TypedSearch.Window
