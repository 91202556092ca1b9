import Mathlib.Data.Finset.Card
import TypedSearch.Aggregation.Tree
import TypedSearch.Proofs.Registry
/-!
# `TypedSearch.Proofs.Registry.Registrations`: only the last registrations count

`Registrations` are made for values and for ranges, in order. `Registry.Keeps` says what a registry
holds after them. Conditions and batches only ever look up fields, so registrations that end alike
compile alike. `SameEnds` is what has to be alike: for a field that is registered for values, the
ranges do not count.

* `Registry.keeps_ofList`: a registry holds the last registration of each field and no other.
* `Registries.clause_congr`, `Registries.compile_congr`, `Batch.compile_congr`: registries that look
  up alike compile alike.
* `Registrations.decided_by_last`: all of it.
-/

set_option autoImplicit false

namespace TypedSearch

variable {F : Type} [DecidableEq F]

/-! ### One registry -/

namespace Registry

variable {σ : Type}

/-- What a registry holds after registrations. -/
structure Keeps (r : Registry F σ) (registrations : List (F × σ)) : Prop where
  /-- What is registered for a field is what was registered last for it. -/
  last (field : F) (s : σ) :
    r.get? field = some s ↔ LastUnder Prod.fst registrations field (field, s)
  /-- Nothing is registered for a field exactly when nothing ever was. -/
  never (field : F) : r.get? field = none ↔ ∀ e ∈ registrations, e.1 ≠ field
  /-- Every field that was registered counts once. -/
  size : r.size = (registrations.map (·.1)).toFinset.card

/-- Something is registered for a field exactly when there is an entry for it. -/
theorem mem_fields_iff (r : Registry F σ) (field : F) :
    field ∈ r.entries.map (·.1) ↔ r.get? field ≠ none := by
  rw [get?, Ne, Option.map_eq_none_iff, List.find?_eq_none]
  simp

/-- A registration makes no second entry for a field. -/
theorem nodup_register {r : Registry F σ} (h : (r.entries.map (·.1)).Nodup) (field : F) (s : σ) :
    ((r.register field s).entries.map (·.1)).Nodup := by
  rw [register, List.map_cons, List.nodup_cons]
  constructor
  · simp
  · exact (List.filter_sublist.map _).nodup h

/-- After registrations there is one entry for a field. -/
theorem nodup_ofList (registrations : List (F × σ)) :
    ((ofList registrations).entries.map (·.1)).Nodup := by
  -- Registrations start from any registry without a second entry for a field.
  have key : ∀ r : Registry F σ, (r.entries.map (·.1)).Nodup →
      ((registrations.foldl (fun r e => r.register e.1 e.2) r).entries.map (·.1)).Nodup := by
    induction registrations with
    | nil => exact fun _ h => h
    | cons e rest ih => exact fun r h => ih _ (nodup_register h e.1 e.2)
  exact key empty .nil

/-- A registry holds the last registration of each field, and no other. -/
theorem keeps_ofList (registrations : List (F × σ)) :
    (ofList registrations).Keeps registrations := by
  have hnever : ∀ field, (ofList registrations).get? field = none ↔
      ∀ e ∈ registrations, e.1 ≠ field := by
    intro field
    rw [get_ofList, Option.map_eq_none_iff, find_reverse_eq_none_iff Prod.fst]
  refine ⟨fun field s => ?_, hnever, ?_⟩
  · rw [get_ofList, Option.map_eq_some_iff]
    constructor
    · rintro ⟨⟨field', s'⟩, hfound, rfl⟩
      have hlast := (find_reverse_eq_some_iff Prod.fst).1 hfound
      obtain ⟨_, _, _, rfl, _⟩ := id hlast
      exact hlast
    · intro hlast
      exact ⟨(field, s), (find_reverse_eq_some_iff Prod.fst).2 hlast, rfl⟩
  · have hfields : ((ofList registrations).entries.map (·.1)).toFinset
        = (registrations.map (·.1)).toFinset := by
      ext field
      rw [List.mem_toFinset, List.mem_toFinset, mem_fields_iff, Ne, hnever]
      simp
    rw [← hfields, List.toFinset_card_of_nodup (nodup_ofList registrations), List.length_map]
    rfl

end Registry

/-! ### Looking up -/

/-- A field is unknown exactly when nothing is registered for it. -/
theorem Registries.isUnknown_iff (r : Registries F) (field : F) :
    r.isUnknown field = true ↔ r.values.get? field = none ∧ r.ranges.get? field = none := by
  simp [isUnknown, Registry.contains]

/-- Registries look up alike: they have the same for the value of every field and, for the fields
that have nothing there, the same for the range. -/
structure Registries.Agree (r r' : Registries F) : Prop where
  values (field : F) : r.values.get? field = r'.values.get? field
  ranges (field : F) : r.values.get? field = none → r.ranges.get? field = r'.ranges.get? field

variable [FieldSet F] {r r' : Registries F}

namespace Registries

/-- A condition has the same clause where the registries look up alike. -/
theorem clause_congr (h : r.Agree r') (c : Condition F) : r.clause? c = r'.clause? c := by
  rw [clause?, clause?, ← h.values]
  cases hvalues : r.values.get? c.field with
  | some s => rfl
  | none => rw [h.ranges c.field hvalues]

/-- Conditions have the same query where the registries look up alike. -/
theorem compile_congr (h : r.Agree r') (cs : List (Condition F)) :
    r.compile cs = r'.compile cs := by
  have hclause : r.clause? = r'.clause? := funext (clause_congr h)
  rw [compile, compile, clauses, clauses, hclause]

end Registries

/-- A batch has the same tree where the registries look up alike. -/
theorem Batch.compile_congr (h : r.Agree r') (b : Batch F) : b.compile r = b.compile r' := by
  have hentry : AggregationQuery.entry r = AggregationQuery.entry r' := by
    funext q
    rw [AggregationQuery.entry, AggregationQuery.entry, AggregationQuery.compile,
      AggregationQuery.compile, Registries.compile_congr h]
  rw [compile, compile, hentry]

/-! ### Two registries -/

/-- Registrations for values and for ranges, each in order. -/
structure Registrations (F : Type) where
  values : List (F × ValueStrategy)
  ranges : List (F × RangeStrategy)

namespace Registrations

variable {F : Type}

/-- Registrations end alike. -/
structure SameEnds (g g' : Registrations F) : Prop where
  /-- Every field has the same last registration for values. -/
  values (field : F) (s : ValueStrategy) :
    LastUnder Prod.fst g.values field (field, s) ↔ LastUnder Prod.fst g'.values field (field, s)
  /-- Every field that is never registered for values has the same last registration for ranges. -/
  ranges (field : F) (s : RangeStrategy) : (∀ e ∈ g.values, e.1 ≠ field) →
    (LastUnder Prod.fst g.ranges field (field, s) ↔ LastUnder Prod.fst g'.ranges field (field, s))

variable [DecidableEq F]

/-- The registries that are filled by the registrations. -/
def registries (g : Registrations F) : Registries F := ⟨.ofList g.values, .ofList g.ranges⟩

/-- Registrations that end alike fill registries that look up alike. -/
theorem SameEnds.agree {g g' : Registrations F} (h : g.SameEnds g') :
    g.registries.Agree g'.registries where
  values field := by
    ext s
    rw [registries, registries, (Registry.keeps_ofList g.values).last,
      (Registry.keeps_ofList g'.values).last, h.values]
  ranges field hnone := by
    have hnever := ((Registry.keeps_ofList g.values).never field).1 hnone
    ext s
    rw [registries, registries, (Registry.keeps_ofList g.ranges).last,
      (Registry.keeps_ofList g'.ranges).last, h.ranges field s hnever]

variable [FieldSet F]

/-- What registrations come to. -/
structure Decided (g : Registrations F) : Prop where
  values : g.registries.values.Keeps g.values
  ranges : g.registries.ranges.Keeps g.ranges
  /-- A field is unknown exactly when it was never registered. -/
  unknown (field : F) : g.registries.isUnknown field = true ↔
    (∀ e ∈ g.values, e.1 ≠ field) ∧ ∀ e ∈ g.ranges, e.1 ≠ field
  /-- A condition on a field that was registered for values is asked for its value, in the way that
  was registered last, whatever was registered for ranges. -/
  valuesFirst (c : Condition F) (s : ValueStrategy) :
    LastUnder Prod.fst g.values c.field (c.field, s) →
      g.registries.clause? c
        = .ok (c.value.map fun v => (s.role, s.build (FieldSet.name c.field) v))
  /-- Conditions and batches compile alike, to the same query, tree or error, after all
  registrations that end alike. -/
  compile (g' : Registrations F) : g.SameEnds g' →
    (∀ cs, g.registries.compile cs = g'.registries.compile cs) ∧
      ∀ b : Batch F, b.compile g.registries = b.compile g'.registries

/-- Only the last registration of each field counts, and one for values before one for ranges. -/
theorem decided_by_last (g : Registrations F) : g.Decided where
  values := Registry.keeps_ofList g.values
  ranges := Registry.keeps_ofList g.ranges
  unknown field := by
    rw [Registries.isUnknown_iff]
    exact and_congr ((Registry.keeps_ofList g.values).never field)
      ((Registry.keeps_ofList g.ranges).never field)
  valuesFirst c s hlast := by
    have hvalues : g.registries.values.get? c.field = some s :=
      ((Registry.keeps_ofList g.values).last c.field s).2 hlast
    rw [Registries.clause?, hvalues]
  compile g' h := ⟨Registries.compile_congr h.agree, Batch.compile_congr h.agree⟩

end Registrations

end TypedSearch
