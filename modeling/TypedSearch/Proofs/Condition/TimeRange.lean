import TypedSearch.Condition
import TypedSearch.Proofs.Calendar.Instant
import TypedSearch.Schema.JobField
/-!
# `TypedSearch.Proofs.Condition.TimeRange`: the bounds of times

A bound in time is a millisecond in decimal. It is given by an instant, or by a time on a clock with
an offset from UTC. Instants and stored milliseconds are compared on one line of time, in
nanoseconds.

* `gte_localTimeRange`, `lte_localTimeRange`: each bound comes from its own time alone.
* `covers_timeRange_iff`: which milliseconds lie between the bounds.
* `timeRange_denotes`: the bounds of an instant whatever clock shows it, those of a time on a clock,
  and that no stored millisecond between two instants lies outside their bounds.
-/

set_option autoImplicit false

namespace TypedSearch.Condition

open Calendar (Instant LocalTime isRepresentable)

variable {F : Type} {field : F}

/-! ### Where bounds come from -/

/-- The lower bound of times on a clock is that of the instant of the first. -/
theorem gte_localTimeRange {since till : Option LocalTime} {offset : Int} :
    (localTimeRange field since till offset).gte
      = since.bind fun l => (l.toInstant? offset).map instantBound := by
  cases since with
  | none => rfl
  | some l => rfl

/-- The upper bound of times on a clock is that of the instant of the second. -/
theorem lte_localTimeRange {since till : Option LocalTime} {offset : Int} :
    (localTimeRange field since till offset).lte
      = till.bind fun l => (l.toInstant? offset).map instantBound := by
  cases till with
  | none => rfl
  | some l => rfl

/-- A clock leads back to a representable instant from what it shows then. -/
theorem toInstant_onClock {t : Instant} (h : isRepresentable t.second = true) (offset : Int) :
    (t.onClock offset).toInstant? offset = some t :=
  (Calendar.toInstant_eq_some_iff (Calendar.onClock_eq_iff.1 rfl).1).2 ⟨rfl, h⟩

/-- The bound of an instant is read as its millisecond. -/
theorem readInt_instantBound (t : Instant) :
    Decimal.readInt? (instantBound t).toList = some t.millis := by
  rw [instantBound, Decimal.intText, String.toList_ofList]
  exact Decimal.readInt_writeInt t.millis

/-! ### What lies between bounds -/

/-- The number lies between the bounds of a condition that are given, as numbers in decimal, both
included. -/
def Covers (c : Condition F) (m : Int) : Prop :=
  (∀ text ∈ c.gte, ∃ low, Decimal.readInt? text.toList = some low ∧ low ≤ m) ∧
    ∀ text ∈ c.lte, ∃ high, Decimal.readInt? text.toList = some high ∧ m ≤ high

/-- A millisecond lies between the bounds of instants exactly when it lies between their
milliseconds. -/
theorem covers_timeRange_iff {since till : Option Instant} {m : Int} :
    (timeRange field since till).Covers m ↔
      (∀ t ∈ since, t.millis ≤ m) ∧ ∀ t ∈ till, m ≤ t.millis := by
  simp [Covers, timeRange, range, readInt_instantBound]

/-- A bound in time stands for the instant that it was given by:

- An instant has as its bound the last millisecond that is not after it, in decimal, whatever the
  other bound is; and so has what a clock shows then, whatever its offset.
- A time on a clock has the bound of the one instant at which the clock shows it, by the offset
  before what the clock counts. Where that is not representable there is no bound. The other bound
  makes no difference.
- Without an instant or a time there is no bound.
- All milliseconds from one instant to another lie between the bounds. Those that do are not after
  the second instant, and less than a millisecond before the first. -/
theorem timeRange_denotes (field : F) :
    (∀ t : Instant, ∃ ms : Int,
      ms * 1000000 ≤ t.nanos ∧ t.nanos < (ms + 1) * 1000000 ∧
        (∀ other, (timeRange field (some t) other).gte = some (Decimal.intText ms) ∧
          (timeRange field other (some t)).lte = some (Decimal.intText ms)) ∧
        (isRepresentable t.second = true → ∀ offset other,
          (localTimeRange field (some (t.onClock offset)) other offset).gte
            = some (Decimal.intText ms) ∧
          (localTimeRange field other (some (t.onClock offset)) offset).lte
            = some (Decimal.intText ms))) ∧
    (∀ (l : LocalTime) (offset : Int), l.IsProper → ∃ t : Instant,
      t = ⟨l.clockSecond - offset, l.nanosecond⟩ ∧ (∀ t', t'.onClock offset = l ↔ t' = t) ∧
        ∀ other other',
          (localTimeRange field (some l) other offset).gte
            = (if isRepresentable t.second then (timeRange field (some t) other').gte else none) ∧
          (localTimeRange field other (some l) offset).lte
            = if isRepresentable t.second then (timeRange field other' (some t)).lte else none) ∧
    (∀ other other' offset,
      (timeRange field none other).gte = none ∧ (timeRange field other none).lte = none ∧
        (localTimeRange field none other' offset).gte = none ∧
        (localTimeRange field other' none offset).lte = none) ∧
    ∀ (since till : Option Instant) (m : Int),
      ((∀ t ∈ since, t.nanos ≤ m * 1000000) → (∀ t ∈ till, m * 1000000 ≤ t.nanos) →
        (timeRange field since till).Covers m) ∧
      ((timeRange field since till).Covers m →
        (∀ t ∈ since, t.nanos - 1000000 < m * 1000000) ∧ ∀ t ∈ till, m * 1000000 ≤ t.nanos) := by
  refine ⟨fun t => ⟨t.millis, ?_, ?_, fun other => ⟨rfl, rfl⟩, fun h offset other => ?_⟩,
    fun l offset hproper => ?_, fun other other' offset => ⟨rfl, rfl, rfl, rfl⟩,
    fun since till m => ⟨fun hsince htill => ?_, fun hcovers => ?_⟩⟩
  · exact Calendar.le_millis_iff.1 (Int.le_refl _)
  · exact Calendar.millis_le_iff.1 (Int.le_refl _)
  · rw [gte_localTimeRange, lte_localTimeRange, Option.bind_some, toInstant_onClock h]
    exact ⟨rfl, rfl⟩
  · refine ⟨_, rfl, fun t' => ?_, fun other other' => ?_⟩
    · rw [Calendar.onClock_eq_iff]
      exact and_iff_right hproper
    · rw [gte_localTimeRange, lte_localTimeRange, Option.bind_some, LocalTime.toInstant_eq]
      dsimp only
      split
      · exact ⟨rfl, rfl⟩
      · exact ⟨rfl, rfl⟩
  · rw [covers_timeRange_iff]
    refine ⟨fun t ht => ?_, fun t ht => Calendar.le_millis_iff.2 (htill t ht)⟩
    have hstart := hsince t ht
    exact Calendar.millis_le_iff.2 (by omega)
  · obtain ⟨hlow, hhigh⟩ := covers_timeRange_iff.1 hcovers
    refine ⟨fun t ht => ?_, fun t ht => Calendar.le_millis_iff.1 (hhigh t ht)⟩
    have hstart := Calendar.millis_le_iff.1 (hlow t ht)
    omega

/-- The last nanosecond before 1970 by a clock behind UTC is rounded down to its millisecond, and
the end of the last representable day is then no longer representable. -/
theorem timeRange_denotes_edges :
    let since : LocalTime := ⟨⟨1969, 12, 31⟩, 23, 59, 59, 999999999⟩
    let till : LocalTime := ⟨⟨262142, 12, 31⟩, 23, 59, 59, 0⟩
    (localTimeRange JobField.createdAt (some since) (some till) (-1)).gte = some "999" ∧
      (localTimeRange JobField.createdAt (some since) (some till) (-1)).lte = none := by
  intro since till
  have hclock := (timeRange_denotes JobField.createdAt).2.1
  have hsince : since.IsProper := LocalTime.isProper_of_isValid (by decide +kernel)
  have htill : till.IsProper := LocalTime.isProper_of_isValid (by decide +kernel)
  obtain ⟨t, ht, -, hbounds⟩ := hclock since (-1) hsince
  obtain ⟨t', ht', -, hbounds'⟩ := hclock till (-1) htill
  constructor
  · rw [(hbounds (some till) none).1, ht]
    decide +kernel
  · rw [(hbounds' (some since) none).2, ht']
    decide +kernel

end TypedSearch.Condition
