import TypedSearch.Proofs.Calendar.Stamp
import TypedSearch.Wire.TypedKeys
/-!
# `TypedSearch.Proofs.Wire.DateLabels`: the keys of groups of times

An engine marks a group of times by the millisecond at which the group begins. Where it does not
format that itself, the key of the group is the timestamp of the millisecond. `dateKey_faithful`
says that nothing is lost by this: a timestamp is the one time that a clock in UTC shows then, it is
read back, and timestamps with years of four digits are sorted by time.

* `dateKey_of_unformatted`: the key of a group that the engine has not formatted.
-/

set_option autoImplicit false

namespace TypedSearch.TypedKeys

open Calendar (Instant LocalTime IsStamp firstTime lastTime firstOfFourDigits lastOfFourDigits)

/-- A group is marked by a millisecond, a whole number of 64 bits with a sign, and has no key that
the engine has formatted as text. -/
structure Unformatted (group : Keyed Json) (millis : Int) : Prop where
  key : Keyed.get? "key" group = some (.int millis)
  isInt64 : Int64.minValue.toInt ≤ millis ∧ millis ≤ Int64.maxValue.toInt
  unformatted : ∀ s, Keyed.get? "key_as_string" group ≠ some (.str s)

/-- The key of a group that the engine has not formatted is the label of its millisecond. -/
theorem dateKey_of_unformatted {group : Keyed Json} {millis : Int} (h : Unformatted group millis) :
    dateKey group = Calendar.label? millis := by
  have hformatted : formattedKey group = none := by
    rw [formattedKey, Option.bind_eq_none_iff]
    intro v hv
    cases v with
    | str s => exact absurd hv (h.unformatted s)
    | _ => rfl
  have hmillis : (Json.int millis).int64? = some millis := if_pos h.isInt64
  rw [dateKey, hformatted, h.key, Option.bind_some, hmillis]
  rfl

/-- A group of times that the engine has not formatted has a key exactly when its millisecond is
representable. The key is then the timestamp of one time and of no other, on which the milliseconds
since 1970 are those of the group, and it is read as the instant at which they begin. So groups of
different milliseconds never have the same key, and for the years 0 to 9999 the order of the bytes
of keys is that of the milliseconds. -/
theorem dateKey_faithful {group group' : Keyed Json} {millis millis' : Int}
    (h : Unformatted group millis) (h' : Unformatted group' millis') :
    ((∃ label, dateKey group = some label) ↔
      firstTime.clockMillis ≤ millis ∧ millis ≤ lastTime.clockMillis) ∧
    (∀ label, dateKey group = some label →
      (∃ l : LocalTime, l.clockMillis = millis ∧ ∀ l', IsStamp label.toList l' ↔ l' = l) ∧
      ∃ t : Instant, Calendar.ofText? label = some t ∧ t.nanos = millis * 1000000) ∧
    (∀ label, dateKey group = some label → dateKey group' = some label → millis = millis') ∧
    (firstOfFourDigits.clockMillis ≤ millis ∧ millis ≤ lastOfFourDigits.clockMillis →
      firstOfFourDigits.clockMillis ≤ millis' ∧ millis' ≤ lastOfFourDigits.clockMillis →
      ∃ label label', dateKey group = some label ∧ dateKey group' = some label' ∧
        (Text.bytes label.toList < Text.bytes label'.toList ↔ millis < millis')) := by
  rw [dateKey_of_unformatted h, dateKey_of_unformatted h']
  refine ⟨Calendar.exists_label_iff, fun label hlabel => ⟨?_, ?_⟩, fun label hlabel hlabel' => ?_,
    fun hyear hyear' => ?_⟩
  · exact ⟨Calendar.shownAt millis, (Calendar.isToMillis_shownAt millis).2,
      fun l' => Calendar.isStamp_label_iff hlabel⟩
  · exact ⟨_, Calendar.ofText_label hlabel, Calendar.nanos_ofMillis millis⟩
  · -- One text is read as one instant.
    have hread := Calendar.ofText_label hlabel
    rw [Calendar.ofText_label hlabel', Option.some_inj] at hread
    have hnanos := congrArg Instant.nanos hread
    rw [Calendar.nanos_ofMillis, Calendar.nanos_ofMillis] at hnanos
    omega
  · -- All years of four digits are representable.
    have hbefore : firstTime.clockMillis ≤ firstOfFourDigits.clockMillis := by decide +kernel
    have hafter : lastOfFourDigits.clockMillis ≤ lastTime.clockMillis := by decide +kernel
    obtain ⟨label, hlabel⟩ := Calendar.exists_label_iff.2
      ⟨Int.le_trans hbefore hyear.1, Int.le_trans hyear.2 hafter⟩
    obtain ⟨label', hlabel'⟩ := Calendar.exists_label_iff.2
      ⟨Int.le_trans hbefore hyear'.1, Int.le_trans hyear'.2 hafter⟩
    exact ⟨label, label', hlabel, hlabel',
      Calendar.bytes_label_lt_iff hlabel hlabel' hyear hyear'⟩

/-- A group that is marked by a millisecond, with a count of documents. -/
def markedBy (millis : Int) : Keyed Json := [("doc_count", .int 4), ("key", .int millis)]

/-- The last millisecond of year 0 is marked by a negative number, and that of year 9999 is the last
with a year of four digits. Both keys are read back, and they are in order. -/
theorem dateKey_faithful_yearEnds :
    dateKey (markedBy (-62135596800001)) = some "0000-12-31T23:59:59.999Z" ∧
      dateKey (markedBy 253402300799999) = some "9999-12-31T23:59:59.999Z" ∧
      (∃ t : Instant, Calendar.ofText? "0000-12-31T23:59:59.999Z" = some t ∧
        t.nanos = -62135596800001 * 1000000) ∧
      Text.bytes "0000-12-31T23:59:59.999Z".toList
        < Text.bytes "9999-12-31T23:59:59.999Z".toList := by
  have hgroup : Unformatted (markedBy (-62135596800001)) (-62135596800001) :=
    ⟨rfl, by decide, fun s hs => by cases hs⟩
  have hgroup' : Unformatted (markedBy 253402300799999) 253402300799999 :=
    ⟨rfl, by decide, fun s hs => by cases hs⟩
  have hkey : dateKey (markedBy (-62135596800001)) = some "0000-12-31T23:59:59.999Z" := by
    decide +kernel
  have hkey' : dateKey (markedBy 253402300799999) = some "9999-12-31T23:59:59.999Z" := by
    decide +kernel
  obtain ⟨-, hread, -, hsorted⟩ := dateKey_faithful hgroup hgroup'
  obtain ⟨label, label', hlabel, hlabel', hlt⟩ :=
    hsorted (by decide +kernel) (by decide +kernel)
  rw [hkey, Option.some_inj] at hlabel
  rw [hkey', Option.some_inj] at hlabel'
  refine ⟨hkey, hkey', (hread _ hkey).2, ?_⟩
  rw [hlabel, hlabel']
  exact hlt.2 (by decide)

end TypedSearch.TypedKeys
