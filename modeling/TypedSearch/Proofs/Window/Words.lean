import Mathlib.Algebra.Group.Int.Defs
import TypedSearch.Proofs.FirstError
import TypedSearch.Proofs.Window
/-!
# `TypedSearch.Proofs.Window.Words`: the offsets of a window in words of 64 bits

The offsets of a window are plain numbers here. A machine has them in words: with a sign where they
are given and compared, without one where they are subtracted and counted on. `wordOffsets` finds
the offsets in words alone, with sums that stop at the largest word. The theorems say that words do
for windows, up to the largest offset and for every size of pages.

* `toInt_cappedAdd`, `toInt_signedSize`: a sum and a size that do not fit are the largest word.
* `ofOffsets_eq_ok_iff`, `withDefaults_eq_ofBounds`: the window between two words.
* `spans_of_eq`: sizes and ends can be computed in words without a sign, and never wrap around.
* `Spans.withDefaultConditions`: default conditions change nothing about that.
* `offsets_exact`: all of this for the windows that can be made.
-/

set_option autoImplicit false

namespace TypedSearch.Window

/-! ### Words with a sign -/

/-- The larger of a word and zero. -/
theorem toInt_max_zero (a : Int64) : (max a 0).toInt = max a.toInt 0 := by
  show (if a ≤ 0 then 0 else a).toInt = max a.toInt 0
  have hzero : (0 : Int64).toInt = 0 := rfl
  split
  · next h =>
    rw [Int64.le_iff_toInt_le, hzero] at h
    omega
  · next h =>
    rw [Int64.le_iff_toInt_le, hzero] at h
    omega

/-- The sum of two words. One that does not fit is the largest or the smallest word. -/
def cappedAdd (a b : Int64) : Int64 :=
  if a.toBitVec.saddOverflow b.toBitVec then if a < 0 then Int64.minValue else Int64.maxValue
  else a + b

/-- The sum of two words that are not negative, as far as it fits. -/
theorem toInt_cappedAdd {a b : Int64} (ha : 0 ≤ a.toInt) (hb : 0 ≤ b.toInt) :
    (cappedAdd a b).toInt = min (a.toInt + b.toInt) maxOffset := by
  have hover : a.toBitVec.saddOverflow b.toBitVec = true ↔ maxOffset < a.toInt + b.toInt := by
    simp only [BitVec.saddOverflow, Bool.or_eq_true, decide_eq_true_eq]
    show 2 ^ 63 ≤ a.toInt + b.toInt ∨ a.toInt + b.toInt < -2 ^ 63 ↔ 2 ^ 63 - 1 < a.toInt + b.toInt
    omega
  have hsign : ¬ a < 0 := by
    rw [Int64.lt_iff_toInt_lt]
    exact Int.not_lt.2 ha
  by_cases h : a.toBitVec.saddOverflow b.toBitVec = true
  · have hlarge := hover.1 h
    rw [cappedAdd, if_pos h, if_neg hsign]
    show maxOffset = _
    omega
  · have hfits : a.toInt + b.toInt ≤ maxOffset := Int.not_lt.1 fun hlarge => h (hover.2 hlarge)
    have hsum : (a + b).toInt = a.toInt + b.toInt := BitVec.toInt_add_of_not_saddOverflow h
    rw [cappedAdd, if_neg h, hsum]
    omega

/-- A size as a word with a sign. One that does not fit is the largest word. -/
def signedSize (size : UInt64) : Int64 :=
  if size ≤ Int64.maxValue.toUInt64 then size.toInt64 else Int64.maxValue

/-- The value of a size as a word with a sign, as far as it fits. -/
theorem toInt_signedSize (size : UInt64) :
    (signedSize size).toInt = min (size.toNat : Int) maxOffset := by
  have hmax : Int64.maxValue.toUInt64.toNat = 2 ^ 63 - 1 := rfl
  have hoffset : maxOffset = 2 ^ 63 - 1 := rfl
  rw [signedSize]
  split
  · next h =>
    rw [UInt64.le_iff_toNat_le, hmax] at h
    have hsigned : size.toInt64.toInt = size.toNat :=
      BitVec.toInt_eq_toNat_of_lt (show 2 * size.toNat < 2 ^ 64 by omega)
    rw [hsigned]
    omega
  · next h =>
    rw [UInt64.le_iff_toNat_le, hmax] at h
    show maxOffset = _
    omega

/-- The offsets of a window in words, with missing ones filled in. -/
def wordOffsets (start stop : Option Int64) (pageSize : UInt64) : Int64 × Int64 :=
  let first := max (start.getD 0) 0
  (first, stop.getD (cappedAdd first (signedSize pageSize)))

/-- The first word is the start, or zero where it is negative or missing. -/
theorem toInt_wordOffsets_fst (start stop : Option Int64) (pageSize : UInt64) :
    (wordOffsets start stop pageSize).1.toInt = max ((start.map Int64.toInt).getD 0) 0 := by
  show (max (start.getD 0) 0).toInt = _
  rw [toInt_max_zero]
  cases start with
  | none => rfl
  | some first => rfl

/-- The second word is the end, or one page behind the start where it is missing, as far as there
are offsets. -/
theorem toInt_wordOffsets_snd (start stop : Option Int64) (pageSize : UInt64) :
    (wordOffsets start stop pageSize).2.toInt = (stop.map Int64.toInt).getD
      (min (max ((start.map Int64.toInt).getD 0) 0 + pageSize.toNat) maxOffset) := by
  cases stop with
  | some last => rfl
  | none =>
    have hfirst := toInt_wordOffsets_fst start none pageSize
    have hsize := toInt_signedSize pageSize
    have hoffset : maxOffset = 2 ^ 63 - 1 := rfl
    -- A size that is cut to the largest offset before it is added makes the same sum.
    show (cappedAdd (wordOffsets start none pageSize).1 (signedSize pageSize)).toInt = min _ _
    rw [toInt_cappedAdd (by omega) (by omega), hfirst, hsize]
    omega

/-! ### Windows between two words -/

variable {F : Type} {cs : List (Condition F)}

/-- Offsets make a window exactly where the end does not lie before the start. It has the
conditions, and lies between the offsets. -/
theorem ofOffsets_eq_ok_iff {start stop : Int} {h : stop ≤ maxOffset} {w : Window F} :
    ofOffsets cs start stop h = .ok w ↔
      max start 0 ≤ stop ∧ w.conditions = cs ∧ (w.start : Int) = max start 0 ∧
        (w.stop : Int) = stop := by
  obtain ⟨conditions, first, last, -, -⟩ := w
  by_cases hle : max start 0 ≤ stop
  · simp only [ofOffsets, hle, dif_pos, Except.ok.injEq, mk.injEq, true_and, eq_comm]
    refine and_congr_right fun _ => ?_
    omega
  · simp [ofOffsets, hle]

/-- With missing offsets filled in there is the window between the offsets that words have. -/
theorem withDefaults_eq_ofBounds (start stop : Option Int64) (pageSize : UInt64) :
    withDefaults cs start stop pageSize
      = ofBounds cs (wordOffsets start stop pageSize).1 (wordOffsets start stop pageSize).2 := by
  have hfirst := toInt_wordOffsets_fst start stop pageSize
  have hlast := toInt_wordOffsets_snd start stop pageSize
  simp only [withDefaults, ofBounds, hfirst]
  cases stop with
  | some last => rfl
  | none => simp only [hlast, Option.map_none, Option.getD_none]

/-- A window lies between two words, and what is computed from them without a sign is exact:

- `start_eq`, `stop_eq`, `ordered`: the words are its offsets, in their order and not negative;
- `size_eq`, `fetchSize_eq`, `stop_succ`: it has room for what lies between them, and what is
  fetched goes one further than its end;
- `word_le`, `word_size`: the difference of the words is its size, with nothing borrowed;
- `word_fetchSize`, `word_end`: one more, and the end of what is fetched, are still words. -/
structure Spans (w : Window F) (first last : Int64) : Prop where
  start_eq : (w.start : Int) = first.toInt
  stop_eq : (w.stop : Int) = last.toInt
  ordered : 0 ≤ first.toInt ∧ first.toInt ≤ last.toInt ∧ last.toInt ≤ 2 ^ 63 - 1
  size_eq : (w.size : Int) = last.toInt - first.toInt
  fetchSize_eq : w.fetchSize = w.size + 1
  stop_succ : w.start + w.fetchSize = w.stop + 1
  word_le : first.toUInt64 ≤ last.toUInt64
  word_size : (last.toUInt64 - first.toUInt64).toNat = w.size
  word_fetchSize : (last.toUInt64 - first.toUInt64 + 1).toNat = w.fetchSize
  word_end : (first.toUInt64 + (last.toUInt64 - first.toUInt64 + 1)).toNat = w.stop + 1

/-- A word that is not negative has the same value without a sign. -/
theorem toNat_toUInt64 {a : Int64} {n : Nat} (h : (n : Int) = a.toInt) :
    a.toUInt64.toNat = n := by
  have hpos : 0 ≤ a := by
    rw [Int64.le_iff_toInt_le]
    show 0 ≤ a.toInt
    omega
  rw [Int64.toNat_toUInt64_of_le hpos]
  show a.toInt.toNat = n
  omega

/-- Every window spans the words that are its offsets. -/
theorem spans_of_eq {w : Window F} {first last : Int64} (hfirst : (w.start : Int) = first.toInt)
    (hlast : (w.stop : Int) = last.toInt) : w.Spans first last := by
  have hle := w.start_le_stop
  have hmax : (w.stop : Int) ≤ 2 ^ 63 - 1 := w.stop_le
  have hstart := toNat_toUInt64 hfirst
  have hstop := toNat_toUInt64 hlast
  have hword : first.toUInt64 ≤ last.toUInt64 := by
    rw [UInt64.le_iff_toNat_le, hstart, hstop]
    exact hle
  have hsize : (last.toUInt64 - first.toUInt64).toNat = w.size := by
    rw [UInt64.toNat_sub_of_le _ _ hword, hstart, hstop]
    rfl
  -- One more fits, since offsets have 63 bits and words without a sign have 64.
  have hfetch : (last.toUInt64 - first.toUInt64 + 1).toNat = w.fetchSize := by
    rw [UInt64.toNat_add, hsize]
    show (w.size + 1) % 2 ^ 64 = w.size + 1
    have : w.size = w.stop - w.start := rfl
    omega
  have hend : w.start + w.fetchSize = w.stop + 1 := by
    show w.start + (w.stop - w.start + 1) = w.stop + 1
    omega
  refine ⟨hfirst, hlast, by omega, ?_, rfl, hend, hword, hsize, hfetch, ?_⟩
  · show ((w.stop - w.start : Nat) : Int) = _
    omega
  · rw [UInt64.toNat_add, hfetch, hstart, hend]
    omega

/-- With default conditions a window spans the same words. -/
theorem Spans.withDefaultConditions [DecidableEq F] {w : Window F} {first last : Int64}
    (h : w.Spans first last) (ds : List (Condition F)) :
    (w.withDefaultConditions ds).Spans first last := by
  obtain ⟨hstart, hstop⟩ := stretch_withDefaultConditions w ds
  exact spans_of_eq (hstart ▸ h.start_eq) (hstop ▸ h.stop_eq)

/-- The window between two words spans them, with a negative start as zero. -/
theorem spans_of_ofBounds {start stop : Int64} {w : Window F}
    (h : ofBounds cs start stop = .ok w) : w.Spans (max start 0) stop := by
  obtain ⟨-, -, hstart, hstop⟩ := ofOffsets_eq_ok_iff.1 h
  exact spans_of_eq (hstart.trans (toInt_max_zero start).symm) hstop

variable [DecidableEq F]

/-- Two offsets make a window exactly where the end does not lie before the start; a negative start
counts as zero, also in the error. With missing offsets filled in there is no window exactly where
the end is given and lies before the start; without it the window ends one page behind the start, or
at the largest offset. All of these windows, with any default conditions added, span the words that
hold their offsets. -/
theorem offsets_exact (cs ds : List (Condition F)) :
    (∀ start stop : Int64,
      ((∃ w, ofBounds cs start stop = .ok w) ↔ max start.toInt 0 ≤ stop.toInt) ∧
      (∀ e, ofBounds cs start stop = .error e ↔
        stop.toInt < max start.toInt 0 ∧ e = .invalidWindow (max start.toInt 0) stop.toInt) ∧
      ∀ w, ofBounds cs start stop = .ok w →
        (w.withDefaultConditions ds).Spans (max start 0) stop) ∧
    ∀ (start stop : Option Int64) (pageSize : UInt64),
      let first := max ((start.map Int64.toInt).getD 0) 0
      let words := wordOffsets start stop pageSize
      (∀ e, withDefaults cs start stop pageSize = .error e ↔
        ∃ last, stop = some last ∧ last.toInt < first ∧ e = .invalidWindow first last.toInt) ∧
      words.1.toInt = first ∧
      words.2.toInt = (stop.map Int64.toInt).getD (min (first + pageSize.toNat) (2 ^ 63 - 1)) ∧
      ∀ w, withDefaults cs start stop pageSize = .ok w →
        (w.withDefaultConditions ds).Spans words.1 words.2 := by
  constructor
  · intro start stop
    refine ⟨⟨?_, fun hle => ⟨_, dif_pos hle⟩⟩, fun e => ofOffsets_eq_error_iff, ?_⟩
    · rintro ⟨w, hw⟩
      exact (ofOffsets_eq_ok_iff.1 hw).1
    · intro w hw
      exact (spans_of_ofBounds hw).withDefaultConditions ds
  · intro start stop pageSize
    refine ⟨fun e => withDefaults_eq_error_iff, toInt_wordOffsets_fst start stop pageSize,
      toInt_wordOffsets_snd start stop pageSize, ?_⟩
    intro w hw
    rw [withDefaults_eq_ofBounds] at hw
    have hspans := (spans_of_ofBounds hw).withDefaultConditions ds
    have hfirst := toInt_wordOffsets_fst start stop pageSize
    -- The first word is not negative already.
    have hstart := hspans.start_eq
    rw [toInt_max_zero, hfirst] at hstart
    exact spans_of_eq (by omega) hspans.stop_eq

/-- From the largest offset on, a page of the largest size ends at once, and from the smallest on it
ends at the largest. -/
theorem offsets_exact_largest :
    (∃ w, withDefaults ([] : List (Condition Nat)) (some Int64.maxValue) none (-1) = .ok w ∧
      w.Spans Int64.maxValue Int64.maxValue) ∧
    ∃ w, withDefaults ([] : List (Condition Nat)) (some Int64.minValue) none (-1) = .ok w ∧
      w.Spans 0 Int64.maxValue := by
  have hexact := (offsets_exact ([] : List (Condition Nat)) []).2
  exact ⟨⟨_, rfl, (hexact (some Int64.maxValue) none (-1)).2.2.2 _ rfl⟩,
    ⟨_, rfl, (hexact (some Int64.minValue) none (-1)).2.2.2 _ rfl⟩⟩

end TypedSearch.Window
