import Mathlib.Algebra.Group.Nat.Defs
import Mathlib.Data.List.Basic
import TypedSearch.Decimal.Whole
/-!
# `TypedSearch.Proofs.Decimal.Padded`: numbers in a fixed number of digits

With zeros in front, a number is written in any number of places that it fits into. Rows of equally
many digits are in the order of their numbers, whatever stands behind them.

* `isRow_writePadded`: a number that fits is written in as many places as are asked for.
* `IsRow.eq_iff`: in a given number of places a number is written in one way.
* `IsRow.append_lt_append_iff`: rows with texts behind them are in the order of their numbers, and
  for one number in the order of these texts.
-/

set_option autoImplicit false

namespace TypedSearch.Decimal

/-- The characters are the digits of a number in a given number of places. -/
structure IsRow (width n : Nat) (ds : List Char) : Prop where
  length : ds.length = width
  digits : ∀ c ∈ ds, c.isDigit = true
  value : valueOf ds = n

/-- The digits in front count by the places behind them. -/
theorem valueOf_append (ds es : List Char) :
    valueOf (ds ++ es) = 10 ^ es.length * valueOf ds + valueOf es := by
  rw [valueOf, Nat.ofDigitChars_append, Nat.ofDigitChars_eq_ofDigitChars_zero]
  rfl

/-! ### Zeros in front -/

/-- Zeros in front leave a row of digits. -/
theorem isDigit_of_mem_writePadded {width n : Nat} {c : Char} (h : c ∈ writePadded width n) :
    c.isDigit = true := by
  rcases List.mem_append.1 h with hzero | hdigit
  · rw [List.eq_of_mem_replicate hzero]
    rfl
  · exact isDigit_of_mem_writeNat hdigit

/-- Zeros in front leave the number as it is. -/
@[simp] theorem valueOf_writePadded (width n : Nat) : valueOf (writePadded width n) = n := by
  have hzeros : ∀ k, valueOf (List.replicate k '0') = 0 := by
    intro k
    induction k with
    | zero => rfl
    | succ k ih =>
      rw [List.replicate_succ', valueOf_append, ih]
      rfl
  rw [writePadded, valueOf_append, hzeros, valueOf_writeNat, Nat.mul_zero, Nat.zero_add]

/-- A number takes at least as many places as are asked for. -/
theorem le_length_writePadded (width n : Nat) : width ≤ (writePadded width n).length := by
  rw [writePadded, List.length_append, List.length_replicate]
  omega

/-- Some row holds the number, in at least as many places as are asked for. -/
theorem isRow_length_writePadded (width n : Nat) :
    IsRow (writePadded width n).length n (writePadded width n) :=
  ⟨rfl, fun _ hc => isDigit_of_mem_writePadded hc, valueOf_writePadded width n⟩

/-- A number that fits takes exactly as many places as are asked for. -/
theorem isRow_writePadded {width n : Nat} (hwidth : 0 < width) (h : n < 10 ^ width) :
    IsRow width n (writePadded width n) := by
  have hlength : (writePadded width n).length = width := by
    have hfits : (writeNat n).length ≤ width :=
      (Nat.length_toDigits_le_iff (by omega) hwidth).2 h
    rw [writePadded, List.length_append, List.length_replicate]
    omega
  have hrow := isRow_length_writePadded width n
  rwa [hlength] at hrow

/-! ### The order of rows -/

/-- A digit is one of the ten characters from `0` on. -/
theorem isDigit_bounds {c : Char} (h : c.isDigit = true) :
    '0'.toNat ≤ c.toNat ∧ c.toNat - '0'.toNat < 10 := by
  obtain ⟨hlow, hhigh⟩ := Char.isDigit_iff_toNat.1 h
  rw [show '9'.toNat = '0'.toNat + 9 from rfl] at hhigh
  omega

/-- The first digit counts by the places behind it. -/
theorem valueOf_cons (d : Char) (ds : List Char) :
    valueOf (d :: ds) = 10 ^ ds.length * (d.toNat - '0'.toNat) + valueOf ds := by
  rw [← List.singleton_append, valueOf_append]
  congr 2
  exact Nat.zero_add _

/-- A number is less than the power of ten with as many zeros as it has places. -/
theorem valueOf_lt {ds : List Char} (h : ∀ c ∈ ds, c.isDigit = true) :
    valueOf ds < 10 ^ ds.length := by
  induction ds with
  | nil => exact Nat.one_pos
  | cons d ds ih =>
    obtain ⟨hd, hds⟩ := List.forall_mem_cons.1 h
    have hrest := ih hds
    rw [valueOf_cons, List.length_cons, Nat.pow_succ]
    calc 10 ^ ds.length * (d.toNat - '0'.toNat) + valueOf ds
        < 10 ^ ds.length * (d.toNat - '0'.toNat) + 10 ^ ds.length := Nat.add_lt_add_left hrest _
      _ = 10 ^ ds.length * (d.toNat - '0'.toNat + 1) := (Nat.mul_succ _ _).symm
      _ ≤ 10 ^ ds.length * 10 := Nat.mul_le_mul_left _ (isDigit_bounds hd).2

/-- Numbers of whole steps and a rest are in the order of the steps, and then of the rests. -/
theorem steps_lt_iff {p a b x y : Nat} (hx : x < p) (hy : y < p) :
    p * a + x < p * b + y ↔ a < b ∨ a = b ∧ x < y := by
  have hstep : ∀ {i j : Nat}, i < j → p * i + p ≤ p * j := by
    intro i j hij
    rw [← Nat.mul_succ]
    exact Nat.mul_le_mul_left p hij
  rcases Nat.lt_trichotomy a b with hlt | rfl | hgt
  · have := hstep hlt
    omega
  · omega
  · have := hstep hgt
    omega

/-- Equally many digits are in the order of their numbers. -/
theorem lt_iff_valueOf_lt {ds es : List Char} (hds : ∀ c ∈ ds, c.isDigit = true)
    (hes : ∀ c ∈ es, c.isDigit = true) (h : ds.length = es.length) :
    ds < es ↔ valueOf ds < valueOf es := by
  induction ds generalizing es with
  | nil =>
    obtain rfl := List.length_eq_zero_iff.1 h.symm
    simp
  | cons d ds ih =>
    cases es with
    | nil => cases h
    | cons e es =>
      have hlength : ds.length = es.length := Nat.succ.inj h
      obtain ⟨hd, hds⟩ := List.forall_mem_cons.1 hds
      obtain ⟨he, hes⟩ := List.forall_mem_cons.1 hes
      have hrest := valueOf_lt hds
      have hlow := (isDigit_bounds hd).1
      have hlow' := (isDigit_bounds he).1
      rw [hlength] at hrest
      -- The first digits decide and then the rests, for the texts as for the numbers.
      rw [List.cons_lt_cons_iff, ih hds hes hlength, valueOf_cons, valueOf_cons, hlength,
        steps_lt_iff hrest (valueOf_lt hes), Char.lt_def, UInt32.lt_iff_toNat_lt, ← Char.toNat_inj]
      change d.toNat < e.toNat ∨ _ ↔ _
      omega

/-- Behind texts of one length the order is that of these, and for equal ones that of the rest. -/
theorem append_lt_append_iff {as bs : List Char} (h : as.length = bs.length) (xs ys : List Char) :
    as ++ xs < bs ++ ys ↔ as < bs ∨ as = bs ∧ xs < ys := by
  induction as generalizing bs with
  | nil =>
    obtain rfl := List.length_eq_zero_iff.1 h.symm
    simp
  | cons a as ih =>
    cases bs with
    | nil => cases h
    | cons b bs =>
      have hrest := ih (Nat.succ.inj h)
      simp only [List.cons_append, List.cons_lt_cons_iff, hrest, List.cons.injEq]
      tauto

namespace IsRow

variable {width m n : Nat} {ds es : List Char}

/-- In a given number of places a number is written in one way. -/
theorem eq_iff (h : IsRow width m ds) (h' : IsRow width n es) : ds = es ↔ m = n := by
  obtain ⟨rfl, hds, rfl⟩ := h
  obtain ⟨hlength, hes, rfl⟩ := h'
  constructor
  · rintro rfl
    rfl
  · intro heq
    -- Neither row comes before the other.
    have hnot : ¬ ds < es := fun hlt =>
      Nat.ne_of_lt ((lt_iff_valueOf_lt hds hes hlength.symm).1 hlt) heq
    have hnot' : ¬ es < ds := fun hlt =>
      Nat.ne_of_lt ((lt_iff_valueOf_lt hes hds hlength).1 hlt) heq.symm
    exact List.le_antisymm (List.not_lt.1 hnot') (List.not_lt.1 hnot)

/-- Rows with texts behind them are in the order of their numbers, and for one number in the order
of these texts. -/
theorem append_lt_append_iff (h : IsRow width m ds) (h' : IsRow width n es) (xs ys : List Char) :
    ds ++ xs < es ++ ys ↔ m < n ∨ m = n ∧ xs < ys := by
  have hlength : ds.length = es.length := h.length.trans h'.length.symm
  rw [Decimal.append_lt_append_iff hlength, h.eq_iff h',
    lt_iff_valueOf_lt h.digits h'.digits hlength, h.value, h'.value]

end IsRow

end TypedSearch.Decimal
