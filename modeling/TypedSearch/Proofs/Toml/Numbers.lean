import TypedSearch.Toml.Writer
/-!
# `TypedSearch.Proofs.Toml.Numbers`: whole numbers are read back

A number is written in decimal at the end of its line. What is read there is no moment, has no mark
of another base, no leading zero, no fraction and no exponent.

* `decimal_writeNat`: the digits of a number are read up to the end of the line.
* `moment_eq_none`: digits up to the end of a line are no moment.
* `number_writeNat`: the number is read back.
-/

set_option autoImplicit false

namespace TypedSearch.Toml

open Decimal

/-! ### Digits up to the end of a line -/

/-- Only zero is written with a zero in front. -/
theorem eq_zero_of_head_writeNat {n : Nat} (h : (writeNat n).head? = some '0') : n = 0 := by
  induction n using Nat.strongRecOn with
  | ind n ih =>
    rw [writeNat, Nat.toDigits_eq_if (by omega)] at h
    split at h
    · simpa using h
    · next hge =>
      -- The digits in front of the last are those of a smaller number, which is not zero.
      have hhead : (writeNat (n / 10)).head? = some '0' := by
        obtain ⟨d, ds, hds⟩ := List.exists_cons_of_ne_nil (writeNat_ne_nil (n / 10))
        rw [← writeNat, hds] at h
        rw [hds]
        exact h
      have hzero := ih (n / 10) (by omega) hhead
      omega

/-- Behind the first digit there is a digit or the end of the line. -/
theorem isDigit_or_newline {ds rest cs : List Char} {a b : Char}
    (hds : ∀ c ∈ ds, c.isDigit = true) (hne : ds ≠ []) (h : ds ++ '\n' :: rest = a :: b :: cs) :
    b.isDigit = true ∨ b = '\n' := by
  cases ds with
  | nil => exact absurd rfl hne
  | cons d ds =>
    cases ds with
    | nil => exact .inr (List.cons.inj (List.cons.inj h).2).1.symm
    | cons e ds =>
      rw [← (List.cons.inj (List.cons.inj h).2).1]
      exact .inl (hds e (by simp))

/-- A mark that is no digit and does not end the line is not there. -/
theorem mark_eq_none {mark : Char} {ds rest : List Char} (hds : ∀ c ∈ ds, c.isDigit = true)
    (hdigit : mark.isDigit = false) (hnewline : mark ≠ '\n') :
    mark? mark (ds ++ '\n' :: rest) = none := by
  cases ds with
  | nil => exact if_neg (Ne.symm hnewline)
  | cons d ds =>
    refine if_neg ?_
    rintro rfl
    rw [hds d List.mem_cons_self] at hdigit
    cases hdigit

/-! ### No moment -/

/-- Digits up to the end of a line are no time of day. -/
theorem time_eq_none {ds rest : List Char} (hds : ∀ c ∈ ds, c.isDigit = true) :
    time? (ds ++ '\n' :: rest) = none := by
  -- Behind two digits stands another digit or the end of the line, and no colon.
  have hread : ∀ found, twoDigits? 23 (ds ++ '\n' :: rest) = some found →
      mark? ':' found.2 = none := by
    intro found hfound
    match ds with
    | [] => cases rest <;> cases hfound
    | [d] => simp [twoDigits?] at hfound
    | a :: b :: ds =>
      simp only [List.cons_append, twoDigits?, Option.ite_none_right_eq_some,
        Option.some.injEq] at hfound
      rw [← hfound.2]
      exact mark_eq_none (fun c hc => hds c (by simp [hc])) rfl (by decide)
  unfold time?
  cases hfound : twoDigits? 23 (ds ++ '\n' :: rest) with
  | none => rfl
  | some found => simp [hread found hfound]

/-- Digits up to the end of a line are no date. -/
theorem date_eq_none {ds rest : List Char} (hds : ∀ c ∈ ds, c.isDigit = true) :
    date? (ds ++ '\n' :: rest) = none := by
  simp only [date?, ite_eq_right_iff]
  rintro ⟨-, hyear⟩
  -- A year of four digits lies inside the number, so that there is no hyphen behind it.
  have hlong : 4 ≤ ds.length := by
    refine Nat.le_of_not_lt fun hshort => ?_
    have hnewline : '\n' ∈ List.take 4 (ds ++ '\n' :: rest) := by
      rw [List.take_append, List.take_of_length_le (by omega)]
      obtain ⟨k, hk⟩ := Nat.exists_eq_add_of_lt hshort
      rw [hk, show ds.length + k + 1 - ds.length = k + 1 by omega, List.take_succ_cons]
      simp
    cases List.all_eq_true.1 hyear '\n' hnewline
  rw [List.drop_append_of_le_length hlong,
    mark_eq_none (fun c hc => hds c (List.mem_of_mem_drop hc)) rfl (by decide)]
  rfl

/-- Digits up to the end of a line are no moment. -/
theorem moment_eq_none {ds rest : List Char} (hds : ∀ c ∈ ds, c.isDigit = true) :
    moment? (ds ++ '\n' :: rest) = none := by
  rw [moment?, date_eq_none hds, time_eq_none hds]
  rfl

/-! ### Numbers -/

/-- Digits are read up to the end of the line. -/
theorem moreDigits_append {ds rest : List Char} (hds : ∀ c ∈ ds, c.isDigit = true) :
    moreDigits Char.isDigit (ds ++ '\n' :: rest) = (ds, '\n' :: rest) := by
  induction ds with
  | nil => rfl
  | cons d ds ih =>
    obtain ⟨hd, hds⟩ := List.forall_mem_cons.1 hds
    rw [List.cons_append, moreDigits]
    · rw [if_pos hd, ih hds]
    · rintro _ _ rfl
      cases hd

/-- The digits of a number are read up to the end of the line. -/
theorem decimal_writeNat (n : Nat) (rest : List Char) :
    decimal? (writeNat n ++ '\n' :: rest) = some (writeNat n, '\n' :: rest) := by
  obtain ⟨d, ds, hds⟩ := List.exists_cons_of_ne_nil (writeNat_ne_nil n)
  have hdigits : ∀ c ∈ d :: ds, c.isDigit = true := by
    rw [← hds]
    exact fun _ hc => isDigit_of_mem_writeNat hc
  obtain ⟨hd, hds'⟩ := List.forall_mem_cons.1 hdigits
  -- The reader stops behind a zero in front, which only zero has.
  by_cases hzero : d = '0'
  · obtain rfl : n = 0 := eq_zero_of_head_writeNat (by rw [hds, hzero]; rfl)
    rfl
  · rw [hds, List.cons_append, decimal?, digits?, if_pos hd, moreDigits_append hds']
    simpa using hzero

/-- A text that starts with a digit has no sign. -/
theorem sign_of_isDigit {d : Char} (hd : d.isDigit = true) (cs : List Char) :
    sign (d :: cs) = (false, d :: cs) := by
  unfold sign
  split
  · next heq => cases heq; cases hd
  · next heq => cases heq; cases hd
  · rfl

/-- A number in decimal at the end of its line has neither a fraction nor an exponent. -/
theorem decimalNumber_writeNat {n : Nat} (h : (n : Int) ≤ maxWhole) (rest : List Char) :
    decimalNumber? false (writeNat n ++ '\n' :: rest) = some (.int n, '\n' :: rest) := by
  have hmin : Int64.minValue.toInt ≤ (n : Int) := by
    have : Int64.minValue.toInt ≤ 0 := by decide
    omega
  rw [decimalNumber?, decimal_writeNat]
  show whole? (valueOf (writeNat n) : Int) ('\n' :: rest) = _
  rw [valueOf_writeNat, whole?, if_pos ⟨hmin, h⟩]

/-- A number that fits 64 bits is read back. -/
theorem number_writeNat {n : Nat} (h : (n : Int) ≤ maxWhole) (rest : List Char) :
    number? (writeNat n ++ '\n' :: rest) = some (.int n, '\n' :: rest) := by
  have hdigits : ∀ c ∈ writeNat n, c.isDigit = true := fun _ hc => isDigit_of_mem_writeNat hc
  have hsecond : ∀ {a b cs}, writeNat n ++ '\n' :: rest = a :: b :: cs →
      b.isDigit = true ∨ b = '\n' := isDigit_or_newline hdigits (writeNat_ne_nil n)
  have hread := decimalNumber_writeNat h rest
  obtain ⟨d, ds, hds⟩ := List.exists_cons_of_ne_nil (writeNat_ne_nil n)
  have hd : d.isDigit = true := hdigits d (by rw [hds]; exact List.mem_cons_self)
  unfold number?
  rw [moment_eq_none hdigits]
  rw [hds, List.cons_append] at hsecond hread ⊢
  dsimp only
  split
  -- The mark of another base would stand where there is a digit or the end of the line.
  · next heq => obtain h | h := hsecond heq <;> cases h
  · next heq => obtain h | h := hsecond heq <;> cases h
  · next heq => obtain h | h := hsecond heq <;> cases h
  · -- Neither a sign nor one of the names of floats starts with a digit.
    rw [sign_of_isDigit hd]
    split
    · next heq =>
      obtain rfl := (List.cons.inj (Prod.mk.inj heq).2).1
      cases hd
    · next heq =>
      obtain rfl := (List.cons.inj (Prod.mk.inj heq).2).1
      cases hd
    · next heq =>
      obtain ⟨rfl, rfl⟩ := Prod.mk.inj heq
      exact hread

end TypedSearch.Toml
