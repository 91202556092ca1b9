import Mathlib.Data.List.DropRight
import TypedSearch.Json.Shape
import TypedSearch.Proofs.FirstError
/-!
# `TypedSearch.Proofs.Json.Kinds`: what a value is by its first character

The first character of a value decides what it is. The readers for values of a known shape go by
this character, so that each of them is the reader of any value with a demand on what is read.

* `readNumber_eq_ok`: a number is read up to where skipping it ends.
* `scalarForm_of_readScalar`, `valueForm_of_readValue`: all that can be read, by how it starts.
* `readFlag_eq_ok_iff`, `readString_eq_ok_iff`, `readObject_eq_ok_iff`: the readers for a shape, by
  the values of that shape.
* `readOptional_eq_ok_iff`: null, or else what is read otherwise.
-/

set_option autoImplicit false

namespace TypedSearch.Json

open Decimal (valueOf)

/-! ### Numbers -/

/-- The value is a number. -/
inductive IsNumber : Json → Prop
  | int (n : Int) : IsNumber (.int n)
  | float (x : Decimal.Binary64) : IsNumber (.float x)

section
variable {negative : Bool} {n : Nat} {e : Int} {v : Json} {cs rest : List Char}

/-- A binary number is read without looking at the text behind it. -/
theorem binary_eq_ok (h : binary negative n e cs = .ok (v, rest)) : v.IsNumber ∧ rest = cs := by
  rw [binary] at h
  split at h
  · cases h
    exact ⟨.float _, rfl⟩
  · cases h
/-- A whole number is read without looking at the text behind it. -/
theorem whole_eq_ok (h : whole negative n cs = .ok (v, rest)) : v.IsNumber ∧ rest = cs := by
  rw [whole] at h
  split at h
  · cases h
    exact ⟨.int _, rfl⟩
  · split at h
    · exact binary_eq_ok h
    · cases h
      exact ⟨.int _, rfl⟩

/-- The digits of an exponent are read up to where skipping them ends. -/
theorem exponentDigits_eq_ok {down : Bool} {ds : List Char}
    (h : (if (ds.takeWhile Char.isDigit).isEmpty then
          .error (missing (ds.dropWhile Char.isDigit))
        else if Int32.maxValue.toInt < (valueOf (ds.takeWhile Char.isDigit) : Int) then
          if n ≠ 0 ∧ !down then .error Fault.malformed
          else binary negative 0 0 (ds.dropWhile Char.isDigit)
        else binary negative n
          (if down then e - valueOf (ds.takeWhile Char.isDigit)
            else e + valueOf (ds.takeWhile Char.isDigit)) (ds.dropWhile Char.isDigit))
      = .ok (v, rest)) : v.IsNumber ∧ skipDigits ds = .ok rest := by
  rw [skipDigits]
  split at h
  · cases h
  · next hds =>
    rw [if_neg hds]
    have hbinary : ∃ n e, binary negative n e (ds.dropWhile Char.isDigit) = .ok (v, rest) := by
      split at h
      · split at h
        · cases h
        · exact ⟨_, _, h⟩
      · exact ⟨_, _, h⟩
    obtain ⟨_, _, hbinary⟩ := hbinary
    obtain ⟨hv, rfl⟩ := binary_eq_ok hbinary
    exact ⟨hv, rfl⟩

/-- An exponent is read up to where skipping it ends. -/
theorem readExponent_eq_ok (h : readExponent negative n e cs = .ok (v, rest)) :
    v.IsNumber ∧ skipExponent cs = .ok rest := by
  unfold readExponent at h
  split at h
  · obtain ⟨hv, rfl⟩ := binary_eq_ok h
    exact ⟨hv, rfl⟩
  · next c inside =>
    unfold skipExponent
    dsimp only
    split at h
    · next hmark =>
      rw [if_pos hmark]
      -- Both pass over a sign, and what is left are digits.
      split
      · exact exponentDigits_eq_ok h
      · exact exponentDigits_eq_ok h
      · next hminus hplus =>
        split at h
        next hsign =>
          split at hsign
          · exact absurd rfl (hminus _)
          · exact absurd rfl (hplus _)
          · cases hsign
            exact exponentDigits_eq_ok h
    · next hmark =>
      rw [if_neg hmark]
      obtain ⟨hv, rfl⟩ := binary_eq_ok h
      exact ⟨hv, rfl⟩

/-- Digits, with no other digit behind a leading zero, are skipped before what stands behind
them. -/
theorem skipNumber_eq (hdigits : ¬ (cs.takeWhile Char.isDigit).isEmpty)
    (hzero : ∀ d inside, cs = '0' :: d :: inside → ¬ d.isDigit) :
    skipNumber cs = match cs.dropWhile Char.isDigit with
      | '.' :: inside => skipDigits inside >>= skipExponent
      | rest => skipExponent rest := by
  have hskip : skipDigits cs = .ok (cs.dropWhile Char.isDigit) := by
    rw [skipDigits, if_neg hdigits]
  unfold skipNumber
  split
  · next d inside =>
    rw [if_neg (hzero d inside rfl), hskip]
    rfl
  · rw [hskip]
    rfl

/-- A point is skipped with the digits behind it. -/
theorem skipNumber_of_point (hdigits : ¬ (cs.takeWhile Char.isDigit).isEmpty)
    (hzero : ∀ d inside, cs = '0' :: d :: inside → ¬ d.isDigit) {inside : List Char}
    (h : cs.dropWhile Char.isDigit = '.' :: inside) :
    skipNumber cs = skipDigits inside >>= skipExponent := by
  rw [skipNumber_eq hdigits hzero]
  generalize cs.dropWhile Char.isDigit = tail at h ⊢
  subst h
  rfl

/-- Where no point follows, an exponent may. -/
theorem skipNumber_of_ne (hdigits : ¬ (cs.takeWhile Char.isDigit).isEmpty)
    (hzero : ∀ d inside, cs = '0' :: d :: inside → ¬ d.isDigit)
    (h : ∀ inside, cs.dropWhile Char.isDigit ≠ '.' :: inside) :
    skipNumber cs = skipExponent (cs.dropWhile Char.isDigit) := by
  rw [skipNumber_eq hdigits hzero]
  split
  · next hpoint => exact absurd hpoint (h _)
  · rfl

/-- Where there is no exponent, none is skipped. -/
theorem skipExponent_of_head (he : cs.head? ≠ some 'e') (hcapital : cs.head? ≠ some 'E') :
    skipExponent cs = .ok cs := by
  cases cs with
  | nil => rfl
  | cons c inside =>
    have hmark : ¬ (c = 'e' ∨ c = 'E') := by
      rintro (rfl | rfl)
      · exact he rfl
      · exact hcapital rfl
    unfold skipExponent
    exact if_neg hmark

/-- A number is read up to where skipping it ends. -/
theorem readNumber_eq_ok (h : readNumber negative cs = .ok (v, rest)) :
    v.IsNumber ∧ skipNumber cs = .ok rest := by
  rw [readNumber] at h
  -- There are no digits, or more behind a leading zero, or they are those of a number.
  split at h
  · cases h
  · cases h
  · next ds hnone hlong =>
    have hdigits : ¬ (cs.takeWhile Char.isDigit).isEmpty := by
      rw [List.isEmpty_iff]
      exact hnone
    have hzero : ∀ d inside, cs = '0' :: d :: inside → ¬ d.isDigit := by
      rintro d inside rfl hd
      exact hlong d (inside.takeWhile Char.isDigit) (by simp [hd])
    dsimp only at h
    split at h
    · next hpoint =>
      split at h
      · cases h
      · next hfraction =>
        obtain ⟨hv, hexponent⟩ := readExponent_eq_ok h
        refine ⟨hv, ?_⟩
        rw [skipNumber_of_point hdigits hzero hpoint, skipDigits, if_neg hfraction]
        exact hexponent
    · next hpoint =>
      rw [skipNumber_of_ne hdigits hzero hpoint]
      split at h
      · next hend =>
        obtain ⟨hv, rfl⟩ := whole_eq_ok h
        exact ⟨hv, skipExponent_of_head hend.2.1 hend.2.2⟩
      · exact readExponent_eq_ok h
end

/-! ### Values -/

/-- What a scalar is and where it ends, by its first character. -/
inductive ScalarForm : List Char → Json → List Char → Prop
  | null {cs rest : List Char} (h : readWord ['u', 'l', 'l'] cs = .ok rest) :
    ScalarForm ('n' :: cs) .null rest
  | true {cs rest : List Char} (h : readWord ['r', 'u', 'e'] cs = .ok rest) :
    ScalarForm ('t' :: cs) (.bool true) rest
  | false {cs rest : List Char} (h : readWord ['a', 'l', 's', 'e'] cs = .ok rest) :
    ScalarForm ('f' :: cs) (.bool false) rest
  | text {cs rest : List Char} {s : String} (h : readText cs = .ok (s, rest)) :
    ScalarForm ('"' :: cs) (.str s) rest
  | negative {cs rest : List Char} {v : Json} (hv : v.IsNumber)
    (h : readNumber true cs = .ok (v, rest)) : ScalarForm ('-' :: cs) v rest
  | number {c : Char} {cs rest : List Char} {v : Json} (hv : v.IsNumber) (hdigit : c.isDigit)
    (h : readNumber false (c :: cs) = .ok (v, rest)) : ScalarForm (c :: cs) v rest

/-- What a value is and where it ends, by the first character behind the blanks. -/
inductive ValueForm : Nat → List Char → Json → List Char → Prop
  | arr {depth : Nat} {cs inside rest : List Char} {items : List Json}
    (hopen : skipBetween cs = '[' :: inside)
    (h : readItems (readValue depth) (inside.length + 1) true inside = .ok (items, rest)) :
    ValueForm (depth + 1) cs (.arr items) rest
  | obj {depth : Nat} {cs inside rest : List Char} {pairs : List (String × Json)}
    (hopen : skipBetween cs = '{' :: inside)
    (h : readPairs (readValue depth) inside = .ok (pairs, rest)) :
    ValueForm (depth + 1) cs (ofMembers pairs) rest
  | scalar {depth : Nat} {cs rest : List Char} {v : Json}
    (h : ScalarForm (skipBetween cs) v rest) : ValueForm depth cs v rest

section
variable {depth : Nat} {v : Json} {cs rest : List Char}

/-- A scalar is read by its first character. -/
theorem scalarForm_of_readScalar (h : readScalar cs = .ok (v, rest)) : ScalarForm cs v rest := by
  unfold readScalar at h
  split at h
  · cases h
  · obtain ⟨_, hword, hsame⟩ := bind_eq_ok_iff.1 h
    cases hsame
    exact .null hword
  · obtain ⟨_, hword, hsame⟩ := bind_eq_ok_iff.1 h
    cases hsame
    exact .true hword
  · obtain ⟨_, hword, hsame⟩ := bind_eq_ok_iff.1 h
    cases hsame
    exact .false hword
  · obtain ⟨⟨_, _⟩, htext, hsame⟩ := bind_eq_ok_iff.1 h
    cases hsame
    exact .text htext
  · exact .negative (readNumber_eq_ok h).1 h
  · split at h
    · next hdigit => exact .number (readNumber_eq_ok h).1 hdigit h
    · cases h

/-- A value is read by the first character behind the blanks. -/
theorem valueForm_of_readValue (h : readValue depth cs = .ok (v, rest)) :
    ValueForm depth cs v rest := by
  unfold readValue at h
  split at h
  · cases h
  · next hopen =>
    cases depth with
    | zero => cases h
    | succ depth =>
      obtain ⟨⟨_, _⟩, hitems, hsame⟩ := bind_eq_ok_iff.1 h
      cases hsame
      exact .arr hopen hitems
  · next hopen =>
    cases depth with
    | zero => cases h
    | succ depth =>
      obtain ⟨⟨_, _⟩, hpairs, hsame⟩ := bind_eq_ok_iff.1 h
      cases hsame
      exact .obj hopen hpairs
  · exact .scalar (scalarForm_of_readScalar h)

/-! ### Values of a known shape -/

/-- In front of a token there are no blanks any more. -/
@[simp] theorem skipBetween_skipBetween : skipBetween (skipBetween cs) = skipBetween cs := by
  rw [skipBetween, skipBetween, List.dropWhile_idempotent]

/-- Blanks in front of a value make no difference to it. -/
theorem readValue_skipBetween : readValue depth (skipBetween cs) = readValue depth cs := by
  unfold readValue
  rw [skipBetween_skipBetween]

/-- A value that opens no container is read as a scalar. -/
theorem readValue_eq_readScalar (harr : (skipBetween cs).head? ≠ some '[')
    (hobj : (skipBetween cs).head? ≠ some '{') :
    readValue depth cs = readScalar (skipBetween cs) := by
  unfold readValue
  split
  · next hnone =>
    rw [hnone]
    rfl
  · next hopen =>
    rw [hopen] at harr
    exact absurd rfl harr
  · next hopen =>
    rw [hopen] at hobj
    exact absurd rfl hobj
  · rfl

/-- Nothing is read from a value of another shape. -/
theorem mismatch_ne_ok {α : Type} {a : α} : mismatch cs ≠ .ok (a, rest) := by
  unfold mismatch
  split
  · simp
  · simp
  · simp
  · cases readScalar (skipBetween cs) <;> simp [Except.bind]

/-- A truth value is read as every value is. -/
theorem readFlag_eq_ok_iff (depth : Nat) {b : Bool} :
    readFlag cs = .ok (b, rest) ↔ readValue depth cs = .ok (.bool b, rest) := by
  constructor
  · intro h
    unfold readFlag at h
    split at h
    · next inside hopen =>
      obtain ⟨_, hword, hsame⟩ := bind_eq_ok_iff.1 h
      cases hsame
      rw [readValue_eq_readScalar (by simp [hopen]) (by simp [hopen]), hopen, readScalar, hword]
      rfl
    · next inside hopen =>
      obtain ⟨_, hword, hsame⟩ := bind_eq_ok_iff.1 h
      cases hsame
      rw [readValue_eq_readScalar (by simp [hopen]) (by simp [hopen]), hopen, readScalar, hword]
      rfl
    · exact absurd h mismatch_ne_ok
  · intro h
    cases valueForm_of_readValue h with
    | scalar hscalar =>
      unfold readFlag
      generalize skipBetween cs = token at hscalar ⊢
      cases hscalar with
      | true hword =>
        show (readWord _ _ >>= fun _ => _) = _
        rw [hword]
        rfl
      | false hword =>
        show (readWord _ _ >>= fun _ => _) = _
        rw [hword]
        rfl
      | negative hv => cases hv
      | number hv => cases hv

/-- A string is read as every value is. -/
theorem readString_eq_ok_iff (depth : Nat) {s : String} :
    readString cs = .ok (s, rest) ↔ readValue depth cs = .ok (.str s, rest) := by
  constructor
  · intro h
    unfold readString at h
    split at h
    · next inside hopen =>
      rw [readValue_eq_readScalar (by simp [hopen]) (by simp [hopen]), hopen, readScalar, h]
      rfl
    · exact absurd h mismatch_ne_ok
  · intro h
    cases valueForm_of_readValue h with
    | scalar hscalar =>
      unfold readString
      generalize skipBetween cs = token at hscalar ⊢
      cases hscalar with
      | text htext => exact htext
      | negative hv => cases hv
      | number hv => cases hv

/-- An object is read as every value is. -/
theorem readObject_eq_ok_iff {members : Keyed Json} :
    readObject depth cs = .ok (members, rest) ↔
      readValue (depth + 1) cs = .ok (.obj members, rest) := by
  constructor
  · intro h
    unfold readObject at h
    split at h
    · next inside hopen =>
      obtain ⟨⟨pairs, _⟩, hpairs, hsame⟩ := bind_eq_ok_iff.1 h
      cases hsame
      unfold readValue
      rw [hopen]
      show (readPairs _ _ >>= fun _ => _) = _
      rw [hpairs]
      rfl
    · exact absurd h mismatch_ne_ok
  · intro h
    have hform := valueForm_of_readValue h
    generalize hv : Json.obj members = v at hform
    cases hform with
    | arr => cases hv
    | obj hopen hpairs =>
      cases hv
      unfold readObject
      rw [hopen]
      show (readPairs _ _ >>= fun _ => _) = _
      rw [hpairs]
      rfl
    | scalar hscalar =>
      subst hv
      generalize skipBetween cs = token at hscalar
      cases hscalar with
      | negative hv => cases hv
      | number hv => cases hv

/-- Only null starts as null does. -/
theorem head_of_readValue (h : readValue depth cs = .ok (v, rest)) :
    (skipBetween cs).head? = some 'n' ↔ v = .null := by
  cases valueForm_of_readValue h with
  | arr hopen => simp [hopen]
  | obj hopen => simp [hopen, ofMembers]
  | scalar hscalar =>
    generalize skipBetween cs = token at hscalar
    cases hscalar with
    | null => simp
    | true => simp
    | false => simp
    | text => simp
    | negative hv => cases hv <;> simp
    | number hv hdigit =>
      have hstart : ∀ {c : Char}, c.isDigit → c ≠ 'n' := by
        rintro _ h rfl
        cases h
      cases hv <;> simp [hstart hdigit]

/-- Null, or else what is read of a value that starts in another way. -/
theorem readOptional_eq_ok_iff {α : Type} (depth : Nat)
    {value : List Char → Except Fault (α × List Char)} {x : Option α} :
    readOptional value cs = .ok (x, rest) ↔
      x = none ∧ readValue depth cs = .ok (.null, rest) ∨
        ∃ a, x = some a ∧ (skipBetween cs).head? ≠ some 'n' ∧
          value (skipBetween cs) = .ok (a, rest) := by
  unfold readOptional
  constructor
  · intro h
    split at h
    · next inside hopen =>
      obtain ⟨_, hword, hsame⟩ := bind_eq_ok_iff.1 h
      cases hsame
      refine .inl ⟨rfl, ?_⟩
      rw [readValue_eq_readScalar (by simp [hopen]) (by simp [hopen]), hopen, readScalar, hword]
      rfl
    · next hnull =>
      obtain ⟨⟨a, _⟩, ha, hsame⟩ := bind_eq_ok_iff.1 h
      cases hsame
      refine .inr ⟨a, rfl, fun hhead => ?_, ha⟩
      obtain ⟨inside, hopen⟩ := List.head?_eq_some_iff.1 hhead
      exact hnull inside hopen
  · rintro (⟨rfl, h⟩ | ⟨a, rfl, hstart, ha⟩)
    · cases valueForm_of_readValue h with
      | scalar hscalar =>
        generalize skipBetween cs = token at hscalar ⊢
        cases hscalar with
        | null hword =>
          show (readWord _ _ >>= fun _ => _) = _
          rw [hword]
          rfl
        | negative hv => cases hv
        | number hv => cases hv
    · split
      · next hopen =>
        rw [hopen] at hstart
        exact absurd rfl hstart
      · rw [ha]
        rfl

end

end TypedSearch.Json
