import TypedSearch.Proofs.Json.Kinds
/-!
# `TypedSearch.Proofs.Json.Extent`: where a value ends

A value that is skipped ends where it would end if it were read, so that what stands where in a text
does not depend on which of its values are kept.

* `readItems_succ_iff`, `readMembers_succ_iff`: one item of an array, and one member of an object,
  and then the rest.
* `skipNested_suffix`: what is left behind a skipped value is an end of the text.
* `endsAt_of_skipNested`, `endsAt_of_readValue`: reading and skipping end at the same place, with
  any fuel that is enough.
-/

set_option autoImplicit false

namespace TypedSearch.Json

/-! ### One step inside a container -/

/-- The place of the next item or member of a container: the first one follows the opening bracket,
and every other one a comma. -/
def Next : Bool → List Char → List Char → Prop
  | true, cs, place => skipBetween cs = place
  | false, cs, place => ∃ inside, skipBetween cs = ',' :: inside ∧ skipBetween inside = place

section
variable {α σ κ : Type} {fuel : Nat} {first : Bool} {cs rest : List Char}

/-- Inside of an array there is its end, or a place where the next item is read. -/
theorem scan_eq_ok_iff {next : List Char → Except Fault α} {done : List Char → α} {a : α} :
    (match skipBetween cs with
      | [] => Except.error Fault.endOfInput
      | ']' :: rest => .ok (done rest)
      | c :: rest =>
        if first then next (c :: rest)
        else if c = ',' then
          match skipBetween rest with
          | [] => .error Fault.endOfInput
          | ']' :: _ => .error Fault.malformed
          | cs => next cs
        else .error Fault.malformed) = .ok a ↔
      (∃ rest, skipBetween cs = ']' :: rest ∧ a = done rest) ∨
        ∃ c inside, Next first cs (c :: inside) ∧ c ≠ ']' ∧ next (c :: inside) = .ok a := by
  constructor
  · intro h
    split at h
    · cases h
    · next hclose =>
      cases h
      exact .inl ⟨_, hclose, rfl⟩
    · next c inside hc hopen =>
      right
      split at h
      · next hfirst =>
        subst hfirst
        exact ⟨c, inside, hopen, hc, h⟩
      · next hfirst =>
        rw [Bool.not_eq_true] at hfirst
        subst hfirst
        split at h
        · next hcomma =>
          subst hcomma
          split at h
          · cases h
          · cases h
          · next hnone hbracket =>
            generalize hplace : skipBetween inside = place at *
            cases place with
            | nil => exact absurd rfl hnone
            | cons c place =>
              exact ⟨c, place, ⟨inside, hopen, hplace⟩, fun h => hbracket place (h ▸ rfl), h⟩
        · cases h
  · rintro (⟨rest, hclose, rfl⟩ | ⟨c, inside, hplace, hc, h⟩)
    · rw [hclose]
      rfl
    · cases first with
      | true =>
        rw [show skipBetween cs = c :: inside from hplace]
        split
        · next hnone => cases hnone
        · next hclose =>
          cases hclose
          exact absurd rfl hc
        · next hsame =>
          cases hsame
          exact h
      | false =>
        obtain ⟨behind, hcomma, hplace⟩ := hplace
        rw [hcomma]
        split
        · next hnone => cases hnone
        · next hclose => cases hclose
        · next hsame =>
          cases hsame
          rw [if_neg Bool.false_ne_true, if_pos rfl, hplace]
          split
          · next hnone => cases hnone
          · next hclose =>
            cases hclose
            exact absurd rfl hc
          · exact h

/-- In an array there are no items, or there is one and then the others. -/
theorem readItems_succ_iff {item : List Char → Except Fault (α × List Char)} {vs : List α} :
    readItems item (fuel + 1) first cs = .ok (vs, rest) ↔
      skipBetween cs = ']' :: rest ∧ vs = [] ∨
        ∃ c inside v behind others, Next first cs (c :: inside) ∧ c ≠ ']' ∧
          item (c :: inside) = .ok (v, behind) ∧
          readItems item fuel false behind = .ok (others, rest) ∧ vs = v :: others := by
  rw [readItems]
  refine scan_eq_ok_iff.trans (or_congr ?_ ?_)
  · simp [and_comm]
  · simp only [bind_eq_ok_iff]
    constructor
    · rintro ⟨c, inside, hplace, hc, ⟨v, behind⟩, hv, ⟨others, _⟩, hothers, hsame⟩
      cases hsame
      exact ⟨c, inside, v, behind, others, hplace, hc, hv, hothers, rfl⟩
    · rintro ⟨c, inside, v, behind, others, hplace, hc, hv, hothers, rfl⟩
      exact ⟨c, inside, hplace, hc, _, hv, _, hothers, rfl⟩

/-- In an object there are no members, or there is one and then the others. -/
theorem readMembers_succ_iff {name : List Char → Except Fault (κ × List Char)}
    {member : σ → κ → List Char → Except Fault (σ × List Char)} {s s' : σ} :
    readMembers name member (fuel + 1) first s cs = .ok (s', rest) ↔
      skipBetween cs = '}' :: rest ∧ s' = s ∨
        ∃ inside k behind t behind', Next first cs ('"' :: inside) ∧
          name inside = .ok (k, behind) ∧ member s k behind = .ok (t, behind') ∧
          readMembers name member fuel false t behind' = .ok (s', rest) := by
  constructor
  · intro h
    -- Whatever stands in front of it, a member is read in one way.
    have hnext : ∀ {inside : List Char}, Next first cs ('"' :: inside) →
        (name inside >>= fun k => member s k.1 k.2 >>= fun t =>
          readMembers name member fuel false t.1 t.2) = Except.ok (s', rest) →
        ∃ inside k behind t behind', Next first cs ('"' :: inside) ∧
          name inside = .ok (k, behind) ∧ member s k behind = .ok (t, behind') ∧
          readMembers name member fuel false t behind' = .ok (s', rest) := by
      intro inside hplace h
      obtain ⟨⟨k, behind⟩, hname, h⟩ := bind_eq_ok_iff.1 h
      obtain ⟨⟨t, behind'⟩, hmember, hothers⟩ := bind_eq_ok_iff.1 h
      exact ⟨inside, k, behind, t, behind', hplace, hname, hmember, hothers⟩
    rw [readMembers] at h
    split at h
    · cases h
    · next hclose =>
      cases h
      exact .inl ⟨hclose, rfl⟩
    · next c inside hc hopen =>
      right
      split at h
      · next hfirst =>
        subst hfirst
        split at h
        · next hquote => exact hnext (hquote ▸ hopen) h
        · cases h
      · next hfirst =>
        rw [Bool.not_eq_true] at hfirst
        subst hfirst
        split at h
        · next hcomma =>
          subst hcomma
          split at h
          · cases h
          · next hplace => exact hnext ⟨inside, hopen, hplace⟩ h
          · cases h
        · cases h
  · rintro (⟨hclose, rfl⟩ | ⟨inside, k, behind, t, behind', hplace, hname, hmember, hothers⟩)
    · rw [readMembers, hclose]
      rfl
    · have hmember : (name inside >>= fun k => member s k.1 k.2 >>= fun t =>
          readMembers name member fuel false t.1 t.2) = Except.ok (s', rest) := by
        rw [bind_eq_ok_iff]
        exact ⟨_, hname, bind_eq_ok_iff.2 ⟨_, hmember, hothers⟩⟩
      cases first with
      | true =>
        rw [readMembers, show skipBetween cs = '"' :: inside from hplace]
        exact hmember
      | false =>
        obtain ⟨next, hcomma, hplace⟩ := hplace
        rw [readMembers, hcomma]
        split
        · next hnone => cases hnone
        · next hclose => cases hclose
        · next h =>
          cases h
          rw [if_neg Bool.false_ne_true, if_pos rfl, hplace]
          exact hmember

end

/-! ### What is left -/

section
variable {α σ κ : Type} {fuel : Nat} {first : Bool} {cs rest : List Char}

theorem skipBetween_suffix : skipBetween cs <:+ cs := List.dropWhile_suffix _

/-- What stands behind the first character of the next token is left of the text. -/
theorem suffix_of_skipBetween {c : Char} {inside : List Char} (h : skipBetween cs = c :: inside) :
    inside <:+ cs :=
  (List.suffix_cons c inside).trans (h ▸ skipBetween_suffix)

theorem Next.suffix {place : List Char} (h : Next first cs place) : place <:+ cs := by
  cases first with
  | true => exact h ▸ skipBetween_suffix
  | false =>
    obtain ⟨inside, hcomma, rfl⟩ := h
    exact skipBetween_suffix.trans (suffix_of_skipBetween hcomma)

theorem readWord_suffix {word : List Char} (h : readWord word cs = .ok rest) : rest <:+ cs := by
  induction word generalizing cs with
  | nil =>
    cases h
    exact List.suffix_rfl
  | cons w ws ih =>
    cases cs with
    | nil => cases h
    | cons c cs =>
      rw [readWord] at h
      split at h
      · exact (ih h).trans (List.suffix_cons _ _)
      · cases h

theorem readFourHex_suffix {n : Nat} (h : readFourHex cs = .ok (n, rest)) : rest <:+ cs := by
  rw [readFourHex] at h
  split at h
  · cases h
  · split at h
    · cases h
      exact List.drop_suffix _ _
    · cases h

theorem skipEscape_suffix (h : skipEscape cs = .ok rest) : rest <:+ cs := by
  unfold skipEscape at h
  split at h
  · cases h
  · obtain ⟨⟨n, _⟩, hdigits, hsame⟩ := bind_eq_ok_iff.1 h
    cases hsame
    exact (readFourHex_suffix hdigits).trans (List.suffix_cons _ _)
  · split at h
    · cases h
      exact List.suffix_cons _ _
    · cases h

theorem skipChars_suffix (h : skipChars fuel cs = .ok ((), rest)) : rest <:+ cs := by
  induction fuel generalizing cs with
  | zero => cases h
  | succ fuel ih =>
    unfold skipChars at h
    split at h
    · cases h
    · cases h
    · cases h
      exact List.suffix_cons _ _
    · obtain ⟨behind, hescape, h⟩ := bind_eq_ok_iff.1 h
      cases ‹fuel + 1 = _›
      exact ((ih h).trans (skipEscape_suffix hescape)).trans (List.suffix_cons _ _)
    · split at h
      · cases h
      · cases ‹fuel + 1 = _›
        exact (ih h).trans (List.suffix_cons _ _)

theorem skipDigits_suffix (h : skipDigits cs = .ok rest) : rest <:+ cs := by
  rw [skipDigits] at h
  split at h
  · cases h
  · cases h
    exact List.dropWhile_suffix _

theorem skipExponent_suffix (h : skipExponent cs = .ok rest) : rest <:+ cs := by
  unfold skipExponent at h
  split at h
  · cases h
    exact List.suffix_rfl
  · split at h
    · split at h
      · exact (skipDigits_suffix h).trans ((List.suffix_cons _ _).trans (List.suffix_cons _ _))
      · exact (skipDigits_suffix h).trans ((List.suffix_cons _ _).trans (List.suffix_cons _ _))
      · exact (skipDigits_suffix h).trans (List.suffix_cons _ _)
    · cases h
      exact List.suffix_rfl

/-- A number that is skipped has digits, and perhaps a fraction and an exponent. -/
theorem skipNumber_eq_ok (h : skipNumber cs = .ok rest) :
    (skipDigits cs >>= fun
      | '.' :: inside => skipDigits inside >>= skipExponent
      | rest => skipExponent rest) = .ok rest := by
  unfold skipNumber at h
  split at h
  · split at h
    · cases h
    · exact h
  · exact h

theorem skipNumber_suffix (h : skipNumber cs = .ok rest) : rest <:+ cs := by
  obtain ⟨behind, hbehind, h⟩ := bind_eq_ok_iff.1 (skipNumber_eq_ok h)
  refine List.IsSuffix.trans ?_ (skipDigits_suffix hbehind)
  split at h
  · obtain ⟨_, hinside, hexponent⟩ := bind_eq_ok_iff.1 h
    exact ((skipExponent_suffix hexponent).trans (skipDigits_suffix hinside)).trans
      (List.suffix_cons _ _)
  · exact skipExponent_suffix h

theorem readColon_suffix (h : readColon cs = .ok rest) : rest <:+ cs := by
  unfold readColon at h
  split at h
  · cases h
  · next hcolon =>
    cases h
    exact suffix_of_skipBetween hcolon
  · cases h

/-- What is left behind an array is left of the text, if this is so for each item. -/
theorem readItems_suffix {item : List Char → Except Fault (α × List Char)} {vs : List α}
    (hitem : ∀ {place v behind}, item place = .ok (v, behind) → behind <:+ place)
    (h : readItems item fuel first cs = .ok (vs, rest)) : rest <:+ cs := by
  induction fuel generalizing first cs vs with
  | zero => cases h
  | succ fuel ih =>
    rcases readItems_succ_iff.1 h with ⟨hclose, -⟩ | ⟨_, _, _, _, _, hplace, -, hv, hothers, -⟩
    · exact suffix_of_skipBetween hclose
    · exact ((ih hothers).trans (hitem hv)).trans hplace.suffix

/-- What is left behind an object is left of the text, if this is so for each member. -/
theorem readMembers_suffix {name : List Char → Except Fault (κ × List Char)}
    {member : σ → κ → List Char → Except Fault (σ × List Char)} {s s' : σ}
    (hname : ∀ {place k behind}, name place = .ok (k, behind) → behind <:+ place)
    (hmember : ∀ {s k place t behind}, member s k place = .ok (t, behind) → behind <:+ place)
    (h : readMembers name member fuel first s cs = .ok (s', rest)) : rest <:+ cs := by
  induction fuel generalizing first s cs with
  | zero => cases h
  | succ fuel ih =>
    rcases readMembers_succ_iff.1 h with ⟨hclose, -⟩ | ⟨_, _, _, _, _, hplace, hk, ht, hothers⟩
    · exact suffix_of_skipBetween hclose
    · exact (((ih hothers).trans (hmember ht)).trans (hname hk)).trans
        ((List.suffix_cons _ _).trans hplace.suffix)

/-- What is left behind a skipped value is left of the text. -/
theorem skipNested_suffix (h : skipNested fuel cs = .ok ((), rest)) : rest <:+ cs := by
  -- On the fuel, of which there is less inside of a container.
  induction fuel using Nat.strongRecOn generalizing cs rest with
  | ind fuel ih =>
  rw [skipNested] at h
  split at h
  · cases h
  · next hopen =>
    split at h
    · cases h
    · next fuel =>
      obtain ⟨⟨_, _⟩, hitems, hsame⟩ := bind_eq_ok_iff.1 h
      cases hsame
      exact (readItems_suffix (ih fuel fuel.lt_succ_self) hitems).trans
        (suffix_of_skipBetween hopen)
  · next hopen =>
    split at h
    · cases h
    · next fuel =>
      refine (readMembers_suffix (fun hname => skipChars_suffix hname) ?_ h).trans
        (suffix_of_skipBetween hopen)
      intro _ _ _ _ _ hmember
      obtain ⟨_, hcolon, hvalue⟩ := bind_eq_ok_iff.1 hmember
      exact (ih fuel fuel.lt_succ_self hvalue).trans (readColon_suffix hcolon)
  · next hopen => exact (skipChars_suffix h).trans (suffix_of_skipBetween hopen)
  · next hopen =>
    obtain ⟨_, hnumber, hsame⟩ := bind_eq_ok_iff.1 h
    cases hsame
    exact (skipNumber_suffix hnumber).trans (suffix_of_skipBetween hopen)
  · next c inside _ _ htext hminus hopen =>
    split at h
    · obtain ⟨_, hnumber, hsame⟩ := bind_eq_ok_iff.1 h
      cases hsame
      exact (skipNumber_suffix hnumber).trans (hopen ▸ skipBetween_suffix)
    · next hdigit =>
      obtain ⟨⟨_, _⟩, hscalar, hsame⟩ := bind_eq_ok_iff.1 h
      cases hsame
      refine List.IsSuffix.trans ?_ (suffix_of_skipBetween hopen)
      cases scalarForm_of_readScalar hscalar with
      | null hword => exact readWord_suffix hword
      | true hword => exact readWord_suffix hword
      | false hword => exact readWord_suffix hword
      | text => exact absurd rfl htext
      | negative => exact absurd rfl hminus
      | number _ hnumber => exact absurd hnumber hdigit

/-! ### Reading and skipping -/

/-- An escape that is read can be skipped. A character that is written as two escapes is skipped as
two. -/
theorem skipEscape_of_readEscape {c : Char} (h : readEscape cs = .ok (c, rest)) :
    skipEscape cs = .ok rest ∨
      ∃ behind, skipEscape cs = .ok ('\\' :: behind) ∧ skipEscape behind = .ok rest := by
  unfold readEscape at h
  split at h
  · cases h
  · next inside =>
    obtain ⟨⟨n, behind⟩, hdigits, h⟩ := bind_eq_ok_iff.1 h
    have hskip : ∀ {cs rest : List Char} {n : Nat}, readFourHex cs = .ok (n, rest) →
        skipEscape ('u' :: cs) = .ok rest := by
      intro cs rest n hdigits
      show (readFourHex cs >>= fun _ => _) = _
      rw [hdigits]
      rfl
    dsimp only at h
    split at h
    · cases h
    · split at h
      · cases h
        exact .inl (hskip hdigits)
      · split at h
        · cases h
        · cases h
        · next second =>
          obtain ⟨⟨low, _⟩, hlow, h⟩ := bind_eq_ok_iff.1 h
          dsimp only at h
          split at h
          · obtain ⟨-, rfl⟩ := Prod.mk.inj (Except.ok.inj h)
            exact .inr ⟨_, hskip hdigits, hskip hlow⟩
          · cases h
        · cases h
  · next c' inside hmark =>
    split at h
    · next hescaped =>
      cases h
      left
      unfold skipEscape
      split
      · next hnone => cases hnone
      · next hu =>
        cases hu
        exact absurd rfl hmark
      · next hsame =>
        cases hsame
        rw [hescaped]
        rfl
    · cases h

/-- A string that is read can be skipped, up to the same place. -/
theorem skipChars_of_readChars {read : List Char} {s : String} {fuel' : Nat}
    (h : readChars fuel read cs = .ok (s, rest)) (hfuel : cs.length < fuel') :
    skipChars fuel' cs = .ok ((), rest) := by
  induction fuel generalizing read cs fuel' with
  | zero => cases h
  | succ fuel ih =>
    obtain ⟨fuel', rfl⟩ := Nat.exists_eq_add_one_of_ne_zero (Nat.ne_zero_of_lt hfuel)
    unfold readChars at h
    split at h
    · cases h
    · cases h
    · split at h
      · cases h
        rfl
      · cases h
    · next inside hsame =>
      cases hsame
      obtain ⟨⟨c, behind⟩, hescape, h⟩ := bind_eq_ok_iff.1 h
      have hlength := hfuel
      rw [List.length_cons] at hlength
      show (skipEscape inside >>= skipChars fuel') = _
      rcases skipEscape_of_readEscape hescape with hone | ⟨second, hone, htwo⟩
      · have hbehind := (skipEscape_suffix hone).length_le
        rw [hone]
        exact ih h (by omega)
      · -- Skipping takes one more step than reading, and the second escape is the text for it.
        have hbehind := (skipEscape_suffix hone).length_le
        have hrest := (skipEscape_suffix htwo).length_le
        rw [List.length_cons] at hbehind
        obtain ⟨fuel'', rfl⟩ := Nat.exists_eq_add_one_of_ne_zero (show fuel' ≠ 0 by omega)
        rw [hone]
        show (skipEscape second >>= skipChars fuel'') = _
        rw [htwo]
        exact ih h (by omega)
    · next c inside hquote hescape hsame =>
      cases hsame
      rw [List.length_cons] at hfuel
      split at h
      · cases h
      · next hcontrol =>
        rw [skipChars, if_neg hcontrol]
        · exact ih h (by omega)
        · exact hquote
        · exact hescape

/-- The items of an array are read by another reader too, if each item is. -/
theorem readItems_imp {β : Type} {item : List Char → Except Fault (α × List Char)}
    {item' : List Char → Except Fault (β × List Char)} (bound : Nat) {vs : List α}
    (hitem : ∀ {place v behind}, place.length ≤ bound → item place = .ok (v, behind) →
      ∃ w, item' place = .ok (w, behind) ∧ behind <:+ place)
    (hbound : cs.length ≤ bound) (h : readItems item fuel first cs = .ok (vs, rest)) :
    ∃ ws, readItems item' fuel first cs = .ok (ws, rest) := by
  induction fuel generalizing first cs vs with
  | zero => cases h
  | succ fuel ih =>
    rcases readItems_succ_iff.1 h with ⟨hclose, -⟩ | ⟨_, _, _, _, _, hplace, hc, hv, hothers, -⟩
    · exact ⟨[], readItems_succ_iff.2 (.inl ⟨hclose, rfl⟩)⟩
    · have hlength := hplace.suffix.length_le.trans hbound
      obtain ⟨w, hw, hbehind⟩ := hitem hlength hv
      obtain ⟨ws, hws⟩ := ih (hbehind.length_le.trans hlength) hothers
      exact ⟨w :: ws, readItems_succ_iff.2 (.inr ⟨_, _, _, _, _, hplace, hc, hw, hws, rfl⟩)⟩

/-- The members of an object are read by another reader too, if each name and each member is. -/
theorem readMembers_imp {τ ι : Type} {name : List Char → Except Fault (κ × List Char)}
    {name' : List Char → Except Fault (ι × List Char)}
    {member : σ → κ → List Char → Except Fault (σ × List Char)}
    {member' : τ → ι → List Char → Except Fault (τ × List Char)} (bound : Nat) {s s' : σ} {t : τ}
    (hname : ∀ {place k behind}, place.length ≤ bound → name place = .ok (k, behind) →
      ∃ i, name' place = .ok (i, behind) ∧ behind <:+ place)
    (hmember : ∀ {s k place s' behind}, place.length ≤ bound → member s k place = .ok (s', behind) →
      ∀ t i, ∃ t', member' t i place = .ok (t', behind) ∧ behind <:+ place)
    (hbound : cs.length ≤ bound) (h : readMembers name member fuel first s cs = .ok (s', rest)) :
    ∃ t', readMembers name' member' fuel first t cs = .ok (t', rest) := by
  induction fuel generalizing first s t cs with
  | zero => cases h
  | succ fuel ih =>
    rcases readMembers_succ_iff.1 h with ⟨hclose, -⟩ | ⟨_, _, _, _, _, hplace, hk, hs, hothers⟩
    · exact ⟨t, readMembers_succ_iff.2 (.inl ⟨hclose, rfl⟩)⟩
    · have hlength := (((List.suffix_cons _ _).trans hplace.suffix).length_le).trans hbound
      obtain ⟨i, hi, hbehind⟩ := hname hlength hk
      have hlength := hbehind.length_le.trans hlength
      obtain ⟨t', ht', hbehind⟩ := hmember hlength hs t i
      obtain ⟨t'', ht''⟩ := ih (t := t') (hbehind.length_le.trans hlength) hothers
      exact ⟨t'', readMembers_succ_iff.2 (.inr ⟨_, _, _, _, _, hplace, hi, ht', ht''⟩)⟩

/-- The text behind the first character of a token is shorter. -/
theorem length_lt_of_skipBetween {c : Char} {inside : List Char}
    (h : skipBetween cs = c :: inside) : inside.length < cs.length := by
  have hlength : (skipBetween cs).length ≤ cs.length := skipBetween_suffix.length_le
  rw [h, List.length_cons] at hlength
  exact hlength

/-- A value ends at a place: it can be skipped up to there, with any fuel that the length of the
text allows for. -/
def EndsAt (cs rest : List Char) : Prop :=
  ∀ bound, cs.length ≤ bound → skipNested bound cs = .ok ((), rest)

theorem EndsAt.skipValue (h : EndsAt cs rest) : skipValue cs = .ok ((), rest) :=
  h _ (Nat.le_refl _)

theorem EndsAt.suffix (h : EndsAt cs rest) : rest <:+ cs := skipNested_suffix h.skipValue

/-- Blanks in front of a value make no difference to its end. -/
theorem EndsAt.of_skipBetween (h : EndsAt (skipBetween cs) rest) : EndsAt cs rest := by
  intro bound hbound
  have hskip := h bound (skipBetween_suffix.length_le.trans hbound)
  rw [skipNested, skipBetween_skipBetween] at hskip
  rw [skipNested]
  exact hskip

/-- An array ends behind its items, if each of them ends where it is read to end. -/
theorem endsAt_arr {item : List Char → Except Fault (α × List Char)} {inside : List Char}
    {vs : List α} (hopen : skipBetween cs = '[' :: inside)
    (hitem : ∀ {place v behind}, item place = .ok (v, behind) → EndsAt place behind)
    (h : readItems item fuel true inside = .ok (vs, rest)) (hfuel : fuel = inside.length + 1) :
    EndsAt cs rest := by
  subst hfuel
  intro bound hbound
  have hlength := length_lt_of_skipBetween hopen
  obtain ⟨bound, rfl⟩ := Nat.exists_eq_add_one_of_ne_zero (show bound ≠ 0 by omega)
  obtain ⟨_, hskip⟩ : ∃ units, readItems (skipNested bound) _ true inside = .ok (units, rest) :=
    readItems_imp bound (fun hplace hv => ⟨(), hitem hv bound hplace, (hitem hv).suffix⟩)
      (by omega) h
  rw [skipNested, hopen]
  show (readItems _ _ _ _ >>= fun _ => _) = _
  rw [hskip]
  rfl

/-- An object ends behind its members, if the value of each of them ends where it is read to end. -/
theorem endsAt_obj {name : List Char → Except Fault (κ × List Char)}
    {member : σ → κ → List Char → Except Fault (σ × List Char)} {s s' : σ} {inside : List Char}
    (hopen : skipBetween cs = '{' :: inside)
    (hname : ∀ {place k behind}, name place = .ok (k, behind) → skipText place = .ok ((), behind))
    (hmember : ∀ {s k place s' behind}, member s k place = .ok (s', behind) →
      ∃ value, readColon place = .ok value ∧ EndsAt value behind)
    (h : readMembers name member fuel true s inside = .ok (s', rest))
    (hfuel : fuel = inside.length + 1) : EndsAt cs rest := by
  subst hfuel
  intro bound hbound
  have hlength := length_lt_of_skipBetween hopen
  obtain ⟨bound, rfl⟩ := Nat.exists_eq_add_one_of_ne_zero (show bound ≠ 0 by omega)
  rw [skipNested, hopen]
  -- Nothing is kept of the members, and so the state is the same behind each of them.
  obtain ⟨_, hskip⟩ : ∃ u, readMembers skipText
      (fun (_ : Unit) (_ : Unit) cs => readColon cs >>= skipNested bound) _ true () inside
        = .ok (u, rest) := by
    refine readMembers_imp bound (fun _ hk => ⟨(), hname hk, skipChars_suffix (hname hk)⟩) ?_
      (by omega) h
    intro _ _ _ _ _ hplace hs _ _
    obtain ⟨_, hcolon, hvalue⟩ := hmember hs
    have hbehind := readColon_suffix hcolon
    have hskip := hvalue bound (hbehind.length_le.trans hplace)
    exact ⟨(), bind_eq_ok_iff.2 ⟨_, hcolon, hskip⟩, hvalue.suffix.trans hbehind⟩
  exact hskip

/-- What opens no container is skipped without fuel. -/
theorem skipNested_eq_of_scalar {bound : Nat} (harr : (skipBetween cs).head? ≠ some '[')
    (hobj : (skipBetween cs).head? ≠ some '{') : skipNested fuel cs = skipNested bound cs := by
  rw [skipNested, skipNested]
  split
  · rfl
  · next hopen => exact absurd (by rw [hopen]; rfl) harr
  · next hopen => exact absurd (by rw [hopen]; rfl) hobj
  · rfl
  · rfl
  · rfl

/-- A value that can be skipped with some fuel can be skipped with all that is enough. -/
theorem endsAt_of_skipNested (h : skipNested fuel cs = .ok ((), rest)) : EndsAt cs rest := by
  induction fuel using Nat.strongRecOn generalizing cs rest with
  | ind fuel ih =>
  by_cases harr : (skipBetween cs).head? = some '['
  · obtain ⟨inside, hopen⟩ := List.head?_eq_some_iff.1 harr
    rw [skipNested, hopen] at h
    cases fuel with
    | zero => cases h
    | succ fuel =>
      obtain ⟨⟨_, _⟩, hitems, hsame⟩ := bind_eq_ok_iff.1 h
      cases hsame
      exact endsAt_arr hopen (ih fuel fuel.lt_succ_self) hitems rfl
  by_cases hobj : (skipBetween cs).head? = some '{'
  · obtain ⟨inside, hopen⟩ := List.head?_eq_some_iff.1 hobj
    rw [skipNested, hopen] at h
    cases fuel with
    | zero => cases h
    | succ fuel =>
      refine endsAt_obj hopen id ?_ h rfl
      intro _ _ _ _ _ hmember
      obtain ⟨value, hcolon, hskip⟩ := bind_eq_ok_iff.1 hmember
      exact ⟨value, hcolon, ih fuel fuel.lt_succ_self hskip⟩
  exact fun bound _ => (skipNested_eq_of_scalar harr hobj).symm.trans h

/-- What opens no container is skipped as far as it is read. -/
theorem skipNested_of_scalarForm {v : Json} (h : ScalarForm (skipBetween cs) v rest) :
    skipNested fuel cs = .ok ((), rest) := by
  rw [skipNested]
  generalize skipBetween cs = token at h ⊢
  cases h with
  | null hword =>
    show (readScalar _ >>= fun _ => _) = _
    rw [readScalar, hword]
    rfl
  | true hword =>
    show (readScalar _ >>= fun _ => _) = _
    rw [readScalar, hword]
    rfl
  | false hword =>
    show (readScalar _ >>= fun _ => _) = _
    rw [readScalar, hword]
    rfl
  | text htext => exact skipChars_of_readChars htext (Nat.lt_succ_self _)
  | negative _ hnumber =>
    show (skipNumber _ >>= fun _ => _) = _
    rw [(readNumber_eq_ok hnumber).2]
    rfl
  | number _ hdigit hnumber =>
    -- A digit is none of the characters that a value of another kind starts with.
    split
    · next hnone => cases hnone
    · next hopen =>
      cases hopen
      cases hdigit
    · next hopen =>
      cases hopen
      cases hdigit
    · next hopen =>
      cases hopen
      cases hdigit
    · next hopen =>
      cases hopen
      cases hdigit
    · next hopen =>
      cases hopen
      rw [if_pos hdigit, (readNumber_eq_ok hnumber).2]
      rfl

/-- A value that is read ends where it is read to end. -/
theorem endsAt_of_readValue {depth : Nat} {v : Json} (h : readValue depth cs = .ok (v, rest)) :
    EndsAt cs rest := by
  -- On the depth, since reading is bounded by it and skipping by the length of the text.
  induction depth using Nat.strongRecOn generalizing cs rest v with
  | ind depth ih =>
  cases valueForm_of_readValue h with
  | @arr depth _ _ _ _ hopen hitems =>
    exact endsAt_arr hopen (ih depth depth.lt_succ_self) hitems rfl
  | @obj depth _ _ _ _ hopen hpairs =>
    refine endsAt_obj hopen
      (fun hname => skipChars_of_readChars hname (Nat.lt_succ_self _)) ?_ hpairs rfl
    intro _ _ _ _ _ hmember
    obtain ⟨value, hcolon, h⟩ := bind_eq_ok_iff.1 hmember
    obtain ⟨⟨_, _⟩, hv, hsame⟩ := bind_eq_ok_iff.1 h
    cases hsame
    exact ⟨value, hcolon, ih depth depth.lt_succ_self hv⟩
  | scalar hscalar => exact fun _ _ => skipNested_of_scalarForm hscalar

end

end TypedSearch.Json
