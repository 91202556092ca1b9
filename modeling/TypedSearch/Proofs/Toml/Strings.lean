import TypedSearch.Toml.Writer
/-!
# `TypedSearch.Proofs.Toml.Strings`: strings are read back

A string is written in one of five ways, and what is read at the end of its line is the string
again. On several lines quotes are the difficulty: the writer looks at them one by one and the
reader takes all of a row at once, so that quotes that are written wait for those behind them.

* `escape_of_escaped`: an escape is read as the character that it stands for.
* `basic_flatMap`, `literal_append`: strings on one line.
* `TakesQuotes.replicate_append`: quotes inside a string over several lines, with and without
  escapes.
* `basicLines_writeLineChars`, `literalLines_append`: strings over several lines, by induction on
  the characters and with the quotes that wait.
* `string_writeString`: a string is read back whatever the way it is written in.
-/

set_option autoImplicit false

namespace TypedSearch.Toml

/-! ### One character -/

/-- Four hexadecimal digits of an ASCII character are read as the character. -/
theorem hexChar_fourHex : ∀ n < 128, hexChar? (fourHex n) 4 = some (Char.ofNat n) := by
  decide

/-- A character that is escaped is read from its escape, and the escape is none of the end of a
line. -/
theorem escape_of_escaped {c : Char} {e : List Char} (h : escaped? c = some e)
    (rest : List Char) :
    ∃ e', e = '\\' :: e' ∧ escape? (e' ++ rest) = some (c, rest) ∧
      newline? (skipGap (e' ++ rest)) = none := by
  unfold escaped? at h
  -- Five characters have an escape of their own, the others are escaped by number.
  split at h
  · next hc => subst hc; cases h; exact ⟨_, rfl, rfl, rfl⟩
  split at h
  · next hc => subst hc; cases h; exact ⟨_, rfl, rfl, rfl⟩
  split at h
  · next hc => subst hc; cases h; exact ⟨_, rfl, rfl, rfl⟩
  split at h
  · next hc => subst hc; cases h; exact ⟨_, rfl, rfl, rfl⟩
  split at h
  · next hc => subst hc; cases h; exact ⟨_, rfl, rfl, rfl⟩
  split at h
  · next hcontrol =>
    cases h
    have hlt : c.toNat < 128 := by
      simp only [isControl, Bool.or_eq_true, Bool.and_eq_true, decide_eq_true_eq] at hcontrol
      omega
    refine ⟨_, rfl, ?_, rfl⟩
    show (hexChar? (fourHex c.toNat) 4).map _ = _
    rw [hexChar_fourHex _ hlt, Char.ofNat_toNat]
    rfl
  · cases h

/-- A character that needs no escape may stand in a string as it is, unless it ends a line. -/
theorem isPlain_of_not_isControl {c : Char} (h : isControl c = false) (hc : c ≠ '\n') :
    isPlain c = true := by
  by_cases htab : c = '\t'
  · rw [htab]
    rfl
  · simp only [isControl, Bool.or_eq_false_iff, Bool.and_eq_false_iff, decide_eq_false_iff_not]
      at h
    simp only [isPlain, Bool.or_eq_true, Bool.and_eq_true, decide_eq_true_eq]
    obtain ⟨hlow, hdelete⟩ := h
    refine .inr ⟨?_, hdelete⟩
    obtain (hlow | hnewline) | htab' := hlow
    · omega
    · exact absurd hc hnewline
    · exact absurd htab htab'

/-- A character that is not escaped is no backslash and no control character. -/
theorem not_isControl_of_not_escaped {c : Char} (h : escaped? c = none) :
    c ≠ '\\' ∧ isControl c = false := by
  have hnone := congrArg Option.isSome h
  simp only [escaped?, apply_ite Option.isSome, Option.isSome_some, Option.isSome_none,
    Bool.if_true_left, Bool.or_eq_false_iff, decide_eq_false_iff_not] at hnone
  obtain ⟨-, -, -, -, hbackslash, hcontrol, -⟩ := hnone
  exact ⟨hbackslash, Bool.eq_false_iff.2 hcontrol⟩

/-! ### Strings on one line -/

/-- An escape in a string on one line. -/
theorem basic_escape {c : Char} {e rest : List Char} (h : escape? e = some (c, rest))
    (fuel : Nat) :
    basic? (fuel + 1) ('\\' :: e) = (basic? fuel rest).map fun r => (c :: r.1, r.2) := by
  rw [basic?, h]
  simp only [Option.bind_eq_bind, Option.bind_some]
  cases basic? fuel rest <;> rfl

/-- A character is read from how it is written. -/
theorem basic_writeChar (c : Char) (fuel : Nat) (rest : List Char) :
    basic? (fuel + 1) (writeChar c ++ rest) = (basic? fuel rest).map fun r => (c :: r.1, r.2) := by
  unfold writeChar
  split
  · next hc =>
    subst hc
    exact basic_escape rfl fuel
  split
  · next hc =>
    subst hc
    exact basic_escape rfl fuel
  next hquote hnewline =>
  cases hescaped : escaped? c with
  | some e =>
    obtain ⟨e', rfl, he', -⟩ := escape_of_escaped hescaped rest
    exact basic_escape he' fuel
  | none =>
    obtain ⟨hbackslash, hcontrol⟩ := not_isControl_of_not_escaped hescaped
    have hplain := isPlain_of_not_isControl hcontrol hnewline
    -- The reader takes the character as it is, because it is neither a quote nor a backslash.
    simp only [Option.getD_none, List.cons_append, List.nil_append]
    rw [basic?]
    · rw [if_pos hplain]
      cases basic? fuel rest <;> rfl
    · simpa using hquote
    · simpa using hbackslash

/-- A string on one line is read as what was written. -/
theorem basic_flatMap {cs : List Char} {fuel : Nat} (h : cs.length < fuel) (rest : List Char) :
    basic? fuel (cs.flatMap writeChar ++ '"' :: rest) = some (cs, rest) := by
  induction cs generalizing fuel with
  | nil =>
    obtain ⟨fuel, rfl⟩ := Nat.exists_eq_add_one_of_ne_zero (Nat.ne_zero_of_lt h)
    rfl
  | cons c cs ih =>
    obtain ⟨fuel, rfl⟩ := Nat.exists_eq_add_one_of_ne_zero (Nat.ne_zero_of_lt h)
    rw [List.flatMap_cons, List.append_assoc, basic_writeChar, ih (by simpa using h)]
    rfl

/-- A string without escapes on one line is read as it stands. -/
theorem literal_append {cs : List Char} (h : ∀ c ∈ cs, isPlain c = true ∧ c ≠ '\'')
    (rest : List Char) : literal? (cs ++ '\'' :: rest) = some (cs, rest) := by
  have hall : ∀ c ∈ cs, (isPlain c && c ≠ '\'') = true := by
    intro c hc
    simpa using h c hc
  unfold literal?
  simp only [List.takeWhile_append_of_pos hall, List.dropWhile_append_of_pos hall]
  simp

/-! ### Quotes inside a string over several lines -/

/-- Quotes in a row are counted up to what stands behind them. -/
theorem length_takeWhile_replicate {q : Char} {rest : List Char} (h : rest.head? ≠ some q)
    (n : Nat) : ((List.replicate n q ++ rest).takeWhile (· = q)).length = n := by
  have hall : ∀ c ∈ List.replicate n q, decide (c = q) = true := by
    intro c hc
    simpa using List.eq_of_mem_replicate hc
  have hrest : rest.takeWhile (· = q) = [] := by
    cases rest with
    | nil => rfl
    | cons c rest => exact List.takeWhile_cons_of_neg (by simpa using h)
  rw [List.takeWhile_append_of_pos hall, hrest, List.append_nil, List.length_replicate]

/-- One or two quotes belong to the string. -/
theorem quotes_open {q : Char} {n : Nat} {rest : List Char} (hn : n < 3)
    (h : rest.head? ≠ some q) :
    quotes q (List.replicate n q ++ rest) = (List.replicate n q, none) := by
  simp only [quotes, length_takeWhile_replicate h, if_pos hn]

/-- Three quotes close the string, and one or two in front of them belong to it. -/
theorem quotes_close {q : Char} {n : Nat} {rest : List Char} (hn : n < 3)
    (h : rest.head? ≠ some q) :
    quotes q (List.replicate (n + 3) q ++ rest) = (List.replicate n q, some rest) := by
  have hmin : min (n + 3) 5 = n + 3 := by omega
  have hopen : ¬ n + 3 < 3 := by omega
  simp only [quotes, length_takeWhile_replicate h, if_neg hopen, hmin, Nat.add_sub_cancel]
  rw [List.drop_left' List.length_replicate]

/-- Quotes in a row are passed over up to what stands behind them. -/
theorem dropWhile_replicate {q : Char} {rest : List Char} (h : rest.head? ≠ some q) (n : Nat) :
    (List.replicate n q ++ rest).dropWhile (· = q) = rest := by
  have hall : ∀ c ∈ List.replicate n q, decide (c = q) = true := by
    intro c hc
    simpa using List.eq_of_mem_replicate hc
  rw [List.dropWhile_append_of_pos hall]
  cases rest with
  | nil => rfl
  | cons c rest =>
    refine List.dropWhile_cons_of_neg ?_
    simpa using h

/-- A reader of strings over several lines that takes all quotes of a row at once. -/
structure TakesQuotes (q : Char) (read : Nat → List Char → Option (List Char × List Char)) :
    Prop where
  closed {rest inner behind : List Char} (h : quotes q (q :: rest) = (inner, some behind))
    (fuel : Nat) : read (fuel + 1) (q :: rest) = some (inner, behind)
  more {rest inner : List Char} (h : quotes q (q :: rest) = (inner, none)) (fuel : Nat) :
    read (fuel + 1) (q :: rest)
      = (read fuel (rest.dropWhile (· = q))).map fun r => (inner ++ r.1, r.2)

namespace TakesQuotes

variable {q : Char} {read : Nat → List Char → Option (List Char × List Char)} {n : Nat}
  {rest : List Char}

/-- Three quotes close the string, and one or two in front of them belong to it. -/
theorem close (hread : TakesQuotes q read) (hn : n < 3) (h : rest.head? ≠ some q) (fuel : Nat) :
    read (fuel + 1) (List.replicate (n + 3) q ++ rest) = some (List.replicate n q, rest) := by
  have hquotes := quotes_close hn h
  rw [List.replicate_succ, List.cons_append] at hquotes ⊢
  exact hread.closed hquotes fuel

/-- One or two quotes in front of what is read belong to the string, and so do none. -/
theorem replicate_append (hread : TakesQuotes q read) (hn : n < 3) (h : rest.head? ≠ some q)
    {size : Nat} {cs behind : List Char}
    (hrest : ∀ fuel, size < fuel → read fuel rest = some (cs, behind)) {fuel : Nat}
    (hfuel : n + size < fuel) :
    read fuel (List.replicate n q ++ rest) = some (List.replicate n q ++ cs, behind) := by
  cases n with
  | zero => exact hrest fuel (by omega)
  | succ n =>
    obtain ⟨fuel, rfl⟩ := Nat.exists_eq_add_one_of_ne_zero (Nat.ne_zero_of_lt hfuel)
    have hquotes := quotes_open hn h
    have hdrop := dropWhile_replicate h n
    rw [List.replicate_succ, List.cons_append] at hquotes ⊢
    rw [hread.more hquotes, hdrop, hrest fuel (by omega)]
    rfl

end TakesQuotes

/-! ### Strings over several lines -/

/-- A reader of strings with escapes takes all quotes of a row at once. -/
theorem takesQuotes_basicLines : TakesQuotes '"' basicLines? where
  closed h fuel := by rw [basicLines?, h]
  more h fuel := by
    rw [basicLines?, h]
    dsimp only
    cases basicLines? fuel _ <;> rfl

/-- An escape in a string over several lines. -/
theorem basicLines_escape {c : Char} {e rest : List Char} (h : escape? e = some (c, rest))
    (hline : newline? (skipGap e) = none) (fuel : Nat) :
    basicLines? (fuel + 1) ('\\' :: e) = (basicLines? fuel rest).map fun r => (c :: r.1, r.2) := by
  rw [basicLines?, hline]
  simp only [h, Option.bind_eq_bind, Option.bind_some]
  cases basicLines? fuel rest <;> rfl

/-- A character other than a quote is read from how it is written. -/
theorem basicLines_char {c : Char} (hc : c ≠ '"') (fuel : Nat) (rest : List Char) :
    basicLines? (fuel + 1) ((escaped? c).getD [c] ++ rest)
      = (basicLines? fuel rest).map fun r => (c :: r.1, r.2) := by
  cases hescaped : escaped? c with
  | some e =>
    obtain ⟨e', rfl, he', hline⟩ := escape_of_escaped hescaped rest
    exact basicLines_escape he' hline fuel
  | none =>
    obtain ⟨hbackslash, hcontrol⟩ := not_isControl_of_not_escaped hescaped
    simp only [Option.getD_none, List.cons_append, List.nil_append]
    rw [basicLines?]
    · by_cases hnewline : c = '\n'
      · subst hnewline
        rw [if_neg (by decide)]
        simp only [newline?, Option.bind_eq_bind, Option.bind_some]
        cases basicLines? fuel rest <;> rfl
      · rw [if_pos (isPlain_of_not_isControl hcontrol hnewline)]
        cases basicLines? fuel rest <;> rfl
    · simpa using hc
    · simpa using hbackslash

/-- What is written of a character does not start with a quote unless it is one. -/
theorem head_escaped {c : Char} (hc : c ≠ '"') (rest : List Char) :
    ((escaped? c).getD [c] ++ rest).head? ≠ some '"' := by
  cases hescaped : escaped? c with
  | some e =>
    obtain ⟨e', rfl, -⟩ := escape_of_escaped hescaped rest
    simp
  | none => simpa using hc

/-- A string over several lines is read as what was written. The quotes that were written last are
not read yet, because they are read together with those that follow. -/
theorem basicLines_writeLineChars {cs : List Char} {seen fuel : Nat} (hseen : seen < 3)
    (h : seen + cs.length < fuel) {rest : List Char} (hrest : rest.head? ≠ some '"') :
    basicLines? fuel (List.replicate seen '"' ++ (writeLineChars seen cs ++ (threeQuotes ++ rest)))
      = some (List.replicate seen '"' ++ cs, rest) := by
  induction cs generalizing seen fuel with
  | nil =>
    obtain ⟨fuel, rfl⟩ := Nat.exists_eq_add_one_of_ne_zero (Nat.ne_zero_of_lt h)
    have hclose := takesQuotes_basicLines.close hseen hrest fuel
    rw [← List.replicate_append_replicate, List.append_assoc] at hclose
    rw [List.append_nil]
    exact hclose
  | cons c cs ih =>
    rw [List.length_cons] at h
    by_cases hc : c = '"'
    · subst hc
      by_cases hroom : seen < 2
      · -- One more quote waits to be read.
        have hnext := @ih (seen + 1) fuel (by omega) (by omega)
        rw [List.replicate_succ', List.append_assoc, List.append_assoc] at hnext
        rw [writeLineChars, if_pos rfl, if_pos hroom]
        exact hnext
      · -- Two quotes wait, so that this one is escaped.
        rw [writeLineChars, if_pos rfl, if_neg hroom]
        refine takesQuotes_basicLines.replicate_append hseen (by simp) (fun fuel hfuel => ?_) h
        obtain ⟨fuel, rfl⟩ := Nat.exists_eq_add_one_of_ne_zero (Nat.ne_zero_of_lt hfuel)
        have hnext := @ih 0 fuel (by omega) (by omega)
        rw [List.replicate_zero, List.nil_append] at hnext
        simp only [List.cons_append]
        rw [basicLines_escape rfl rfl, hnext]
        rfl
    · -- The quotes that wait are read, and after them the character.
      rw [writeLineChars, if_neg hc, List.append_assoc]
      refine takesQuotes_basicLines.replicate_append hseen (head_escaped hc _)
        (fun fuel hfuel => ?_) h
      obtain ⟨fuel, rfl⟩ := Nat.exists_eq_add_one_of_ne_zero (Nat.ne_zero_of_lt hfuel)
      have hnext := @ih 0 fuel (by omega) (by omega)
      rw [List.replicate_zero, List.nil_append] at hnext
      rw [basicLines_char hc, hnext]
      rfl

/-! ### Strings without escapes over several lines -/

/-- What does not occur in a text does not stand at its start, nor does it occur behind. -/
theorem occurs_cons_eq_false_iff {part : List Char} {c : Char} {cs : List Char} :
    Text.occurs part (c :: cs) = false ↔
      part.isPrefixOf (c :: cs) = false ∧ Text.occurs part cs = false := by
  rw [Text.occurs, Text.splitOnce]
  split
  · next hstart => simp [hstart]
  · next hstart => simp [hstart, Text.occurs]

/-- What does not occur in a text does not occur in its end. -/
theorem occurs_of_append {part xs ys : List Char} (h : Text.occurs part (xs ++ ys) = false) :
    Text.occurs part ys = false := by
  induction xs with
  | nil => exact h
  | cons x xs ih => exact ih (occurs_cons_eq_false_iff.1 h).2

/-- A reader of strings without escapes takes all quotes of a row at once. -/
theorem takesQuotes_literalLines : TakesQuotes '\'' literalLines? where
  closed h fuel := by rw [literalLines?, h]
  more h fuel := by
    rw [literalLines?, h]
    dsimp only
    cases literalLines? fuel _ <;> rfl

/-- A character other than a quote is read as it stands. -/
theorem literalLines_char {c : Char} (hc : c ≠ '\'') (hcontrol : isControl c = false)
    (fuel : Nat) (rest : List Char) :
    literalLines? (fuel + 1) (c :: rest)
      = (literalLines? fuel rest).map fun r => (c :: r.1, r.2) := by
  rw [literalLines?]
  · by_cases hnewline : c = '\n'
    · subst hnewline
      rw [if_neg (by decide)]
      simp only [newline?, Option.bind_eq_bind, Option.bind_some]
      cases literalLines? fuel rest <;> rfl
    · rw [if_pos (isPlain_of_not_isControl hcontrol hnewline)]
      cases literalLines? fuel rest <;> rfl
  · simpa using hc

/-- A string without escapes over several lines is read as it stands. Quotes are read together with
those that follow, as in strings with escapes. -/
theorem literalLines_append {cs : List Char} {seen fuel : Nat} (hseen : seen < 3)
    (hcontrol : ∀ c ∈ cs, isControl c = false)
    (hquotes : Text.occurs threeSingle (List.replicate seen '\'' ++ cs) = false)
    (h : seen + cs.length < fuel) {rest : List Char} (hrest : rest.head? ≠ some '\'') :
    literalLines? fuel (List.replicate seen '\'' ++ (cs ++ (threeSingle ++ rest)))
      = some (List.replicate seen '\'' ++ cs, rest) := by
  induction cs generalizing seen fuel with
  | nil =>
    obtain ⟨fuel, rfl⟩ := Nat.exists_eq_add_one_of_ne_zero (Nat.ne_zero_of_lt h)
    have hclose := takesQuotes_literalLines.close hseen hrest fuel
    rw [← List.replicate_append_replicate, List.append_assoc] at hclose
    rw [List.append_nil]
    exact hclose
  | cons c cs ih =>
    rw [List.length_cons] at h
    obtain ⟨hc', hcs⟩ := List.forall_mem_cons.1 hcontrol
    by_cases hc : c = '\''
    · subst hc
      have hmore : List.replicate seen '\'' ++ '\'' :: cs
          = List.replicate (seen + 1) '\'' ++ cs := by
        rw [List.replicate_succ', List.append_assoc]
        rfl
      -- A third quote in a row would be three quotes inside the string.
      have hroom : seen < 2 := by
        refine Nat.lt_of_not_le fun hfull => ?_
        obtain rfl : seen = 2 := by omega
        cases (occurs_cons_eq_false_iff.1 hquotes).1
      rw [hmore] at hquotes ⊢
      have hnext := @ih (seen + 1) fuel (by omega) hcs hquotes (by omega)
      rw [← hnext, List.replicate_succ', List.append_assoc]
      rfl
    · -- The quotes that wait are read, and after them the character.
      have hfree : Text.occurs threeSingle cs = false :=
        (occurs_cons_eq_false_iff.1 (occurs_of_append hquotes)).2
      refine takesQuotes_literalLines.replicate_append hseen (by simpa using hc)
        (fun fuel hfuel => ?_) h
      obtain ⟨fuel, rfl⟩ := Nat.exists_eq_add_one_of_ne_zero (Nat.ne_zero_of_lt hfuel)
      have hnext := @ih 0 fuel (by omega) hcs hfree (by omega)
      rw [List.replicate_zero, List.nil_append] at hnext
      rw [List.cons_append, literalLines_char hc hc', hnext]
      rfl

/-! ### Strings of all kinds -/

/-- A character is written with at least one character. -/
theorem escaped_getD_ne_nil (c : Char) : (escaped? c).getD [c] ≠ [] := by
  cases hescaped : escaped? c with
  | some e =>
    obtain ⟨e', rfl, -⟩ := escape_of_escaped hescaped []
    simp
  | none => simp

/-- A string on one line is written with no fewer characters than it has. -/
theorem length_le_flatMap (cs : List Char) : cs.length ≤ (cs.flatMap writeChar).length := by
  induction cs with
  | nil => exact Nat.le_refl 0
  | cons c cs ih =>
    have hpos : 0 < (writeChar c).length := by
      unfold writeChar
      split
      · exact Nat.zero_lt_two
      split
      · exact Nat.zero_lt_two
      · exact List.length_pos_iff.2 (escaped_getD_ne_nil c)
    rw [List.flatMap_cons, List.length_append, List.length_cons]
    omega

/-- A string over several lines is written with no fewer characters than it has. -/
theorem length_le_writeLineChars (cs : List Char) (seen : Nat) :
    cs.length ≤ (writeLineChars seen cs).length := by
  induction cs generalizing seen with
  | nil => exact Nat.zero_le _
  | cons c cs ih =>
    have hmore := ih (seen + 1)
    have hagain := ih 0
    rw [writeLineChars, List.length_cons]
    split
    · split
      · rw [List.length_cons]
        omega
      · rw [List.length_cons, List.length_cons]
        omega
    · have hpos := List.length_pos_iff.2 (escaped_getD_ne_nil c)
      rw [List.length_append]
      omega

/-- A new line right behind the opening quotes does not count. There is one exactly where the text
has several lines; otherwise what follows must not look like the end of a line. -/
theorem skipFirstNewline_firstNewline {cs body : List Char}
    (h : '\n' ∉ cs → body.head? ≠ some '\n' ∧ body.head? ≠ some '\r') :
    skipFirstNewline (firstNewline cs ++ body) = body := by
  unfold firstNewline
  split
  · rfl
  · next hlines =>
    obtain ⟨hnewline, hreturn⟩ := h hlines
    rw [List.nil_append, skipFirstNewline]
    unfold newline?
    split
    · simp at hnewline
    · simp at hreturn
    · rfl

/-- What is written over several lines does not start like the end of a line unless the text has
one. -/
theorem head_writeLineChars {cs : List Char} (h : '\n' ∉ cs) (rest : List Char) :
    (writeLineChars 0 cs ++ (threeQuotes ++ rest)).head? ≠ some '\n' ∧
      (writeLineChars 0 cs ++ (threeQuotes ++ rest)).head? ≠ some '\r' := by
  cases cs with
  | nil => exact ⟨by simp [writeLineChars, threeQuotes], by simp [writeLineChars, threeQuotes]⟩
  | cons c cs =>
    rw [writeLineChars]
    split
    · exact ⟨by simp, by simp⟩
    · cases hescaped : escaped? c with
      | some e =>
        obtain ⟨e', rfl, -⟩ := escape_of_escaped hescaped []
        exact ⟨by simp, by simp⟩
      | none =>
        have hnewline : c ≠ '\n' := fun hc => h (hc ▸ List.mem_cons_self)
        have hreturn : c ≠ '\r' := by
          rintro rfl
          cases hescaped
        exact ⟨by simpa using hnewline, by simpa using hreturn⟩

/-- What is written on one line does not start with a quote. -/
theorem head_writeChar (c : Char) (rest : List Char) :
    (writeChar c ++ rest).head? ≠ some '"' := by
  unfold writeChar
  split
  · simp
  split
  · simp
  · next hquote _ => exact head_escaped hquote rest

/-- A string with escapes on one line is read as what was written. -/
theorem string_basic (cs rest : List Char) :
    string? ('"' :: cs.flatMap writeChar ++ ['"'] ++ '\n' :: rest) = some (cs, '\n' :: rest) := by
  have hlength := length_le_flatMap cs
  rw [List.append_assoc, List.cons_append, List.cons_append, List.nil_append, string?]
  · -- The fuel counts what is written, which is no shorter than the string.
    refine basic_flatMap ?_ _
    rw [List.length_append]
    omega
  · -- Of three quotes in a row the second would close an empty string.
    intro rest' heq
    cases cs with
    | nil => simp at heq
    | cons c cs =>
      have hhead := head_writeChar c (cs.flatMap writeChar ++ '"' :: '\n' :: rest)
      rw [List.flatMap_cons, List.append_assoc] at heq
      rw [heq] at hhead
      exact hhead rfl

/-- A string without escapes on one line is read as it stands. -/
theorem string_literal {cs : List Char} (h : ∀ c ∈ cs, isPlain c = true ∧ c ≠ '\'')
    (rest : List Char) :
    string? ('\'' :: cs ++ ['\''] ++ '\n' :: rest) = some (cs, '\n' :: rest) := by
  rw [List.append_assoc, List.cons_append, List.cons_append, List.nil_append, string?]
  · exact literal_append h _
  · intro rest' heq
    cases cs with
    | nil => simp at heq
    | cons c cs => exact (h c List.mem_cons_self).2 (List.cons.inj heq).1

/-- A string with escapes over several lines is read as what was written. -/
theorem string_basicLines {cs rest : List Char} (opening : List Char)
    (hopening : skipFirstNewline (opening ++ (writeLineChars 0 cs ++ (threeQuotes ++ '\n' :: rest)))
      = writeLineChars 0 cs ++ (threeQuotes ++ '\n' :: rest)) :
    string? (threeQuotes ++ opening ++ writeLineChars 0 cs ++ threeQuotes ++ '\n' :: rest)
      = some (cs, '\n' :: rest) := by
  have hlength := length_le_writeLineChars cs 0
  simp only [List.append_assoc]
  show basicLines? ((opening ++ _).length + 1) (skipFirstNewline (opening ++ _)) = _
  rw [hopening]
  refine @basicLines_writeLineChars cs 0 _ (by omega) ?_ _ (by simp)
  simp only [List.length_append]
  omega

/-- A string without escapes over several lines is read as it stands. -/
theorem string_literalLines {cs : List Char} (hcontrol : ∀ c ∈ cs, isControl c = false)
    (hquotes : Text.occurs threeSingle cs = false) (rest : List Char) :
    string? (threeSingle ++ firstNewline cs ++ cs ++ threeSingle ++ '\n' :: rest)
      = some (cs, '\n' :: rest) := by
  have hopening : skipFirstNewline (firstNewline cs ++ (cs ++ (threeSingle ++ '\n' :: rest)))
      = cs ++ (threeSingle ++ '\n' :: rest) := by
    refine skipFirstNewline_firstNewline fun hlines => ?_
    cases cs with
    | nil => exact ⟨by simp [threeSingle], by simp [threeSingle]⟩
    | cons c cs =>
      have hnewline : c ≠ '\n' := fun hc => hlines (hc ▸ List.mem_cons_self)
      have hreturn : c ≠ '\r' := by
        rintro rfl
        cases hcontrol _ List.mem_cons_self
      exact ⟨by simpa using hnewline, by simpa using hreturn⟩
  simp only [List.append_assoc]
  show literalLines? ((firstNewline cs ++ _).length + 1)
    (skipFirstNewline (firstNewline cs ++ _)) = _
  rw [hopening]
  refine @literalLines_append cs 0 _ (by omega) hcontrol hquotes ?_ _ (by simp)
  simp only [List.length_append]
  omega

/-- A string at the end of a line is read as what was written. -/
theorem string_writeString (cs rest : List Char) :
    string? (writeString cs ++ '\n' :: rest) = some (cs, '\n' :: rest) := by
  -- The cases are those of the writer, from the plainest kind on.
  unfold writeString
  split
  · exact string_basic cs rest
  split
  · next hplain =>
    refine string_literal ?_ rest
    intro c hc
    have hall := List.all_eq_true.1 hplain c hc
    simp only [Bool.and_eq_true, decide_eq_true_eq, Bool.not_eq_true'] at hall
    exact ⟨isPlain_of_not_isControl hall.2 hall.1.2, hall.1.1⟩
  split
  · exact string_basicLines (firstNewline cs)
      (skipFirstNewline_firstNewline fun h => head_writeLineChars h _)
  split
  · next hplain =>
    rw [Bool.and_eq_true, List.all_eq_true, Bool.not_eq_true'] at hplain
    exact string_literalLines (fun c hc => by simpa using hplain.1 c hc) hplain.2 rest
  split
  · -- Here the new line behind the quotes is written without a look at the text.
    exact string_basicLines ['\n'] rfl
  · exact string_basic cs rest

end TypedSearch.Toml
