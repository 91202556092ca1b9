import Mathlib.Data.List.Chain
import Mathlib.Data.List.Infix
import TypedSearch.Text.Blank
import TypedSearch.Text.Bytes
import TypedSearch.Text.Split
/-!
# `TypedSearch.Proofs.Text`: what is trimmed off a text and where it is cut

* `trim_eq_iff`, `exists_pad_trim`: trimming leaves the one part of a text that has blanks around
  it, and none at its own ends.
* `splitOnce_eq_none_iff_absent`, `splitOnce_eq_some_iff_first`: a text is cut where the separator
  begins for the first time. That place is told by the text up to it, together with all of the
  separator but its last character, in which it does not occur.
* `not_pair_infix_append_iff`, `splitOnce_pair_pad`: a separator of two equal characters in a text
  that is made of parts, and in one with blanks around it.
* `bytes_lt_bytes_iff`: ASCII texts are in the order of their bytes.
-/

set_option autoImplicit false

namespace TypedSearch.Text

/-! ### Blanks around a text -/

/-- All characters of a blank text are blank. -/
theorem isBlank_of_mem {p : List Char} {c : Char} (hp : isAllBlank p = true) (hc : c ∈ p) :
    isBlank c = true := List.all_eq_true.1 hp c hc

/-- Blanks in front of a text are dropped with those that it begins with. -/
theorem trimLeft_append_of_blank {p : List Char} (hp : isAllBlank p = true) (cs : List Char) :
    trimLeft (p ++ cs) = trimLeft cs :=
  List.dropWhile_append_of_pos fun _ hc => isBlank_of_mem hp hc

/-- A text that begins with a character that is no blank keeps its beginning. -/
theorem trimLeft_of_head {cs : List Char} (h : ∀ c ∈ cs.head?, isBlank c = false) :
    trimLeft cs = cs := by
  cases cs with
  | nil => rfl
  | cons c cs => exact List.dropWhile_cons_of_neg (by simp [h c rfl])

/-- Trimming at the end is trimming in front of the text read backwards. -/
theorem trimRight_eq (cs : List Char) : trimRight cs = (trimLeft cs.reverse).reverse := rfl

/-- A text is trimmed by dropping what is blank on either side of a part with no blank ends. -/
theorem trim_append {p v q : List Char} (hp : isAllBlank p = true) (hq : isAllBlank q = true)
    (hv : IsTrimmed v) : trim (p ++ v ++ q) = v := by
  have hq' : isAllBlank q.reverse = true := by simpa [isAllBlank] using hq
  rw [trim, List.append_assoc, trimLeft_append_of_blank hp]
  cases v with
  | nil =>
    -- All of the text is blank, so that nothing is left for the second step.
    have hnone : trimLeft (q ++ []) = [] := trimLeft_append_of_blank hq []
    rw [List.nil_append, ← List.append_nil q, hnone]
    rfl
  | cons c v =>
    have hfront : trimLeft (c :: v ++ q) = c :: v ++ q := trimLeft_of_head hv.1
    have hback : trimLeft (c :: v).reverse = (c :: v).reverse :=
      trimLeft_of_head (by rw [List.head?_reverse]; exact hv.2)
    rw [hfront, trimRight_eq, List.reverse_append, trimLeft_append_of_blank hq', hback,
      List.reverse_reverse]

/-- Blanks are dropped in front of a text. -/
theorem exists_trimLeft (cs : List Char) :
    ∃ p, isAllBlank p = true ∧ cs = p ++ trimLeft cs ∧
      ∀ c ∈ (trimLeft cs).head?, isBlank c = false := by
  refine ⟨cs.takeWhile isBlank, List.all_takeWhile, (List.takeWhile_append_dropWhile).symm, ?_⟩
  intro c hc
  have hstop := List.head?_dropWhile_not isBlank cs
  rw [show (List.dropWhile isBlank cs).head? = some c from hc] at hstop
  simpa using hstop

/-- Trimming leaves exactly the part of a text with blanks around it and none at its own ends. -/
theorem trim_eq_iff {cs v : List Char} :
    trim cs = v ↔ IsTrimmed v ∧
      ∃ p q, isAllBlank p = true ∧ isAllBlank q = true ∧ cs = p ++ v ++ q := by
  constructor
  · rintro rfl
    obtain ⟨p, hp, hfront, hhead⟩ := exists_trimLeft cs
    obtain ⟨q, hq, hback, hlast⟩ := exists_trimLeft (trimLeft cs).reverse
    -- Read backwards, the second step leaves what the two steps leave together.
    have hsplit : trimLeft cs = trim cs ++ q.reverse := by
      rw [trim, trimRight_eq, ← List.reverse_append, ← hback, List.reverse_reverse]
    refine ⟨⟨?_, ?_⟩, p, q.reverse, hp, by simpa [isAllBlank] using hq, ?_⟩
    · intro c hc
      refine hhead c ?_
      rw [hsplit, List.head?_append, hc]
      rfl
    · intro c hc
      rw [trim, trimRight_eq, List.getLast?_reverse] at hc
      exact hlast c hc
    · rw [List.append_assoc, ← hsplit]
      exact hfront
  · rintro ⟨hv, p, q, hp, hq, rfl⟩
    exact trim_append hp hq hv

/-- A text is what is left of it with blanks around it. -/
theorem exists_pad_trim (cs : List Char) :
    ∃ p q, isAllBlank p = true ∧ isAllBlank q = true ∧ cs = p ++ trim cs ++ q :=
  (trim_eq_iff.1 rfl).2

/-- What is left of a text has no blanks at its ends. -/
theorem isTrimmed_trim (cs : List Char) : IsTrimmed (trim cs) := (trim_eq_iff.1 rfl).1

/-- Blanks around a text make no difference to what is left of it. -/
theorem trim_pad {p q : List Char} (hp : isAllBlank p = true) (hq : isAllBlank q = true)
    (cs : List Char) : trim (p ++ cs ++ q) = trim cs := by
  obtain ⟨p', q', hp', hq', heq⟩ := exists_pad_trim cs
  refine trim_eq_iff.2 ⟨isTrimmed_trim cs, p ++ p', q' ++ q, ?_, ?_, ?_⟩
  · simpa [isAllBlank] using ⟨List.all_eq_true.1 hp, List.all_eq_true.1 hp'⟩
  · simpa [isAllBlank] using ⟨List.all_eq_true.1 hq', List.all_eq_true.1 hq⟩
  · conv_lhs => rw [heq]
    simp only [List.append_assoc]

/-- What is left of a text is left as it is. -/
theorem trim_trim (cs : List Char) : trim (trim cs) = trim cs :=
  trim_eq_iff.2 ⟨isTrimmed_trim cs, [], [], rfl, rfl, by simp⟩

/-- No character between the space and the end of ASCII is blank. -/
theorem isBlank_of_ascii {c : Char} (hlow : 0x20 < c.toNat) (hhigh : c.toNat < 0x80) :
    isBlank c = false := by
  simp only [isBlank, blankRanges, List.any_cons, List.any_nil, Bool.or_false,
    Bool.or_eq_false_iff, Bool.and_eq_false_iff, decide_eq_false_iff_not]
  omega

/-! ### The first place of a separator -/

/-- A text is not cut exactly when the separator does not occur in it. -/
theorem splitOnce_eq_none_iff_absent {sep cs : List Char} :
    splitOnce sep cs = none ↔ ¬ sep <:+: cs := by
  induction cs with
  | nil =>
    cases sep with
    | nil => simp [splitOnce]
    | cons c sep => simp [splitOnce]
  | cons c rest ih =>
    rw [splitOnce, List.infix_cons_iff, not_or, ← ih, ← List.isPrefixOf_iff_prefix]
    cases sep.isPrefixOf (c :: rest) with
    | true => simp
    | false => simp

/-- The text in front of a separator, with all of the separator but its last character, is where a
longer text begins. -/
theorem isPrefix_append_dropLast (before sep after : List Char) :
    before ++ sep.dropLast <+: before ++ sep ++ after := by
  have hshort : sep.dropLast <+: sep := List.dropLast_prefix sep
  rw [List.append_assoc]
  exact (List.prefix_append_right_inj _).2 (hshort.trans (List.prefix_append sep after))

/-- A text is cut into two parts exactly when they make it up with the separator between them, and
the separator does not begin before it does there. -/
theorem splitOnce_eq_some_iff_first {sep cs before after : List Char} (hsep : sep ≠ []) :
    splitOnce sep cs = some (before, after) ↔
      cs = before ++ sep ++ after ∧ ¬ sep <:+: before ++ sep.dropLast := by
  have hlength : sep.dropLast.length < sep.length := by
    have hpos := List.length_pos_of_ne_nil hsep
    rw [List.length_dropLast]
    omega
  induction cs generalizing before with
  | nil => simp [splitOnce, hsep]
  | cons c rest ih =>
    rw [splitOnce]
    by_cases hstarts : sep <+: c :: rest
    · rw [if_pos (List.isPrefixOf_iff_prefix.2 hstarts)]
      cases before with
      | nil =>
        -- Too short a text for the separator to occur in it.
        have hnot : ¬ sep <:+: sep.dropLast := fun h => Nat.not_le.2 hlength h.length_le
        obtain ⟨t, ht⟩ := hstarts
        rw [← ht, List.drop_left]
        simp [hnot, eq_comm]
      | cons x before =>
        -- The separator begins in front already.
        simp only [Option.some.injEq, Prod.mk.injEq, reduceCtorEq, false_and, false_iff, not_and,
          not_not]
        intro heq
        have hparts : x :: before ++ sep.dropLast <+: c :: rest := by
          rw [heq]
          exact isPrefix_append_dropLast (x :: before) sep after
        refine (List.prefix_of_prefix_length_le hstarts hparts ?_).isInfix
        rw [List.length_append, List.length_dropLast, List.length_cons]
        omega
    · rw [if_neg (by rwa [List.isPrefixOf_iff_prefix]), Option.map_eq_some_iff]
      constructor
      · rintro ⟨⟨xs, ys⟩, hparts, heq⟩
        cases heq
        obtain ⟨rfl, hnot⟩ := ih.1 hparts
        refine ⟨rfl, ?_⟩
        rw [List.cons_append, List.infix_cons_iff]
        rintro (hfront | hinside)
        · exact hstarts (hfront.trans (isPrefix_append_dropLast (c :: xs) sep ys))
        · exact hnot hinside
      · rintro ⟨heq, hnot⟩
        cases before with
        | nil =>
          refine absurd ?_ hstarts
          rw [heq]
          exact List.prefix_append sep after
        | cons x before =>
          cases heq
          rw [List.cons_append, List.infix_cons_iff, not_or] at hnot
          exact ⟨(before, after), ih.2 ⟨rfl, hnot.2⟩, rfl⟩

/-! ### Separators of two equal characters -/

/-- Two equal characters do not occur exactly when none of them has another behind it. -/
theorem not_pair_infix_iff {d : Char} {cs : List Char} :
    ¬ [d, d] <:+: cs ↔ cs.IsChain fun a b => a = d → b ≠ d := by
  induction cs with
  | nil => simp
  | cons c cs ih =>
    rw [List.infix_cons_iff, not_or, ih, List.isChain_cons]
    refine and_congr_left fun _ => ?_
    cases cs with
    | nil => simp
    | cons b cs => simp [@eq_comm _ d]

/-- Two equal characters do not occur in two texts behind each other exactly when they do not in
either, and the first does not end where the second begins. -/
theorem not_pair_infix_append_iff {d : Char} {xs ys : List Char} :
    ¬ [d, d] <:+: xs ++ ys ↔
      ¬ [d, d] <:+: xs ∧ ¬ [d, d] <:+: ys ∧ ¬ (xs.getLast? = some d ∧ ys.head? = some d) := by
  simp only [not_pair_infix_iff, List.isChain_append]
  refine and_congr_right fun _ => and_congr_right fun _ => ?_
  constructor
  · rintro h ⟨hlast, hhead⟩
    exact h d hlast d hhead rfl rfl
  · rintro h _ hx _ hy rfl rfl
    exact h ⟨hx, hy⟩

/-- Two equal characters do not occur where one does not. -/
theorem not_pair_infix_of_not_mem {d : Char} {cs : List Char} (h : d ∉ cs) : ¬ [d, d] <:+: cs :=
  fun hpair => h (hpair.subset List.mem_cons_self)

/-- Two equal characters that are no blanks occur in a text with blanks around it exactly when they
occur in the text. -/
theorem not_pair_infix_pad_iff {d : Char} (hd : isBlank d = false) {p cs q : List Char}
    (hp : isAllBlank p = true) (hq : isAllBlank q = true) :
    ¬ [d, d] <:+: p ++ cs ++ q ↔ ¬ [d, d] <:+: cs := by
  have hfree : ∀ {r : List Char}, isAllBlank r = true → d ∉ r := by
    intro r hr hmem
    rw [isBlank_of_mem hr hmem] at hd
    cases hd
  have hlast : p.getLast? ≠ some d := fun h => hfree hp (List.mem_of_getLast? h)
  have hhead : q.head? ≠ some d := fun h => hfree hq (List.mem_of_head? h)
  simp only [not_pair_infix_append_iff, not_pair_infix_of_not_mem (hfree hp),
    not_pair_infix_of_not_mem (hfree hq), hlast, hhead]
  simp

/-- Blanks around a text stay around what it is cut into at two equal characters. -/
theorem splitOnce_pair_pad {d : Char} (hd : isBlank d = false) {p q : List Char}
    (hp : isAllBlank p = true) (hq : isAllBlank q = true) (cs : List Char) :
    splitOnce [d, d] (p ++ cs ++ q)
      = (splitOnce [d, d] cs).map fun parts => (p ++ parts.1, parts.2 ++ q) := by
  cases hcut : splitOnce [d, d] cs with
  | none =>
    rw [splitOnce_eq_none_iff_absent] at hcut
    exact splitOnce_eq_none_iff_absent.2 ((not_pair_infix_pad_iff hd hp hq).2 hcut)
  | some parts =>
    obtain ⟨before, after⟩ := parts
    obtain ⟨rfl, hfirst⟩ := (splitOnce_eq_some_iff_first (by simp)).1 hcut
    refine (splitOnce_eq_some_iff_first (by simp)).2 ⟨by simp, ?_⟩
    simpa using (not_pair_infix_pad_iff hd hp (q := []) rfl).2 hfirst

/-! ### Bytes -/

/-- A character of ASCII is one byte, its own code. -/
theorem bytes_cons_of_ascii {c : Char} (h : c.toNat < 128) (cs : List Char) :
    bytes (c :: cs) = c.val.toUInt8 :: bytes cs := by
  have hsize : c.utf8Size = 1 :=
    Char.utf8Size_eq_one_iff.2 (UInt32.le_iff_toNat_le.2 (Nat.le_of_lt_succ h))
  rw [bytes, List.flatMap_cons, String.utf8EncodeChar_eq_singleton hsize]
  rfl

/-- ASCII texts are in the order of their bytes. -/
theorem bytes_lt_bytes_iff {cs ds : List Char} (hcs : ∀ c ∈ cs, c.toNat < 128)
    (hds : ∀ c ∈ ds, c.toNat < 128) : bytes cs < bytes ds ↔ cs < ds := by
  induction cs generalizing ds with
  | nil =>
    cases ds with
    | nil => simp [bytes]
    | cons d ds =>
      rw [bytes_cons_of_ascii (hds d List.mem_cons_self)]
      simp [bytes]
  | cons c cs ih =>
    cases ds with
    | nil => simp [bytes]
    | cons d ds =>
      obtain ⟨hc, hcs⟩ := List.forall_mem_cons.1 hcs
      obtain ⟨hd, hds⟩ := List.forall_mem_cons.1 hds
      rw [bytes_cons_of_ascii hc, bytes_cons_of_ascii hd, List.cons_lt_cons_iff,
        List.cons_lt_cons_iff, ih hcs hds, Char.lt_def, ← Char.toNat_inj, UInt8.lt_iff_toNat_lt,
        ← UInt8.toNat_inj, UInt32.lt_iff_toNat_lt, UInt32.toNat_toUInt8, UInt32.toNat_toUInt8,
        Char.toNat_val, Char.toNat_val, Nat.mod_eq_of_lt (show c.toNat < 2 ^ 8 by omega),
        Nat.mod_eq_of_lt (show d.toNat < 2 ^ 8 by omega)]
end TypedSearch.Text
