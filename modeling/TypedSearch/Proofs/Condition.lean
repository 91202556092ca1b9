import TypedSearch.Condition
import TypedSearch.Proofs.Text
import TypedSearch.Schema.Catalog
/-!
# `TypedSearch.Proofs.Condition`: the texts of conditions

A condition is written as the name of a field, an equals sign, and a value or two bounds with two
dots between them. There may be blanks around each of these parts.

* `Sides`: what stands on either side of the first equals sign.
* `Operand`: what stands behind it, and the condition that this makes on a field.
* `ofOperand_of_operand`, `operand_ofOperand`: what stands behind it is read as that condition.
* `ofText_of_sides`: the text is read as that condition on the field that is named.
* `ofText_grammar`: which texts are read, as which conditions, and what is said about the others.
-/

set_option autoImplicit false

namespace TypedSearch

open Text (isAllBlank isBlank IsTrimmed splitOnce trim)

/-! ### Names of fields -/

section
variable {F : Type} [DecidableEq F] [FieldSet F]

/-- The name of a field has no equals sign and no blanks at its ends, so that it can be written in
front of an equals sign. -/
def FieldSet.IsPlain (f : F) : Prop := '=' ∉ (name f).toList ∧ IsTrimmed (name f).toList

/-- The characters of words are neither blank nor equals signs. -/
theorem isBlank_of_isFieldChar {c : Char} (h : isFieldChar c = true) :
    isBlank c = false ∧ c ≠ '=' := by
  have hrange : 0x5F ≤ c.toNat ∧ c.toNat ≤ 0x7A := by
    rw [isFieldChar, Bool.or_eq_true, decide_eq_true_eq] at h
    rcases h with hlower | rfl
    · obtain ⟨hlow, hhigh⟩ := Bool.and_eq_true_iff.1 hlower
      have hlow' : 0x61 ≤ c.toNat := UInt32.le_iff_toNat_le.1 (of_decide_eq_true hlow)
      have hhigh' : c.toNat ≤ 0x7A := UInt32.le_iff_toNat_le.1 (of_decide_eq_true hhigh)
      omega
    · decide
  refine ⟨Text.isBlank_of_ascii (by omega) (by omega), ?_⟩
  rintro rfl
  exact absurd hrange.1 (by decide)

/-- Words can be written in front of an equals sign. -/
theorem FieldSet.isPlain_of_wordNames [WordNames F] (f : F) : IsPlain f := by
  have hchars : ∀ c ∈ (name f).toList, isBlank c = false ∧ c ≠ '=' := by
    intro c hc
    exact isBlank_of_isFieldChar (List.all_eq_true.1 (WordNames.name_chars f) c hc)
  refine ⟨fun hmem => (hchars '=' hmem).2 rfl, ?_, ?_⟩
  · intro c hc
    exact (hchars c (List.mem_of_head? hc)).1
  · intro c hc
    exact (hchars c (List.mem_of_getLast? hc)).1

end

namespace Condition

variable {F : Type}

/-! ### Behind the equals sign -/

/-- The bound that is given by a text: none where the text is empty. -/
def boundOf (text : String) : Option String := if text = "" then none else some text

/-- What stands behind the equals sign, and the condition that it makes on a field: either a value
without two dots in it, or two bounds with two dots between them, the first that there are. Either
bound may be left out. There may be blanks around the value and around the bounds. -/
inductive Operand (f : F) : List Char → Condition F → Prop
  | value {p v q : List Char} (hp : isAllBlank p = true) (hq : isAllBlank q = true)
      (hv : IsTrimmed v) (hfree : ¬ ['.', '.'] <:+: v) :
      Operand f (p ++ v ++ q) (ofValue f (String.ofList v))
  | range {p₁ low p₂ p₃ high p₄ : List Char} (hp₁ : isAllBlank p₁ = true)
      (hp₂ : isAllBlank p₂ = true) (hp₃ : isAllBlank p₃ = true) (hp₄ : isAllBlank p₄ = true)
      (hlow : IsTrimmed low) (hhigh : IsTrimmed high)
      (hfirst : ¬ ['.', '.'] <:+: low ++ p₂ ++ ['.']) :
      Operand f (p₁ ++ low ++ p₂ ++ '.' :: '.' :: (p₃ ++ high ++ p₄))
        (range f (boundOf (String.ofList low)) (boundOf (String.ofList high)))

/-- The bound that a text gives is the one that is given by the text without the blanks around
it. -/
theorem boundOfText_eq (cs : List Char) : boundOfText cs = boundOf (String.ofList (trim cs)) := by
  rw [boundOfText, boundOf]
  cases trim cs with
  | nil => rfl
  | cons c cs => simp

/-- What stands behind the equals sign is cut at the first two dots in it, and without any it is a
value. -/
theorem ofOperand_eq (f : F) (operand : List Char) :
    ofOperand f operand = match splitOnce ['.', '.'] operand with
      | some (low, high) =>
        range f (boundOf (String.ofList (trim low))) (boundOf (String.ofList (trim high)))
      | none => ofValue f (String.ofList (trim operand)) := by
  obtain ⟨p, q, hp, hq, heq⟩ := Text.exists_pad_trim operand
  have hcut := Text.splitOnce_pair_pad (d := '.') rfl hp hq (trim operand)
  rw [← heq] at hcut
  rw [ofOperand, hcut]
  cases splitOnce ['.', '.'] (trim operand) with
  | none => rfl
  | some parts =>
    have hlow : trim (p ++ parts.1) = trim parts.1 := by
      simpa using Text.trim_pad hp (q := []) rfl parts.1
    have hhigh : trim (parts.2 ++ q) = trim parts.2 := Text.trim_pad (p := []) rfl hq parts.2
    simp only [Option.map_some, boundOfText_eq, hlow, hhigh]

/-- Blanks around what stands behind the equals sign make no difference. -/
theorem ofOperand_trim (f : F) (operand : List Char) :
    ofOperand f (trim operand) = ofOperand f operand := by
  rw [ofOperand, Text.trim_trim, ← ofOperand]

/-- The condition that is written behind the equals sign is the one that is read. -/
theorem ofOperand_of_operand {f : F} {operand : List Char} {c : Condition F}
    (h : Operand f operand c) : ofOperand f operand = c := by
  rw [ofOperand_eq]
  cases h with
  | @value p v q hp hq hv hfree =>
    rw [Text.splitOnce_eq_none_iff_absent.2 ((Text.not_pair_infix_pad_iff rfl hp hq).2 hfree),
      Text.trim_append hp hq hv]
  | @range p₁ low p₂ p₃ high p₄ hp₁ hp₂ hp₃ hp₄ hlow hhigh hfirst =>
    have hcut : splitOnce ['.', '.'] (p₁ ++ low ++ p₂ ++ '.' :: '.' :: (p₃ ++ high ++ p₄))
        = some (p₁ ++ low ++ p₂, p₃ ++ high ++ p₄) := by
      refine (Text.splitOnce_eq_some_iff_first (by simp)).2 ⟨by simp, ?_⟩
      have hpad := (Text.not_pair_infix_pad_iff rfl hp₁ (q := []) rfl).2 hfirst
      simpa using hpad
    simp only [hcut, Text.trim_append hp₁ hp₂ hlow, Text.trim_append hp₃ hp₄ hhigh]

/-- Whatever stands behind the equals sign, the condition that is read is the one that is written
there. -/
theorem operand_ofOperand (f : F) (operand : List Char) :
    Operand f operand (ofOperand f operand) := by
  rw [ofOperand_eq]
  cases hcut : splitOnce ['.', '.'] operand with
  | none =>
    obtain ⟨p, q, hp, hq, heq⟩ := Text.exists_pad_trim operand
    rw [Text.splitOnce_eq_none_iff_absent, heq, Text.not_pair_infix_pad_iff rfl hp hq] at hcut
    have hvalue := Operand.value (f := f) hp hq (Text.isTrimmed_trim operand) hcut
    rwa [← heq] at hvalue
  | some parts =>
    obtain ⟨before, after⟩ := parts
    obtain ⟨rfl, hfirst⟩ := (Text.splitOnce_eq_some_iff_first (by simp)).1 hcut
    obtain ⟨p₁, p₂, hp₁, hp₂, hbefore⟩ := Text.exists_pad_trim before
    obtain ⟨p₃, p₄, hp₃, hp₄, hafter⟩ := Text.exists_pad_trim after
    -- The blanks in front of the lower bound are left out of the text that has no two dots.
    have hfirst' : ¬ ['.', '.'] <:+: trim before ++ p₂ ++ ['.'] := by
      intro hdots
      refine hfirst (hdots.trans ?_)
      conv_rhs => rw [hbefore]
      simp only [List.append_assoc]
      exact (List.suffix_append p₁ _).isInfix
    have hrange := Operand.range (f := f) hp₁ hp₂ hp₃ hp₄ (Text.isTrimmed_trim before)
      (Text.isTrimmed_trim after) hfirst'
    rw [← hbefore, ← hafter] at hrange
    simpa using hrange

/-! ### Values and bounds -/

/-- No value and no bound has a blank at its ends, and no bound is empty. -/
structure IsTidy (c : Condition F) : Prop where
  value : ∀ v ∈ c.value, IsTrimmed v.toList
  gte : ∀ b ∈ c.gte, IsTrimmed b.toList ∧ b ≠ ""
  lte : ∀ b ∈ c.lte, IsTrimmed b.toList ∧ b ≠ ""

/-- A bound that a text gives is that text, and is not empty. -/
theorem boundOf_eq_some_iff {text b : String} : boundOf text = some b ↔ text ≠ "" ∧ text = b := by
  rw [boundOf]
  split
  · next h => simp [h]
  · next h => simp [h]

/-- A condition that is written down is on its field, and is tidy. -/
theorem Operand.isTidy {f : F} {operand : List Char} {c : Condition F} (h : Operand f operand c) :
    c.field = f ∧ c.IsTidy := by
  have hbound : ∀ {cs : List Char}, IsTrimmed cs → ∀ b ∈ boundOf (String.ofList cs),
      IsTrimmed b.toList ∧ b ≠ "" := by
    intro cs hcs b hb
    obtain ⟨hne, rfl⟩ := boundOf_eq_some_iff.1 hb
    exact ⟨by rwa [String.toList_ofList], hne⟩
  cases h with
  | value hp hq hv hfree =>
    refine ⟨rfl, ?_, by simp [ofValue], by simp [ofValue]⟩
    intro v hv'
    rw [← Option.some.inj hv', String.toList_ofList]
    exact hv
  | range hp₁ hp₂ hp₃ hp₄ hlow hhigh hfirst =>
    exact ⟨rfl, by simp [Condition.range], hbound hlow, hbound hhigh⟩

/-- A condition that is written down has a value exactly when there are no two dots behind the
equals sign. It then has no bounds. -/
theorem Operand.value_iff {f : F} {operand : List Char} {c : Condition F}
    (h : Operand f operand c) :
    ((∃ v, c.value = some v ∧ c.gte = none ∧ c.lte = none) ↔ ¬ ['.', '.'] <:+: operand) ∧
      (c.value = none ↔ ['.', '.'] <:+: operand) := by
  cases h with
  | value hp hq hv hfree =>
    have hnone := (Text.not_pair_infix_pad_iff rfl hp hq).2 hfree
    simp only [ofValue, hnone]
    simp
  | @range p₁ low p₂ p₃ high p₄ =>
    have hdots : ['.', '.'] <:+: p₁ ++ low ++ p₂ ++ '.' :: '.' :: (p₃ ++ high ++ p₄) :=
      ⟨p₁ ++ low ++ p₂, p₃ ++ high ++ p₄, by simp⟩
    simp only [Condition.range, hdots]
    simp

/-! ### Around the first equals sign -/

/-- What stands in front of the first equals sign of a text and behind it, without the blanks around
either. -/
def Sides (s name operand : List Char) : Prop :=
  '=' ∉ name ∧ IsTrimmed name ∧ IsTrimmed operand ∧
    ∃ p₁ p₂ p₃ p₄, (∀ p ∈ [p₁, p₂, p₃, p₄], isAllBlank p = true) ∧
      s = p₁ ++ name ++ p₂ ++ '=' :: (p₃ ++ operand ++ p₄)

/-- A text has two sides exactly when there is an equals sign in it. -/
theorem exists_sides_iff {s : List Char} : (∃ name operand, Sides s name operand) ↔ '=' ∈ s := by
  constructor
  · rintro ⟨name, operand, -, -, -, _, _, _, _, -, rfl⟩
    simp
  · intro hmem
    obtain ⟨⟨before, after⟩, hcut⟩ : ∃ parts, splitOnce ['='] s = some parts := by
      refine Option.ne_none_iff_exists'.1 fun hnone => ?_
      exact Text.splitOnce_eq_none_iff.1 hnone hmem
    obtain ⟨hfree, rfl⟩ := Text.splitOnce_eq_some_iff.1 hcut
    obtain ⟨p₁, p₂, hp₁, hp₂, hbefore⟩ := Text.exists_pad_trim before
    obtain ⟨p₃, p₄, hp₃, hp₄, hafter⟩ := Text.exists_pad_trim after
    refine ⟨trim before, trim after, ?_, Text.isTrimmed_trim before, Text.isTrimmed_trim after,
      p₁, p₂, p₃, p₄, ?_, ?_⟩
    · intro h
      rw [hbefore] at hfree
      exact hfree (by simp [h])
    · simp [hp₁, hp₂, hp₃, hp₄]
    · rw [← hbefore, ← hafter]

/-- The two dots behind a bound without two dots and without a dot at its end are the first, also
with blanks between them. -/
theorem not_dots_infix_append {low p : List Char} (hp : isAllBlank p = true)
    (hfree : ¬ ['.', '.'] <:+: low) (hlast : low.getLast? ≠ some '.') :
    ¬ ['.', '.'] <:+: low ++ p ++ ['.'] := by
  have hdot : ∀ {c : Char}, c ∈ p → c ≠ '.' := by
    rintro _ hc rfl
    cases Text.isBlank_of_mem hp hc
  have hpad : ¬ ['.', '.'] <:+: low ++ p := by
    simpa using (Text.not_pair_infix_pad_iff rfl (p := []) rfl hp).2 hfree
  refine Text.not_pair_infix_append_iff.2 ⟨hpad, by simp [List.infix_cons_iff], ?_⟩
  rintro ⟨hend, -⟩
  rw [List.getLast?_append] at hend
  cases hback : p.getLast? with
  | none =>
    rw [hback] at hend
    exact hlast hend
  | some c =>
    rw [hback] at hend
    exact hdot (List.mem_of_getLast? hback) (Option.some.inj hend)

variable [DecidableEq F] [FieldSet F]

/-- There is no field with a name exactly when no field has it. -/
theorem ofName_eq_none_iff {name : String} :
    (FieldSet.ofName? name : Option F) = none ↔ ∀ f : F, FieldSet.name f ≠ name := by
  rw [FieldSet.ofName?, List.find?_eq_none]
  simp [FieldSet.mem_all]

/-- A text is read as the condition that its second side makes on the field that its first side
names. -/
theorem ofText_of_sides {s : String} {name operand : List Char} (h : Sides s.toList name operand) :
    (ofText s : Except SearchError (Condition F))
      = match FieldSet.ofName? (String.ofList name) with
        | none => .error (.unknownField (String.ofList name))
        | some f => .ok (ofOperand f operand) := by
  obtain ⟨hfree, hname, hoperand, p₁, p₂, p₃, p₄, hblank, hs⟩ := h
  simp only [List.forall_mem_cons] at hblank
  obtain ⟨hp₁, hp₂, hp₃, hp₄, -⟩ := hblank
  -- The first equals sign is the one between the sides, since blanks have none.
  have hcut : splitOnce ['='] s.toList = some (p₁ ++ name ++ p₂, p₃ ++ operand ++ p₄) := by
    refine Text.splitOnce_eq_some_iff.2 ⟨?_, hs⟩
    have hblanks : ∀ {p : List Char}, isAllBlank p = true → '=' ∉ p := by
      intro p hp hmem
      cases Text.isBlank_of_mem hp hmem
    simp [hblanks hp₁, hblanks hp₂, hfree]
  have hread : ∀ f : F, ofOperand f (p₃ ++ operand ++ p₄) = ofOperand f operand := by
    intro f
    rw [← ofOperand_trim, Text.trim_append hp₃ hp₄ hoperand]
  cases hf : (FieldSet.ofName? (String.ofList name) : Option F) with
  | none => simp only [ofText, hcut, Text.trim_append hp₁ hp₂ hname, hf]
  | some f => simp only [ofText, hcut, Text.trim_append hp₁ hp₂ hname, hf, hread]

/-- A text without an equals sign is no condition, and the error shows it. -/
theorem ofText_of_not_mem {s : String} (h : '=' ∉ s.toList) :
    (ofText s : Except SearchError (Condition F))
      = .error (.invalidCondition ("expected field=value, got " ++ quoted s)) := by
  rw [ofText, Text.splitOnce_eq_none_iff.2 h]

/-- A text fails as no condition exactly when there is no equals sign in it. -/
theorem ofText_eq_invalidCondition_iff {s reason : String} :
    (ofText s : Except SearchError (Condition F)) = .error (.invalidCondition reason) ↔
      '=' ∉ s.toList ∧ reason = "expected field=value, got " ++ quoted s := by
  by_cases hmem : '=' ∈ s.toList
  · obtain ⟨name, operand, hsides⟩ := exists_sides_iff.2 hmem
    rw [ofText_of_sides hsides]
    cases (FieldSet.ofName? (String.ofList name) : Option F) with
    | none => simp [hmem]
    | some f => simp [hmem]
  · simp [ofText_of_not_mem hmem, hmem, eq_comm]

/-- A text with an equals sign fails exactly when no field has the name in front of it. -/
theorem ofText_eq_error_iff_of_sides {s : String} {name operand : List Char}
    (h : Sides s.toList name operand) {e : SearchError} :
    (ofText s : Except SearchError (Condition F)) = .error e ↔
      (∀ f : F, FieldSet.name f ≠ String.ofList name) ∧ e = .unknownField (String.ofList name) := by
  rw [ofText_of_sides h, ← ofName_eq_none_iff]
  cases (FieldSet.ofName? (String.ofList name) : Option F) with
  | none => simp [eq_comm]
  | some f => simp

/-- A condition on a field, with blanks around the name and in front of what it is compared with, is
read. -/
theorem ofText_of_operand {f : F} (hf : FieldSet.IsPlain f) {p₁ p₂ : List Char}
    (hp₁ : isAllBlank p₁ = true) (hp₂ : isAllBlank p₂ = true) {operand : List Char}
    {c : Condition F} (h : Operand f operand c) {s : String}
    (hs : s.toList = p₁ ++ (FieldSet.name f).toList ++ p₂ ++ '=' :: operand) :
    ofText s = .ok c := by
  obtain ⟨p₃, p₄, hp₃, hp₄, heq⟩ := Text.exists_pad_trim operand
  have hsides : Sides s.toList (FieldSet.name f).toList (trim operand) :=
    ⟨hf.1, hf.2, Text.isTrimmed_trim operand, p₁, p₂, p₃, p₄, by simp [hp₁, hp₂, hp₃, hp₄],
      by rw [hs, ← heq]⟩
  have hread : ofOperand f (trim operand) = c :=
    (ofOperand_trim f operand).trans (ofOperand_of_operand h)
  rw [ofText_of_sides hsides, String.ofList_toList, FieldSet.ofName_name, ← hread]

/-- A text is a condition exactly when there is an equals sign in it and the name in front of it is
that of a field; the errors show the text, or the name. It has a value exactly when there are no two
dots behind the equals sign, and otherwise the bounds on either side of the first two dots; where
both are left out it has neither. No value and no bound has a blank at its ends, and no bound is
empty. A value without two dots, and two bounds of which the lower has no two dots in it and no dot
at its end, are read as they were written, with any blanks around them. All fields of the three
indices can be written in this way. -/
theorem ofText_grammar :
    (∀ {F : Type} [DecidableEq F] [FieldSet F],
      (∀ s : String,
        (∀ reason,
          (ofText s : Except SearchError (Condition F)) = .error (.invalidCondition reason) ↔
            '=' ∉ s.toList ∧ reason = "expected field=value, got " ++ quoted s) ∧
        ('=' ∈ s.toList → ∃ name operand, Sides s.toList name operand ∧
          (∀ e, (ofText s : Except SearchError (Condition F)) = .error e ↔
            (∀ f : F, FieldSet.name f ≠ String.ofList name) ∧
              e = .unknownField (String.ofList name)) ∧
          ∀ f : F, FieldSet.name f = String.ofList name →
            ∃ c, ofText s = .ok c ∧ Operand f operand c ∧ c.field = f ∧ c.IsTidy ∧
              ((∃ v, c.value = some v ∧ c.gte = none ∧ c.lte = none) ↔
                ¬ ['.', '.'] <:+: operand) ∧
              (c.value = none ↔ ['.', '.'] <:+: operand))) ∧
      ∀ f : F, FieldSet.IsPlain f → ∀ p₁ p₂ p₃ p₄ p₅ p₆ : String,
        (∀ p ∈ [p₁, p₂, p₃, p₄, p₅, p₆], isAllBlank p.toList = true) →
        (∀ v : String, IsTrimmed v.toList → ¬ ['.', '.'] <:+: v.toList →
          ofText (p₁ ++ FieldSet.name f ++ p₂ ++ "=" ++ p₃ ++ v ++ p₄) = .ok (ofValue f v)) ∧
        ∀ low high : String, IsTrimmed low.toList → IsTrimmed high.toList →
          ¬ ['.', '.'] <:+: low.toList → low.toList.getLast? ≠ some '.' →
          ofText (p₁ ++ FieldSet.name f ++ p₂ ++ "=" ++ p₃ ++ low ++ p₄ ++ ".." ++ p₅ ++ high ++ p₆)
            = .ok (range f (boundOf low) (boundOf high))) ∧
    (∀ f : JobField, FieldSet.IsPlain f) ∧ (∀ f : BlogField, FieldSet.IsPlain f) ∧
      ∀ f : PostField, FieldSet.IsPlain f := by
  refine ⟨?_, FieldSet.isPlain_of_wordNames, FieldSet.isPlain_of_wordNames,
    FieldSet.isPlain_of_wordNames⟩
  intro F _ _
  refine ⟨fun s => ⟨fun reason => ofText_eq_invalidCondition_iff, fun hmem => ?_⟩, ?_⟩
  · obtain ⟨name, operand, hsides⟩ := exists_sides_iff.2 hmem
    refine ⟨name, operand, hsides, fun e => ofText_eq_error_iff_of_sides hsides, fun f hf => ?_⟩
    · have hoperand := operand_ofOperand f operand
      obtain ⟨hfield, htidy⟩ := hoperand.isTidy
      refine ⟨_, ?_, hoperand, hfield, htidy, hoperand.value_iff⟩
      rw [ofText_of_sides hsides, ← hf, FieldSet.ofName_name]
  · intro f hf p₁ p₂ p₃ p₄ p₅ p₆ hblank
    simp only [List.forall_mem_cons] at hblank
    obtain ⟨hp₁, hp₂, hp₃, hp₄, hp₅, hp₆, -⟩ := hblank
    constructor
    · intro v hv hfree
      have hoperand := Operand.value (f := f) hp₃ hp₄ hv hfree
      rw [String.ofList_toList] at hoperand
      exact ofText_of_operand hf hp₁ hp₂ hoperand (by simp)
    · intro low high hlow hhigh hfree hlast
      have hfirst := not_dots_infix_append hp₄ hfree hlast
      have hoperand := Operand.range (f := f) hp₃ hp₄ hp₅ hp₆ hlow hhigh hfirst
      rw [String.ofList_toList, String.ofList_toList] at hoperand
      exact ofText_of_operand hf hp₁ hp₂ hoperand (by simp)

/-- A range for job postings with blanks of several kinds around its parts. The dots inside the
bounds are not those between them. -/
theorem ofText_grammar_spacedRange :
    (∀ p ∈ ["\u2003", " ", "\t", " ", "", "\n"], isAllBlank p.toList = true) ∧
      IsTrimmed "2.5".toList ∧ IsTrimmed ".7.".toList ∧ ¬ ['.', '.'] <:+: "2.5".toList ∧
      ofText "\u2003min_years =\t2.5 ...7.\n"
        = .ok (range JobField.minYears (some "2.5") (some ".7.")) := by
  have hblank : ∀ p ∈ ["\u2003", " ", "\t", " ", "", "\n"], isAllBlank p.toList = true := by
    decide
  have hlow : IsTrimmed "2.5".toList := by
    constructor <;> rintro c ⟨⟩ <;> rfl
  have hhigh : IsTrimmed ".7.".toList := by
    constructor <;> rintro c ⟨⟩ <;> rfl
  have hfree : ¬ ['.', '.'] <:+: "2.5".toList := by
    decide
  have htext : "\u2003" ++ FieldSet.name JobField.minYears ++ " " ++ "=" ++ "\t" ++ "2.5" ++ " " ++
      ".." ++ "" ++ ".7." ++ "\n" = "\u2003min_years =\t2.5 ...7.\n" := by
    decide +kernel
  have hread := ((ofText_grammar.1 (F := JobField)).2 .minYears (ofText_grammar.2.1 _)
    "\u2003" " " "\t" " " "" "\n" hblank).2 "2.5" ".7." hlow hhigh hfree (by decide)
  rw [htext] at hread
  exact ⟨hblank, hlow, hhigh, hfree, hread⟩

end Condition

end TypedSearch
