/-!
# `TypedSearch.Text.Split`: cutting a text at its first separator

`splitOnce sep cs` gives what stands before and after the first place where `sep` begins.

* `splitOnce_eq_some_iff`, `splitOnce_eq_none_iff`: for a separator of one character, the part
  before it is the one without that character.
-/

set_option autoImplicit false

namespace TypedSearch.Text

/-- The text before and after the first occurrence of `sep`, if there is one. -/
def splitOnce (sep : List Char) : List Char → Option (List Char × List Char)
  | [] => if sep.isEmpty then some ([], []) else none
  | c :: rest =>
    if sep.isPrefixOf (c :: rest) then some ([], (c :: rest).drop sep.length)
    else (splitOnce sep rest).map fun parts => (c :: parts.1, parts.2)

/-- A text is cut in front of its first character if that is the separator. -/
theorem splitOnce_cons_self (c : Char) (rest : List Char) :
    splitOnce [c] (c :: rest) = some ([], rest) := by
  simp [splitOnce]

/-- A first character that is not the separator stays in front of the cut. -/
theorem splitOnce_cons_of_ne {c d : Char} (h : c ≠ d) (rest : List Char) :
    splitOnce [c] (d :: rest) = (splitOnce [c] rest).map fun parts => (d :: parts.1, parts.2) := by
  simp [splitOnce, h]

/-- A text is cut at a character into two parts exactly when they make up the text and the first
part is without the character. -/
theorem splitOnce_eq_some_iff {c : Char} {cs before after : List Char} :
    splitOnce [c] cs = some (before, after) ↔ c ∉ before ∧ cs = before ++ c :: after := by
  induction cs generalizing before with
  | nil => simp [splitOnce]
  | cons d rest ih =>
    by_cases h : c = d
    · subst h
      rw [splitOnce_cons_self]
      cases before with
      | nil => simp
      | cons x xs =>
        -- The cut is in front of the first character, so the first part is empty.
        simp only [Option.some.injEq, Prod.mk.injEq, reduceCtorEq, false_and, false_iff]
        rintro ⟨hfree, heq⟩
        cases heq
        exact hfree List.mem_cons_self
    · rw [splitOnce_cons_of_ne h, Option.map_eq_some_iff]
      constructor
      · rintro ⟨⟨xs, ys⟩, hparts, heq⟩
        cases heq
        obtain ⟨hfree, rfl⟩ := ih.1 hparts
        exact ⟨by simp [h, hfree], rfl⟩
      · rintro ⟨hfree, heq⟩
        cases before with
        | nil => exact absurd (List.cons.inj heq).1.symm h
        | cons x xs =>
          cases heq
          exact ⟨(xs, after), ih.2 ⟨fun hmem => hfree (List.mem_cons_of_mem _ hmem), rfl⟩, rfl⟩

/-- A text is not cut at a character exactly when it is without the character. -/
theorem splitOnce_eq_none_iff {c : Char} {cs : List Char} :
    splitOnce [c] cs = none ↔ c ∉ cs := by
  induction cs with
  | nil => simp [splitOnce]
  | cons d rest ih =>
    by_cases h : c = d
    · simp [h, splitOnce_cons_self]
    · simp [h, splitOnce_cons_of_ne, ih]

/-- The parts of a text between all occurrences of a character. -/
def splitAll (sep : Char) : List Char → List (List Char)
  | [] => [[]]
  | c :: rest =>
    if c = sep then [] :: splitAll sep rest
    else match splitAll sep rest with
      | [] => [[c]]
      | part :: parts => (c :: part) :: parts

/-- Does `part` occur in the text? -/
def occurs (part cs : List Char) : Bool := (splitOnce part cs).isSome

end TypedSearch.Text
