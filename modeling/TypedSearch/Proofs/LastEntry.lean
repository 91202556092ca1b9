import Mathlib.Data.List.Basic
/-!
# `TypedSearch.Proofs.LastEntry`: entries made one after the other

Keyed lists and registries are filled from pairs in order. A later pair takes the place of an
earlier one with the same key. `find_foldl_enter` says what is found under a key afterwards, for
anything that is filled this way, and `mem_of_find_foldl_enter` that it was entered. `LastUnder` is
the last element of a list under a key by its place in the list, and `find_reverse_eq_some_iff` that
it is the one found.
-/

set_option autoImplicit false

namespace TypedSearch

/-- The last element of a list under a key has the key, and none behind it has. -/
def LastUnder {α κ : Type} (key : α → κ) (xs : List α) (k : κ) (x : α) : Prop :=
  ∃ before after, xs = before ++ x :: after ∧ key x = k ∧ ∀ y ∈ after, key y ≠ k

/-- The last element of all is the last one under its key. -/
theorem lastUnder_concat {α κ : Type} (key : α → κ) (xs : List α) (x : α) :
    LastUnder key (xs ++ [x]) (key x) x :=
  ⟨xs, [], rfl, rfl, List.forall_mem_nil _⟩

/-- The first element under a key from the end is the last one under the key. -/
theorem find_reverse_eq_some_iff {α κ : Type} [DecidableEq κ] (key : α → κ) {xs : List α} {k : κ}
    {x : α} : (xs.reverse.find? fun y => key y = k) = some x ↔ LastUnder key xs k x := by
  rw [List.find?_eq_some_iff_append]
  constructor
  · rintro ⟨hkey, after, before, hsplit, hafter⟩
    refine ⟨before.reverse, after.reverse, ?_, by simpa using hkey, by simpa using hafter⟩
    rw [← List.reverse_reverse xs, hsplit]
    simp
  · rintro ⟨before, after, rfl, hkey, hafter⟩
    exact ⟨by simpa using hkey, after.reverse, before.reverse, by simp, by simpa using hafter⟩

/-- Nothing is found from the end exactly when no element is under the key. -/
theorem find_reverse_eq_none_iff {α κ : Type} [DecidableEq κ] (key : α → κ) {xs : List α} {k : κ} :
    (xs.reverse.find? fun y => key y = k) = none ↔ ∀ x ∈ xs, key x ≠ k := by
  simp

/-- Where entering a pair changes what is found under its key and nothing else, the last pair
entered under a key is found there, or else what was there before. -/
theorem find_foldl_enter {M κ σ : Type} [DecidableEq κ] (found : M → κ → Option σ)
    {enter : M → κ × σ → M}
    (h : ∀ m e k, found (enter m e) k = if e.1 = k then some e.2 else found m k)
    (entries : List (κ × σ)) (m : M) (k : κ) :
    found (entries.foldl enter m) k
      = ((entries.reverse.find? fun e => e.1 = k).map (·.2)).or (found m k) := by
  induction entries generalizing m with
  | nil => rfl
  | cons e rest ih =>
    rw [List.foldl_cons, ih, h, List.reverse_cons, List.find?_append]
    cases List.find? (fun e => e.1 = k) rest.reverse with
    | some last => rfl
    | none =>
      by_cases hk : e.1 = k
      · simp [hk]
      · simp [hk]

/-- Where nothing was found under a key before, only what was entered under it is. -/
theorem mem_of_find_foldl_enter {M κ σ : Type} [DecidableEq κ] (found : M → κ → Option σ)
    {enter : M → κ × σ → M}
    (h : ∀ m e k, found (enter m e) k = if e.1 = k then some e.2 else found m k)
    {entries : List (κ × σ)} {m : M} {k : κ} {v : σ} (hempty : found m k = none)
    (hfound : found (entries.foldl enter m) k = some v) : (k, v) ∈ entries := by
  rw [find_foldl_enter found h, hempty, Option.or_none, Option.map_eq_some_iff] at hfound
  obtain ⟨⟨k', v'⟩, hlast, rfl⟩ := hfound
  have hkey : k' = k := by simpa using List.find?_some hlast
  rw [← hkey]
  exact List.mem_reverse.1 (List.mem_of_find?_eq_some hlast)

end TypedSearch
