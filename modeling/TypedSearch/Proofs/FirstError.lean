import Mathlib.Data.List.Forall2
import Mathlib.Data.List.Perm.Basic
/-!
# `TypedSearch.Proofs.FirstError`: a list treated up to its first error

Conditions, queries and hits are treated in order by `List.mapM` in `Except`; the fields of a
document and the lines of a file in `Option`, where there is no error to tell.

* `mapM_eq_ok_iff`: it succeeds exactly when every element does, with their results in order.
* `mapM_eq_error_iff`: it fails with the error of the first element that fails.
* `exists_of_mem_of_mapM_eq_ok`: where it succeeds, every element has its result among the results.
* `exists_mapM_eq_ok_iff`: it succeeds at all exactly when every element does.
* `mapM_eq_ok_map`: where no element fails it is a plain `map`.
* `mapM_of_mapM_eq_ok`: two traversals in a row are one.
* `exists_mapM_eq_ok_of_perm`: where it succeeds, the order of the elements is that of the results.
* `mapM_eq_some_iff`, `exists_mapM_eq_some_iff`: the same where there is no error to tell.
* `exists_forall₂`, `forall₂_map_iff`: lists whose elements are related one by one.
-/

set_option autoImplicit false

namespace TypedSearch

variable {α β ε : Type} {f : α → Except ε β}

/-- A changed result is a success exactly when the result is one. -/
theorem map_eq_ok_iff {g : α → β} {x : Except ε α} {y : β} :
    x.map g = .ok y ↔ ∃ a, x = .ok a ∧ g a = y := by
  cases x with
  | error e => simp [Except.map]
  | ok a => simp [Except.map]

/-- A changed result is a success at all exactly when the result is. -/
theorem exists_map_eq_ok_iff {g : α → β} {x : Except ε α} :
    (∃ y, x.map g = .ok y) ↔ ∃ a, x = .ok a := by
  cases x with
  | error e => simp [Except.map]
  | ok a => simp [Except.map]

/-- A changed result fails exactly when the result does, with the same error. -/
theorem map_eq_error_iff {g : α → β} {x : Except ε α} {e : ε} :
    x.map g = .error e ↔ x = .error e := by
  cases x with
  | error e' => simp [Except.map]
  | ok a => simp [Except.map]

/-- A result with its error reworded is a success exactly when the result is one. -/
theorem mapError_eq_ok_iff {ε' : Type} {g : ε → ε'} {x : Except ε α} {a : α} :
    x.mapError g = .ok a ↔ x = .ok a := by
  cases x with
  | error e => simp [Except.mapError]
  | ok a' => simp [Except.mapError]

/-- A result with its error reworded fails exactly when the result does. -/
theorem mapError_eq_error_iff {ε' : Type} {g : ε → ε'} {x : Except ε α} {e' : ε'} :
    x.mapError g = .error e' ↔ ∃ e, x = .error e ∧ g e = e' := by
  cases x with
  | error e => simp [Except.mapError]
  | ok a => simp [Except.mapError]

/-- Without its error, a result is there exactly when it is a success. -/
theorem toOption_eq_some_iff {x : Except ε α} {a : α} : x.toOption = some a ↔ x = .ok a := by
  cases x with
  | error e => simp [Except.toOption]
  | ok a' => simp [Except.toOption]

/-- Two steps succeed exactly when the first does and then the second. -/
theorem bind_eq_ok_iff {g : α → Except ε β} {x : Except ε α} {y : β} :
    x >>= g = .ok y ↔ ∃ a, x = .ok a ∧ g a = .ok y := by
  cases x with
  | error e => simp [bind, Except.bind]
  | ok a => simp [bind, Except.bind]

/-- Two steps fail exactly when the first does, or when it succeeds and the second fails. -/
theorem bind_eq_error_iff {g : α → Except ε β} {x : Except ε α} {e : ε} :
    x >>= g = .error e ↔ x = .error e ∨ ∃ a, x = .ok a ∧ g a = .error e := by
  cases x with
  | error e' => simp [bind, Except.bind]
  | ok a => simp [bind, Except.bind]

/-! ### The traversal -/

/-- One step of the traversal: the head decides first. -/
theorem mapM_cons_except (x : α) (xs : List α) :
    (x :: xs).mapM f = match f x with
      | .error e => .error e
      | .ok y => (xs.mapM f).map (y :: ·) := by
  rw [List.mapM_cons]
  cases f x with
  | error e => rfl
  | ok y => cases xs.mapM f <;> rfl

/-- The traversal succeeds exactly when every element does, with their results in order. -/
theorem mapM_eq_ok_iff {xs : List α} {ys : List β} :
    xs.mapM f = .ok ys ↔ List.Forall₂ (fun x y => f x = .ok y) xs ys := by
  induction xs generalizing ys with
  | nil =>
    rw [List.mapM_nil, List.forall₂_nil_left_iff]
    exact ⟨fun h => (Except.ok.inj h).symm, fun h => h ▸ rfl⟩
  | cons x xs ih =>
    rw [mapM_cons_except, List.forall₂_cons_left_iff]
    cases hx : f x with
    | error e => simp
    | ok y =>
      cases hxs : xs.mapM f with
      | error e =>
        simp only [← ih, hxs]
        simp [Except.map]
      | ok zs =>
        simp only [← ih, hxs]
        simp [Except.map, eq_comm]

/-- The traversal fails exactly with the error of the first element that fails. -/
theorem mapM_eq_error_iff {xs : List α} {e : ε} :
    xs.mapM f = .error e ↔
      ∃ before x after, xs = before ++ x :: after ∧ (∀ y ∈ before, ∃ z, f y = .ok z) ∧
        f x = .error e := by
  induction xs with
  | nil =>
    rw [List.mapM_nil]
    constructor
    · intro h
      cases h
    · rintro ⟨before, x, after, h, -⟩
      cases before <;> cases h
  | cons x xs ih =>
    rw [mapM_cons_except]
    constructor
    · intro h
      cases hx : f x with
      | error e' =>
        rw [hx] at h
        exact ⟨[], x, xs, rfl, by simp, hx.trans (congrArg _ (Except.error.inj h))⟩
      | ok y =>
        rw [hx] at h
        obtain ⟨before, z, after, hxs, hbefore, hz⟩ := ih.1 (map_eq_error_iff.1 h)
        refine ⟨x :: before, z, after, by rw [hxs, List.cons_append], ?_, hz⟩
        intro w hw
        rcases List.mem_cons.1 hw with rfl | hw
        · exact ⟨y, hx⟩
        · exact hbefore w hw
    · rintro ⟨before, z, after, hsplit, hbefore, hz⟩
      cases before with
      | nil =>
        cases hsplit
        rw [hz]
      | cons w before =>
        cases hsplit
        obtain ⟨y, hx⟩ := hbefore x List.mem_cons_self
        rw [hx, ih.2 ⟨before, z, after, rfl, fun w hw => hbefore w (List.mem_cons_of_mem _ hw), hz⟩]
        rfl

/-- Of two lists that go together, each element of the first has one of the second that it goes
with. -/
theorem exists_of_mem_of_forall₂ {R : α → β → Prop} {xs : List α} {ys : List β} {x : α}
    (h : List.Forall₂ R xs ys) (hx : x ∈ xs) : ∃ y ∈ ys, R x y := by
  induction h with
  | nil => cases hx
  | cons hy _ ih =>
    rcases List.mem_cons.1 hx with rfl | hx
    · exact ⟨_, List.mem_cons_self, hy⟩
    · obtain ⟨z, hz, hxz⟩ := ih hx
      exact ⟨z, List.mem_cons_of_mem _ hz, hxz⟩

/-- Where each element goes with something, the list goes with a list. -/
theorem exists_forall₂ {R : α → β → Prop} {xs : List α} (h : ∀ x ∈ xs, ∃ y, R x y) :
    ∃ ys, List.Forall₂ R xs ys := by
  induction xs with
  | nil => exact ⟨[], .nil⟩
  | cons x xs ih =>
    obtain ⟨y, hy⟩ := h x List.mem_cons_self
    obtain ⟨ys, hys⟩ := ih fun x hx => h x (List.mem_cons_of_mem _ hx)
    exact ⟨y :: ys, .cons hy hys⟩

/-- A list goes with what is made of another list exactly when it goes with that list. -/
theorem forall₂_map_iff {γ : Type} {R : α → β → Prop} {g : β → γ} {xs : List α} {zs : List γ} :
    List.Forall₂ (fun x z => ∃ y, R x y ∧ g y = z) xs zs ↔
      ∃ ys, List.Forall₂ R xs ys ∧ ys.map g = zs := by
  induction xs generalizing zs with
  | nil =>
    simp only [List.forall₂_nil_left_iff, exists_eq_left, List.map_nil]
    exact eq_comm
  | cons x xs ih =>
    simp only [List.forall₂_cons_left_iff, ih]
    constructor
    · rintro ⟨_, _, ⟨y, hy, rfl⟩, ⟨ys, hys, rfl⟩, rfl⟩
      exact ⟨y :: ys, ⟨y, ys, hy, hys, rfl⟩, rfl⟩
    · rintro ⟨_, ⟨y, ys, hy, hys, rfl⟩, rfl⟩
      exact ⟨g y, ys.map g, ⟨y, hy, rfl⟩, ⟨ys, hys, rfl⟩, rfl⟩

/-- Where the traversal succeeds, every element has its result among the results. -/
theorem exists_of_mem_of_mapM_eq_ok {xs : List α} {ys : List β} {x : α}
    (h : xs.mapM f = .ok ys) (hx : x ∈ xs) : ∃ y ∈ ys, f x = .ok y :=
  exists_of_mem_of_forall₂ (mapM_eq_ok_iff.1 h) hx

/-- The traversal succeeds at all exactly when every element does. -/
theorem exists_mapM_eq_ok_iff {xs : List α} :
    (∃ ys, xs.mapM f = .ok ys) ↔ ∀ x ∈ xs, ∃ y, f x = .ok y := by
  constructor
  · rintro ⟨ys, hys⟩ x hx
    obtain ⟨y, -, hy⟩ := exists_of_mem_of_mapM_eq_ok hys hx
    exact ⟨y, hy⟩
  · intro h
    cases hxs : xs.mapM f with
    | ok ys => exact ⟨ys, rfl⟩
    | error e =>
      -- The error would be that of some element, and none of them has one.
      obtain ⟨before, x, after, rfl, -, hx⟩ := mapM_eq_error_iff.1 hxs
      obtain ⟨y, hy⟩ := h x (by simp)
      rw [hx] at hy
      cases hy

/-- The results of a traversal that succeeds are those of the elements. -/
theorem mem_iff_of_mapM_eq_ok {xs : List α} {ys : List β} {y : β} (h : xs.mapM f = .ok ys) :
    y ∈ ys ↔ ∃ x ∈ xs, f x = .ok y := by
  rw [mapM_eq_ok_iff] at h
  induction h with
  | nil => simp
  | cons hz _ ih =>
    rw [List.mem_cons, ih, List.exists_mem_cons_iff, hz, Except.ok.injEq, eq_comm]

/-- Where no element fails, the traversal is a `map`. -/
theorem mapM_eq_ok_map {g : α → β} {xs : List α} (h : ∀ x ∈ xs, f x = .ok (g x)) :
    xs.mapM f = .ok (xs.map g) := by
  rw [mapM_eq_ok_iff, List.forall₂_map_right_iff, List.forall₂_same]
  exact h

/-- What a traversal gives is traversed in turn as if both were done at each element. -/
theorem mapM_of_mapM_eq_ok {γ : Type} {g : β → Except ε γ} {xs : List α} {ys : List β}
    (h : xs.mapM f = .ok ys) : ys.mapM g = xs.mapM fun x => f x >>= g := by
  rw [mapM_eq_ok_iff] at h
  induction h with
  | nil => rfl
  | cons hy _ ih =>
    rw [mapM_cons_except, mapM_cons_except, ih, hy]
    rfl

/-- Where the traversal succeeds it does so in every order, with the results in that order. -/
theorem exists_mapM_eq_ok_of_perm {xs xs' : List α} {ys : List β} (hperm : xs'.Perm xs)
    (h : xs.mapM f = .ok ys) : ∃ ys', xs'.mapM f = .ok ys' ∧ ys'.Perm ys := by
  obtain ⟨ys', hys', hsame⟩ := List.perm_comp_forall₂ hperm (mapM_eq_ok_iff.1 h)
  exact ⟨ys', mapM_eq_ok_iff.2 hys', hsame⟩

/-! ### Without an error to tell -/

/-- The traversal succeeds exactly when every element has a result, with the results in order. -/
theorem mapM_eq_some_iff {f : α → Option β} {xs : List α} {ys : List β} :
    xs.mapM f = some ys ↔ List.Forall₂ (fun x y => f x = some y) xs ys := by
  induction xs generalizing ys with
  | nil =>
    rw [List.mapM_nil, List.forall₂_nil_left_iff]
    exact ⟨fun h => (Option.some.inj h).symm, fun h => h ▸ rfl⟩
  | cons x xs ih =>
    rw [List.mapM_cons, List.forall₂_cons_left_iff]
    cases hx : f x with
    | none => simp
    | some y =>
      cases hxs : xs.mapM f with
      | none =>
        simp only [← ih, hxs]
        simp
      | some zs =>
        simp only [← ih, hxs]
        simp [eq_comm]

/-- The traversal succeeds at all exactly when every element has a result. -/
theorem exists_mapM_eq_some_iff {f : α → Option β} {xs : List α} :
    (∃ ys, xs.mapM f = some ys) ↔ ∀ x ∈ xs, ∃ y, f x = some y := by
  simp only [mapM_eq_some_iff]
  induction xs with
  | nil => simp
  | cons x xs ih =>
    rw [List.forall_mem_cons, ← ih]
    simp only [List.forall₂_cons_left_iff]
    constructor
    · rintro ⟨_, y, ys, hy, hys, -⟩
      exact ⟨⟨y, hy⟩, ys, hys⟩
    · rintro ⟨⟨y, hy⟩, ys, hys⟩
      exact ⟨_, y, ys, hy, hys, rfl⟩

end TypedSearch
