/-!
# `TypedSearch.Keyed`: entries under names, in the order of the names

Aggregations, their answers and the members of a JSON object stand under distinct names and are
always visited in increasing order of the name. A `Keyed α` is the list of its entries in that
order. The order of strings compares code points, which is the order of their UTF-8 bytes.

* `get_insert`: what stands under a name after an insertion.
* `sorted_insert`, `sorted_ofList`: the order is kept.
-/

set_option autoImplicit false

namespace TypedSearch

/-- Entries under names. Every operation below keeps the names distinct and increasing. -/
abbrev Keyed (α : Type) := List (String × α)

namespace Keyed

variable {α β : Type}

/-- The names, in order. -/
def names (m : Keyed α) : List String := m.map (·.1)

/-- What stands under a name. -/
def get? (name : String) : Keyed α → Option α
  | [] => none
  | (k, v) :: rest => if k = name then some v else get? name rest

/-- Puts a value under a name, in place of what stood there. -/
def insert (name : String) (v : α) : Keyed α → Keyed α
  | [] => [(name, v)]
  | (k, w) :: rest =>
    if k = name then (name, v) :: rest
    else if name < k then (name, v) :: (k, w) :: rest
    else (k, w) :: insert name v rest

/-- Enters pairs from left to right; a later one replaces an earlier one of the same name. -/
def ofList (entries : List (String × α)) : Keyed α :=
  entries.foldl (fun m e => insert e.1 e.2 m) []

/-- The same names with changed values. -/
def mapValues (f : α → β) (m : Keyed α) : Keyed β := m.map fun e => (e.1, f e.2)

/-- The names are distinct and increasing. -/
def Sorted (m : Keyed α) : Prop := m.Pairwise fun a b => a.1 < b.1

@[simp] theorem get_nil (name : String) : get? name ([] : Keyed α) = none := rfl

@[simp] theorem get_cons (name k : String) (v : α) (m : Keyed α) :
    get? name ((k, v) :: m) = if k = name then some v else get? name m := rfl

theorem get_insert (name other : String) (v : α) (m : Keyed α) :
    get? other (insert name v m) = if name = other then some v else get? other m := by
  induction m with
  | nil => rfl
  | cons e rest ih =>
    obtain ⟨k, w⟩ := e
    rw [insert]
    split
    · next hk => subst hk; simp only [get_cons]; split <;> rfl
    · next hk =>
      split
      · simp only [get_cons]
      · simp only [get_cons, ih]
        by_cases h1 : k = other
        · have : name ≠ other := fun h => hk (h1.trans h.symm)
          simp [h1, this]
        · simp [h1]

theorem names_insert_subset {name x : String} {v : α} {m : Keyed α}
    (h : x ∈ names (insert name v m)) : x = name ∨ x ∈ names m := by
  induction m with
  | nil => exact Or.inl (by simpa [names, insert] using h)
  | cons e rest ih =>
    obtain ⟨k, w⟩ := e
    rw [insert] at h
    split at h
    · simp only [names, List.map_cons, List.mem_cons] at h ⊢
      exact h.imp_right Or.inr
    · split at h
      · simpa only [names, List.map_cons, List.mem_cons] using h
      · simp only [names, List.map_cons, List.mem_cons] at h ih ⊢
        rcases h with h | h
        · exact Or.inr (Or.inl h)
        · exact (ih h).imp_right Or.inr

theorem sorted_insert {name : String} {v : α} {m : Keyed α} (h : Sorted m) :
    Sorted (insert name v m) := by
  induction m with
  | nil => exact List.pairwise_singleton _ _
  | cons e rest ih =>
    obtain ⟨k, w⟩ := e
    obtain ⟨hhead, htail⟩ := List.pairwise_cons.1 h
    rw [insert]
    split
    · next hk => subst hk; exact List.pairwise_cons.2 ⟨hhead, htail⟩
    · next hk =>
      split
      · next hlt =>
        refine List.pairwise_cons.2 ⟨fun b hb => ?_, h⟩
        rcases List.mem_cons.1 hb with rfl | hb
        · exact hlt
        · exact String.lt_trans hlt (hhead b hb)
      · next hlt =>
        refine List.pairwise_cons.2 ⟨fun b hb => ?_, ih htail⟩
        have hmem : b.1 ∈ names (insert name v rest) := List.mem_map_of_mem hb
        rcases names_insert_subset hmem with hb | hb
        · rw [hb]
          exact Std.lt_of_le_of_ne (String.not_lt.1 hlt) hk
        · obtain ⟨c, hc, hcb⟩ := List.mem_map.1 hb
          exact hcb ▸ hhead c hc

theorem sorted_ofList (entries : List (String × α)) : Sorted (ofList entries) := by
  have key : ∀ m : Keyed α, Sorted m →
      Sorted (entries.foldl (fun m e => insert e.1 e.2 m) m) := by
    induction entries with
    | nil => exact fun _ hm => hm
    | cons e rest ih => exact fun m hm => ih _ (sorted_insert hm)
  exact key [] List.Pairwise.nil

end Keyed

end TypedSearch
