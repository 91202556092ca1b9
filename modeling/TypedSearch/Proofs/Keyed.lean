import Mathlib.Data.List.Nodup
import TypedSearch.Keyed
import TypedSearch.Proofs.LastEntry
/-!
# `TypedSearch.Proofs.Keyed`: what stands under the names of a keyed list

`Keyed.ofList` enters pairs one after the other. These theorems say what is found under a name
afterwards, and that sorted entries are determined by what is found:

* `get_ofList`: what was entered last under the name.
* `get_ofList_of_nodup`, `get_ofList_eq`: with distinct names, every pair is found, and nothing
  else.
* `get_filter`: what is found after entries were left out by their names.
* `perm_names_ofList`: with distinct names, the names are those of the pairs.
* `perm_ofList`: with distinct names, the entries are the pairs in another order.
* `eq_of_get_eq`, `eq_of_perm`: sorted entries that answer every name alike, or that are the same up
  to order, are the same.
* `ofList_eq_of_perm`: with distinct names, the order in which pairs are entered does not matter.
-/

set_option autoImplicit false

namespace TypedSearch.Keyed

variable {α β γ : Type}

/-! ### Names -/

/-- Something stands under a name exactly when the name is among the names. -/
theorem isSome_get_iff (name : String) (m : Keyed α) :
    (get? name m).isSome = true ↔ name ∈ names m := by
  induction m with
  | nil => simp [names]
  | cons e rest ih =>
    obtain ⟨k, v⟩ := e
    rw [get_cons, names, List.map_cons, List.mem_cons]
    by_cases hk : k = name
    · simp [hk]
    · rw [if_neg hk, ih]
      simp [names, Ne.symm hk]

/-- What stands under a name among changed values is the changed value. -/
theorem get_mapValues (f : α → β) (name : String) (m : Keyed α) :
    get? name (mapValues f m) = (get? name m).map f := by
  induction m with
  | nil => rfl
  | cons e rest ih =>
    obtain ⟨k, v⟩ := e
    rw [mapValues, List.map_cons, get_cons, get_cons]
    split
    · rfl
    · exact ih

/-- In one list behind another, a name is looked for in the first one first. -/
theorem get_append (name : String) (m n : Keyed α) :
    get? name (m ++ n) = (get? name m).or (get? name n) := by
  induction m with
  | nil => rfl
  | cons e rest ih =>
    obtain ⟨k, v⟩ := e
    rw [List.cons_append, get_cons, get_cons, ih]
    by_cases hk : k = name <;> simp [hk]

/-- What is found is an entry. -/
theorem mem_of_get {name : String} {v : α} {m : Keyed α} (h : get? name m = some v) :
    (name, v) ∈ m := by
  induction m with
  | nil => cases h
  | cons e rest ih =>
    obtain ⟨k, w⟩ := e
    rw [get_cons] at h
    split at h
    · next hk =>
      cases h
      rw [hk]
      exact List.mem_cons_self
    · exact List.mem_cons_of_mem _ (ih h)

/-- Leaving entries out by their names takes away what is found under these and nothing else. -/
theorem get_filter (p : String → Bool) (name : String) (m : Keyed α) :
    get? name (m.filter fun e => p e.1) = if p name = true then get? name m else none := by
  induction m with
  | nil => simp
  | cons e rest ih =>
    obtain ⟨k, v⟩ := e
    rw [List.filter_cons]
    by_cases hk : k = name
    · subst hk
      cases hp : p k <;> simp [hp, ih]
    · split
      · rw [get_cons, get_cons, if_neg hk, if_neg hk, ih]
      · rw [get_cons, if_neg hk, ih]

/-- Nothing stands under a name that is smaller than all names. -/
theorem get_eq_none_of_lt {name : String} {m : Keyed α} (h : ∀ e ∈ m, name < e.1) :
    get? name m = none := by
  rw [← Option.not_isSome_iff_eq_none, isSome_get_iff]
  intro hmem
  obtain ⟨e, he, hname⟩ := List.mem_map.1 hmem
  have hlt := h e he
  rw [hname] at hlt
  exact String.lt_irrefl name hlt

/-- Sorted names are distinct. -/
theorem nodup_names {m : Keyed α} (h : Sorted m) : (names m).Nodup := by
  rw [names, List.Nodup, List.pairwise_map]
  refine List.Pairwise.imp ?_ h
  intro a b hab heq
  rw [heq] at hab
  exact String.lt_irrefl _ hab

/-! ### Entering pairs -/

/-- What was entered last under a name stands there. -/
theorem get_ofList (entries : List (String × α)) (name : String) :
    get? name (ofList entries) = (entries.reverse.find? fun e => e.1 = name).map (·.2) := by
  rw [ofList, find_foldl_enter (fun m name => get? name m)
    (fun m e other => get_insert e.1 other e.2 m)]
  exact Option.or_none

/-- Nothing stands under a name but what was entered. -/
theorem mem_of_get_ofList {entries : List (String × α)} {name : String} {v : α}
    (h : get? name (ofList entries) = some v) : (name, v) ∈ entries :=
  mem_of_find_foldl_enter (fun m name => get? name m)
    (fun m e other => get_insert e.1 other e.2 m) rfl h

/-- What was entered last among pairs that are made from other values. -/
theorem get_ofList_map (key : γ → String) (val : γ → α) (xs : List γ) (name : String) :
    get? name (ofList (xs.map fun x => (key x, val x)))
      = (xs.reverse.find? fun x => key x = name).map val := by
  rw [get_ofList, ← List.map_reverse, List.find?_map, Option.map_map]
  rfl

/-- With distinct names, every pair is found. -/
theorem get_ofList_of_nodup {entries : List (String × α)} {name : String} {v : α}
    (hnodup : (entries.map (·.1)).Nodup) (hmem : (name, v) ∈ entries) :
    get? name (ofList entries) = some v := by
  rw [get_ofList]
  have hsome : (entries.reverse.find? fun e => e.1 = name).isSome = true := by
    rw [List.find?_isSome]
    exact ⟨(name, v), List.mem_reverse.2 hmem, by simp⟩
  obtain ⟨e, he⟩ := Option.isSome_iff_exists.1 hsome
  have hname : e.1 = name := by simpa using List.find?_some he
  have hentry : e = (name, v) :=
    List.inj_on_of_nodup_map hnodup (List.mem_reverse.1 (List.mem_of_find?_eq_some he)) hmem hname
  rw [he, hentry]
  rfl

/-- The names of entered pairs. -/
theorem mem_names_ofList (entries : List (String × α)) (name : String) :
    name ∈ names (ofList entries) ↔ name ∈ entries.map (·.1) := by
  rw [← isSome_get_iff, get_ofList, Option.isSome_map, List.find?_isSome]
  simp

/-- With distinct names, the entered pairs are found as they are found among the pairs. -/
theorem get_ofList_eq {entries : List (String × α)} (h : (entries.map (·.1)).Nodup)
    (name : String) : get? name (ofList entries) = get? name entries := by
  cases hfound : get? name entries with
  | some v => exact get_ofList_of_nodup h (mem_of_get hfound)
  | none =>
    rw [← Option.not_isSome_iff_eq_none, isSome_get_iff, names, ← mem_names_ofList,
      ← isSome_get_iff, Option.not_isSome_iff_eq_none] at hfound
    exact hfound

/-- With distinct names, every entry is found. -/
theorem get_of_mem {m : Keyed α} (h : (m.map (·.1)).Nodup) {e : String × α} (he : e ∈ m) :
    get? e.1 m = some e.2 :=
  (get_ofList_eq h e.1).symm.trans (get_ofList_of_nodup h he)

/-- Of sorted entries, those and no others are found. -/
theorem mem_iff_get {m : Keyed α} (h : Sorted m) {name : String} {v : α} :
    (name, v) ∈ m ↔ get? name m = some v :=
  ⟨fun hmem => get_of_mem (nodup_names h) hmem, mem_of_get⟩

/-- With distinct names, the names are those of the pairs, each once. -/
theorem perm_names_ofList {entries : List (String × α)} (h : (entries.map (·.1)).Nodup) :
    (names (ofList entries)).Perm (entries.map (·.1)) :=
  (List.perm_ext_iff_of_nodup (nodup_names (sorted_ofList entries)) h).2 (mem_names_ofList entries)

/-- Of two values under one name the second stays. -/
theorem insert_insert (name : String) (v w : α) (m : Keyed α) :
    insert name v (insert name w m) = insert name v m := by
  induction m with
  | nil => simp [insert]
  | cons e rest ih =>
    obtain ⟨k, u⟩ := e
    rw [insert.eq_2 name w, insert.eq_2 name v]
    split
    · next h => simp [insert]
    split
    · simp [insert]
    · next hk hlt => rw [insert.eq_2, if_neg hk, if_neg hlt, ih]

/-- An insertion under a new name adds one entry. -/
theorem perm_insert {name : String} {v : α} {m : Keyed α} (h : name ∉ names m) :
    (insert name v m).Perm ((name, v) :: m) := by
  induction m with
  | nil => exact .refl _
  | cons e rest ih =>
    obtain ⟨k, w⟩ := e
    obtain ⟨hk, hrest⟩ : ¬ k = name ∧ name ∉ names rest := by
      simpa [names, eq_comm] using h
    rw [insert, if_neg hk]
    split
    · exact .refl _
    · exact ((ih hrest).cons _).trans (.swap _ _ _)

/-- With distinct names, entering pairs only puts them in order. -/
theorem perm_ofList {entries : List (String × α)} (h : (entries.map (·.1)).Nodup) :
    (ofList entries).Perm entries := by
  -- The fold is started from any entries whose names are not among those of the pairs.
  have key : ∀ (entries : List (String × α)) (m : Keyed α), (entries.map (·.1)).Nodup →
      (∀ e ∈ entries, e.1 ∉ names m) →
      (entries.foldl (fun m e => insert e.1 e.2 m) m).Perm (entries ++ m) := by
    intro entries
    induction entries with
    | nil => exact fun m _ _ => .refl _
    | cons e rest ih =>
      intro m hnodup hnew
      obtain ⟨hfirst, hrest⟩ := List.nodup_cons.1 hnodup
      have hnew' : ∀ e' ∈ rest, e'.1 ∉ names (insert e.1 e.2 m) := by
        intro e' he' hmem
        rcases names_insert_subset hmem with heq | hmem
        · exact hfirst (List.mem_map.2 ⟨e', he', heq⟩)
        · exact hnew e' (List.mem_cons_of_mem _ he') hmem
      have hinsert : (insert e.1 e.2 m).Perm (e :: m) := perm_insert (hnew e List.mem_cons_self)
      exact (ih _ hrest hnew').trans ((hinsert.append_left rest).trans List.perm_middle)
  simpa [ofList] using key entries [] h (by simp [names])

/-! ### Sorted entries are determined by what is found -/

/-- Sorted entries that are the same up to order are the same. -/
theorem eq_of_perm {m n : Keyed α} (hm : Sorted m) (hn : Sorted n) (h : m.Perm n) : m = n :=
  h.eq_of_pairwise (fun _ _ _ _ hab hba => absurd hba (String.lt_asymm hab)) hm hn

/-- With distinct names, the order in which pairs are entered does not matter. -/
theorem ofList_eq_of_perm {entries entries' : List (String × α)} (h : entries.Perm entries')
    (hnodup : (entries.map (·.1)).Nodup) : ofList entries = ofList entries' := by
  have hnodup' : (entries'.map (·.1)).Nodup := (h.map _).nodup_iff.1 hnodup
  refine eq_of_perm (sorted_ofList entries) (sorted_ofList entries') ?_
  exact (perm_ofList hnodup).trans (h.trans (perm_ofList hnodup').symm)

/-- Sorted entries that answer every name alike are the same. -/
theorem eq_of_get_eq {m n : Keyed α} (hm : Sorted m) (hn : Sorted n)
    (h : ∀ name, get? name m = get? name n) : m = n := by
  induction m generalizing n with
  | nil =>
    cases n with
    | nil => rfl
    | cons e rest =>
      obtain ⟨k, v⟩ := e
      have hk := h k
      rw [get_cons, if_pos rfl] at hk
      cases hk
  | cons a m ih =>
    obtain ⟨k, v⟩ := a
    cases n with
    | nil =>
      have hk := h k
      rw [get_cons, if_pos rfl] at hk
      cases hk
    | cons b n =>
      obtain ⟨l, w⟩ := b
      obtain ⟨hkhead, hktail⟩ := List.pairwise_cons.1 hm
      obtain ⟨hlhead, hltail⟩ := List.pairwise_cons.1 hn
      -- The heads carry the smallest name of their list, so neither can be smaller.
      have hkl : ¬ k < l := by
        intro hlt
        have hnone : get? k ((l, w) :: n) = none := get_eq_none_of_lt fun e he => by
          rcases List.mem_cons.1 he with rfl | he
          · exact hlt
          · exact String.lt_trans hlt (hlhead e he)
        rw [← h, get_cons, if_pos rfl] at hnone
        cases hnone
      have hlk : ¬ l < k := by
        intro hlt
        have hnone : get? l ((k, v) :: m) = none := get_eq_none_of_lt fun e he => by
          rcases List.mem_cons.1 he with rfl | he
          · exact hlt
          · exact String.lt_trans hlt (hkhead e he)
        rw [h, get_cons, if_pos rfl] at hnone
        cases hnone
      have hname : k = l := String.le_antisymm (String.not_lt.1 hlk) (String.not_lt.1 hkl)
      subst hname
      have hvalue : v = w := by
        have hk := h k
        rw [get_cons, get_cons, if_pos rfl, if_pos rfl] at hk
        exact Option.some.inj hk
      have htail : m = n := by
        refine ih hktail hltail ?_
        intro name
        by_cases hk : k = name
        · rw [get_eq_none_of_lt (m := m) (hk ▸ hkhead), get_eq_none_of_lt (m := n) (hk ▸ hlhead)]
        · have hother := h name
          rwa [get_cons, get_cons, if_neg hk, if_neg hk] at hother
      rw [hvalue, htail]

end TypedSearch.Keyed
