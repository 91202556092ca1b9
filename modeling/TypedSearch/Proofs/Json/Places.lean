import TypedSearch.Proofs.Json.Extent
/-!
# `TypedSearch.Proofs.Json.Places`: what stands where in an array or an object

A place in a text is what is left of the text from there on. An array is given by the places of its
items, and an object by those of the values of its members, whatever these values are. What is read
from an array or an object is then what is read at these places, each by itself.

* `ListAt`, `ObjectAt`: an array and an object by the places of what is in them.
* `readList_eq_ok_iff`, `readPairs_eq_ok_iff`: arrays and objects by what is read at these places.
* `readMembers_eq_ok_iff`: any reader of members, by its steps from place to place.
* `ListAt.endsAt`, `ObjectAt.endsAt`: both are values that end where they are said to end.
-/

set_option autoImplicit false

namespace TypedSearch.Json

/-- The text from where a value stands on. -/
abbrev Place := List Char

/-! ### Arrays and objects -/

/-- Items stand at places up to the closing bracket of an array. -/
inductive ItemsAt : Bool → List Char → List Place → List Char → Prop
  | close {first : Bool} {cs rest : List Char} (h : skipBetween cs = ']' :: rest) :
    ItemsAt first cs [] rest
  | item {first : Bool} {c : Char} {cs inside behind rest : List Char} {places : List Place}
    (hplace : Next first cs (c :: inside)) (hc : c ≠ ']')
    (hvalue : skipValue (c :: inside) = .ok ((), behind))
    (hothers : ItemsAt false behind places rest) :
    ItemsAt first cs ((c :: inside) :: places) rest

/-- Members stand, with their values at places, up to the closing brace of an object. -/
inductive MembersAt : Bool → List Char → List (String × Place) → List Char → Prop
  | close {first : Bool} {cs rest : List Char} (h : skipBetween cs = '}' :: rest) :
    MembersAt first cs [] rest
  | member {first : Bool} {name : String} {cs inside behind place behind' rest : List Char}
    {parts : List (String × Place)} (hplace : Next first cs ('"' :: inside))
    (hname : readText inside = .ok (name, behind)) (hcolon : readColon behind = .ok place)
    (hvalue : skipValue place = .ok ((), behind'))
    (hothers : MembersAt false behind' parts rest) :
    MembersAt first cs ((name, place) :: parts) rest

/-- An array stands at a place, with its items at places of their own. -/
def ListAt (place : Place) (items : List Place) (rest : List Char) : Prop :=
  ∃ inside, skipBetween place = '[' :: inside ∧ ItemsAt true inside items rest

/-- An object stands at a place, with the values of its members at places of their own. -/
def ObjectAt (place : Place) (parts : List (String × Place)) (rest : List Char) : Prop :=
  ∃ inside, skipBetween place = '{' :: inside ∧ MembersAt true inside parts rest

/-- Something is read at a place, wherever that ends. -/
def ReadsAt {α : Type} (value : List Char → Except Fault (α × List Char)) (place : Place) (a : α) :
    Prop :=
  ∃ rest, value place = .ok (a, rest)

/-- What is read ends where the value ends that stands there. -/
def Ends {α : Type} (value : List Char → Except Fault (α × List Char)) : Prop :=
  ∀ place a rest, value place = .ok (a, rest) → EndsAt place rest

/-- Reading a member is a step with its name and the place of its value. -/
def StepsBy {σ : Type} (member : σ → String → List Char → Except Fault (σ × List Char))
    (step : σ → String × Place → Option σ) : Prop :=
  ∀ s name cs s' rest, member s name cs = .ok (s', rest) ↔
    ∃ place, readColon cs = .ok place ∧ skipValue place = .ok ((), rest) ∧
      step s (name, place) = some s'

section
variable {α σ : Type} {first : Bool} {cs rest : List Char}

/-- The next item or member is further on in the text, or it is the first one. -/
theorem Next.length_lt {place : Place} (h : Next first cs place) :
    place.length < cs.length + first.toNat := by
  cases first with
  | true => exact Nat.lt_succ_of_le h.suffix.length_le
  | false =>
    obtain ⟨inside, hcomma, rfl⟩ := h
    exact (skipBetween_suffix.length_le).trans_lt (length_lt_of_skipBetween hcomma)

section
variable {item : List Char → Except Fault (α × List Char)} {vs : List α}

/-- Where items are read, there are items. -/
theorem itemsAt_of_readItems (hitem : Ends item) {fuel : Nat}
    (h : readItems item fuel first cs = .ok (vs, rest)) :
    ∃ places, ItemsAt first cs places rest ∧ List.Forall₂ (ReadsAt item) places vs := by
  induction fuel generalizing first cs vs with
  | zero => cases h
  | succ fuel ih =>
    rcases readItems_succ_iff.1 h with
      ⟨hclose, rfl⟩ | ⟨_, _, _, _, _, hplace, hc, hv, hothers, rfl⟩
    · exact ⟨[], .close hclose, .nil⟩
    · obtain ⟨places, hplaces, hothers⟩ := ih hothers
      exact ⟨_, .item hplace hc (hitem _ _ _ hv).skipValue hplaces, .cons ⟨_, hv⟩ hothers⟩

/-- Items that can be read at their places are read. The length of the text is enough fuel. -/
theorem readItems_of_itemsAt (hitem : Ends item) {fuel : Nat} {places : List Place}
    (hplaces : ItemsAt first cs places rest) (hvs : List.Forall₂ (ReadsAt item) places vs)
    (hfuel : cs.length + first.toNat ≤ fuel) :
    readItems item fuel first cs = .ok (vs, rest) := by
  -- On the places. One unit of fuel is spent on each item, for which the comma in front of it makes
  -- up; the first item has none and is counted by itself.
  induction hplaces generalizing fuel vs with
  | close hclose =>
    cases hvs
    have hlength := length_lt_of_skipBetween hclose
    obtain ⟨fuel, rfl⟩ := Nat.exists_eq_add_one_of_ne_zero (show fuel ≠ 0 by omega)
    exact readItems_succ_iff.2 (.inl ⟨hclose, rfl⟩)
  | item hplace hc hvalue _ ih =>
    cases hvs with
    | cons hv hothers =>
    obtain ⟨_, hv⟩ := hv
    -- The item is read to the place where it is skipped to.
    cases (hitem _ _ _ hv).skipValue.symm.trans hvalue
    have hnext := hplace.length_lt
    have hbehind := (skipNested_suffix hvalue).length_le
    obtain ⟨fuel, rfl⟩ := Nat.exists_eq_add_one_of_ne_zero (show fuel ≠ 0 by omega)
    refine readItems_succ_iff.2 (.inr ⟨_, _, _, _, _, hplace, hc, hv, ih hothers ?_, rfl⟩)
    rw [Bool.toNat_false]
    omega

/-- The items of an array are read each at its own place. -/
theorem readItems_eq_ok_iff (hitem : Ends item) :
    readItems item (cs.length + 1) true cs = .ok (vs, rest) ↔
      ∃ places, ItemsAt true cs places rest ∧ List.Forall₂ (ReadsAt item) places vs :=
  ⟨itemsAt_of_readItems hitem, fun ⟨_, hplaces, hvs⟩ =>
    readItems_of_itemsAt hitem hplaces hvs (Nat.le_refl _)⟩

end

section
variable {member : σ → String → List Char → Except Fault (σ × List Char)}
  {step : σ → String × Place → Option σ} {s s' : σ}

/-- Where members are read, there are members. -/
theorem membersAt_of_readMembers (hmember : StepsBy member step) {fuel : Nat}
    (h : readMembers readText member fuel first s cs = .ok (s', rest)) :
    ∃ parts, MembersAt first cs parts rest ∧ parts.foldlM step s = some s' := by
  induction fuel generalizing first cs s with
  | zero => cases h
  | succ fuel ih =>
    rcases readMembers_succ_iff.1 h with
      ⟨hclose, rfl⟩ | ⟨_, name, _, _, _, hplace, hname, hs, hothers⟩
    · exact ⟨[], .close hclose, rfl⟩
    · obtain ⟨place, hcolon, hvalue, hstep⟩ := (hmember _ _ _ _ _).1 hs
      obtain ⟨parts, hparts, hothers⟩ := ih hothers
      refine ⟨_, .member hplace hname hcolon hvalue hparts, ?_⟩
      rw [List.foldlM_cons, hstep]
      exact hothers

/-- Members that can be read at their places are read. The length of the text is enough fuel. -/
theorem readMembers_of_membersAt (hmember : StepsBy member step) {fuel : Nat}
    {parts : List (String × Place)} (hparts : MembersAt first cs parts rest)
    (hs : parts.foldlM step s = some s') (hfuel : cs.length + first.toNat ≤ fuel) :
    readMembers readText member fuel first s cs = .ok (s', rest) := by
  induction hparts generalizing fuel s with
  | close hclose =>
    cases hs
    have hlength := length_lt_of_skipBetween hclose
    obtain ⟨fuel, rfl⟩ := Nat.exists_eq_add_one_of_ne_zero (show fuel ≠ 0 by omega)
    exact readMembers_succ_iff.2 (.inl ⟨hclose, rfl⟩)
  | @member _ name _ inside behind place behind' _ _ hplace hname hcolon hvalue _ ih =>
    rw [List.foldlM_cons] at hs
    obtain ⟨t, hstep, hothers⟩ := Option.bind_eq_some_iff.1 hs
    have hnext := hplace.length_lt
    rw [List.length_cons] at hnext
    have hbehind := (skipChars_suffix
      (skipChars_of_readChars hname (Nat.lt_succ_self _))).length_le
    have hvalueLength := ((skipNested_suffix hvalue).trans (readColon_suffix hcolon)).length_le
    obtain ⟨fuel, rfl⟩ := Nat.exists_eq_add_one_of_ne_zero (show fuel ≠ 0 by omega)
    refine readMembers_succ_iff.2 (.inr ⟨_, _, _, _, _, hplace, hname,
      (hmember _ _ _ _ _).2 ⟨_, hcolon, hvalue, hstep⟩, ih hothers ?_⟩)
    rw [Bool.toNat_false]
    omega

/-- The members of an object are read each at its own place. -/
theorem readMembers_eq_ok_iff (hmember : StepsBy member step) :
    readMembers readText member (cs.length + 1) true s cs = .ok (s', rest) ↔
      ∃ parts, MembersAt true cs parts rest ∧ parts.foldlM step s = some s' :=
  ⟨membersAt_of_readMembers hmember, fun ⟨_, hparts, hs⟩ =>
    readMembers_of_membersAt hmember hparts hs (Nat.le_refl _)⟩

end

/-! ### Readers of arrays and objects -/

section
variable {value : List Char → Except Fault (α × List Char)}

/-- What is read at the place of a member goes on with its name. -/
def stepAt (value : List Char → Except Fault (α × List Char)) (next : σ → String → α → σ) (s : σ)
    (part : String × Place) : Option σ :=
  (value part.2).toOption.map fun read => next s part.1 read.1

theorem stepAt_eq_some_iff {next : σ → String → α → σ} {s s' : σ} {part : String × Place} :
    stepAt value next s part = some s' ↔ ∃ a, ReadsAt value part.2 a ∧ next s part.1 a = s' := by
  rw [stepAt, Option.map_eq_some_iff]
  constructor
  · rintro ⟨⟨a, rest⟩, ha, hnext⟩
    exact ⟨a, ⟨rest, toOption_eq_some_iff.1 ha⟩, hnext⟩
  · rintro ⟨a, ⟨rest, ha⟩, hnext⟩
    exact ⟨(a, rest), toOption_eq_some_iff.2 ha, hnext⟩

/-- A reader of values that goes on from each of them with the name in front of it. -/
theorem stepsBy_stepAt (hvalue : Ends value) (next : σ → String → α → σ) :
    StepsBy
      (fun s name cs => readColon cs >>= fun place => value place >>= fun read =>
        .ok (next s name read.1, read.2))
      (stepAt value next) := by
  intro s name cs s' rest
  rw [bind_eq_ok_iff]
  refine exists_congr fun place => and_congr_right fun _ => ?_
  rw [bind_eq_ok_iff, stepAt_eq_some_iff]
  constructor
  · rintro ⟨⟨a, _⟩, ha, hsame⟩
    cases hsame
    exact ⟨(hvalue _ _ _ ha).skipValue, a, ⟨_, ha⟩, rfl⟩
  · rintro ⟨hend, a, ⟨_, ha⟩, rfl⟩
    cases (hvalue _ _ _ ha).skipValue.symm.trans hend
    exact ⟨_, ha, rfl⟩

/-- A member with its value is that with its place: the name is the same, and the value is read
there. -/
def PairAt (value : List Char → Except Fault (α × List Char)) (part : String × Place)
    (pair : String × α) : Prop :=
  part.1 = pair.1 ∧ ReadsAt value part.2 pair.2

/-- Pairs are collected one behind another. -/
theorem foldlM_pairs_eq_some_iff {parts : List (String × Place)} {read pairs : List (String × α)} :
    parts.foldlM (stepAt value fun s name a => s ++ [(name, a)]) read = some pairs ↔
      ∃ others, pairs = read ++ others ∧ List.Forall₂ (PairAt value) parts others := by
  induction parts generalizing read with
  | nil => simp [eq_comm]
  | cons part parts ih =>
    obtain ⟨name, place⟩ := part
    rw [List.foldlM_cons]
    show Option.bind _ _ = _ ↔ _
    rw [Option.bind_eq_some_iff]
    simp only [ih, stepAt_eq_some_iff, List.forall₂_cons_left_iff]
    constructor
    · rintro ⟨_, ⟨a, ha, rfl⟩, others, rfl, hothers⟩
      exact ⟨_, by rw [List.append_assoc]; rfl, (name, a), others, ⟨rfl, ha⟩, hothers, rfl⟩
    · rintro ⟨_, rfl, ⟨_, a⟩, others, ⟨rfl, ha⟩, hothers, rfl⟩
      exact ⟨_, ⟨a, ha, rfl⟩, others, by rw [List.append_assoc]; rfl, hothers⟩

/-- The members of an object are read as pairs, each at its own place. -/
theorem readPairs_eq_ok_iff (hvalue : Ends value) {pairs : List (String × α)} :
    readPairs value cs = .ok (pairs, rest) ↔
      ∃ parts, MembersAt true cs parts rest ∧ List.Forall₂ (PairAt value) parts pairs := by
  show readMembers readText _ _ _ _ _ = _ ↔ _
  rw [readMembers_eq_ok_iff (stepsBy_stepAt hvalue fun s name a => s ++ [(name, a)])]
  refine exists_congr fun parts => and_congr_right fun _ => ?_
  rw [foldlM_pairs_eq_some_iff]
  simp

/-- An array is read item by item, each at its own place. -/
theorem readList_eq_ok_iff (hvalue : Ends value) {vs : List α} :
    readList value cs = .ok (vs, rest) ↔
      ∃ items, ListAt cs items rest ∧ List.Forall₂ (ReadsAt value) items vs := by
  unfold readList
  split
  · next inside hopen =>
    rw [readItems_eq_ok_iff hvalue]
    refine exists_congr fun items => and_congr_left fun _ => ⟨fun h => ⟨inside, hopen, h⟩, ?_⟩
    rintro ⟨_, hsame, h⟩
    cases hopen.symm.trans hsame
    exact h
  · next hnone =>
    refine iff_of_false mismatch_ne_ok ?_
    rintro ⟨_, ⟨inside, hopen, -⟩, -⟩
    exact hnone inside hopen

end

theorem ends_skipValue : Ends skipValue := fun _ _ _ h => endsAt_of_skipNested h

theorem ends_readValue {depth : Nat} : Ends (readValue depth) :=
  fun _ _ _ h => endsAt_of_readValue h

theorem ends_readFlag : Ends readFlag :=
  fun _ _ _ h => endsAt_of_readValue ((readFlag_eq_ok_iff 0).1 h)

theorem ends_readString : Ends readString :=
  fun _ _ _ h => endsAt_of_readValue ((readString_eq_ok_iff 0).1 h)

theorem ends_readObject {depth : Nat} : Ends (readObject depth) :=
  fun _ _ _ h => endsAt_of_readValue (readObject_eq_ok_iff.1 h)

theorem ends_readOptional {value : List Char → Except Fault (α × List Char)}
    (hvalue : Ends value) : Ends (readOptional value) := by
  intro place x rest h
  rcases (readOptional_eq_ok_iff 0).1 h with ⟨-, hnull⟩ | ⟨a, -, -, ha⟩
  · exact endsAt_of_readValue hnull
  · exact (hvalue _ _ _ ha).of_skipBetween

/-- What stands at the places of an array are values. -/
theorem ItemsAt.reads {places : List Place} (h : ItemsAt first cs places rest) :
    List.Forall₂ (ReadsAt skipValue) places (places.map fun _ => ()) := by
  induction h with
  | close => exact .nil
  | item _ _ hvalue _ ih => exact .cons ⟨_, hvalue⟩ ih

/-- An array is a value that ends behind its bracket. -/
theorem ListAt.endsAt {items : List Place} (h : ListAt cs items rest) : EndsAt cs rest := by
  obtain ⟨inside, hopen, hitems⟩ := h
  exact endsAt_arr hopen endsAt_of_skipNested
    (readItems_of_itemsAt ends_skipValue hitems hitems.reads (Nat.le_refl _)) rfl

theorem ends_readList {value : List Char → Except Fault (α × List Char)} (hvalue : Ends value) :
    Ends (readList value) := by
  intro place vs rest h
  obtain ⟨items, hitems, -⟩ := (readList_eq_ok_iff hvalue).1 h
  exact hitems.endsAt

/-- What stands at the places of an object are values. -/
theorem MembersAt.foldlM_skipValue {parts : List (String × Place)}
    (h : MembersAt first cs parts rest) :
    parts.foldlM (stepAt skipValue fun _ _ _ => ()) () = some () := by
  induction h with
  | close => rfl
  | member _ _ _ hvalue _ ih =>
    rw [List.foldlM_cons, stepAt, hvalue]
    exact ih

/-- An object is a value that ends behind its brace. -/
theorem ObjectAt.endsAt {parts : List (String × Place)} (h : ObjectAt cs parts rest) :
    EndsAt cs rest := by
  obtain ⟨inside, hopen, hparts⟩ := h
  refine endsAt_obj hopen (fun hname => skipChars_of_readChars hname (Nat.lt_succ_self _)) ?_
    (readMembers_of_membersAt (stepsBy_stepAt ends_skipValue fun _ _ _ => ()) hparts
      hparts.foldlM_skipValue (Nat.le_refl _)) rfl
  intro _ _ _ _ _ hmember
  obtain ⟨place, hcolon, h⟩ := bind_eq_ok_iff.1 hmember
  obtain ⟨⟨_, _⟩, hvalue, hsame⟩ := bind_eq_ok_iff.1 h
  cases hsame
  exact ⟨place, hcolon, endsAt_of_skipNested hvalue⟩

end

end TypedSearch.Json
