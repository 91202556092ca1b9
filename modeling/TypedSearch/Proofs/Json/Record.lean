import TypedSearch.Proofs.Json.Places
import TypedSearch.Proofs.Keyed
/-!
# `TypedSearch.Proofs.Json.Record`: records by the places of their fields

A record is read field by field into a state, from an object in the order of the text and from an
array in the order of the fields. Either way each field is filled in from its own place, and the
order does not matter.

* `IsRecord`: what the fields of a record have to do with each other, which is nothing.
* `RecordAt`: a record by the places of its fields, in both ways to write it.
* `exists_foldlM_fieldStep_iff`: the fields of an object, in any order.
* `readInOrder_eq_ok_iff`: the fields of an array.
* `readRecord_eq_ok_iff`: a record is read by filling in each of its fields from its own place.
-/

set_option autoImplicit false

namespace TypedSearch.Json

/-- A record stands at a place, with the values of its members at places of their own. It is written
as an object that has no field twice, or as an array of its first fields. -/
inductive RecordAt (names : List String) (place : Place) : List (String × Place) → List Char → Prop
  | object {parts : List (String × Place)} {rest : List Char} (h : ObjectAt place parts rest)
    (honce : ((parts.map (·.1)).filter (· ∈ names)).Nodup) : RecordAt names place parts rest
  | list {items : List Place} {rest : List Char} (h : ListAt place items rest)
    (hlength : items.length ≤ names.length) : RecordAt names place (names.zip items) rest

/-- A record is a value that ends where it is said to end. -/
theorem RecordAt.endsAt {names : List String} {place : Place} {parts : List (String × Place)}
    {rest : List Char} (h : RecordAt names place parts rest) : EndsAt place rest := by
  cases h with
  | object h => exact h.endsAt
  | list h => exact h.endsAt

variable {σ : Type}

/-- Fields that do not get into each other's way: their names are distinct, what each reads is the
value that stands there, and the order in which they are set does not matter. -/
structure IsRecord (fields : List (RecordField σ)) : Prop where
  names : (fields.map (·.name)).Nodup
  ends : ∀ f ∈ fields, Ends f.value
  apart : ∀ f ∈ fields, ∀ g ∈ fields, f.name ≠ g.name →
    ∀ s x y, f.set (g.set s y) x = g.set (f.set s x) y

/-- Without its first field a record is still one. -/
theorem IsRecord.tail {f : RecordField σ} {fields : List (RecordField σ)}
    (h : IsRecord (f :: fields)) : f.name ∉ fields.map (·.name) ∧ IsRecord fields where
  left := (List.nodup_cons.1 h.names).1
  right :=
    { names := (List.nodup_cons.1 h.names).2
      ends := fun g hg => h.ends g (List.mem_cons_of_mem _ hg)
      apart := fun g hg g' hg' =>
        h.apart g (List.mem_cons_of_mem _ hg) g' (List.mem_cons_of_mem _ hg') }

/-! ### Filling in -/

/-- Fills in a field from the place of the member with its name. Without such a member nothing is
filled in. -/
def RecordField.fill (f : RecordField σ) (parts : List (String × Place)) (s : σ) : Option σ :=
  match Keyed.get? f.name parts with
  | none => some s
  | some place => stepAt f.value (fun s _ x => f.set s x) s (f.name, place)

/-- Fills in all fields. -/
def fillAll (fields : List (RecordField σ)) (parts : List (String × Place)) (s : σ) : Option σ :=
  fields.foldlM (fun s f => f.fill parts s) s

section
variable {fields : List (RecordField σ)} {f : RecordField σ} {parts : List (String × Place)}
  {name : String} {place : Place} {s s' : σ}

theorem fillAll_cons : fillAll (f :: fields) parts s = some s' ↔
    ∃ t, f.fill parts s = some t ∧ fillAll fields parts t = some s' := by
  rw [fillAll, List.foldlM_cons]
  exact Option.bind_eq_some_iff

/-- A member of another name makes no difference to a field. -/
theorem fill_cons_of_ne (h : name ≠ f.name) :
    f.fill ((name, place) :: parts) s = f.fill parts s := by
  rw [RecordField.fill, Keyed.get_cons, if_neg h]
  rfl

/-- A field is filled in from the member with its name. -/
theorem fill_cons_self : f.fill ((f.name, place) :: parts) s = some s' ↔
    ∃ x, ReadsAt f.value place x ∧ f.set s x = s' := by
  rw [RecordField.fill, Keyed.get_cons, if_pos rfl]
  exact stepAt_eq_some_iff

/-- Without a member of its name a field stays as it is. -/
theorem fill_of_not_mem (h : f.name ∉ parts.map (·.1)) : f.fill parts s = some s := by
  have hnone : Keyed.get? f.name parts = none :=
    Option.not_isSome_iff_eq_none.1 (mt (Keyed.isSome_get_iff _ _).1 h)
  rw [RecordField.fill, hnone]

/-- A member that is no field makes no difference. -/
theorem fillAll_cons_of_not_mem (h : name ∉ fields.map (·.name)) :
    fillAll fields ((name, place) :: parts) s = fillAll fields parts s := by
  induction fields generalizing s with
  | nil => rfl
  | cons g fields ih =>
    rw [List.map_cons, List.mem_cons, not_or] at h
    rw [fillAll, List.foldlM_cons, fill_cons_of_ne h.1]
    exact congrArg _ (funext fun t => ih h.2)

/-- Setting another field first makes no difference to what a field is filled in with. -/
theorem fill_set {g : RecordField σ} {x : f.Value}
    (hapart : ∀ s x y, f.set (g.set s y) x = g.set (f.set s x) y) :
    g.fill parts (f.set s x) = some s' ↔ ∃ t, g.fill parts s = some t ∧ f.set t x = s' := by
  rw [RecordField.fill, RecordField.fill]
  cases Keyed.get? g.name parts with
  | none => simp
  | some place =>
    simp only [stepAt_eq_some_iff]
    constructor
    · rintro ⟨y, hy, rfl⟩
      exact ⟨_, ⟨y, hy, rfl⟩, hapart _ _ _⟩
    · rintro ⟨_, ⟨y, hy, rfl⟩, rfl⟩
      exact ⟨y, hy, (hapart _ _ _).symm⟩

/-- The first member may be filled in first, whichever field it is. -/
theorem fillAll_cons_of_mem (h : IsRecord fields) (hf : f ∈ fields)
    (hnew : f.name ∉ parts.map (·.1)) :
    fillAll fields ((f.name, place) :: parts) s = some s' ↔
      ∃ x, ReadsAt f.value place x ∧ fillAll fields parts (f.set s x) = some s' := by
  induction fields generalizing s with
  | nil => cases hf
  | cons g fields ih =>
    obtain ⟨hg, htail⟩ := h.tail
    simp only [fillAll_cons]
    rcases List.mem_cons.1 hf with rfl | hf'
    · -- The other fields have other names.
      simp only [fill_cons_self, fillAll_cons_of_not_mem hg, fill_of_not_mem hnew]
      constructor
      · rintro ⟨_, ⟨x, hx, rfl⟩, hothers⟩
        exact ⟨x, hx, _, rfl, hothers⟩
      · rintro ⟨x, hx, _, hsame, hothers⟩
        cases hsame
        exact ⟨_, ⟨x, hx, rfl⟩, hothers⟩
    · -- The field is one of the others. It is set before the first one here and behind it there.
      have hne : f.name ≠ g.name := by
        intro hsame
        exact hg (hsame ▸ List.mem_map_of_mem hf')
      have hset : ∀ {x t'}, g.fill parts (f.set s x) = some t' ↔
          ∃ t, g.fill parts s = some t ∧ f.set t x = t' :=
        fill_set (h.apart f hf g List.mem_cons_self hne)
      simp only [fill_cons_of_ne hne, ih htail hf']
      constructor
      · rintro ⟨t, ht, x, hx, hothers⟩
        exact ⟨x, hx, _, hset.2 ⟨t, ht, rfl⟩, hothers⟩
      · rintro ⟨x, hx, t', ht', hothers⟩
        obtain ⟨t, ht, rfl⟩ := hset.1 ht'
        exact ⟨t, ht, x, hx, hothers⟩

end

/-! ### Records as objects -/

/-- The step of a record with the place of a member. The names of the fields so far stand beside the
record. -/
def fieldStep (fields : List (RecordField σ)) (s : σ × List String) (part : String × Place) :
    Option (σ × List String) :=
  match fields.find? fun f => f.name = part.1 with
  | none => some s
  | some f =>
    if part.1 ∈ s.2 then none
    else stepAt f.value (fun s name x => (f.set s.1 x, name :: s.2)) s part

section
variable {fields : List (RecordField σ)} {f : RecordField σ} {parts : List (String × Place)}
  {name : String} {place : Place} {seen : List String} {s s' : σ}

/-- A member that is no field changes nothing. -/
theorem fieldStep_of_none (h : (fields.find? fun f => f.name = name) = none) :
    fieldStep fields (s, seen) (name, place) = some (s, seen) := by
  unfold fieldStep
  rw [h]

/-- A field is read at its place, if it was not read before. -/
theorem fieldStep_eq_some_iff {t : σ × List String}
    (h : (fields.find? fun f => f.name = name) = some f) :
    fieldStep fields (s, seen) (name, place) = some t ↔
      name ∉ seen ∧ ∃ x, ReadsAt f.value place x ∧ (f.set s x, name :: seen) = t := by
  unfold fieldStep
  rw [h]
  dsimp only
  split
  · next hseen => simp [hseen]
  · next hseen => simp [hseen, stepAt_eq_some_iff]

/-- A member of a record is read by the step with its place. -/
theorem stepsBy_fieldStep (h : IsRecord fields) :
    StepsBy (readField fields) (fieldStep fields) := by
  rintro ⟨s, seen⟩ name cs t rest
  unfold readField
  cases hfound : fields.find? fun f => f.name = name with
  | none =>
    simp only [fieldStep_of_none hfound, bind_eq_ok_iff]
    constructor
    · rintro ⟨place, hcolon, ⟨_, _⟩, hskip, hsame⟩
      cases hsame
      exact ⟨place, hcolon, hskip, rfl⟩
    · rintro ⟨place, hcolon, hskip, hsame⟩
      cases hsame
      exact ⟨place, hcolon, _, hskip, rfl⟩
  | some f =>
    have hends := h.ends f (List.mem_of_find?_eq_some hfound)
    simp only [fieldStep_eq_some_iff hfound]
    split
    · next hseen => simp [hseen]
    · next hseen =>
      simp only [RecordField.read, bind_eq_ok_iff]
      constructor
      · rintro ⟨place, hcolon, _, ⟨⟨x, _⟩, hx, hset⟩, hsame⟩
        cases hset
        cases hsame
        exact ⟨place, hcolon, (hends _ _ _ hx).skipValue, hseen, x, ⟨_, hx⟩, rfl⟩
      · rintro ⟨place, hcolon, hskip, -, x, ⟨_, hx⟩, rfl⟩
        cases (hends _ _ _ hx).skipValue.symm.trans hskip
        exact ⟨place, hcolon, _, ⟨_, hx, rfl⟩, rfl⟩

/-- Without members nothing is filled in. -/
theorem fillAll_nil : fillAll fields [] s = some s := by
  induction fields with
  | nil => rfl
  | cons f fields ih => exact fillAll_cons.2 ⟨s, rfl, ih⟩

/-- The members of an object that are fields, in their order. -/
def given (fields : List (RecordField σ)) (parts : List (String × Place)) : List String :=
  (parts.map (·.1)).filter (· ∈ fields.map (·.name))

theorem given_cons_of_not_mem (h : name ∉ fields.map (·.name)) :
    given fields ((name, place) :: parts) = given fields parts :=
  List.filter_cons_of_neg (by simpa using h)

theorem given_cons_of_mem (h : name ∈ fields.map (·.name)) :
    given fields ((name, place) :: parts) = name :: given fields parts :=
  List.filter_cons_of_pos (by simpa using h)

/-- A field is given by a member with its name. -/
theorem mem_given_iff (h : name ∈ fields.map (·.name)) :
    name ∈ given fields parts ↔ name ∈ parts.map (·.1) := by
  rw [given, List.mem_filter]
  simp only [decide_eq_true_eq, and_iff_left_iff_imp]
  exact fun _ => h

/-- The members of an object are read one by one. -/
theorem exists_foldlM_fieldStep_cons_iff {part : String × Place} {t : σ × List String} :
    (∃ seen', (part :: parts).foldlM (fieldStep fields) t = some (s', seen')) ↔
      ∃ t', fieldStep fields t part = some t' ∧
        ∃ seen', parts.foldlM (fieldStep fields) t' = some (s', seen') := by
  simp only [List.foldlM_cons, Option.bind_eq_bind, Option.bind_eq_some_iff]
  rw [exists_comm]
  simp only [exists_and_left]

/-- Whatever their order, the fields of an object are filled in each from its own place, if none of
them is there twice. -/
theorem exists_foldlM_fieldStep_iff (h : IsRecord fields) :
    (∃ seen', parts.foldlM (fieldStep fields) (s, seen) = some (s', seen')) ↔
      (∀ name ∈ seen, name ∉ given fields parts) ∧ (given fields parts).Nodup ∧
        fillAll fields parts s = some s' := by
  -- On the members, where the names seen so far are apart from those that are still to come.
  induction parts generalizing s seen with
  | nil => simp [given, fillAll_nil]
  | cons part parts ih =>
    obtain ⟨name, place⟩ := part
    rw [exists_foldlM_fieldStep_cons_iff]
    cases hfound : fields.find? fun f => f.name = name with
    | none =>
      have hnot : name ∉ fields.map (·.name) := by
        rw [List.find?_eq_none] at hfound
        simpa [eq_comm] using hfound
      simp only [fieldStep_of_none hfound, Option.some.injEq, exists_eq_left',
        given_cons_of_not_mem hnot, ih, fillAll_cons_of_not_mem hnot]
    | some f =>
      have hf := List.mem_of_find?_eq_some hfound
      obtain rfl : f.name = name := by simpa using List.find?_some hfound
      have hname : f.name ∈ fields.map (·.name) := List.mem_map_of_mem hf
      have hmem : f.name ∈ given fields parts ↔ f.name ∈ parts.map (·.1) := mem_given_iff hname
      simp only [fieldStep_eq_some_iff hfound, given_cons_of_mem hname, List.nodup_cons]
      constructor
      · rintro ⟨_, ⟨hseen, x, hx, rfl⟩, hothers⟩
        obtain ⟨hnew, hnodup, hfill⟩ := ih.1 hothers
        obtain ⟨hf', hseen'⟩ := List.forall_mem_cons.1 hnew
        refine ⟨?_, ⟨hf', hnodup⟩, (fillAll_cons_of_mem h hf (mt hmem.2 hf')).2 ⟨x, hx, hfill⟩⟩
        intro other hother
        rw [List.mem_cons, not_or]
        exact ⟨fun hsame => hseen (hsame ▸ hother), hseen' other hother⟩
      · rintro ⟨hnew, ⟨hf', hnodup⟩, hfill⟩
        obtain ⟨x, hx, hfill⟩ := (fillAll_cons_of_mem h hf (mt hmem.2 hf')).1 hfill
        refine ⟨_, ⟨fun hseen => hnew _ hseen List.mem_cons_self, x, hx, rfl⟩,
          ih.2 ⟨?_, hnodup, hfill⟩⟩
        refine List.forall_mem_cons.2 ⟨hf', fun other hother hmem => ?_⟩
        exact hnew other hother (List.mem_cons_of_mem _ hmem)

end

/-! ### Records as arrays -/

section
variable {fields : List (RecordField σ)} {f : RecordField σ} {first : Bool} {s s' : σ}
  {cs rest : List Char}

/-- Of a record as an array nothing is left, or its first field is read and then the others. -/
theorem readInOrder_cons_iff :
    readInOrder first s (f :: fields) cs = .ok (s', rest) ↔
      skipBetween cs = ']' :: rest ∧ s' = s ∨
        ∃ c inside x behind, Next first cs (c :: inside) ∧ c ≠ ']' ∧
          f.value (c :: inside) = .ok (x, behind) ∧
          readInOrder false (f.set s x) fields behind = .ok (s', rest) := by
  rw [readInOrder]
  refine scan_eq_ok_iff.trans (or_congr ?_ ?_)
  · simp [and_comm]
  · simp only [bind_eq_ok_iff, RecordField.read]
    constructor
    · rintro ⟨c, inside, hplace, hc, _, ⟨⟨x, behind⟩, hx, hsame⟩, hothers⟩
      cases hsame
      exact ⟨c, inside, x, behind, hplace, hc, hx, hothers⟩
    · rintro ⟨c, inside, x, behind, hplace, hc, hx, hothers⟩
      exact ⟨c, inside, hplace, hc, _, ⟨_, hx, rfl⟩, hothers⟩

/-- Behind the last field the array has to end. -/
theorem readInOrder_nil_iff :
    readInOrder first s [] cs = .ok (s', rest) ↔ skipBetween cs = ']' :: rest ∧ s' = s := by
  rw [readInOrder]
  split
  · next hnone => simp [hnone]
  · next hclose => simp [hclose, eq_comm, and_comm]
  · next hnone hother =>
    refine iff_of_false (by simp) ?_
    rintro ⟨hclose, -⟩
    exact hother _ hclose

/-- The first field of an array is filled in from the first item, and the others from the others. -/
theorem fillAll_zip_iff {items : List Place} {place : Place} (hf : f.name ∉ fields.map (·.name)) :
    fillAll (f :: fields) (((f :: fields).map (·.name)).zip (place :: items)) s = some s' ↔
      ∃ x, ReadsAt f.value place x ∧
        fillAll fields ((fields.map (·.name)).zip items) (f.set s x) = some s' := by
  rw [fillAll_cons, List.map_cons, List.zip_cons_cons]
  simp only [fill_cons_self, fillAll_cons_of_not_mem hf]
  constructor
  · rintro ⟨_, ⟨x, hx, rfl⟩, hothers⟩
    exact ⟨x, hx, hothers⟩
  · rintro ⟨x, hx, hothers⟩
    exact ⟨_, ⟨x, hx, rfl⟩, hothers⟩

/-- The fields of an array are filled in from its items, in their order. -/
theorem readInOrder_eq_ok_iff (h : IsRecord fields) :
    readInOrder first s fields cs = .ok (s', rest) ↔
      ∃ items, ItemsAt first cs items rest ∧ items.length ≤ fields.length ∧
        fillAll fields ((fields.map (·.name)).zip items) s = some s' := by
  induction fields generalizing first s cs with
  | nil =>
    rw [readInOrder_nil_iff]
    constructor
    · rintro ⟨hclose, rfl⟩
      exact ⟨[], .close hclose, Nat.le_refl _, rfl⟩
    · rintro ⟨items, hitems, hlength, hsame⟩
      cases hsame
      cases hitems with
      | close hclose => exact ⟨hclose, rfl⟩
      | item => cases hlength
  | cons f fields ih =>
    obtain ⟨hf, htail⟩ := h.tail
    have hends := h.ends f List.mem_cons_self
    rw [readInOrder_cons_iff]
    constructor
    · rintro (⟨hclose, rfl⟩ | ⟨c, inside, x, behind, hplace, hc, hx, hothers⟩)
      · refine ⟨[], .close hclose, Nat.zero_le _, ?_⟩
        rw [List.zip_nil_right, fillAll_nil]
      · obtain ⟨items, hitems, hlength, hfill⟩ := (ih htail).1 hothers
        exact ⟨_, .item hplace hc (hends _ _ _ hx).skipValue hitems, Nat.succ_le_succ hlength,
          (fillAll_zip_iff hf).2 ⟨x, ⟨_, hx⟩, hfill⟩⟩
    · rintro ⟨items, hitems, hlength, hfill⟩
      cases hitems with
      | close hclose =>
        rw [List.zip_nil_right, fillAll_nil] at hfill
        cases hfill
        exact .inl ⟨hclose, rfl⟩
      | item hplace hc hvalue hothers =>
        obtain ⟨x, ⟨_, hx⟩, hfill⟩ := (fillAll_zip_iff hf).1 hfill
        cases (hends _ _ _ hx).skipValue.symm.trans hvalue
        exact .inr ⟨_, _, x, _, hplace, hc, hx,
          (ih htail).2 ⟨_, hothers, Nat.le_of_succ_le_succ hlength, hfill⟩⟩

end

/-! ### Records -/

/-- A field is filled in from the place of the member with its name, or stays as it is. -/
theorem fill_eq_some_iff {f : RecordField σ} {parts : List (String × Place)} {s s' : σ} :
    f.fill parts s = some s' ↔ Keyed.get? f.name parts = none ∧ s = s' ∨
      ∃ place x, Keyed.get? f.name parts = some place ∧ ReadsAt f.value place x ∧
        f.set s x = s' := by
  rw [RecordField.fill]
  cases Keyed.get? f.name parts with
  | none => simp
  | some place => simp [stepAt_eq_some_iff]

/-- Two fields make a record if they have different names, read values and are set apart. -/
theorem isRecord_pair {f g : RecordField σ} (hnames : f.name ≠ g.name) (hf : Ends f.value)
    (hg : Ends g.value) (hapart : ∀ s x y, f.set (g.set s y) x = g.set (f.set s x) y) :
    IsRecord [f, g] where
  names := by simpa using hnames
  ends := by simpa using ⟨hf, hg⟩
  apart := by
    intro f' hf' g' hg' hne
    simp only [List.mem_cons, List.not_mem_nil, or_false] at hf' hg'
    rcases hf' with rfl | rfl <;> rcases hg' with rfl | rfl
    · exact absurd rfl hne
    · exact hapart
    · exact fun s x y => (hapart s y x).symm
    · exact absurd rfl hne

theorem fillAll_pair {f g : RecordField σ} {parts : List (String × Place)} {s s' : σ} :
    fillAll [f, g] parts s = some s' ↔ ∃ t, f.fill parts s = some t ∧ g.fill parts t = some s' := by
  have hlast : ∀ t, fillAll [g] parts t = g.fill parts t := fun t => by
    rw [fillAll, List.foldlM_cons]
    exact bind_pure _
  simp only [fillAll_cons, hlast]

/-- A record is read by filling in each field from its own place. -/
theorem readRecord_eq_ok_iff {fields : List (RecordField σ)} (h : IsRecord fields) {absent s : σ}
    {place : Place} {rest : List Char} :
    readRecord fields absent place = .ok (s, rest) ↔
      ∃ parts, RecordAt (fields.map (·.name)) place parts rest ∧
        fillAll fields parts absent = some s := by
  unfold readRecord
  constructor
  · intro hread
    split at hread
    · next inside hopen =>
      obtain ⟨⟨⟨t, seen⟩, _⟩, hmembers, hsame⟩ := bind_eq_ok_iff.1 hread
      cases hsame
      obtain ⟨parts, hparts, hfold⟩ := (readMembers_eq_ok_iff (stepsBy_fieldStep h)).1 hmembers
      obtain ⟨-, honce, hfill⟩ := (exists_foldlM_fieldStep_iff h).1 ⟨seen, hfold⟩
      exact ⟨parts, .object ⟨inside, hopen, hparts⟩ honce, hfill⟩
    · next inside hopen =>
      obtain ⟨items, hitems, hlength, hfill⟩ := (readInOrder_eq_ok_iff h).1 hread
      exact ⟨_, .list ⟨inside, hopen, hitems⟩ (by rwa [List.length_map]), hfill⟩
    · exact absurd hread mismatch_ne_ok
  · rintro ⟨parts, hparts, hfill⟩
    cases hparts with
    | object hobject honce =>
      obtain ⟨inside, hopen, hparts⟩ := hobject
      obtain ⟨seen, hfold⟩ := (exists_foldlM_fieldStep_iff h).2
        ⟨fun _ hname => absurd hname List.not_mem_nil, honce, hfill⟩
      rw [hopen]
      exact bind_eq_ok_iff.2
        ⟨_, (readMembers_eq_ok_iff (stepsBy_fieldStep h)).2 ⟨parts, hparts, hfold⟩, rfl⟩
    | list hlist hlength =>
      obtain ⟨inside, hopen, hitems⟩ := hlist
      rw [hopen]
      exact (readInOrder_eq_ok_iff h).2 ⟨_, hitems, by rwa [List.length_map] at hlength, hfill⟩

/-- A record is read from the value that stands there. -/
theorem ends_readRecord {fields : List (RecordField σ)} (h : IsRecord fields) {absent : σ} :
    Ends (readRecord fields absent) := by
  intro place s rest hread
  obtain ⟨parts, hparts, -⟩ := (readRecord_eq_ok_iff h).1 hread
  exact hparts.endsAt

end TypedSearch.Json
