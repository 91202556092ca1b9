import TypedSearch.Proofs.FirstError
import TypedSearch.Proofs.Keyed
import TypedSearch.Schema.Catalog
/-!
# `TypedSearch.Proofs.Document`: stored documents pass through

A document takes the modelled fields out of a stored object and keeps the rest. When it is written,
both are put together again. Nothing is lost on the way, and what is added is only what a field
shows that was not stored.

* `SlotKind.read_eq_ok_iff`: a field is read from just the value that it then shows.
* `DocumentModel.exists_decode_iff`: which objects are documents.
* `DocumentModel.decode_eq_some_iff`: what a document has in its fields, and what it keeps.
* `DocumentModel.decode_eq_error_iff`: which values are no documents, and for which cause.
* `DocumentModel.get_toJson`: what a document is written with, for any model with distinct names.
* `DocumentModel.decode_toJson`: a written document is read as the same document.
* `Document.passes_through`: all of this for the three schemas.
-/

set_option autoImplicit false

namespace TypedSearch

/-! ### What one field holds -/

/-- Only null is null. -/
theorem Json.eq_null_of_isNull {v : Json} (h : v.isNull = true) : v = .null := by
  cases v with
  | null => rfl
  | _ => cases h

/-- A value is read as what is needed exactly when it is that. -/
theorem Json.demand_eq_ok_iff {α : Type} {needed : Json.Need} {r : Json → Option α} {v : Json}
    {a : α} : Json.demand needed r v = .ok a ↔ r v = some a := by
  rw [demand]
  cases r v <;> simp

/-- A value that is not what is needed is refused as what it is. -/
theorem Json.demand_eq_error_iff {α : Type} {needed : Json.Need} {r : Json → Option α} {v : Json}
    {cause : Json.Mismatch} :
    Json.demand needed r v = .error cause ↔ r v = none ∧ cause = ⟨v.outline, needed⟩ := by
  rw [demand]
  cases r v <;> simp [eq_comm]

/-- Where a reader takes exactly what is shown for some values, `orNull` also takes null for
none. -/
theorem orNull_eq_ok_iff {α : Type} {r : Json → Except Json.Mismatch α} {f : α → Json}
    {p : α → Prop} (hread : ∀ v a, r v = .ok a ↔ p a ∧ v = f a) (hnull : ∀ a, f a ≠ .null)
    {v : Json} {held : Option α} :
    orNull r v = .ok held ↔ (∀ a ∈ held, p a) ∧ v = Json.ofOption f held := by
  rw [orNull, Json.ofOption]
  cases hv : v.isNull with
  | true =>
    obtain rfl := Json.eq_null_of_isNull hv
    cases held with
    | none => simp
    | some a => simpa using fun _ => (hnull a).symm
  | false =>
    have hne : v ≠ .null := by
      rintro rfl
      cases hv
    simp only [Bool.false_eq_true, if_false, map_eq_ok_iff]
    cases held with
    | none => simpa using hne
    | some a => simpa using hread v a

namespace Json

/-- A whole number between two bounds is read from itself. -/
theorem wholeIn_eq_some_iff {low high n : Int} {v : Json} :
    v.wholeIn? low high = some n ↔ (low ≤ n ∧ n ≤ high) ∧ v = .int n := by
  cases v with
  | int k =>
    rw [wholeIn?, Option.ite_none_right_eq_some, Option.some.injEq, Json.int.injEq]
    constructor
    · rintro ⟨h, rfl⟩
      exact ⟨h, rfl⟩
    · rintro ⟨h, rfl⟩
      exact ⟨h, rfl⟩
  | _ => simp [wholeIn?]

theorem int32_eq_some_iff {n : Int} {v : Json} :
    v.int32? = some n ↔
      (Int32.minValue.toInt ≤ n ∧ n ≤ Int32.maxValue.toInt) ∧ v = .int n :=
  wholeIn_eq_some_iff

theorem int64_eq_some_iff {n : Int} {v : Json} :
    v.int64? = some n ↔
      (Int64.minValue.toInt ≤ n ∧ n ≤ Int64.maxValue.toInt) ∧ v = .int n :=
  wholeIn_eq_some_iff

/-- Texts are read from the items of an array exactly when these are the texts. -/
theorem mapM_demand_text_eq_ok_iff {items : List Json} {ss : List String} :
    items.mapM (demand .text text?) = .ok ss ↔ items = ss.map .str := by
  rw [mapM_eq_ok_iff]
  simp only [demand_eq_ok_iff, text_eq_some_iff]
  rw [← List.forall₂_map_right_iff (R := fun a b => a = b), List.forall₂_eq_eq_eq]

end Json

namespace SlotKind

/-- What a field of a kind can hold. -/
def Fits : SlotKind → Slot → Prop
  | text, .text _ => True
  | int32, .whole value => ∀ n ∈ value, Int32.minValue.toInt ≤ n ∧ n ≤ Int32.maxValue.toInt
  | int64, .whole value => ∀ n ∈ value, Int64.minValue.toInt ≤ n ∧ n ≤ Int64.maxValue.toInt
  | flag, .flag _ => True
  | texts, .texts _ => True
  | _, _ => False

/-- A field is read from a value exactly when it then shows this value. -/
theorem read_eq_ok_iff {k : SlotKind} {v : Json} {slot : Slot} :
    k.read v = .ok slot ↔ k.Fits slot ∧ v = slot.toJson := by
  cases k with
  | text =>
    have hread : ∀ held, orNull (Json.demand .text Json.text?) v = .ok held ↔ _ :=
      fun _ => orNull_eq_ok_iff (p := fun _ => True) (f := .str)
        (fun v a => by rw [Json.demand_eq_ok_iff, Json.text_eq_some_iff, true_and]) (by simp)
    cases slot <;> simp [read, Fits, map_eq_ok_iff, hread, Slot.toJson]
  | int32 =>
    have hread : ∀ held, orNull (Json.demand .int32 Json.int32?) v = .ok held ↔ _ :=
      fun _ => orNull_eq_ok_iff
        (fun _ _ => Json.demand_eq_ok_iff.trans Json.int32_eq_some_iff) (by simp)
    cases slot <;> simp [read, Fits, map_eq_ok_iff, hread, Slot.toJson]
  | int64 =>
    have hread : ∀ held, orNull (Json.demand .int64 Json.int64?) v = .ok held ↔ _ :=
      fun _ => orNull_eq_ok_iff
        (fun _ _ => Json.demand_eq_ok_iff.trans Json.int64_eq_some_iff) (by simp)
    cases slot <;> simp [read, Fits, map_eq_ok_iff, hread, Slot.toJson]
  | flag =>
    have hread : ∀ held, orNull (Json.demand .flag Json.flag?) v = .ok held ↔ _ :=
      fun _ => orNull_eq_ok_iff (p := fun _ => True) (f := .bool)
        (fun v a => by rw [Json.demand_eq_ok_iff, Json.flag_eq_some_iff, true_and]) (by simp)
    cases slot <;> simp [read, Fits, map_eq_ok_iff, hread, Slot.toJson]
  | texts =>
    rw [read, bind_eq_ok_iff]
    simp only [Json.demand_eq_ok_iff, Json.items_eq_some_iff, bind_eq_ok_iff,
      Json.mapM_demand_text_eq_ok_iff]
    cases slot <;> simp [Fits, Slot.toJson]

/-- The values that a field of a kind can be stored with. -/
def Holds : SlotKind → Json → Prop
  | text, v => v = .null ∨ ∃ s, v = .str s
  | int32, v =>
    v = .null ∨ ∃ n : Int, v = .int n ∧ Int32.minValue.toInt ≤ n ∧ n ≤ Int32.maxValue.toInt
  | int64, v =>
    v = .null ∨ ∃ n : Int, v = .int n ∧ Int64.minValue.toInt ≤ n ∧ n ≤ Int64.maxValue.toInt
  | flag, v => v = .null ∨ ∃ b, v = .bool b
  | texts, v => ∃ ss : List String, v = .arr (ss.map .str)

/-- What a document shows in a field of a kind that was not stored. -/
def missing : SlotKind → Json
  | texts => .arr []
  | _ => .null

theorem read_missing (k : SlotKind) : k.read k.missing = .ok k.absent := by
  rw [read_eq_ok_iff]
  cases k <;> exact ⟨by simp [Fits, absent], rfl⟩

/-- A value is read for a field of a kind exactly when the field can be stored with it. -/
theorem exists_read_iff {k : SlotKind} {v : Json} : (∃ slot, k.read v = .ok slot) ↔ k.Holds v := by
  simp only [read_eq_ok_iff]
  constructor
  · rintro ⟨slot, hfits, rfl⟩
    -- Slots of another kind do not fit, which leaves one slot for each kind.
    cases k <;> cases slot <;> simp only [Fits] at hfits
    · next value => cases value <;> simp [Holds, Slot.toJson, Json.ofOption]
    · next value => cases value <;> simp_all [Holds, Slot.toJson, Json.ofOption]
    · next value => cases value <;> simp_all [Holds, Slot.toJson, Json.ofOption]
    · next value => cases value <;> simp [Holds, Slot.toJson, Json.ofOption]
    · next values => exact ⟨values, rfl⟩
  · intro h
    cases k with
    | text =>
      rcases h with rfl | ⟨s, rfl⟩
      · exact ⟨.text none, trivial, rfl⟩
      · exact ⟨.text (some s), trivial, rfl⟩
    | int32 =>
      rcases h with rfl | ⟨n, rfl, hn⟩
      · exact ⟨.whole none, by simp [Fits], rfl⟩
      · exact ⟨.whole (some n), by simpa [Fits] using hn, rfl⟩
    | int64 =>
      rcases h with rfl | ⟨n, rfl, hn⟩
      · exact ⟨.whole none, by simp [Fits], rfl⟩
      · exact ⟨.whole (some n), by simpa [Fits] using hn, rfl⟩
    | flag =>
      rcases h with rfl | ⟨b, rfl⟩
      · exact ⟨.flag none, trivial, rfl⟩
      · exact ⟨.flag (some b), trivial, rfl⟩
    | texts =>
      obtain ⟨ss, rfl⟩ := h
      exact ⟨.texts ss, trivial, rfl⟩

end SlotKind

namespace DocumentModel

variable {m : DocumentModel} {stored : Keyed Json}

/-- A document has this in a field: what is read from the value that was stored there, or from what
is shown where nothing was. -/
def Reads (stored : Keyed Json) (field : String × SlotKind) (slot : String × Slot) : Prop :=
  slot.1 = field.1 ∧ field.2.read ((Keyed.get? field.1 stored).getD field.2.missing) = .ok slot.2

/-- A member is read exactly when its field is not modelled or can be stored with its value. -/
theorem exists_readMember_iff {e : String × Json} :
    (∃ held, m.readMember e = .ok held) ↔ ∀ k, Keyed.get? e.1 m = some k → k.Holds e.2 := by
  rw [readMember]
  cases Keyed.get? e.1 m with
  | none => simp
  | some k => simp [exists_map_eq_ok_iff, SlotKind.exists_read_iff]

/-- What is held under the name of a modelled field is what is read from the value stored there. -/
theorem get_of_readMember {held : List (Option (String × Slot))} {name : String} {k : SlotKind}
    (h : List.Forall₂ (fun e z => m.readMember e = .ok z) stored held)
    (hk : Keyed.get? name m = some k) :
    Keyed.get? name (held.filterMap id)
      = (Keyed.get? name stored).bind fun v => (k.read v).toOption := by
  -- The stored members and what is read from them go together.
  induction h with
  | nil => rfl
  | @cons e z stored held hz _ ih =>
    obtain ⟨other, v⟩ := e
    rw [Keyed.get_cons]
    rw [readMember] at hz
    cases hother : Keyed.get? other m with
    | none =>
      rw [hother] at hz
      cases hz
      have hne : other ≠ name := by
        rintro rfl
        rw [hk] at hother
        cases hother
      rw [if_neg hne, ← ih]
      rfl
    | some k' =>
      rw [hother] at hz
      obtain ⟨slot, hslot, rfl⟩ := map_eq_ok_iff.1 hz
      show (if other = name then some slot else Keyed.get? name (held.filterMap id)) = _
      by_cases hname : other = name
      · subst hname
        obtain rfl := Option.some.inj (hother.symm.trans hk)
        rw [if_pos rfl, if_pos rfl, Option.bind_some, hslot]
        rfl
      · rw [if_neg hname, if_neg hname, ih]

/-- What a document has in a field is what it is read as. -/
theorem eq_of_reads {slots slots' : List (String × Slot)}
    (h : List.Forall₂ (Reads stored) m slots) (h' : List.Forall₂ (Reads stored) m slots') :
    slots = slots' := by
  refine Relator.RightUnique.forall₂ ?_ h h'
  rintro field ⟨name, slot⟩ ⟨name', slot'⟩ ⟨rfl, hslot⟩ ⟨hname, hslot'⟩
  exact Prod.ext hname.symm (Except.ok.inj (hslot.symm.trans hslot'))

/-- A stored object is a document with what is read from its members. -/
theorem decode_obj_eq_ok_iff {d : Document} :
    m.decode (.obj stored) = .ok d ↔ ∃ held, stored.mapM m.readMember = .ok held ∧
      d = ⟨m.map fun field =>
        (field.1, (Keyed.get? field.1 (held.filterMap id)).getD field.2.absent),
        stored.filter fun e => !m.hasField e.1⟩ := by
  rw [decode, Json.demand, Json.members?]
  simp only [bind_eq_ok_iff, Except.ok.injEq, exists_eq_left', @eq_comm _ d]

/-- A stored object is a document at all exactly when every member is read. -/
theorem exists_decode_iff_members :
    (∃ d, m.decode (.obj stored) = .ok d) ↔
      ∀ e ∈ stored, ∀ k, Keyed.get? e.1 m = some k → k.Holds e.2 := by
  simp only [← exists_readMember_iff, ← exists_mapM_eq_ok_iff, decode_obj_eq_ok_iff]
  exact ⟨fun ⟨_, held, hheld, _⟩ => ⟨held, hheld⟩, fun ⟨held, hheld⟩ => ⟨_, held, hheld, rfl⟩⟩

/-- A stored object that is read is read field by field, and the rest of it is kept. -/
theorem reads_of_decode (hm : (m.map (·.1)).Nodup) {d : Document}
    (h : m.decode (.obj stored) = .ok d) :
    List.Forall₂ (Reads stored) m d.slots ∧
      d.extra = stored.filter fun e => !m.hasField e.1 := by
  obtain ⟨held, hheld, rfl⟩ := decode_obj_eq_ok_iff.1 h
  refine ⟨?_, rfl⟩
  rw [List.forall₂_map_right_iff, List.forall₂_same]
  intro field hfield
  have hkind : Keyed.get? field.1 m = some field.2 := Keyed.get_of_mem hm hfield
  refine ⟨rfl, ?_⟩
  rw [get_of_readMember (mapM_eq_ok_iff.1 hheld) hkind]
  cases hstored : Keyed.get? field.1 stored with
  | none => exact field.2.read_missing
  | some v =>
    obtain ⟨slot, hslot⟩ := SlotKind.exists_read_iff.2
      (exists_decode_iff_members.1 ⟨_, h⟩ _ (Keyed.mem_of_get hstored) field.2 hkind)
    show field.2.read v = .ok (((field.2.read v).toOption).getD _)
    rw [hslot]
    rfl

/-- Where a document is read at all, it is the one that is read. -/
theorem decode_eq_some_iff_ok {v : Json} {d : Document} :
    m.decode? v = some d ↔ m.decode v = .ok d := by
  rw [decode?, toOption_eq_some_iff]

/-- A stored object is a document exactly when each modelled field that it has can be stored with
the value there. -/
theorem exists_decode_iff (hm : (m.map (·.1)).Nodup) (hstored : stored.Sorted) :
    (∃ d, m.decode? (.obj stored) = some d) ↔
      ∀ field ∈ m, ∀ v, Keyed.get? field.1 stored = some v → field.2.Holds v := by
  simp only [decode_eq_some_iff_ok, exists_decode_iff_members]
  constructor
  · intro h field hfield v hv
    exact h _ (Keyed.mem_of_get hv) field.2 (Keyed.get_of_mem hm hfield)
  · intro h e he k hk
    exact h _ (Keyed.mem_of_get hk) e.2 ((Keyed.mem_iff_get hstored).1 he)

/-- A stored object is read field by field, and the rest of it is kept. -/
theorem decode_eq_some_iff (hm : (m.map (·.1)).Nodup) (hstored : stored.Sorted) {d : Document} :
    m.decode? (.obj stored) = some d ↔ List.Forall₂ (Reads stored) m d.slots ∧
      d.extra = stored.filter fun e => !m.hasField e.1 := by
  constructor
  · intro h
    exact reads_of_decode hm (decode_eq_some_iff_ok.1 h)
  · rintro ⟨hslots, hextra⟩
    -- All that is read from a stored field can be stored there.
    obtain ⟨d', hd'⟩ : ∃ d', m.decode? (.obj stored) = some d' := by
      rw [exists_decode_iff hm hstored]
      intro field hfield v hv
      obtain ⟨slot, -, -, hslot⟩ := exists_of_mem_of_forall₂ hslots hfield
      rw [hv] at hslot
      exact SlotKind.exists_read_iff.1 ⟨_, hslot⟩
    obtain ⟨hslots', hextra'⟩ := reads_of_decode hm (decode_eq_some_iff_ok.1 hd')
    have hsame : d' = d := by
      cases d
      cases d'
      rw [Document.mk.injEq]
      exact ⟨eq_of_reads hslots' hslots, hextra'.trans hextra.symm⟩
    rw [hd', hsame]

/-! ### What is found in the written document -/

/-- The name of a field is modelled exactly when the model has a kind for it. -/
theorem hasField_eq (m : DocumentModel) (name : String) :
    m.hasField name = (Keyed.get? name m).isSome := by
  rw [Bool.eq_iff_iff, Keyed.isSome_get_iff, hasField, Keyed.names]
  simp

/-- The slots show, under the names of their fields, what was stored or is shown where nothing
was. -/
theorem get_slots {slots : List (String × Slot)} (h : List.Forall₂ (Reads stored) m slots)
    (name : String) :
    Keyed.get? name (slots.map fun e => (e.1, e.2.toJson))
      = (Keyed.get? name m).map fun k => (Keyed.get? name stored).getD k.missing := by
  -- The fields of the model and the slots go together.
  induction h with
  | nil => rfl
  | @cons field slot m slots hslot _ ih =>
    obtain ⟨name', kind⟩ := field
    obtain ⟨name'', s⟩ := slot
    obtain ⟨rfl, hread⟩ := hslot
    rw [List.map_cons, Keyed.get_cons, Keyed.get_cons, ih]
    by_cases hname : name'' = name
    · rw [if_pos hname, if_pos hname, ← hname, Option.map_some,
        ← (SlotKind.read_eq_ok_iff.1 hread).2]
    · rw [if_neg hname, if_neg hname]

/-- The names of the slots are those of the model. -/
theorem names_slots {slots : List (String × Slot)} (h : List.Forall₂ (Reads stored) m slots) :
    slots.map (·.1) = m.map (·.1) := by
  induction h with
  | nil => rfl
  | cons hslot _ ih => rw [List.map_cons, List.map_cons, ih, hslot.1]

/-! ### Documents as they are written -/

variable {d : Document}

/-- The members that a document is written with have distinct names. -/
theorem nodup_members (hm : (m.map (·.1)).Nodup) (hstored : stored.Sorted)
    (h : m.decode? (.obj stored) = some d) :
    ((d.extra ++ d.slots.map fun e => (e.1, e.2.toJson)).map (·.1)).Nodup := by
  obtain ⟨hslots, hextra⟩ := (decode_eq_some_iff hm hstored).1 h
  have hsorted : d.extra.Sorted := hextra ▸ List.Pairwise.filter _ hstored
  rw [List.map_append, List.map_map, List.nodup_append']
  refine ⟨Keyed.nodup_names hsorted, ?_, ?_⟩
  · show (d.slots.map (·.1)).Nodup
    rwa [names_slots hslots]
  · -- The names that are kept are those that the model does not have.
    intro name hextraName hslotName
    have hmodelled : m.hasField name = true := by
      rw [hasField_eq, Keyed.isSome_get_iff, Keyed.names, ← names_slots hslots]
      exact hslotName
    rw [hextra] at hextraName
    obtain ⟨e, he, rfl⟩ := List.mem_map.1 hextraName
    simp [hmodelled] at he

/-- A stored object is written with what was stored under every name, and with what is shown for
the modelled fields that were not stored. -/
theorem get_toJson (hm : (m.map (·.1)).Nodup) (hstored : stored.Sorted)
    (h : m.decode? (.obj stored) = some d) :
    ∃ shown : Keyed Json, d.toJson = .obj shown ∧ shown.Sorted ∧
      ∀ name, Keyed.get? name shown
        = (Keyed.get? name stored).or ((Keyed.get? name m).map SlotKind.missing) := by
  obtain ⟨hslots, hextra⟩ := (decode_eq_some_iff hm hstored).1 h
  refine ⟨_, rfl, Keyed.sorted_ofList _, fun name => ?_⟩
  rw [Keyed.get_ofList_eq (nodup_members hm hstored h), Keyed.get_append, get_slots hslots, hextra,
    Keyed.get_filter fun k => !m.hasField k, hasField_eq]
  cases Keyed.get? name m with
  | none => simp
  | some k => cases Keyed.get? name stored <;> simp

/-- A written document is read as the same document. -/
theorem decode_toJson (hm : (m.map (·.1)).Nodup) (hstored : stored.Sorted)
    (h : m.decode? (.obj stored) = some d) : m.decode? d.toJson = some d := by
  obtain ⟨hslots, hextra⟩ := (decode_eq_some_iff hm hstored).1 h
  obtain ⟨shown, hshown, hsorted, hget⟩ := get_toJson hm hstored h
  rw [hshown, decode_eq_some_iff hm hsorted]
  constructor
  · -- A field that was not stored is shown as what it is read from where it is missing.
    have hsame : ∀ field ∈ m, Reads shown field = Reads stored field := by
      intro field hfield
      funext slot
      rw [Reads, Reads, hget, Keyed.get_of_mem hm hfield]
      cases Keyed.get? field.1 stored <;> rfl
    exact ((List.forall₂_and_left _ _).2 ⟨hsame, hslots⟩).imp fun _ _ both => both.1 ▸ both.2
  · -- Both are sorted, and so they are the same if the same is found in them.
    rw [hextra]
    refine Keyed.eq_of_get_eq (.filter _ hstored) (.filter _ hsorted) fun name => ?_
    rw [Keyed.get_filter fun k => !m.hasField k, Keyed.get_filter fun k => !m.hasField k, hget,
      hasField_eq]
    cases Keyed.get? name m <;> simp

end DocumentModel

/-! ### What is refused -/

namespace SlotKind

/-- What a field of a kind needs. -/
def need : SlotKind → Json.Need
  | text => .text
  | int32 => .int32
  | int64 => .int64
  | flag => .flag
  | texts => .list

/-- A value cannot be stored in a field of a kind, with the cause: the value is not what the field
needs, or it is a list with an item that is no text. The first such item is the cause. -/
inductive Refuses : SlotKind → Json → Json.Mismatch → Prop where
  | value {k : SlotKind} {v : Json} (hlist : k = .texts → ∀ items, v ≠ .arr items)
    (hholds : ¬ k.Holds v) : Refuses k v ⟨v.outline, k.need⟩
  | item {before after : List Json} {v : Json} (hbefore : ∀ u ∈ before, ∃ s, u = .str s)
    (hitem : ∀ s, v ≠ .str s) :
    Refuses texts (.arr (before ++ v :: after)) ⟨v.outline, .text⟩

/-- A field that holds one value is refused another as what that is. -/
theorem cause_of_read {k : SlotKind} (hk : k ≠ .texts) {v : Json} {cause : Json.Mismatch}
    (h : k.read v = .error cause) : cause = ⟨v.outline, k.need⟩ := by
  have hnull : ∀ {α : Type} {r : Json → Option α} {need : Json.Need},
      orNull (Json.demand need r) v = .error cause → cause = ⟨v.outline, need⟩ := by
    intro α r need h
    rw [orNull] at h
    split at h
    · cases h
    · exact (Json.demand_eq_error_iff.1 (map_eq_error_iff.1 h)).2
  cases k with
  | text => exact hnull (map_eq_error_iff.1 h)
  | int32 => exact hnull (map_eq_error_iff.1 h)
  | int64 => exact hnull (map_eq_error_iff.1 h)
  | flag => exact hnull (map_eq_error_iff.1 h)
  | texts => exact absurd rfl hk

/-- A list is refused as what it is where it is none, and otherwise for its first item that is no
text. -/
theorem read_texts_eq_error_iff {v : Json} {cause : Json.Mismatch} :
    texts.read v = .error cause ↔
      (∀ items, v ≠ .arr items) ∧ cause = ⟨v.outline, .list⟩ ∨
        ∃ before item after, v = .arr (before ++ item :: after) ∧
          (∀ u ∈ before, ∃ s, u = .str s) ∧ (∀ s, item ≠ .str s) ∧
          cause = ⟨item.outline, .text⟩ := by
  have hnone : ∀ u : Json, u.text? = none ↔ ∀ s, u ≠ .str s := by
    intro u
    simp only [Option.eq_none_iff_forall_ne_some, ne_eq, Json.text_eq_some_iff]
  have hlist : v.items? = none ↔ ∀ items, v ≠ .arr items := by
    simp only [Option.eq_none_iff_forall_ne_some, ne_eq, Json.items_eq_some_iff]
  rw [read, bind_eq_error_iff, Json.demand_eq_error_iff, hlist]
  simp only [Json.demand_eq_ok_iff, Json.items_eq_some_iff, bind_eq_error_iff,
    mapM_eq_error_iff, Json.demand_eq_error_iff, Json.text_eq_some_iff, hnone]
  simp only [reduceCtorEq, and_false, exists_const, or_false]
  refine or_congr_right ⟨?_, ?_⟩
  · rintro ⟨items, rfl, before, item, after, rfl, hbefore, hitem, hcause⟩
    exact ⟨before, item, after, rfl, hbefore, hitem, hcause⟩
  · rintro ⟨before, item, after, rfl, hbefore, hitem, hcause⟩
    exact ⟨_, rfl, before, item, after, rfl, hbefore, hitem, hcause⟩

/-- A field is not read from a value exactly when the value cannot be stored in it, and with the
same cause. -/
theorem read_eq_error_iff {k : SlotKind} {v : Json} {cause : Json.Mismatch} :
    k.read v = .error cause ↔ k.Refuses v cause := by
  have hholds : (∃ cause, k.read v = .error cause) ↔ ¬ k.Holds v := by
    rw [← exists_read_iff]
    cases k.read v <;> simp
  constructor
  · intro h
    by_cases hk : k = .texts
    · subst hk
      rcases read_texts_eq_error_iff.1 h with ⟨hlist, rfl⟩ | ⟨before, item, after, rfl, hb, hi, rfl⟩
      · exact .value (fun _ => hlist) (hholds.1 ⟨_, h⟩)
      · exact .item hb hi
    · rw [cause_of_read hk h]
      exact .value (fun htexts => absurd htexts hk) (hholds.1 ⟨_, h⟩)
  · rintro (⟨hlist, hnot⟩ | ⟨hbefore, hitem⟩)
    · by_cases hk : k = .texts
      · subst hk
        exact read_texts_eq_error_iff.2 (.inl ⟨hlist rfl, rfl⟩)
      · obtain ⟨cause, hcause⟩ := hholds.2 hnot
        rw [hcause, cause_of_read hk hcause]
    · exact read_texts_eq_error_iff.2 (.inr ⟨_, _, _, rfl, hbefore, hitem, rfl⟩)

end SlotKind

namespace DocumentModel

/-- A value is no document, with the cause: it is no object, or a modelled field in it cannot be
stored with its value. The first such member is the cause, in the order of the object. -/
inductive Refuses (m : DocumentModel) : Json → Json.Mismatch → Prop where
  | record {v : Json} (h : ∀ members, v ≠ .obj members) : Refuses m v ⟨v.outline, .record⟩
  | member {before after : Keyed Json} {name : String} {v : Json} {k : SlotKind}
    {cause : Json.Mismatch}
    (hbefore : ∀ e ∈ before, ∀ k, Keyed.get? e.1 m = some k → k.Holds e.2)
    (hkind : Keyed.get? name m = some k) (h : k.Refuses v cause) :
    Refuses m (.obj (before ++ (name, v) :: after)) cause

variable {m : DocumentModel}

/-- A member is refused exactly when its field is modelled and cannot be stored with its value. -/
theorem readMember_eq_error_iff {e : String × Json} {cause : Json.Mismatch} :
    m.readMember e = .error cause ↔ ∃ k, Keyed.get? e.1 m = some k ∧ k.Refuses e.2 cause := by
  rw [readMember]
  cases Keyed.get? e.1 m with
  | none => simp
  | some k => simp [map_eq_error_iff, SlotKind.read_eq_error_iff]

/-- A value is not read as a document exactly when it is none, and with the same cause. -/
theorem decode_eq_error_iff {v : Json} {cause : Json.Mismatch} :
    m.decode v = .error cause ↔ m.Refuses v cause := by
  have hnone : v.members? = none ↔ ∀ members, v ≠ .obj members := by
    cases v <;> simp [Json.members?]
  have hsome : ∀ stored, v.members? = some stored ↔ v = .obj stored := by
    intro stored
    cases v <;> simp [Json.members?]
  rw [decode, bind_eq_error_iff, Json.demand_eq_error_iff, hnone]
  simp only [Json.demand_eq_ok_iff, hsome, bind_eq_error_iff, mapM_eq_error_iff,
    exists_readMember_iff, readMember_eq_error_iff, reduceCtorEq, and_false, exists_const, or_false]
  constructor
  · rintro (⟨hobject, rfl⟩ | ⟨_, rfl, before, ⟨name, v⟩, after, rfl, hbefore, k, hkind, h⟩)
    · exact .record hobject
    · exact .member hbefore hkind h
  · rintro (hobject | ⟨hbefore, hkind, h⟩)
    · exact .inl ⟨hobject, rfl⟩
    · exact .inr ⟨_, rfl, _, _, _, rfl, hbefore, _, hkind, h⟩

end DocumentModel

/-- The modelled fields of the schema with a name. -/
def SchemaName.model (n : SchemaName) : DocumentModel := n.apply fun s => s.model

/-- The modelled fields of a schema have distinct names. -/
theorem SchemaName.nodup_model (n : SchemaName) : (n.model.map (·.1)).Nodup := by
  cases n <;> decide

namespace Document

/-- A stored object is a document of a schema exactly when each modelled field that it has can be
stored with the value there. The document is then written with all that was stored, unchanged, and
besides with null, or the empty list, for each modelled field that was not; and it is read from what
is written. -/
theorem passes_through (n : SchemaName) (stored : Keyed Json) (hstored : stored.Sorted) :
    ((∃ d, n.model.decode? (.obj stored) = some d) ↔
      ∀ field ∈ n.model, ∀ v, Keyed.get? field.1 stored = some v →
        field.2.Holds v) ∧
    ∀ d, n.model.decode? (.obj stored) = some d →
      (∃ shown : Keyed Json, d.toJson = .obj shown ∧ shown.Sorted ∧
        (∀ name v, Keyed.get? name stored = some v → Keyed.get? name shown = some v) ∧
        (∀ name, Keyed.get? name stored = none → Keyed.get? name shown
          = (Keyed.get? name n.model).map fun k =>
              if k = .texts then .arr [] else .null)) ∧
      n.model.decode? d.toJson = some d := by
  refine ⟨DocumentModel.exists_decode_iff n.nodup_model hstored, fun d hd => ⟨?_, ?_⟩⟩
  · obtain ⟨shown, hshown, hsorted, hget⟩ := DocumentModel.get_toJson n.nodup_model hstored hd
    have hmissing : SlotKind.missing = fun k => if k = .texts then .arr [] else .null := by
      funext k
      cases k <;> rfl
    refine ⟨shown, hshown, hsorted, fun name v hv => ?_, fun name hnone => ?_⟩
    · rw [hget, hv, Option.some_or]
    · rw [hget, hnone, Option.none_or, hmissing]
  · exact DocumentModel.decode_toJson n.nodup_model hstored hd

end Document

/-- A stored job posting without most of the fields, and with one that is not modelled. -/
def storedPosting : Keyed Json :=
  [("company", .str "META"), ("interview_count", .int 4), ("locations", .arr [.str "Seoul"]),
   ("min_years", .int 3), ("title", .null)]

/-- The posting is a document. It is written with the field that is not modelled, and with nothing
or an empty list in the fields that were not stored. -/
theorem Document.passes_through_storedPosting :
    storedPosting.Sorted ∧ (∃ d, jobs.model.decode? (.obj storedPosting) = some d) ∧
      ∀ d, jobs.model.decode? (.obj storedPosting) = some d →
        ∃ shown : Keyed Json, d.toJson = .obj shown ∧
          Keyed.get? "interview_count" shown = some (.int 4) ∧
          Keyed.get? "url" shown = some .null ∧
          Keyed.get? "tech_categories" shown = some (.arr []) := by
  have hsorted : storedPosting.Sorted := by
    simp only [Keyed.Sorted, storedPosting]
    decide
  refine ⟨hsorted, ⟨_, rfl⟩, fun d hd => ?_⟩
  obtain ⟨⟨shown, hshown, -, hkept, hadded⟩, -⟩ :=
    (Document.passes_through .jobs storedPosting hsorted).2 d hd
  exact ⟨shown, hshown, hkept _ _ rfl, hadded _ rfl, hadded _ rfl⟩

end TypedSearch
