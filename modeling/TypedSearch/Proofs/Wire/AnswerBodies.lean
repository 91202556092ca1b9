import TypedSearch.Proofs.Json.Record
import TypedSearch.Wire.Answer
/-!
# `TypedSearch.Proofs.Wire.AnswerBodies`: what the bodies of answers hold

The body of an answer is a record of which some members count, and those of a search hold further
records. This module says which bodies are answers, by the values of these members, and that the
readers read exactly these.

* `LookupBody`, `SearchBody`: the answers to a lookup and to a search.
* `GetAnswer.ofBytes_eq_ok_iff`: a body is read as the answer to a lookup.
* `SearchAnswer.exists_ofBytes_iff`: a body is read as the answer to a search.
-/

set_option autoImplicit false

namespace TypedSearch

open Json (Place RecordAt ObjectAt ListAt ReadsAt RecordField)

/-! ### Members -/

/-- A value stands at a place, inside of some open containers. -/
def ValueAt (within : Nat) (place : Place) (v : Json) : Prop :=
  ReadsAt (Json.readValue (Json.defaultDepth - within)) place v

/-- A member has a value, or is missing, which counts as another one. -/
def MemberIs (within : Nat) (parts : List (String × Place)) (name : String) (missing v : Json) :
    Prop :=
  match Keyed.get? name parts with
  | none => v = missing
  | some place => ValueAt within place v

/-- A member is missing or null, or something stands at its place. -/
inductive OptionalAt {α : Type} (within : Nat) (parts : List (String × Place)) (name : String)
    (stands : Place → α → Prop) : Option α → Prop
  | missing (h : Keyed.get? name parts = none) : OptionalAt within parts name stands none
  | null {place : Place} (h : Keyed.get? name parts = some place)
    (hnull : ValueAt within place .null) : OptionalAt within parts name stands none
  | value {place : Place} {a : α} (h : Keyed.get? name parts = some place) (ha : stands place a) :
    OptionalAt within parts name stands (some a)

/-- A body is a record, with the values of its members at places of their own. -/
def BodyAt (names : List String) (body : List UInt8) (parts : List (String × Place)) : Prop :=
  ∃ rest, RecordAt names (Text.octets body) parts rest ∧ Json.skipBetween rest = []

/-! ### Answers -/

/-- The answer to a lookup: whether the document was found, and its content, or null. -/
def LookupBody (body : List UInt8) (found : Bool) (source : Json) : Prop :=
  ∃ parts, BodyAt ["found", "_source"] body parts ∧
    MemberIs 1 parts "found" (.bool false) (.bool found) ∧
    MemberIs 1 parts "_source" .null source

/-- A hit with its content, or null. Its identifier is a text, where it has one. -/
def HitAt (place : Place) (source : Json) : Prop :=
  ∃ parts rest id, RecordAt ["_id", "_source"] place parts rest ∧
    OptionalAt 4 parts "_id" (fun place s => ValueAt 4 place (.str s)) id ∧
    MemberIs 4 parts "_source" .null source

/-- How many documents match: a number, or an object with one under `value`, which stands there
once. -/
inductive TotalAt (place : Place) (n : Nat) : Prop
  | number (h : ValueAt 2 place (.nat n)) (hn : n < UInt64.size)
  | object {parts : List (String × Place)} {rest : List Char} {value : Place}
    (h : ObjectAt place parts rest) (hparts : ∀ part ∈ parts, ∃ v, ValueAt 3 part.2 v)
    (hvalue : (parts.filter fun part => part.1 = "value") = [("value", value)])
    (hnumber : ValueAt 3 value (.nat n)) (hn : n < UInt64.size)

/-- The documents of a page: none, or those of a list of hits. -/
inductive DocumentsAt (parts : List (String × Place)) : List Json → Prop
  | missing (h : Keyed.get? "hits" parts = none) : DocumentsAt parts []
  | list {place : Place} {items : List Place} {rest : List Char} {documents : List Json}
    (h : Keyed.get? "hits" parts = some place) (hlist : ListAt place items rest)
    (hhits : List.Forall₂ HitAt items documents) : DocumentsAt parts documents

/-- The hits of a search. Where no total is told, it is how many there are. -/
def HitsAt (place : Place) (hits : Hits) : Prop :=
  ∃ parts rest total, RecordAt ["total", "hits"] place parts rest ∧
    OptionalAt 2 parts "total" TotalAt total ∧ DocumentsAt parts hits.documents ∧
    hits.total = total.getD hits.documents.length

/-- The answer to a search: hits, or none, and aggregations, or none. -/
def SearchBody (body : List UInt8) (hits : Option Hits) (aggregations : Option (Keyed Json)) :
    Prop :=
  ∃ parts, BodyAt ["hits", "aggregations"] body parts ∧ OptionalAt 1 parts "hits" HitsAt hits ∧
    OptionalAt 1 parts "aggregations" (fun place members => ValueAt 1 place (.obj members))
      aggregations

/-! ### Readers of members -/

section
variable {within : Nat} {parts : List (String × Place)} {name : String}

/-- A member that may be missing or null is read as what stands at its place. -/
theorem fill_optional_iff {σ α : Type} (within : Nat)
    {value : List Char → Except Json.Fault (α × List Char)}
    {set : σ → Option α → σ} {stands : Place → α → Prop} {s s' : σ} (hnone : set s none = s)
    (hstands : ∀ {place a}, stands place a ↔ (Json.skipBetween place).head? ≠ some 'n' ∧
      ReadsAt value (Json.skipBetween place) a) :
    RecordField.fill ⟨name, Json.readOptional value, set⟩ parts s = some s' ↔
      ∃ x, OptionalAt within parts name stands x ∧ set s x = s' := by
  rw [Json.fill_eq_some_iff]
  constructor
  · rintro (⟨hmissing, rfl⟩ | ⟨place, x, hplace, ⟨rest, hx⟩, rfl⟩)
    · exact ⟨none, .missing hmissing, hnone⟩
    · rcases (Json.readOptional_eq_ok_iff (Json.defaultDepth - within)).1 hx with
        ⟨rfl, hnull⟩ | ⟨a, rfl, hstart, ha⟩
      · exact ⟨none, .null hplace ⟨rest, hnull⟩, rfl⟩
      · exact ⟨some a, .value hplace (hstands.2 ⟨hstart, rest, ha⟩), rfl⟩
  · rintro ⟨x, hx, rfl⟩
    cases hx with
    | missing hmissing => exact .inl ⟨hmissing, hnone.symm⟩
    | null hplace hnull =>
      obtain ⟨rest, hnull⟩ := hnull
      exact .inr ⟨_, none, hplace,
        ⟨rest, (Json.readOptional_eq_ok_iff _).2 (.inl ⟨rfl, hnull⟩)⟩, rfl⟩
    | @value place a hplace ha =>
      obtain ⟨hstart, rest, ha⟩ := hstands.1 ha
      exact .inr ⟨place, some a, hplace,
        ⟨rest, (Json.readOptional_eq_ok_iff 0).2 (.inr ⟨a, rfl, hstart, ha⟩)⟩, rfl⟩

/-- A truth value that counts as false where it is missing is read as what stands at its place. -/
theorem fill_flag_iff {σ : Type} {set : σ → Bool → σ} {s s' : σ} (hfalse : set s false = s) :
    RecordField.fill ⟨name, Json.readFlag, set⟩ parts s = some s' ↔
      ∃ b, MemberIs within parts name (.bool false) (.bool b) ∧ set s b = s' := by
  have hread : ∀ {place b}, ReadsAt Json.readFlag place b ↔ ValueAt within place (.bool b) :=
    exists_congr fun _ => Json.readFlag_eq_ok_iff _
  rw [Json.fill_eq_some_iff]
  simp only [MemberIs, hread]
  cases hplace : Keyed.get? name parts with
  | none => simp [hfalse]
  | some place => simp

/-- A value that is not null. -/
theorem valueAt_and_ne_null_iff {place : Place} {v : Json} :
    ValueAt within place v ∧ v ≠ .null ↔ (Json.skipBetween place).head? ≠ some 'n' ∧
      ReadsAt (Json.readValue (Json.defaultDepth - within)) (Json.skipBetween place) v := by
  simp only [ValueAt, ReadsAt, Json.readValue_skipBetween]
  constructor
  · rintro ⟨⟨rest, hv⟩, hne⟩
    exact ⟨mt (Json.head_of_readValue hv).1 hne, rest, hv⟩
  · rintro ⟨hstart, rest, hv⟩
    exact ⟨⟨rest, hv⟩, mt (Json.head_of_readValue hv).2 hstart⟩

/-- A text. -/
theorem valueAt_str_iff {place : Place} {s : String} :
    ValueAt within place (.str s) ↔ (Json.skipBetween place).head? ≠ some 'n' ∧
      ReadsAt Json.readString (Json.skipBetween place) s := by
  have hread : ReadsAt Json.readString (Json.skipBetween place) s ↔
      ReadsAt (Json.readValue (Json.defaultDepth - within)) (Json.skipBetween place) (.str s) :=
    exists_congr fun _ => Json.readString_eq_ok_iff _
  rw [hread, ← valueAt_and_ne_null_iff]
  simp

/-- An object. -/
theorem valueAt_obj_iff (within : Nat) {place : Place} {members : Keyed Json} {depth : Nat}
    (hdepth : Json.defaultDepth - within = depth + 1) :
    ValueAt within place (.obj members) ↔ (Json.skipBetween place).head? ≠ some 'n' ∧
      ReadsAt (Json.readObject depth) (Json.skipBetween place) members := by
  have hread : ReadsAt (Json.readObject depth) (Json.skipBetween place) members ↔
      ReadsAt (Json.readValue (Json.defaultDepth - within)) (Json.skipBetween place)
        (.obj members) := by
    rw [hdepth]
    exact exists_congr fun _ => Json.readObject_eq_ok_iff
  rw [hread, ← valueAt_and_ne_null_iff]
  simp

/-- A value that may be missing or null, and otherwise is not, is null where it is missing. -/
theorem optionalAt_iff_memberIs {x : Option Json} :
    OptionalAt within parts name (fun place v => ValueAt within place v ∧ v ≠ .null) x ↔
      MemberIs within parts name .null (x.getD .null) ∧ x ≠ some .null := by
  rw [MemberIs]
  constructor
  · intro h
    cases h with
    | missing hmissing => simp [hmissing]
    | null hplace hnull => simpa [hplace] using hnull
    | value hplace ha => simpa [hplace] using ha
  · rintro ⟨hmember, hne⟩
    split at hmember
    · next hmissing =>
      cases x with
      | none => exact .missing hmissing
      | some v => exact absurd (congrArg some hmember) hne
    · next hplace =>
      cases x with
      | none => exact .null hplace hmember
      | some v => exact .value hplace ⟨hmember, fun hnull => hne (congrArg some hnull)⟩

/-- What stands at the place of a member may be told in another way. -/
theorem optionalAt_map_iff {α β : Type} {stands : Place → α → Prop} {g : α → β} {y : Option β} :
    OptionalAt within parts name (fun place b => ∃ a, stands place a ∧ g a = b) y ↔
      ∃ x, OptionalAt within parts name stands x ∧ x.map g = y := by
  constructor
  · intro h
    cases h with
    | missing hmissing => exact ⟨none, .missing hmissing, rfl⟩
    | null hplace hnull => exact ⟨none, .null hplace hnull, rfl⟩
    | value hplace hb =>
      obtain ⟨a, ha, rfl⟩ := hb
      exact ⟨some a, .value hplace ha, rfl⟩
  · rintro ⟨x, hx, rfl⟩
    cases hx with
    | missing hmissing => exact .missing hmissing
    | null hplace hnull => exact .null hplace hnull
    | value hplace ha => exact .value hplace ⟨_, ha, rfl⟩

end

/-- Null can be told as no value, and all else as itself. -/
theorem exists_getD_null (v : Json) : ∃ x : Option Json, x.getD .null = v ∧ x ≠ some .null := by
  cases v with
  | null => exact ⟨none, rfl, by simp⟩
  | _ => exact ⟨some _, rfl, by simp⟩

/-- A reader of a body gives what it reads where nothing is left behind it. -/
theorem finish_eq_ok_iff {α : Type} {x : Except Json.Fault (α × List Char)} {a : α} :
    Json.finish x = .ok a ↔ ∃ rest, x = .ok (a, rest) ∧ Json.skipBetween rest = [] := by
  cases x with
  | error fault => simp [Json.finish]
  | ok read =>
    obtain ⟨b, rest⟩ := read
    rw [Json.finish]
    split
    · next hend =>
      simp only [Except.ok.injEq, Prod.mk.injEq]
      constructor
      · rintro rfl
        exact ⟨rest, ⟨rfl, rfl⟩, List.isEmpty_iff.1 hend⟩
      · rintro ⟨_, ⟨rfl, -⟩, -⟩
        rfl
    · next hend =>
      simp only [reduceCtorEq, Except.ok.injEq, Prod.mk.injEq, false_iff]
      rintro ⟨_, ⟨-, rfl⟩, hrest⟩
      exact hend (List.isEmpty_iff.2 hrest)

/-- A body is read as a record by filling in each field from its own place. -/
theorem finish_readRecord_eq_ok_iff {σ : Type} {fields : List (RecordField σ)}
    (h : Json.IsRecord fields) {absent s : σ} {body : List UInt8} :
    Json.finish (Json.readRecord fields absent (Text.octets body)) = .ok s ↔
      ∃ parts, BodyAt (fields.map (·.name)) body parts ∧
        Json.fillAll fields parts absent = some s := by
  rw [finish_eq_ok_iff]
  simp only [Json.readRecord_eq_ok_iff h]
  constructor
  · rintro ⟨rest, ⟨parts, hparts, hfill⟩, hrest⟩
    exact ⟨parts, ⟨rest, hparts, hrest⟩, hfill⟩
  · rintro ⟨parts, ⟨rest, hparts, hrest⟩, hfill⟩
    exact ⟨rest, ⟨parts, hparts, hfill⟩, hrest⟩

/-! ### Lookups -/

namespace GetAnswer

/-- The fields of an answer to a lookup. -/
theorem isRecord_fields {depth : Nat} : Json.IsRecord (fields depth) :=
  Json.isRecord_pair (by simp) Json.ends_readFlag (Json.ends_readOptional Json.ends_readValue)
    fun _ _ _ => rfl

/-- A body is read as the answer to a lookup that it is. A source that is null is read as none. -/
theorem ofBytes_eq_ok_iff {body : List UInt8} {a : GetAnswer} :
    ofBytes body = .ok a ↔
      LookupBody body a.found (a.source.getD .null) ∧ a.source ≠ some .null := by
  obtain ⟨found, source⟩ := a
  have hfill : ∀ {parts}, Json.fillAll (fields (Json.defaultDepth - 1)) parts ⟨false, none⟩
      = some ⟨found, source⟩ ↔ MemberIs 1 parts "found" (.bool false) (.bool found) ∧
        MemberIs 1 parts "_source" .null (source.getD .null) ∧ source ≠ some .null := by
    intro parts
    rw [← optionalAt_iff_memberIs, fields, Json.fillAll_pair]
    constructor
    · rintro ⟨t, hfound, hsource⟩
      obtain ⟨b, hb, rfl⟩ := (fill_flag_iff rfl).1 hfound
      obtain ⟨x, hx, hsame⟩ := (fill_optional_iff 1 rfl valueAt_and_ne_null_iff).1 hsource
      cases hsame
      exact ⟨hb, hx⟩
    · rintro ⟨hfound, hsource⟩
      exact ⟨⟨found, none⟩, (fill_flag_iff rfl).2 ⟨found, hfound, rfl⟩,
        (fill_optional_iff 1 rfl valueAt_and_ne_null_iff).2 ⟨source, hsource, rfl⟩⟩
  rw [ofBytes, finish_readRecord_eq_ok_iff isRecord_fields, LookupBody, exists_and_right.symm]
  refine exists_congr fun parts => ?_
  rw [hfill, and_assoc, and_assoc]
  rfl

/-- A document is what was found and is not null. -/
theorem exists_document_iff {body : List UInt8} {v : Json} :
    (∃ a, ofBytes body = .ok a ∧ a.document? = some v) ↔ LookupBody body true v ∧ v ≠ .null := by
  simp only [ofBytes_eq_ok_iff]
  constructor
  · rintro ⟨⟨found, source⟩, ⟨hbody, hne⟩, hdocument⟩
    rw [document?, Option.ite_none_right_eq_some] at hdocument
    obtain ⟨hfound, hsource⟩ := hdocument
    dsimp only at hfound hsource hbody hne
    subst hfound hsource
    exact ⟨hbody, fun hnull => hne (congrArg some hnull)⟩
  · rintro ⟨hbody, hne⟩
    exact ⟨⟨true, some v⟩, ⟨hbody, fun hnull => hne (Option.some.inj hnull)⟩, rfl⟩

/-- There is no document where none was found or its content is null. -/
theorem exists_no_document_iff {body : List UInt8} :
    (∃ a, ofBytes body = .ok a ∧ a.document? = none) ↔
      ∃ found v, LookupBody body found v ∧ (found = false ∨ v = .null) := by
  simp only [ofBytes_eq_ok_iff]
  constructor
  · rintro ⟨⟨found, source⟩, ⟨hbody, -⟩, hdocument⟩
    refine ⟨found, _, hbody, ?_⟩
    cases found with
    | false => exact .inl rfl
    | true =>
      right
      cases source with
      | none => rfl
      | some v => cases hdocument
  · rintro ⟨found, v, hbody, hempty⟩
    obtain ⟨source, rfl, hne⟩ := exists_getD_null v
    refine ⟨⟨found, source⟩, ⟨hbody, hne⟩, ?_⟩
    rcases hempty with rfl | hnull
    · rfl
    · cases source with
      | none => exact ite_self _
      | some v => exact absurd (congrArg some hnull) hne

end GetAnswer

/-! ### Searches -/

namespace HitAnswer

/-- The fields of a hit. -/
theorem isRecord_fields {depth : Nat} : Json.IsRecord (fields depth) :=
  Json.isRecord_pair (by simp) (Json.ends_readOptional Json.ends_readString)
    (Json.ends_readOptional Json.ends_readValue) fun _ _ _ => rfl

theorem ends_read {depth : Nat} : Json.Ends (read depth) := Json.ends_readRecord isRecord_fields

/-- A hit is read where one stands. A source that is missing or null is null. -/
theorem exists_readsAt_iff {place : Place} {v : Json} :
    (∃ h, ReadsAt (read (Json.defaultDepth - 3)) place h ∧ h.source.getD .null = v) ↔
      HitAt place v := by
  have hfill : ∀ {parts h}, Json.fillAll (fields (Json.defaultDepth - 4)) parts ⟨none, none⟩
      = some h ↔ OptionalAt 4 parts "_id" (fun place s => ValueAt 4 place (.str s)) h.id ∧
        MemberIs 4 parts "_source" .null (h.source.getD .null) ∧ h.source ≠ some .null := by
    rintro parts ⟨id, source⟩
    rw [← optionalAt_iff_memberIs, fields, Json.fillAll_pair]
    constructor
    · rintro ⟨t, hid, hsource⟩
      obtain ⟨x, hx, rfl⟩ := (fill_optional_iff 4 rfl valueAt_str_iff).1 hid
      obtain ⟨y, hy, hsame⟩ := (fill_optional_iff 4 rfl valueAt_and_ne_null_iff).1 hsource
      cases hsame
      exact ⟨hx, hy⟩
    · rintro ⟨hid, hsource⟩
      exact ⟨⟨id, none⟩, (fill_optional_iff 4 rfl valueAt_str_iff).2 ⟨id, hid, rfl⟩,
        (fill_optional_iff 4 rfl valueAt_and_ne_null_iff).2 ⟨source, hsource, rfl⟩⟩
  constructor
  · rintro ⟨h, ⟨rest, hread⟩, rfl⟩
    obtain ⟨parts, hparts, h⟩ := (Json.readRecord_eq_ok_iff isRecord_fields).1 hread
    obtain ⟨hid, hsource, -⟩ := hfill.1 h
    exact ⟨parts, rest, _, hparts, hid, hsource⟩
  · rintro ⟨parts, rest, id, hparts, hid, hsource⟩
    obtain ⟨source, rfl, hne⟩ := exists_getD_null v
    have hread := (Json.readRecord_eq_ok_iff isRecord_fields).2
      ⟨parts, hparts, (hfill (h := ⟨id, source⟩)).2 ⟨hid, hsource, hne⟩⟩
    exact ⟨⟨id, source⟩, ⟨rest, hread⟩, rfl⟩

end HitAnswer

namespace HitsAnswer

/-- The number under `value` is found where it stands once. -/
theorem totalOfPairs_eq_some_iff {pairs : List (String × Json)} {n : Nat} :
    totalOfPairs pairs = some n ↔
      (pairs.filter fun e => e.1 = "value") = [("value", .nat n)] ∧ n < UInt64.size := by
  have hname : ∀ e ∈ pairs.filter fun e => e.1 = "value", e.1 = "value" := by
    intro e he
    simpa using (List.mem_filter.1 he).2
  rw [totalOfPairs]
  split
  · next name v hfilter =>
    rw [hfilter] at hname ⊢
    obtain rfl : name = "value" := hname _ List.mem_cons_self
    rw [Json.count_eq_some_iff]
    simp
  · next hother =>
    refine iff_of_false (by simp) ?_
    rintro ⟨hsame, -⟩
    exact hother _ _ hsame

/-- The members named `value` are read each at its own place. -/
theorem forall₂_filter_value {depth : Nat} {parts : List (String × Place)}
    {pairs : List (String × Json)}
    (h : List.Forall₂ (Json.PairAt (Json.readValue depth)) parts pairs) :
    List.Forall₂ (Json.PairAt (Json.readValue depth)) (parts.filter fun part => part.1 = "value")
      (pairs.filter fun e => e.1 = "value") :=
  List.rel_filter (fun part pair hpair => by simp [hpair.1]) h

/-- No number starts with a brace. -/
theorem skipBetween_ne_of_number {within : Nat} {place inside : Place} {n : Nat}
    (h : ValueAt within place (.nat n)) : Json.skipBetween place ≠ '{' :: inside := by
  intro hopen
  obtain ⟨rest, h⟩ := h
  have hform := Json.valueForm_of_readValue h
  generalize hv : Json.nat n = v at hform
  generalize Json.defaultDepth - within = depth at hform
  cases hform with
  | arr => cases hv
  | obj => cases hv
  | scalar hscalar =>
    rw [hopen] at hscalar
    cases hscalar with
    | number _ hdigit => cases hdigit

/-- Of the members of an object, the total is the number under `value`, where it stands once. -/
theorem totalOfPairs_eq_some_iff_of_parts {depth : Nat} {parts : List (String × Place)}
    {pairs : List (String × Json)} {n : Nat}
    (h : List.Forall₂ (Json.PairAt (Json.readValue depth)) parts pairs) :
    totalOfPairs pairs = some n ↔
      ∃ value, (parts.filter fun part => part.1 = "value") = [("value", value)] ∧
        ReadsAt (Json.readValue depth) value (.nat n) ∧ n < UInt64.size := by
  have hvalue := forall₂_filter_value h
  rw [totalOfPairs_eq_some_iff]
  constructor
  · rintro ⟨hfilter, hn⟩
    rw [hfilter, List.forall₂_cons_right_iff] at hvalue
    obtain ⟨⟨name, value⟩, others, ⟨hname, hnumber⟩, hothers, hfilter⟩ := hvalue
    rw [List.forall₂_nil_right_iff.1 hothers] at hfilter
    cases hname
    exact ⟨value, hfilter, hnumber, hn⟩
  · rintro ⟨value, hfilter, ⟨_, hnumber⟩, hn⟩
    rw [hfilter, List.forall₂_cons_left_iff] at hvalue
    obtain ⟨⟨name, v⟩, others, ⟨hname, _, hv⟩, hothers, hfilter⟩ := hvalue
    rw [List.forall₂_nil_left_iff.1 hothers] at hfilter
    cases hname
    cases hv.symm.trans hnumber
    exact ⟨hfilter, hn⟩

section
variable {depth : Nat} {place inside rest : Place} {n : Nat}

/-- In an object the total is that of its members. -/
theorem readTotal_eq_ok_iff_of_brace (hopen : Json.skipBetween place = '{' :: inside) :
    readTotal depth place = .ok (n, rest) ↔
      ∃ pairs, Json.readPairs (Json.readValue (depth - 1)) inside = .ok (pairs, rest) ∧
        totalOfPairs pairs = some n := by
  rw [readTotal, hopen]
  refine bind_eq_ok_iff.trans ?_
  constructor
  · rintro ⟨⟨pairs, _⟩, hpairs, htotal⟩
    dsimp only at htotal
    split at htotal
    · next hn =>
      cases htotal
      exact ⟨pairs, hpairs, hn⟩
    · cases htotal
  · rintro ⟨pairs, hpairs, hn⟩
    refine ⟨_, hpairs, ?_⟩
    dsimp only
    rw [hn]

/-- What is no object is read as a number. -/
theorem readTotal_eq_ok_iff_of_ne (hother : ∀ inside, Json.skipBetween place ≠ '{' :: inside) :
    readTotal depth place = .ok (n, rest) ↔
      ∃ v, Json.readValue depth place = .ok (v, rest) ∧ v.count? = some n := by
  unfold readTotal
  split
  · next hopen => exact absurd hopen (hother _)
  · rw [Json.readValue_skipBetween]
    refine bind_eq_ok_iff.trans ?_
    constructor
    · rintro ⟨⟨v, _⟩, hv, htotal⟩
      dsimp only at htotal
      split at htotal
      · next hcount =>
        cases htotal
        exact ⟨v, hv, hcount⟩
      · cases htotal
    · rintro ⟨v, hv, hcount⟩
      refine ⟨_, hv, ?_⟩
      dsimp only
      rw [hcount]

end

/-- A total is read where one stands. -/
theorem readsAt_readTotal_iff {place : Place} {n : Nat} :
    ReadsAt (readTotal (Json.defaultDepth - 2)) place n ↔ TotalAt place n := by
  constructor
  · rintro ⟨rest, hread⟩
    by_cases hbrace : ∃ inside, Json.skipBetween place = '{' :: inside
    · obtain ⟨inside, hopen⟩ := hbrace
      obtain ⟨pairs, hpairs, htotal⟩ := (readTotal_eq_ok_iff_of_brace hopen).1 hread
      obtain ⟨parts, hparts, hvalues⟩ := (Json.readPairs_eq_ok_iff Json.ends_readValue).1 hpairs
      obtain ⟨value, hvalue, hnumber, hn⟩ := (totalOfPairs_eq_some_iff_of_parts hvalues).1 htotal
      refine .object ⟨inside, hopen, hparts⟩ (fun part hpart => ?_) hvalue hnumber hn
      obtain ⟨pair, -, -, hv⟩ := exists_of_mem_of_forall₂ hvalues hpart
      exact ⟨pair.2, hv⟩
    · obtain ⟨v, hv, hcount⟩ := (readTotal_eq_ok_iff_of_ne (not_exists.1 hbrace)).1 hread
      obtain ⟨rfl, hn⟩ := Json.count_eq_some_iff.1 hcount
      exact .number ⟨rest, hv⟩ hn
  · intro h
    cases h with
    | number hnumber hn =>
      have hother : ∀ inside, Json.skipBetween place ≠ '{' :: inside :=
        fun _ => skipBetween_ne_of_number hnumber
      obtain ⟨rest, hnumber⟩ := hnumber
      exact ⟨rest, (readTotal_eq_ok_iff_of_ne hother).2
        ⟨_, hnumber, Json.count_eq_some_iff.2 ⟨rfl, hn⟩⟩⟩
    | @object parts rest value hobject hparts hvalue hnumber hn =>
      obtain ⟨inside, hopen, hmembers⟩ := hobject
      obtain ⟨pairs, hpairs⟩ : ∃ pairs, List.Forall₂ (Json.PairAt (Json.readValue _)) parts pairs :=
        exists_forall₂ fun part hpart =>
          have ⟨v, hv⟩ := hparts part hpart
          ⟨(part.1, v), rfl, hv⟩
      have hread := (Json.readPairs_eq_ok_iff Json.ends_readValue).2 ⟨parts, hmembers, hpairs⟩
      have htotal := (totalOfPairs_eq_some_iff_of_parts hpairs).2 ⟨value, hvalue, hnumber, hn⟩
      exact ⟨rest, (readTotal_eq_ok_iff_of_brace hopen).2 ⟨pairs, hread, htotal⟩⟩

/-- No total starts as null does. -/
theorem head_of_totalAt {place : Place} {n : Nat} (h : TotalAt place n) :
    (Json.skipBetween place).head? ≠ some 'n' := by
  cases h with
  | number hnumber =>
    obtain ⟨rest, hnumber⟩ := hnumber
    exact mt (Json.head_of_readValue hnumber).1 (by simp [Json.nat])
  | object hobject =>
    obtain ⟨inside, hopen, -⟩ := hobject
    simp [hopen]

theorem totalAt_iff {place : Place} {n : Nat} :
    TotalAt place n ↔ (Json.skipBetween place).head? ≠ some 'n' ∧
      ReadsAt (readTotal (Json.defaultDepth - 2)) (Json.skipBetween place) n := by
  have hblanks : readTotal (Json.defaultDepth - 2) (Json.skipBetween place)
      = readTotal (Json.defaultDepth - 2) place := by
    unfold readTotal
    rw [Json.skipBetween_skipBetween]
  rw [ReadsAt, hblanks]
  exact ⟨fun h => ⟨head_of_totalAt h, readsAt_readTotal_iff.2 h⟩,
    fun h => readsAt_readTotal_iff.1 h.2⟩

/-- A total is a value that ends where it is read to end. -/
theorem ends_readTotal {depth : Nat} : Json.Ends (readTotal depth) := by
  intro place n rest h
  by_cases hbrace : ∃ inside, Json.skipBetween place = '{' :: inside
  · obtain ⟨inside, hopen⟩ := hbrace
    obtain ⟨pairs, hpairs, -⟩ := (readTotal_eq_ok_iff_of_brace hopen).1 h
    obtain ⟨parts, hparts, -⟩ := (Json.readPairs_eq_ok_iff Json.ends_readValue).1 hpairs
    exact ObjectAt.endsAt ⟨inside, hopen, hparts⟩
  · obtain ⟨v, hv, -⟩ := (readTotal_eq_ok_iff_of_ne (not_exists.1 hbrace)).1 h
    exact Json.endsAt_of_readValue hv

/-- The fields of the hits. -/
theorem isRecord_fields {depth : Nat} : Json.IsRecord (fields depth) :=
  Json.isRecord_pair (by simp) (Json.ends_readOptional ends_readTotal)
    (Json.ends_readList HitAnswer.ends_read) fun _ _ _ => rfl

/-- Hits are read from a list, each at its own place, and their documents are those that stand
there. -/
theorem documentsAt_iff {parts : List (String × Place)} {total : Option Nat}
    {documents : List Json} :
    DocumentsAt parts documents ↔ ∃ hits,
      RecordField.fill ⟨"hits", Json.readList (HitAnswer.read (Json.defaultDepth - 3)),
          fun h hits => { h with hits }⟩ parts (⟨total, []⟩ : HitsAnswer) = some ⟨total, hits⟩ ∧
        hits.map (fun hit => hit.source.getD .null) = documents := by
  have hhits : ∀ {items : List Place}, List.Forall₂ HitAt items documents ↔ ∃ hits,
      List.Forall₂ (ReadsAt (HitAnswer.read (Json.defaultDepth - 3))) items hits ∧
        hits.map (fun hit => hit.source.getD .null) = documents := by
    intro items
    rw [← forall₂_map_iff]
    simp only [HitAnswer.exists_readsAt_iff]
  constructor
  · intro h
    cases h with
    | missing hmissing => exact ⟨[], Json.fill_eq_some_iff.2 (.inl ⟨hmissing, rfl⟩), rfl⟩
    | list hplace hlist hdocuments =>
      obtain ⟨hits, hread, rfl⟩ := hhits.1 hdocuments
      have hread := (Json.readList_eq_ok_iff HitAnswer.ends_read).2 ⟨_, hlist, hread⟩
      exact ⟨hits, Json.fill_eq_some_iff.2 (.inr ⟨_, hits, hplace, ⟨_, hread⟩, rfl⟩), rfl⟩
  · rintro ⟨hits, hfill, hdocuments⟩
    rcases Json.fill_eq_some_iff.1 hfill with
      ⟨hmissing, hsame⟩ | ⟨place, x, hplace, ⟨rest, hread⟩, hsame⟩
    · cases hsame
      cases hdocuments
      exact .missing hmissing
    · cases hsame
      obtain ⟨items, hlist, hread⟩ := (Json.readList_eq_ok_iff HitAnswer.ends_read).1 hread
      exact .list hplace hlist (hhits.2 ⟨_, hread, hdocuments⟩)

/-- The hits are read where they stand. -/
theorem exists_readsAt_iff {place : Place} {hits : Hits} :
    (∃ h, ReadsAt (read (Json.defaultDepth - 1)) place h ∧ h.toHits = hits) ↔
      HitsAt place hits := by
  constructor
  · rintro ⟨⟨total, hits⟩, ⟨rest, hread⟩, rfl⟩
    obtain ⟨parts, hparts, hfill⟩ := (Json.readRecord_eq_ok_iff isRecord_fields).1 hread
    rw [fields, Json.fillAll_pair] at hfill
    obtain ⟨t, htotal, hhits⟩ := hfill
    obtain ⟨n, hn, rfl⟩ := (fill_optional_iff 2 rfl totalAt_iff).1 htotal
    have hsame : n = total := by
      rcases Json.fill_eq_some_iff.1 hhits with ⟨-, hsame⟩ | ⟨_, _, _, _, hsame⟩
      · exact congrArg HitsAnswer.total hsame
      · exact congrArg HitsAnswer.total hsame
    subst hsame
    refine ⟨parts, rest, n, hparts, hn, documentsAt_iff.2 ⟨hits, hhits, rfl⟩, ?_⟩
    simp [toHits]
  · rintro ⟨parts, rest, total, hparts, htotal, hdocuments, hcount⟩
    obtain ⟨hits', hfill, hsame⟩ := documentsAt_iff.1 hdocuments
    have hfields : Json.fillAll (fields (Json.defaultDepth - 2)) parts ⟨none, []⟩
        = some ⟨total, hits'⟩ := Json.fillAll_pair.2 ⟨⟨total, []⟩,
      (fill_optional_iff 2 rfl totalAt_iff).2 ⟨total, htotal, rfl⟩, hfill⟩
    have hread := (Json.readRecord_eq_ok_iff isRecord_fields).2 ⟨parts, hparts, hfields⟩
    refine ⟨⟨total, hits'⟩, ⟨rest, hread⟩, ?_⟩
    obtain ⟨count, documents⟩ := hits
    cases hsame
    simpa [toHits] using hcount.symm

end HitsAnswer

namespace SearchAnswer

/-- Hits do not start as null does. -/
theorem head_of_hitsAt {place : Place} {hits : Hits} (h : HitsAt place hits) :
    (Json.skipBetween place).head? ≠ some 'n' := by
  obtain ⟨parts, rest, total, hparts, -⟩ := h
  rcases hparts with ⟨⟨inside, hopen, -⟩, -⟩ | ⟨⟨inside, hopen, -⟩, -⟩ <;> simp [hopen]

/-- The fields of an answer to a search. -/
theorem isRecord_fields {depth : Nat} : Json.IsRecord (fields depth) :=
  Json.isRecord_pair (by simp)
    (Json.ends_readOptional (Json.ends_readRecord HitsAnswer.isRecord_fields))
    (Json.ends_readOptional Json.ends_readObject) fun _ _ _ => rfl

/-- A body is read as the answer to a search that it is. -/
theorem exists_ofBytes_iff {body : List UInt8} {hits : Option Hits}
    {aggregations : Option (Keyed Json)} :
    (∃ a, ofBytes body = .ok a ∧ a.hits.map HitsAnswer.toHits = hits ∧
      a.aggregations = aggregations) ↔ SearchBody body hits aggregations := by
  have hblanks : ∀ {place}, HitsAnswer.read (Json.defaultDepth - 1) (Json.skipBetween place)
      = HitsAnswer.read (Json.defaultDepth - 1) place := by
    intro place
    unfold HitsAnswer.read Json.readRecord
    rw [Json.skipBetween_skipBetween]
  have hstands : ∀ {place h}, ReadsAt (HitsAnswer.read (Json.defaultDepth - 1)) place h ↔
      (Json.skipBetween place).head? ≠ some 'n' ∧
        ReadsAt (HitsAnswer.read (Json.defaultDepth - 1)) (Json.skipBetween place) h := by
    intro place h
    rw [ReadsAt, ReadsAt, hblanks]
    exact ⟨fun hread => ⟨head_of_hitsAt (HitsAnswer.exists_readsAt_iff.1 ⟨h, hread, rfl⟩), hread⟩,
      fun hread => hread.2⟩
  have hhits : ∀ {parts}, OptionalAt 1 parts "hits" HitsAt hits ↔
      ∃ x, OptionalAt 1 parts "hits" (ReadsAt (HitsAnswer.read (Json.defaultDepth - 1))) x ∧
        x.map HitsAnswer.toHits = hits := by
    intro parts
    rw [← optionalAt_map_iff]
    simp only [HitsAnswer.exists_readsAt_iff]
  constructor
  · rintro ⟨⟨h, _⟩, hbody, rfl, rfl⟩
    obtain ⟨parts, hparts, hfill⟩ := (finish_readRecord_eq_ok_iff isRecord_fields).1 hbody
    rw [fields, Json.fillAll_pair] at hfill
    obtain ⟨t, hfirst, hsecond⟩ := hfill
    obtain ⟨x, hx, rfl⟩ := (fill_optional_iff 1 rfl hstands).1 hfirst
    obtain ⟨y, hy, hsame⟩ := (fill_optional_iff 1 rfl (valueAt_obj_iff 1 rfl)).1 hsecond
    cases hsame
    exact ⟨parts, hparts, hhits.2 ⟨x, hx, rfl⟩, hy⟩
  · rintro ⟨parts, hparts, hhits', haggregations⟩
    obtain ⟨x, hx, rfl⟩ := hhits.1 hhits'
    have hfields : Json.fillAll (fields (Json.defaultDepth - 1)) parts ⟨none, none⟩
        = some ⟨x, aggregations⟩ := Json.fillAll_pair.2 ⟨⟨x, none⟩,
      (fill_optional_iff 1 rfl hstands).2 ⟨x, hx, rfl⟩,
      (fill_optional_iff 1 rfl (valueAt_obj_iff 1 rfl)).2 ⟨aggregations, haggregations, rfl⟩⟩
    exact ⟨⟨x, aggregations⟩,
      (finish_readRecord_eq_ok_iff isRecord_fields).2 ⟨parts, hparts, hfields⟩, rfl, rfl⟩

end SearchAnswer

end TypedSearch
