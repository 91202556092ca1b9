import Mathlib.Data.List.Induction
import TypedSearch.Proofs.Text.Percent
import TypedSearch.Url.Parts
/-!
# `TypedSearch.Proofs.Url.Segments`: texts as segments of a path

Texts are added to a path one by one. A text that is a step of a path is no segment there, and some
characters are dropped, so that another text stands where this one should. In front of the path of a
file a drive is written with a colon, also where the text has a bar. All other texts are told by
their segments.

* `addSegment_eq`: one text, by what is left of it without the characters that are dropped.
* `addSegment_cases`: all that a text may do to a path, from which follow `keeps_of_addSegment` and
  `length_addSegment_le`.
* `length_bare_foldl_le`: each text adds one segment at most, by induction on the texts.
* `keeps_of_foldl_addSegment`: texts add one each only where they are kept.
* `foldl_addText_cases`: texts are added to the path of a URL as to any path, unless they put a
  drive in front.
* `extends_withSegments_iff`: when a URL has one segment for each text.
-/

set_option autoImplicit false

namespace TypedSearch.Url

open Text.Percent (decode encode inSegment)

/-! ### One text -/

/-- The path without the one empty segment that stands for none. -/
def bare (path : List (List Char)) : List (List Char) := if path = [[]] then [] else path

/-- The segments in the path of a URL that others are added behind. -/
def kept (u : Url) : List (List Char) := bare (popIfEmpty u.path)

/-- The text is kept in a path: it is no step to a directory, and none of its characters are
dropped. -/
def Keeps (s : String) : Prop := s ≠ "." ∧ s ≠ ".." ∧ s.toList.any isDropped = false

instance (s : String) : Decidable (Keeps s) :=
  inferInstanceAs (Decidable (s ≠ "." ∧ s ≠ ".." ∧ s.toList.any isDropped = false))

theorem length_bare_le (path : List (List Char)) : (bare path).length ≤ path.length := by
  rw [bare]
  split <;> simp

theorem length_le_bare (path : List (List Char)) : path.length ≤ (bare path).length + 1 := by
  rw [bare]
  split
  · next h => rw [h]; simp
  · omega

theorem bare_of_ne {path : List (List Char)} (h : path ≠ [[]]) : bare path = path := if_neg h

/-- A percent sign is encoded in a segment. -/
theorem inSegment_percent (web : Bool) : inSegment web '%' = true := by
  cases web <;> decide

/-- A text without bytes is empty. -/
theorem eq_empty_of_bytes {s : String} (h : [] = Text.bytes s.toList) : s = "" :=
  String.toList_inj.1 (Text.bytes_injective (show Text.bytes [] = _ from h)).symm

/-- A step of a path is one in its encoded form, and nothing else is. -/
theorem map_toLower_encode_mem_iff {web : Bool} {cs : List Char} :
    ((encode (inSegment web) cs).map Char.toLower ∈ sameDirectory ↔ cs = ['.']) ∧
      ((encode (inSegment web) cs).map Char.toLower ∈ directoryAbove ↔ cs = ['.', '.']) := by
  have hvariants := Text.Percent.mem_sections_toLower (encode (inSegment web) cs)
  have hbytes := Text.Percent.decode_encode (inSegment_percent web) cs
  -- However a step is written, it stands for the bytes of its points.
  have hsame : ∀ x ∈ sameDirectory, ∀ w ∈ (x.map fun d => [d, d.toUpper]).sections,
      decode w = Text.bytes ['.'] := by decide
  have habove : ∀ x ∈ directoryAbove, ∀ w ∈ (x.map fun d => [d, d.toUpper]).sections,
      decode w = Text.bytes ['.', '.'] := by decide
  refine ⟨⟨fun h => ?_, ?_⟩, ⟨fun h => ?_, ?_⟩⟩
  · exact Text.bytes_injective (hbytes.symm.trans (hsame _ h _ hvariants))
  · rintro rfl
    cases web <;> decide
  · exact Text.bytes_injective (hbytes.symm.trans (habove _ h _ hvariants))
  · rintro rfl
    cases web <;> decide

/-- A text is added as what is left of it, which may still be a step. -/
theorem addSegment_eq {web : Bool} {path : List (List Char)} {s : String} (hsame : s ≠ ".")
    (habove : s ≠ "..") :
    addSegment web path s
      = if unbroken s.toList = ['.', '.'] then shorten (bare path) ++ [[]]
        else if unbroken s.toList = ['.'] then bare path ++ [[]]
        else bare path ++ [encode (inSegment web) (unbroken s.toList)] := by
  rw [addSegment, if_neg (not_or.2 ⟨hsame, habove⟩)]
  simp only [addWritten, map_toLower_encode_mem_iff, if_true, bare]

/-- A text that is kept is added as it is. -/
theorem addSegment_of_keeps {web : Bool} {path : List (List Char)} {s : String} (h : Keeps s) :
    addSegment web path s = bare path ++ [encode (inSegment web) s.toList] := by
  obtain ⟨hsame, habove, hchars⟩ := h
  have hall : unbroken s.toList = s.toList :=
    List.filter_eq_self.2 fun c hc => by simpa using List.any_eq_false.1 hchars c hc
  rw [addSegment_eq hsame habove, hall, if_neg, if_neg]
  · exact fun h => hsame (String.toList_inj.1 h)
  · exact fun h => habove (String.toList_inj.1 h)

/-- A text leaves the path as it is, or adds an empty segment to what is left of the path, or adds
what is left of the text. It is kept in the last case only, and only if all of it is left. -/
theorem addSegment_cases (web : Bool) (path : List (List Char)) (s : String) :
    ((s = "." ∨ s = "..") ∧ addSegment web path s = path) ∨
      (s ≠ "" ∧ ∃ front, front.length ≤ (bare path).length ∧
        addSegment web path s = front ++ [[]]) ∨
      ∃ cs, addSegment web path s = bare path ++ [encode (inSegment web) cs] ∧
        (cs = s.toList → Keeps s) := by
  by_cases hstep : s = "." ∨ s = ".."
  · exact .inl ⟨hstep, by rw [addSegment, if_pos hstep]⟩
  · refine .inr ?_
    obtain ⟨hsame, habove⟩ := not_or.1 hstep
    rw [addSegment_eq hsame habove]
    -- No character is left of an empty text, so that no step is left of it either.
    have hempty : unbroken s.toList ≠ [] → s ≠ "" := by
      rintro hleft rfl
      exact hleft rfl
    split
    · next hdots =>
      refine .inl ⟨hempty (by rw [hdots]; simp), shorten (bare path), ?_, rfl⟩
      rw [shorten]
      split
      · split <;> simp
      · simp
    · split
      · next hdot =>
        exact .inl ⟨hempty (by rw [hdot]; simp), bare path, Nat.le_refl _, rfl⟩
      · refine .inr ⟨_, rfl, fun hall => ⟨hsame, habove, List.any_eq_false.2 fun c hc => ?_⟩⟩
        simpa using List.filter_eq_self.1 hall c hc

/-- The last segment of a path to which a text was added stands for the text only if the text is
kept, unless the segment was there before. -/
theorem keeps_of_addSegment {web : Bool} {path before : List (List Char)} {s : String}
    {last : List Char} (h : addSegment web path s = before ++ [last])
    (hlast : decode last = Text.bytes s.toList) :
    bare path = before ++ [last] ∨ (Keeps s ∧ bare path = before) := by
  have hempty : last = [] → s = "" := by
    rintro rfl
    exact eq_empty_of_bytes hlast
  rcases addSegment_cases web path s with ⟨hstep, hpath⟩ | ⟨hne, front, -, hpath⟩ | ⟨cs, hpath, hcs⟩
  · refine .inl ?_
    rw [hpath] at h
    rw [bare_of_ne, h]
    rw [h]
    intro hone
    obtain ⟨-, hnil⟩ : before = [] ∧ [last] = [[]] := List.append_inj' hone rfl
    rw [hempty (List.singleton_inj.1 hnil)] at hstep
    revert hstep
    decide
  · obtain ⟨-, hnil⟩ := List.append_inj' (hpath.symm.trans h) rfl
    exact absurd (hempty (List.singleton_inj.1 hnil).symm) hne
  · obtain ⟨hbefore, hsegment⟩ := List.append_inj' (hpath.symm.trans h) rfl
    cases hsegment
    rw [Text.Percent.decode_encode (inSegment_percent web)] at hlast
    exact .inr ⟨hcs (Text.bytes_injective hlast), hbefore⟩

/-- A text adds one segment at most. -/
theorem length_addSegment_le (web : Bool) (path : List (List Char)) (s : String) :
    (addSegment web path s).length ≤ (bare path).length + 1 := by
  rcases addSegment_cases web path s with ⟨-, hpath⟩ | ⟨-, front, hfront, hpath⟩ | ⟨cs, hpath, -⟩
  · rw [hpath]
    exact length_le_bare path
  · rw [hpath, List.length_append, List.length_singleton]
    omega
  · refine Nat.le_of_eq ?_
    rw [hpath, List.length_append, List.length_singleton]

/-! ### Several texts -/

/-- Texts add one segment each at most. -/
theorem length_bare_foldl_le (web : Bool) (path : List (List Char)) (texts : List String) :
    (bare (texts.foldl (addSegment web) path)).length ≤ (bare path).length + texts.length := by
  induction texts generalizing path with
  | nil => exact Nat.le_refl _
  | cons s texts ih =>
    have hfirst := Nat.le_trans (length_bare_le _) (length_addSegment_le web path s)
    have hrest := ih (addSegment web path s)
    rw [List.foldl_cons, List.length_cons]
    omega

/-- A path to which texts were added ends with their segments only if all texts are kept. -/
theorem keeps_of_foldl_addSegment {web : Bool} {path parts : List (List Char)}
    {texts : List String}
    (h : texts.foldl (addSegment web) path = bare path ++ parts)
    (hparts : parts.map decode = texts.map fun s => Text.bytes s.toList) :
    ∀ s ∈ texts, Keeps s := by
  -- The last text is the one whose segment is the last of the path.
  induction texts using List.reverseRecOn generalizing parts with
  | nil => simp
  | append_singleton texts s ih =>
    rw [List.map_append, List.map_singleton] at hparts
    obtain ⟨front, last, rfl, hfront, hlast⟩ := List.map_eq_append_iff.1 hparts
    obtain ⟨last, rfl⟩ : ∃ x, last = [x] := by
      rw [List.map_eq_singleton_iff] at hlast
      obtain ⟨x, hx, -⟩ := hlast
      exact ⟨x, hx⟩
    rw [List.map_singleton, List.singleton_inj] at hlast
    have hlength : front.length = texts.length := by simpa using congrArg List.length hfront
    rw [List.foldl_append, List.foldl_cons, List.foldl_nil, ← List.append_assoc] at h
    rcases keeps_of_addSegment h hlast with hsame | ⟨hs, hbare⟩
    · -- The texts in front would have to make up for a text that adds nothing.
      have hshort := length_bare_foldl_le web path texts
      rw [hsame, List.length_append, List.length_append, hlength, List.length_singleton] at hshort
      omega
    · rw [List.forall_mem_append, List.forall_mem_singleton]
      refine ⟨?_, hs⟩
      cases texts with
      | nil => simp
      | cons t texts =>
        refine ih ?_ hfront
        rw [← hbare, bare_of_ne]
        intro hone
        rw [hone] at hbare
        obtain ⟨-, rfl⟩ := List.append_eq_nil_iff.1 hbare.symm
        cases hlength

/-! ### Drives -/

/-- A letter is left as it is in a segment. -/
theorem inSegment_of_isAlpha {a : Char} (ha : a.isAlpha = true) (web : Bool) :
    inSegment web a = false ∧ isDropped a = false := by
  have hall : ∀ n < 123, (Char.ofNat n).isAlpha = true →
      ∀ web, inSegment web (Char.ofNat n) = false ∧ isDropped (Char.ofNat n) = false := by decide
  have hlt : a.toNat < 123 := by
    rcases Bool.or_eq_true_iff.1 ha with hupper | hlower
    · have hle : a.val ≤ 90 := (of_decide_eq_true hupper : _ ∧ _).2
      exact Nat.lt_of_le_of_lt (UInt32.le_iff_toNat_le.1 hle) (by decide)
    · have hle : a.val ≤ 122 := of_decide_eq_true (Bool.and_eq_true_iff.1 hlower).2
      exact Nat.lt_of_le_of_lt (UInt32.le_iff_toNat_le.1 hle) (by decide)
  have ha' := hall a.toNat hlt
  rw [Char.ofNat_toNat] at ha'
  exact ha' ha web

/-- A drive is written as it is in a segment. -/
theorem encode_drive {a : Char} (ha : a.isAlpha = true) (web : Bool) :
    encode (inSegment web) [a, ':'] = [a, ':'] ∧ encode (inSegment web) [a, '|'] = [a, '|'] := by
  have hfree := (inSegment_of_isAlpha ha web).1
  have hmarks : inSegment web ':' = false ∧ inSegment web '|' = false := by cases web <;> decide
  simp [encode, hfree, hmarks]

/-- A drive is added to a path as it is. -/
theorem addSegment_drive {web : Bool} {path : List (List Char)} {s : String} {a : Char}
    (ha : a.isAlpha = true) (hs : s.toList = [a, ':']) :
    addSegment web path s = bare path ++ [[a, ':']] := by
  have hkept := (inSegment_of_isAlpha ha web).2
  have hkeeps : Keeps s := by
    refine ⟨?_, ?_, ?_⟩
    · rintro rfl
      cases hs
    · rintro rfl
      cases hs
    · rw [hs, List.any_cons, hkept]
      rfl
  rw [addSegment_of_keeps hkeeps, hs, (encode_drive ha web).1]

/-- A drive is a letter with its mark. -/
theorem isDrive_iff {cs : List Char} :
    isDrive cs = true ↔ ∃ a, a.isAlpha = true ∧ (cs = [a, ':'] ∨ cs = [a, '|']) := by
  constructor
  · intro h
    unfold isDrive at h
    split at h
    · next a b =>
      obtain ⟨ha, hb⟩ := Bool.and_eq_true_iff.1 h
      simp only [Bool.or_eq_true, decide_eq_true_eq] at hb
      exact ⟨a, ha, hb.imp (fun h => by rw [h]) (fun h => by rw [h])⟩
    · cases h
  · rintro ⟨a, ha, rfl | rfl⟩ <;> simp [isDrive, ha]

/-- A text that is written as a drive is the drive. -/
theorem eq_of_encode_eq_drive {web : Bool} {cs : List Char} {a : Char} (ha : a.isAlpha = true) :
    (encode (inSegment web) cs = [a, ':'] → cs = [a, ':']) ∧
      (encode (inSegment web) cs = [a, '|'] → cs = [a, '|']) := by
  have hsame : ∀ {drive}, encode (inSegment web) drive = drive → encode (inSegment web) cs = drive →
      cs = drive := by
    intro drive hdrive hcs
    have hbytes := Text.Percent.decode_encode (inSegment_percent web) cs
    rw [hcs, ← hdrive, Text.Percent.decode_encode (inSegment_percent web)] at hbytes
    exact (Text.bytes_injective hbytes).symm
  exact ⟨hsame (encode_drive ha web).1, hsame (encode_drive ha web).2⟩

/-- The path that a text starts on a drive has the drive in front, and nothing else where the text
is the drive. A text that is not the drive has a bar for the colon, or characters that are
dropped. -/
theorem drivePath_cases {cs : List Char} {path : List (List Char)} (h : drivePath? cs = some path) :
    ∃ a rest, a.isAlpha = true ∧ path = [a, ':'] :: rest ∧ (cs = [a, ':'] → rest = []) ∧
      (cs.any isDropped = true ∨ cs = [a, ':'] ∨ cs = [a, '|']) := by
  rw [drivePath?] at h
  cases hparted : partedDrive? cs with
  | some parts =>
    obtain ⟨drive, rest⟩ := parts
    rw [hparted] at h
    obtain rfl := Option.some.inj h
    simp only [partedDrive?, Option.ite_none_right_eq_some, Option.some.injEq,
      Prod.mk.injEq] at hparted
    obtain ⟨⟨hdrive, hcolon, hbroken, -⟩, rfl, rfl⟩ := hparted
    obtain ⟨a, ha, hab⟩ := isDrive_iff.1 hdrive
    have hcolon : (unbroken cs).take 2 = [a, ':'] := by
      rcases hab with hab | hab
      · exact hab
      · rw [hab] at hcolon
        cases hcolon
    rw [hcolon]
    obtain ⟨c, hc, hdropped⟩ := (Option.any_eq_true _ _).1 hbroken
    have hmem : c ∈ cs :=
      (List.dropWhile_sublist _).mem ((List.drop_sublist 1 _).mem (List.mem_of_mem_head? hc))
    refine ⟨a, _, ha, rfl, ?_, .inl (List.any_eq_true.2 ⟨c, hmem, hdropped⟩)⟩
    -- Nothing in the drive itself is dropped.
    rintro rfl
    rcases List.mem_cons.1 hmem with rfl | hmem
    · rw [(inSegment_of_isAlpha ha true).2] at hdropped
      cases hdropped
    · rw [List.mem_singleton.1 hmem] at hdropped
      cases hdropped
  | none =>
    rw [hparted] at h
    obtain ⟨hdrive, hpath⟩ := Option.ite_none_right_eq_some.1 h
    obtain ⟨a, ha, hab⟩ := isDrive_iff.1 hdrive
    have hcs : unbroken cs = [a, ':'] ∨ unbroken cs = [a, '|'] :=
      hab.imp (eq_of_encode_eq_drive ha).1 (eq_of_encode_eq_drive ha).2
    refine ⟨a, [], ha, ?_, fun _ => rfl, ?_⟩
    · rw [← Option.some.inj hpath]
      rcases hab with hab | hab <;> rw [hab] <;> rfl
    · by_cases hdropped : cs.any isDropped = true
      · exact .inl hdropped
      · have hall : unbroken cs = cs := by
          rw [unbroken, List.filter_eq_self]
          simpa using hdropped
        rw [hall] at hcs
        exact .inr hcs

/-- A text is added to the path of a URL as to any path, or it starts the path of a file with a
drive that is not the text. -/
theorem addText_cases (scheme : List Char) (path : List (List Char)) (s : String) :
    addText scheme path s = addSegment (isWeb scheme) path s ∨
      ∃ a rest, a.isAlpha = true ∧ bare path = [] ∧ addText scheme path s = [a, ':'] :: rest ∧
        s.toList ≠ [a, ':'] ∧
        (Keeps s → scheme = fileScheme ∧ s.toList = [a, '|']) := by
  simp only [addText]
  split
  · next h =>
    have hbare : bare path = [] := by
      rcases h.2 with rfl | rfl <;> rfl
    cases hdrive : drivePath? s.toList with
    | none => exact .inl rfl
    | some path' =>
      obtain ⟨a, rest, ha, rfl, hrest, htext⟩ := drivePath_cases hdrive
      by_cases hs : s.toList = [a, ':']
      · refine .inl ?_
        rw [addSegment_drive ha hs, hbare, hrest hs]
        rfl
      · refine .inr ⟨a, rest, ha, hbare, rfl, hs, fun hkeeps => ⟨h.1, ?_⟩⟩
        rw [hkeeps.2.2] at htext
        simpa [hs] using htext
  · exact .inl rfl

/-- A drive in front of a path stays there. -/
theorem head_addSegment {web : Bool} {path : List (List Char)} {s : String} {a : Char}
    (ha : a.isAlpha = true) (h : path.head? = some [a, ':']) :
    (addSegment web path s).head? = some [a, ':'] := by
  have hdrive : hasDrive [a, ':'] = true := by simp [hasDrive, isDrive, ha]
  have hbare : bare path = path := bare_of_ne fun hone => by rw [hone] at h; cases h
  have hshorten : (shorten path).head? = some [a, ':'] := by
    obtain ⟨rest, rfl⟩ := List.head?_eq_some_iff.1 h
    rw [shorten]
    cases rest with
    | nil => simp [hdrive]
    | cons x rest =>
      rw [List.getLast?_cons_cons]
      split
      · split <;> rfl
      · next hnone => simp at hnone
  have happend : ∀ {front : List (List Char)} (x : List Char), front.head? = some [a, ':'] →
      (front ++ [x]).head? = some [a, ':'] := by
    intro front x hfront
    rw [List.head?_append, hfront]
    rfl
  by_cases hstep : s = "." ∨ s = ".."
  · rw [addSegment, if_pos hstep, h]
  · obtain ⟨hsame, habove⟩ := not_or.1 hstep
    rw [addSegment_eq hsame habove, hbare]
    split
    · exact happend _ hshorten
    · split <;> exact happend _ h

/-- A drive in front of the path of a URL stays there. -/
theorem head_foldl_addText (scheme : List Char) {path : List (List Char)} {a : Char}
    (ha : a.isAlpha = true) (h : path.head? = some [a, ':']) (texts : List String) :
    (texts.foldl (addText scheme) path).head? = some [a, ':'] := by
  induction texts generalizing path with
  | nil => exact h
  | cons s texts ih =>
    refine ih ?_
    rcases addText_cases scheme path s with hplain | ⟨b, rest, -, hbare, -, -, -⟩
    · rw [hplain]
      exact head_addSegment ha h
    · -- The path is not empty, as it has the drive.
      rw [bare] at hbare
      split at hbare
      · next hone =>
        rw [hone] at h
        cases h
      · rw [hbare] at h
        cases h

/-- Texts are added to the path of a URL as to any path, or a drive is put in front which is neither
in front of the path nor the first of the texts. -/
theorem foldl_addText_cases (scheme : List Char) (path : List (List Char)) (texts : List String) :
    texts.foldl (addText scheme) path = texts.foldl (addSegment (isWeb scheme)) path ∨
      ∃ a rest, a.isAlpha = true ∧ texts.foldl (addText scheme) path = [a, ':'] :: rest ∧
        (bare path).head? ≠ some [a, ':'] ∧
        (bare path = [] → ∀ s ∈ texts.head?, s.toList ≠ [a, ':']) := by
  induction texts generalizing path with
  | nil => exact .inl rfl
  | cons s texts ih =>
    rcases addText_cases scheme path s with hplain | ⟨a, rest, ha, hbare, hdrive, hs, -⟩
    · rw [List.foldl_cons, List.foldl_cons, hplain]
      refine (ih _).imp_right ?_
      rintro ⟨a, rest, ha, hfold, hhead, -⟩
      -- A drive that was in front before the first text would be there behind it.
      have hstays : (addSegment (isWeb scheme) path s).head? ≠ some [a, ':'] := by
        intro hdrive
        refine hhead ?_
        rwa [bare_of_ne]
        intro hone
        rw [hone] at hdrive
        cases hdrive
      refine ⟨a, rest, ha, hfold, fun hfront => hstays ?_, fun hnone t ht hdrive => hstays ?_⟩
      · have hpath : path.head? = some [a, ':'] := by
          rw [bare] at hfront
          split at hfront
          · cases hfront
          · exact hfront
        exact head_addSegment ha hpath
      · obtain rfl : s = t := Option.some.inj ht
        rw [addSegment_drive ha hdrive, hnone]
        rfl
    · refine .inr ⟨a, ?_⟩
      have hhead := head_foldl_addText scheme ha
        (show (addText scheme path s).head? = some [a, ':'] by rw [hdrive]; rfl) texts
      obtain ⟨rest', hrest'⟩ := List.head?_eq_some_iff.1 hhead
      refine ⟨rest', ha, hrest', by simp [hbare], fun _ t ht => ?_⟩
      obtain rfl : s = t := Option.some.inj ht
      exact hs

/-- A path that does not stand for none takes texts as any path. -/
theorem addText_of_ne {scheme : List Char} {path : List (List Char)} (hne : path ≠ [])
    (hpath : path ≠ [[]]) (s : String) :
    addText scheme path s = addSegment (isWeb scheme) path s := by
  rw [addText, if_neg (by simp [hne, hpath])]
  rfl

/-- Texts that are kept are added one by one to a path that does not stand for none. -/
theorem foldl_addText_of_keeps {scheme : List Char} {path : List (List Char)}
    {texts : List String} (hne : path ≠ []) (hpath : path ≠ [[]]) (h : ∀ s ∈ texts, Keeps s) :
    texts.foldl (addText scheme) path
      = path ++ texts.map fun s => encode (inSegment (isWeb scheme)) s.toList := by
  induction texts generalizing path with
  | nil => exact (List.append_nil path).symm
  | cons s texts ih =>
    obtain ⟨hs, htexts⟩ := List.forall_mem_cons.1 h
    have hlonger : path ++ [encode (inSegment (isWeb scheme)) s.toList] ≠ [[]] := by
      intro hone
      rw [List.append_eq_singleton_iff] at hone
      simp [hne] at hone
    rw [List.foldl_cons, addText_of_ne hne hpath, addSegment_of_keeps hs, bare_of_ne hpath,
      ih (by simp) hlonger htexts]
    simp

/-! ### URLs -/

/-- The URL is the base with one segment for each text behind the segments of its path: it stands
for the bytes of the text, and a reader of URLs finds no end of a segment in it. -/
def Extends (base : Url) (texts : List String) (u : Url) : Prop :=
  ∃ segments, u = { base with path := base.kept ++ segments } ∧
    segments.map decode = texts.map (fun s => Text.bytes s.toList) ∧
    ∀ segment ∈ segments, ∀ c ∈ segment, endsAuthority (isWeb base.scheme) c = false

/-- The text is a drive with a bar for the colon. -/
def IsBarred (s : String) : Prop := isDrive s.toList = true ∧ s.toList.getLast? = some '|'

instance (s : String) : Decidable (IsBarred s) :=
  inferInstanceAs (Decidable (isDrive s.toList = true ∧ s.toList.getLast? = some '|'))

/-- The text can be the first of several that are added to the URL: behind a path without segments,
an empty one would be taken for none, and the path of a file would start on a drive. -/
def Takes (base : Url) (s : String) : Prop :=
  Keeps s ∧ (base.kept = [] → s ≠ "" ∧ (base.scheme = fileScheme → ¬ IsBarred s))

instance (base : Url) (s : String) : Decidable (base.Takes s) :=
  inferInstanceAs (Decidable
    (Keeps s ∧ (base.kept = [] → s ≠ "" ∧ (base.scheme = fileScheme → ¬ IsBarred s))))

theorem isBarred_iff {s : String} : IsBarred s ↔ ∃ a, a.isAlpha = true ∧ s.toList = [a, '|'] := by
  rw [IsBarred, isDrive_iff]
  constructor
  · rintro ⟨⟨a, ha, hs | hs⟩, hlast⟩
    · rw [hs] at hlast
      cases hlast
    · exact ⟨a, ha, hs⟩
  · rintro ⟨a, ha, hs⟩
    exact ⟨⟨a, ha, .inr hs⟩, by rw [hs]; rfl⟩

/-- What ends a segment is encoded in it. -/
theorem endsAuthority_of_mem_encode {web : Bool} {cs : List Char} {c : Char}
    (h : c ∈ encode (inSegment web) cs) : endsAuthority web c = false := by
  rw [← Bool.not_eq_true]
  intro hends
  simp only [endsAuthority, isSlash, Bool.or_eq_true, Bool.and_eq_true, decide_eq_true_eq] at hends
  refine Text.Percent.not_mem_encode ?_ ?_ cs h
  · rcases hends with ((rfl | ⟨rfl, rfl⟩) | rfl) | rfl
    · cases web <;> decide
    · decide
    · cases web <;> decide
    · cases web <;> decide
  · rcases hends with ((rfl | ⟨-, rfl⟩) | rfl) | rfl <;> decide

/-- Texts that are kept are added one by one, if the first of them is taken. -/
theorem withSegments_of_takes {base : Url} {s t : String} {texts : List String}
    (hs : base.Takes s) (h : ∀ x ∈ t :: texts, Keeps x) :
    base.withSegments (s :: t :: texts) = { base with
      path := base.kept ++
        (s :: t :: texts).map fun x => encode (inSegment (isWeb base.scheme)) x.toList } := by
  obtain ⟨hkeeps, hfirst⟩ := hs
  have hpath : base.kept ++ [encode (inSegment (isWeb base.scheme)) s.toList] ≠ [[]] := by
    intro hone
    obtain ⟨hnone, hsegment⟩ : base.kept = [] ∧ [_] = [[]] := List.append_inj' hone rfl
    have hbytes := Text.Percent.decode_encode (inSegment_percent (isWeb base.scheme)) s.toList
    rw [List.singleton_inj.1 hsegment] at hbytes
    exact (hfirst hnone).1 (eq_empty_of_bytes hbytes)
  have hstart : addText base.scheme (popIfEmpty base.path) s
      = base.kept ++ [encode (inSegment (isWeb base.scheme)) s.toList] := by
    rcases addText_cases base.scheme (popIfEmpty base.path) s with
      hplain | ⟨a, -, ha, hnone, -, -, hbarred⟩
    · rw [hplain, addSegment_of_keeps hkeeps, kept]
    · -- The path would start on a drive that is written with a bar.
      obtain ⟨hfile, hs⟩ := hbarred hkeeps
      exact absurd (isBarred_iff.2 ⟨a, ha, hs⟩) ((hfirst hnone).2 hfile)
  rw [withSegments, List.foldl_cons, hstart, foldl_addText_of_keeps (by simp) hpath h,
    List.append_assoc]
  rfl

/-- A drive that is in front of a path behind its base, and not in front of the base, is the first
of the texts behind the base, and the base has no segments. -/
theorem eq_of_drive_in_front {front segments rest : List (List Char)} {texts : List String}
    {a : Char} (ha : a.isAlpha = true) (hpath : [a, ':'] :: rest = front ++ segments)
    (hfront : front.head? ≠ some [a, ':'])
    (hsegments : segments.map decode = texts.map fun s => Text.bytes s.toList) :
    front = [] ∧ ∃ s ∈ texts.head?, s.toList = [a, ':'] := by
  cases front with
  | cons x front =>
    obtain ⟨rfl, -⟩ := List.cons.inj hpath
    exact absurd rfl hfront
  | nil =>
    obtain rfl : [a, ':'] :: rest = segments := hpath
    cases texts with
    | nil => cases hsegments
    | cons s texts =>
      have hbytes : decode [a, ':'] = Text.bytes s.toList := (List.cons.inj hsegments).1
      rw [← (encode_drive ha true).1, Text.Percent.decode_encode (inSegment_percent true)] at hbytes
      exact ⟨rfl, s, rfl, (Text.bytes_injective hbytes).symm⟩

/-- Texts that are added to the path of a URL as one segment each are added as to any path. -/
theorem foldl_addSegment_of_foldl_addText {scheme : List Char} {path segments : List (List Char)}
    {texts : List String} (hpath : texts.foldl (addText scheme) path = bare path ++ segments)
    (hsegments : segments.map decode = texts.map fun s => Text.bytes s.toList) :
    texts.foldl (addSegment (isWeb scheme)) path = bare path ++ segments := by
  rcases foldl_addText_cases scheme path texts with
    hplain | ⟨a, rest, ha, hdrive, hhead, hfirst⟩
  · rw [← hplain, hpath]
  · obtain ⟨hnone, x, hx, hxs⟩ :=
      eq_of_drive_in_front ha (hdrive.symm.trans hpath) hhead hsegments
    exact absurd hxs (hfirst hnone x hx)

/-- The path of a file that a letter with a bar starts has a colon instead. -/
theorem head_addText_of_bar {path : List (List Char)} {s : String} {a : Char}
    (ha : a.isAlpha = true) (hs : s.toList = [a, '|']) (hnone : bare path = []) :
    (addText fileScheme path s).head? = some [a, ':'] := by
  have hbare : path = [] ∨ path = [[]] := by
    rw [bare] at hnone
    split at hnone
    · next hone => exact .inr hone
    · exact .inl hnone
  rw [addText, if_pos ⟨rfl, hbare⟩, hs]
  simp [drivePath?, partedDrive?, unbroken, isDrive, (inSegment_of_isAlpha ha true).2,
    (encode_drive ha true).2, ha, show isDropped '|' = false by decide]

/-- A URL to which texts were added has one segment for each exactly when all of them are kept and
the first is taken. -/
theorem extends_withSegments_iff {base : Url} {s t : String} {texts : List String} :
    base.Extends (s :: t :: texts) (base.withSegments (s :: t :: texts)) ↔
      base.Takes s ∧ ∀ x ∈ t :: texts, Keeps x := by
  constructor
  · rintro ⟨segments, hurl, hsegments, -⟩
    have hadded : (s :: t :: texts).foldl (addText base.scheme) (popIfEmpty base.path)
        = base.kept ++ segments := congrArg Url.path hurl
    have hpath : (s :: t :: texts).foldl (addSegment (isWeb base.scheme)) (popIfEmpty base.path)
        = base.kept ++ segments := foldl_addSegment_of_foldl_addText hadded hsegments
    have hkeeps := keeps_of_foldl_addSegment hpath hsegments
    obtain ⟨hs, htexts⟩ := List.forall_mem_cons.1 hkeeps
    refine ⟨⟨hs, fun hnone => ⟨?_, fun hfile hbarred => ?_⟩⟩, htexts⟩
    · -- An empty first text would leave the path without segments, to which the others add too few.
      rintro rfl
      have hlength : segments.length = texts.length + 2 := by
        simpa using congrArg List.length hsegments
      have hempty : addSegment (isWeb base.scheme) (popIfEmpty base.path) "" = [[]] := by
        rw [addSegment_of_keeps hs, ← kept, hnone]
        rfl
      have hshort := length_bare_foldl_le (isWeb base.scheme) [[]] (t :: texts)
      rw [List.foldl_cons, hempty, hnone, List.nil_append] at hpath
      rw [hpath, bare_of_ne, hlength] at hshort
      · exact absurd hshort (by simp [bare])
      · rintro rfl
        simp at hlength
    · -- The drive would stay in front, with a colon that is not in the text.
      obtain ⟨a, ha, hs⟩ := isBarred_iff.1 hbarred
      have hstart := head_addText_of_bar ha hs hnone
      obtain ⟨rest, hrest⟩ := List.head?_eq_some_iff.1
        (head_foldl_addText fileScheme ha hstart (t :: texts))
      rw [← hfile] at hrest
      obtain ⟨-, x, hx, hxs⟩ := eq_of_drive_in_front ha (hrest.symm.trans hadded)
        (by simp [hnone]) hsegments
      obtain rfl : s = x := Option.some.inj hx
      rw [hs] at hxs
      cases hxs
  · rintro ⟨hs, htexts⟩
    refine ⟨_, withSegments_of_takes hs htexts, ?_, ?_⟩
    · rw [List.map_map]
      refine List.map_congr_left fun x _ => ?_
      exact Text.Percent.decode_encode (inSegment_percent _) x.toList
    · intro segment hsegment c hc
      obtain ⟨x, -, rfl⟩ := List.mem_map.1 hsegment
      exact endsAuthority_of_mem_encode hc

end TypedSearch.Url
