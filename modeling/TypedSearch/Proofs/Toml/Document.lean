import TypedSearch.Proofs.FirstError
import TypedSearch.Proofs.Keyed
import TypedSearch.Proofs.Toml.Numbers
import TypedSearch.Proofs.Toml.Strings
import TypedSearch.Toml.Reader
/-!
# `TypedSearch.Proofs.Toml.Document`: documents are read back

A document of sections is written line by line, and each line is read as one statement whatever
stands behind it. The statements then enter the sections into the table of the document.

* `value_write`, `key_append`: what stands on a line.
* `Reads`: texts that are read as statements; they can be put behind each other.
* `reads_intercalate`: a document is read as the statements of its sections, by induction on them.
* `foldlM_sections`: the statements make the table of the sections, by induction on them.
* `read_write`: a document of sections is read back as their table.
* `get_tableOf`, `get_table`: what stands in the table of the sections.
* `exists_write_iff`: there is a document unless a number is too large.
-/

set_option autoImplicit false

namespace TypedSearch

namespace Toml

/-! ### What is written -/

/-- The value that a setting stands for. -/
def Setting.value : Setting → Toml
  | text s => str s
  | count n => int n

/-- The table of a section. -/
def Section.table (s : Section) : Table := Keyed.ofList (Keyed.mapValues Setting.value s.settings)

/-- The table of a document of sections. -/
def tableOf (sections : List Section) : Table :=
  Keyed.ofList (sections.map fun s => (s.name, table .header s.table))

/-- May a name be written without quotes? -/
def IsBare (name : String) : Prop := name.toList ≠ [] ∧ name.toList.all isNameChar = true

instance (name : String) : Decidable (IsBare name) := inferInstanceAs (Decidable (_ ∧ _))

/-- A name without quotes has a first character, which is one of names. -/
theorem IsBare.exists_cons {name : String} (h : IsBare name) :
    ∃ c cs, name.toList = c :: cs ∧ isNameChar c = true := by
  obtain ⟨c, cs, hcs⟩ := List.exists_cons_of_ne_nil h.1
  exact ⟨c, cs, hcs, List.all_eq_true.1 h.2 c (by rw [hcs]; exact List.mem_cons_self)⟩

/-- Sections and settings have distinct names that may be written without quotes. -/
structure WellNamed (sections : List Section) : Prop where
  bare : ∀ s ∈ sections, IsBare s.name
  settings_bare : ∀ s ∈ sections, ∀ e ∈ s.settings, IsBare e.1
  nodup : (sections.map Section.name).Nodup
  settings_nodup : ∀ s ∈ sections, (s.settings.map Prod.fst).Nodup

/-- Is a setting a text, or a number that fits 64 bits? -/
def Setting.Fits : Setting → Prop
  | text _ => True
  | count n => (n : Int) ≤ maxWhole

/-! ### Values -/

/-- A string starts with a quote. -/
theorem head_writeString (cs : List Char) :
    ∃ q cs', writeString cs = q :: cs' ∧ (q = '"' ∨ q = '\'') := by
  unfold writeString
  split
  · exact ⟨_, _, rfl, .inl rfl⟩
  split
  · exact ⟨_, _, rfl, .inr rfl⟩
  split
  · exact ⟨_, _, rfl, .inl rfl⟩
  split
  · exact ⟨_, _, rfl, .inr rfl⟩
  split
  · exact ⟨_, _, rfl, .inl rfl⟩
  · exact ⟨_, _, rfl, .inl rfl⟩

/-- A text that starts neither with a bracket nor with a brace is a value on its own. -/
theorem value_eq_scalar {depth : Nat} {c : Char} {cs : List Char} (hbracket : c ≠ '[')
    (hbrace : c ≠ '\x7b') : value? depth (c :: cs) = scalar? (c :: cs) := by
  unfold value?
  split
  · next heq => exact absurd (List.cons.inj heq).1 hbracket
  · next heq => exact absurd (List.cons.inj heq).1 hbrace
  · rfl

/-- What starts with a quote is a string. -/
theorem scalar_of_quote {c : Char} (hc : c = '"' ∨ c = '\'') (cs : List Char) :
    scalar? (c :: cs) = (string? (c :: cs)).map fun r => (str (String.ofList r.1), r.2) :=
  if_pos hc

/-- What starts with a digit is a number or a moment. -/
theorem scalar_of_isDigit {c : Char} (hc : c.isDigit = true) (cs : List Char) :
    scalar? (c :: cs) = number? (c :: cs) := by
  have hquote : ¬ (c = '"' ∨ c = '\'') := by
    rintro (rfl | rfl) <;> cases hc
  exact (if_neg hquote).trans (if_pos (.inr (.inr hc)))

/-- The value of a setting at the end of its line is read back. It starts with no blank. -/
theorem value_write {v : Setting} {cs : List Char} (h : v.write? = some cs) (depth : Nat)
    (rest : List Char) :
    value? depth (cs ++ '\n' :: rest) = some (v.value, '\n' :: rest) ∧
      skipGap (cs ++ '\n' :: rest) = cs ++ '\n' :: rest := by
  -- What is written starts with a quote or a digit, by which the reader knows its kind.
  cases v with
  | text s =>
    cases h
    have hread := string_writeString s.toList rest
    obtain ⟨q, cs', hcs, hq⟩ := head_writeString s.toList
    rw [hcs, List.cons_append] at hread ⊢
    have hgap : isGap q = false := by
      obtain rfl | rfl := hq <;> rfl
    refine ⟨?_, List.dropWhile_cons_of_neg (by rw [hgap]; exact Bool.false_ne_true)⟩
    rw [value_eq_scalar (by rintro rfl; simp at hq) (by rintro rfl; simp at hq),
      scalar_of_quote hq, hread, Setting.value, Option.map_some, String.ofList_toList]
  | count n =>
    simp only [Setting.write?, Option.ite_none_right_eq_some, Option.some.injEq] at h
    obtain ⟨hn, rfl⟩ := h
    have hread := number_writeNat hn rest
    obtain ⟨d, ds, hds⟩ := List.exists_cons_of_ne_nil (Decimal.writeNat_ne_nil n)
    have hd : d.isDigit = true :=
      Decimal.isDigit_of_mem_writeNat (n := n) (by rw [hds]; exact List.mem_cons_self)
    rw [hds, List.cons_append] at hread ⊢
    refine ⟨?_, List.dropWhile_cons_of_neg ?_⟩
    · rw [value_eq_scalar (by rintro rfl; cases hd) (by rintro rfl; cases hd),
        scalar_of_isDigit hd, hread, Setting.value]
    · simp only [isGap, Bool.or_eq_true, decide_eq_true_eq]
      rintro (rfl | rfl) <;> cases hd

/-! ### Keys -/

/-- A character of a name is no blank. -/
theorem isGap_of_isNameChar {c : Char} (h : isNameChar c = true) : isGap c = false := by
  cases hgap : isGap c with
  | false => rfl
  | true =>
    simp only [isGap, Bool.or_eq_true, decide_eq_true_eq] at hgap
    obtain rfl | rfl := hgap <;> cases h

/-- A name without quotes is read up to the first character that is none of a name. -/
theorem name_append {name : String} (hname : IsBare name) {rest : List Char}
    (hrest : ∀ c ∈ rest.head?, isNameChar c = false) :
    name? (name.toList ++ rest) = some (name, rest) := by
  have hall := List.all_eq_true.1 hname.2
  have htake : rest.takeWhile isNameChar = [] ∧ rest.dropWhile isNameChar = rest := by
    cases rest with
    | nil => exact ⟨rfl, rfl⟩
    | cons c rest =>
      have hc := hrest c rfl
      exact ⟨List.takeWhile_cons_of_neg (by simp [hc]), List.dropWhile_cons_of_neg (by simp [hc])⟩
  obtain ⟨c, cs, hcs, hc⟩ := hname.exists_cons
  unfold name?
  split
  · next heq =>
    rw [hcs] at heq
    obtain rfl := (List.cons.inj heq).1
    cases hc
  · next heq =>
    rw [hcs] at heq
    obtain rfl := (List.cons.inj heq).1
    cases hc
  · dsimp only
    rw [List.takeWhile_append_of_pos hall, List.dropWhile_append_of_pos hall, htake.1, htake.2,
      List.append_nil, if_neg, String.ofList_toList]
    simpa using hname.1

/-- A name without quotes is a key if no dot follows. -/
theorem key_append {name : String} (hname : IsBare name) {rest : List Char}
    (hrest : ∀ c ∈ rest.head?, isNameChar c = false) (hdot : (skipGap rest).head? ≠ some '.') :
    key? nesting (name.toList ++ rest) = some (⟨[], name⟩, skipGap rest) := by
  obtain ⟨c, cs, hcs, hc⟩ := hname.exists_cons
  have hgap : skipGap (name.toList ++ rest) = name.toList ++ rest := by
    rw [hcs]
    exact List.dropWhile_cons_of_neg (by simp [isGap_of_isNameChar hc])
  show key? (78 + 1) _ = _
  rw [key?, hgap, name_append hname hrest]
  simp only [Option.bind_eq_bind, Option.bind_some]
  split
  · next heq =>
    rw [heq] at hdot
    exact absurd rfl hdot
  · rfl

/-! ### Statements -/

/-- A header is read up to the end of its line. -/
theorem statement_header {name : String} (hname : IsBare name) (rest : List Char) :
    statement? ('[' :: (name.toList ++ ']' :: '\n' :: rest))
      = some (.header ⟨[], name⟩, '\n' :: rest) := by
  have hkey : key? nesting (name.toList ++ ']' :: '\n' :: rest)
      = some (⟨[], name⟩, ']' :: '\n' :: rest) :=
    key_append hname (by rintro _ ⟨⟩; rfl) (by simp [skipGap, isGap])
  obtain ⟨c, cs, hcs, hc⟩ := hname.exists_cons
  unfold statement?
  split
  · -- The header of a repeated table would have a bracket in place of the name.
    next heq =>
    rw [hcs] at heq
    obtain rfl := (List.cons.inj (List.cons.inj heq).2).1
    cases hc
  · next heq =>
    rw [← (List.cons.inj heq).2, hkey]
    rfl
  · next heq => exact absurd rfl (heq _)

/-- A setting is read up to the end of its line. -/
theorem statement_setting {e : String × Setting} {line : List Char} (hname : IsBare e.1)
    (h : writeSetting? e = some line) (rest : List Char) :
    statement? (line ++ rest) = some (.pair ⟨[], e.1⟩ e.2.value, '\n' :: rest) := by
  obtain ⟨v, hv, rfl⟩ := Option.map_eq_some_iff.1 h
  obtain ⟨hvalue, hgap⟩ := value_write hv nesting rest
  have hkey : key? nesting (e.1.toList ++ ' ' :: '=' :: ' ' :: (v ++ '\n' :: rest))
      = some (⟨[], e.1⟩, '=' :: ' ' :: (v ++ '\n' :: rest)) :=
    key_append hname (by rintro _ ⟨⟩; rfl) (by simp [skipGap, isGap])
  have hblank : skipGap (' ' :: (v ++ '\n' :: rest)) = v ++ '\n' :: rest := hgap
  have hpair : pair? (value? nesting) (e.1.toList ++ ' ' :: '=' :: ' ' :: (v ++ '\n' :: rest))
      = some ((⟨[], e.1⟩, e.2.value), '\n' :: rest) := by
    rw [pair?, hkey]
    simp only [Option.bind_eq_bind, Option.bind_some, mark?, if_pos, hblank, hvalue]
  obtain ⟨c, cs, hcs, hc⟩ := hname.exists_cons
  simp only [List.append_assoc, List.cons_append, List.nil_append]
  unfold statement?
  -- A name does not start with a bracket, so that the line is no header.
  split
  · next heq =>
    rw [hcs] at heq
    obtain rfl := (List.cons.inj heq).1
    cases hc
  · next heq =>
    rw [hcs] at heq
    obtain rfl := (List.cons.inj heq).1
    cases hc
  · rw [hpair]
    rfl

/-! ### Lines -/

/-- May a statement start with this character? -/
def Starts (c : Char) : Prop := isGap c = false ∧ c ≠ '#' ∧ c ≠ '\n' ∧ c ≠ '\r'

/-- A header may start a statement. -/
theorem starts_bracket : Starts '[' := by
  refine ⟨rfl, ?_, ?_, ?_⟩ <;> decide

/-- In front of what may start a statement there is no layout. -/
theorem skipLayout_cons {c : Char} (hc : Starts c) (comments : Bool) (fuel : Nat)
    (cs : List Char) : skipLayout comments fuel (c :: cs) = c :: cs := by
  obtain ⟨hgap, hcomment, hnewline, hreturn⟩ := hc
  have hline : newline? (c :: cs) = none := by
    unfold newline?
    split
    · next heq => exact absurd (List.cons.inj heq).1 hnewline
    · next heq => exact absurd (List.cons.inj heq).1 hreturn
    · rfl
  cases fuel with
  | zero => rfl
  | succ fuel =>
    have hskip : skipGap (c :: cs) = c :: cs := List.dropWhile_cons_of_neg (by simp [hgap])
    rw [skipLayout, hskip]
    split
    · next heq => exact absurd (List.cons.inj heq).1 hcomment
    · rw [hline]

/-- A text that is read as statements, whatever stands behind it. -/
structure Reads (cs : List Char) (ss : List Statement) : Prop where
  length_le : ss.length ≤ cs.length
  statements (fuel : Nat) (rest : List Char) :
    statements? (fuel + ss.length) (cs ++ rest) = (statements? fuel rest).map (ss ++ ·)

namespace Reads

theorem nil : Reads [] [] where
  length_le := Nat.le_refl 0
  statements fuel rest := by simp

/-- Statements behind statements. -/
theorem append {cs cs' : List Char} {ss ss' : List Statement} (h : Reads cs ss)
    (h' : Reads cs' ss') : Reads (cs ++ cs') (ss ++ ss') where
  length_le := by
    have := h.length_le
    have := h'.length_le
    simp only [List.length_append]
    omega
  statements fuel rest := by
    rw [List.append_assoc, List.length_append, Nat.add_comm ss.length, ← Nat.add_assoc,
      h.statements, h'.statements, Option.map_map]
    simp only [Function.comp_def, List.append_assoc]

/-- A line with layout in front of a statement. -/
theorem of_statement {line : List Char} {s : Statement}
    (h : ∀ rest, ∃ c cs, skipLayout true (line ++ rest).length (line ++ rest) = c :: cs ∧
      statement? (c :: cs) = some (s, '\n' :: rest)) :
    Reads line [s] where
  length_le := by
    cases line with
    | nil =>
      obtain ⟨c, cs, hskip, -⟩ := h []
      cases hskip
    | cons c cs => simp
  statements fuel rest := by
    obtain ⟨c, cs, hskip, hread⟩ := h rest
    rw [List.length_singleton, statements?, hskip]
    simp only [hread, Option.bind_eq_bind, Option.bind_some]
    show (statements? fuel rest).bind _ = _
    cases statements? fuel rest <;> rfl

/-- The header of a section. -/
theorem header {name : String} (hname : IsBare name) :
    Reads ('[' :: (name.toList ++ [']', '\n'])) [.header ⟨[], name⟩] := by
  refine of_statement fun rest => ⟨'[', name.toList ++ ']' :: '\n' :: rest, ?_, ?_⟩
  · rw [List.cons_append, List.append_assoc]
    exact skipLayout_cons starts_bracket true _ _
  · exact statement_header hname rest

/-- The header of a section behind an empty line. -/
theorem header_below {name : String} (hname : IsBare name) :
    Reads ('\n' :: '[' :: (name.toList ++ [']', '\n'])) [.header ⟨[], name⟩] := by
  refine of_statement fun rest => ⟨'[', name.toList ++ ']' :: '\n' :: rest, ?_, ?_⟩
  · rw [List.cons_append, List.cons_append, List.append_assoc]
    exact skipLayout_cons starts_bracket true _ _
  · exact statement_header hname rest

/-- A character of a name may start a statement. -/
theorem starts_of_isNameChar {c : Char} (h : isNameChar c = true) : Starts c := by
  refine ⟨isGap_of_isNameChar h, ?_, ?_, ?_⟩ <;> rintro rfl <;> cases h

/-- The line of a setting. -/
theorem setting {e : String × Setting} {line : List Char} (hname : IsBare e.1)
    (h : writeSetting? e = some line) : Reads line [.pair ⟨[], e.1⟩ e.2.value] := by
  refine of_statement fun rest => ?_
  obtain ⟨c, cs, hcs, hc⟩ := hname.exists_cons
  have hread := statement_setting hname h rest
  obtain ⟨v, -, rfl⟩ := Option.map_eq_some_iff.1 h
  rw [hcs, List.cons_append, List.cons_append, List.cons_append] at hread ⊢
  exact ⟨c, _, skipLayout_cons (starts_of_isNameChar hc) true _ _, hread⟩

/-- The lines of settings. -/
theorem settings {es : List (String × Setting)} {lines : List (List Char)}
    (hnames : ∀ e ∈ es, IsBare e.1) (h : es.mapM writeSetting? = some lines) :
    Reads lines.flatten (es.map fun e => .pair ⟨[], e.1⟩ e.2.value) := by
  rw [mapM_eq_some_iff] at h
  induction h with
  | nil => exact nil
  | cons hline _ ih =>
    obtain ⟨he, hes⟩ := List.forall_mem_cons.1 hnames
    exact (setting he hline).append (ih hes)

end Reads

/-- The statements of a section. -/
def Section.statements (s : Section) : List Statement :=
  .header ⟨[], s.name⟩ :: s.settings.map fun e => .pair ⟨[], e.1⟩ e.2.value

/-- A section is read as its statements, also behind an empty line. -/
theorem Section.reads_write {s : Section} {part : List Char} (hname : IsBare s.name)
    (hsettings : ∀ e ∈ s.settings, IsBare e.1) (h : s.write? = some part) :
    Reads part s.statements ∧ Reads ('\n' :: part) s.statements := by
  obtain ⟨lines, hlines, rfl⟩ := Option.map_eq_some_iff.1 h
  have hread := Reads.settings hsettings hlines
  have hpart : '[' :: s.name.toList ++ ']' :: '\n' :: lines.flatten
      = '[' :: (s.name.toList ++ [']', '\n']) ++ lines.flatten := by
    simp
  rw [hpart]
  exact ⟨(Reads.header hname).append hread, (Reads.header_below hname).append hread⟩

/-- Parts with an empty line between them are the first, and the others each behind an empty
line. -/
theorem intercalate_newline (part : List Char) (parts : List (List Char)) :
    List.intercalate ['\n'] (part :: parts) = part ++ parts.flatMap ('\n' :: ·) := by
  induction parts generalizing part with
  | nil => rw [List.intercalate_singleton, List.flatMap_nil, List.append_nil]
  | cons p parts ih =>
    rw [List.intercalate_cons_cons, ih, List.flatMap_cons, List.append_assoc]
    rfl

/-- Sections with an empty line between them are read as the statements of all. -/
theorem reads_intercalate {sections : List Section} {parts : List (List Char)}
    (hnames : ∀ s ∈ sections, IsBare s.name)
    (hsettings : ∀ s ∈ sections, ∀ e ∈ s.settings, IsBare e.1)
    (h : sections.mapM Section.write? = some parts) :
    Reads (List.intercalate ['\n'] parts) (sections.flatMap Section.statements) := by
  have hbelow : ∀ {sections : List Section} {parts : List (List Char)},
      (∀ s ∈ sections, IsBare s.name) → (∀ s ∈ sections, ∀ e ∈ s.settings, IsBare e.1) →
      List.Forall₂ (fun s part => Section.write? s = some part) sections parts →
      Reads (parts.flatMap ('\n' :: ·)) (sections.flatMap Section.statements) := by
    intro sections parts hnames hsettings h
    induction h with
    | nil => exact .nil
    | cons hpart _ ih =>
      obtain ⟨hname, hnames⟩ := List.forall_mem_cons.1 hnames
      obtain ⟨hsetting, hsettings⟩ := List.forall_mem_cons.1 hsettings
      exact (Section.reads_write hname hsetting hpart).2.append (ih hnames hsettings)
  rw [mapM_eq_some_iff] at h
  -- Only in front of the first section there is no empty line.
  cases h with
  | nil => exact .nil
  | cons hpart hparts =>
    obtain ⟨hname, hnames⟩ := List.forall_mem_cons.1 hnames
    obtain ⟨hsetting, hsettings⟩ := List.forall_mem_cons.1 hsettings
    rw [intercalate_newline]
    exact (Section.reads_write hname hsetting hpart).1.append (hbelow hnames hsettings hparts)

/-! ### Tables -/

/-- A pair with a new name enters the table whose header is in force. -/
theorem step_pair {name key : String} {inner : Table} (hnew : Keyed.get? key inner = none)
    (v : Toml) (t : Table) :
    Draft.step? ⟨Keyed.insert name (.table .header inner) t, [name]⟩ (.pair ⟨[], key⟩ v)
      = some ⟨Keyed.insert name (.table .header (Keyed.insert key v inner)) t, [name]⟩ := by
  have hentry : Table.addPair? [] key v .header inner = some (Keyed.insert key v inner) := by
    show Table.addEntry? key v inner = _
    rw [Table.addEntry?, hnew]
    rfl
  -- The table is found by its name, changed, and put back under the name.
  have hinside : Table.at? false (fun origin t => Table.addPair? [] key v origin t) [name] .header
        (Keyed.insert name (.table .header inner) t)
      = some (Keyed.insert name (.table .header (Keyed.insert key v inner)) t) := by
    rw [Table.at?, Keyed.get_insert, if_pos rfl]
    simp only [Table.at?, hentry, Option.map_some, Keyed.insert_insert]
    rfl
  rw [Draft.step?, hinside]
  rfl

/-- Pairs with new names enter the table whose header is in force, one after the other. -/
theorem foldlM_pairs {es : List (String × Setting)} {inner : Table}
    (hnew : ∀ e ∈ es, Keyed.get? e.1 inner = none) (hnodup : (es.map Prod.fst).Nodup)
    (name : String) (t : Table) :
    (es.map fun e => Statement.pair ⟨[], e.1⟩ e.2.value).foldlM Draft.step?
        ⟨Keyed.insert name (.table .header inner) t, [name]⟩
      = some ⟨Keyed.insert name (.table .header
          (es.foldl (fun t e => Keyed.insert e.1 e.2.value t) inner)) t, [name]⟩ := by
  -- The table inside is any, because it gets one pair more with every step.
  induction es generalizing inner with
  | nil => rfl
  | cons e es ih =>
    obtain ⟨he, hes⟩ := List.forall_mem_cons.1 hnew
    rw [List.map_cons, List.nodup_cons] at hnodup
    have hnew' : ∀ e' ∈ es, Keyed.get? e'.1 (Keyed.insert e.1 e.2.value inner) = none := by
      intro e' he'
      have hne : e.1 ≠ e'.1 := fun heq => hnodup.1 (heq ▸ List.mem_map_of_mem he')
      rw [Keyed.get_insert, if_neg hne, hes e' he']
    rw [List.map_cons, List.foldlM_cons, step_pair he]
    exact ih hnew' hnodup.2

/-- The statements of a section enter its table under a new name. -/
theorem foldlM_section {s : Section} {d : Draft} (hnew : Keyed.get? s.name d.table = none)
    (hnodup : (s.settings.map Prod.fst).Nodup) :
    s.statements.foldlM Draft.step? d
      = some ⟨Keyed.insert s.name (.table .header s.table) d.table, [s.name]⟩ := by
  -- The header makes an empty table, which the pairs fill.
  have hheader : Draft.step? d (.header ⟨[], s.name⟩)
      = some ⟨Keyed.insert s.name (.table .header []) d.table, [s.name]⟩ := by
    rw [Draft.step?, Table.addHeader?, Table.at?, hnew]
    rfl
  rw [Section.statements, List.foldlM_cons, hheader]
  refine (foldlM_pairs (fun _ _ => rfl) hnodup s.name d.table).trans ?_
  rw [Section.table, Keyed.ofList, Keyed.mapValues, List.foldl_map]

/-- The statements of sections with new names enter their tables, one after the other. -/
theorem foldlM_sections {sections : List Section} {d : Draft}
    (hnew : ∀ s ∈ sections, Keyed.get? s.name d.table = none)
    (hnodup : (sections.map Section.name).Nodup)
    (hsettings : ∀ s ∈ sections, (s.settings.map Prod.fst).Nodup) :
    ((sections.flatMap Section.statements).foldlM Draft.step? d).map Draft.table
      = some (sections.foldl (fun t s => Keyed.insert s.name (.table .header s.table) t)
          d.table) := by
  induction sections generalizing d with
  | nil => rfl
  | cons s sections ih =>
    obtain ⟨hs, hrest⟩ := List.forall_mem_cons.1 hnew
    obtain ⟨hsetting, hsettings⟩ := List.forall_mem_cons.1 hsettings
    rw [List.map_cons, List.nodup_cons] at hnodup
    have hnew' : ∀ s' ∈ sections, Keyed.get? s'.name
        (Keyed.insert s.name (.table .header s.table) d.table) = none := by
      intro s' hs'
      have hne : s.name ≠ s'.name := fun heq => hnodup.1 (heq ▸ List.mem_map_of_mem hs')
      rw [Keyed.get_insert, if_neg hne, hrest s' hs']
    rw [List.flatMap_cons, List.foldlM_append, foldlM_section hs hsetting]
    exact ih hnew' hnodup.2 hsettings

/-! ### Documents -/

/-- A document of sections does not start with a byte-order mark. -/
theorem head_intercalate {sections : List Section} {parts : List (List Char)}
    (h : sections.mapM Section.write? = some parts) :
    (List.intercalate ['\n'] parts).head? ≠ some '\ufeff' := by
  rw [mapM_eq_some_iff] at h
  cases h with
  | nil => exact nofun
  | cons hpart _ =>
    obtain ⟨lines, -, rfl⟩ := Option.map_eq_some_iff.1 hpart
    rw [intercalate_newline]
    simp

/-- A text that is read as statements to its end is a document of them. -/
theorem Reads.statements_eq {cs : List Char} {ss : List Statement} (h : Reads cs ss) :
    statements? (cs.length + 1) cs = some ss := by
  -- The fuel counts characters, of which there are no fewer than statements.
  obtain ⟨k, hk⟩ := Nat.exists_eq_add_of_le h.length_le
  have hread := h.statements (k + 1) []
  rw [List.append_nil] at hread
  rw [hk, show ss.length + k + 1 = k + 1 + ss.length by omega, hread]
  simp [statements?, skipLayout]

/-- A text without a byte-order mark is read from its first character on. -/
theorem read_of_head {text : String} (h : text.toList.head? ≠ some '\ufeff') :
    read? text
      = (statements? (text.toList.length + 1) text.toList).bind Table.ofStatements? := by
  unfold read?
  generalize text.toList = cs at h
  dsimp only
  split
  · exact absurd rfl h
  · rfl

/-- A document of sections is read back as the table of the sections. -/
theorem read_write {sections : List Section} (hnames : WellNamed sections) {text : String}
    (h : write? sections = some text) : read? text = some (tableOf sections) := by
  obtain ⟨parts, hparts, rfl⟩ := Option.map_eq_some_iff.1 h
  have hread := reads_intercalate hnames.bare hnames.settings_bare hparts
  have htable : Table.ofStatements? (sections.flatMap Section.statements)
      = some (tableOf sections) := by
    rw [tableOf, Keyed.ofList, List.foldl_map]
    exact foldlM_sections (fun _ _ => rfl) hnames.nodup hnames.settings_nodup
  have hhead := head_intercalate hparts
  rw [← String.toList_ofList (l := List.intercalate ['\n'] parts)] at hhead
  rw [read_of_head hhead, String.toList_ofList, hread.statements_eq, Option.bind_some, htable]

/-- What stands under the name of a section. -/
theorem get_tableOf {sections : List Section} (hnames : WellNamed sections) {s : Section}
    (hs : s ∈ sections) : Keyed.get? s.name (tableOf sections) = some (.table .header s.table) := by
  refine Keyed.get_ofList_of_nodup ?_ (List.mem_map_of_mem hs)
  rw [List.map_map]
  exact hnames.nodup

/-- What stands under the name of a setting. -/
theorem get_table {sections : List Section} (hnames : WellNamed sections) {s : Section}
    (hs : s ∈ sections) (name : String) :
    Keyed.get? name s.table = (Keyed.get? name s.settings).map Setting.value := by
  have hnodup : ((Keyed.mapValues Setting.value s.settings).map Prod.fst).Nodup := by
    rw [Keyed.mapValues, List.map_map]
    exact hnames.settings_nodup s hs
  rw [Section.table, Keyed.get_ofList_eq hnodup, Keyed.get_mapValues]

/-- There is a document exactly where every number fits. -/
theorem exists_write_iff {sections : List Section} :
    (∃ text, write? sections = some text) ↔
      ∀ s ∈ sections, ∀ e ∈ s.settings, e.2.Fits := by
  have hsetting : ∀ e : String × Setting, (∃ line, writeSetting? e = some line) ↔ e.2.Fits := by
    rintro ⟨name, v⟩
    cases v with
    | text s => exact iff_of_true ⟨_, rfl⟩ trivial
    | count n => simp [writeSetting?, Setting.write?, Setting.Fits]
  have hsection : ∀ s : Section, (∃ part, s.write? = some part) ↔ ∀ e ∈ s.settings, e.2.Fits := by
    intro s
    simp only [← hsetting, ← exists_mapM_eq_some_iff]
    simp [Section.write?]
  simp only [← hsection, ← exists_mapM_eq_some_iff]
  simp [write?]

end Toml

end TypedSearch
