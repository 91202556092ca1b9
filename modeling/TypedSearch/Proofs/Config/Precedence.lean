import Mathlib
import TypedSearch.Config.Load
import TypedSearch.Proofs.Config.Settings
import TypedSearch.Proofs.FirstError
/-!
# `TypedSearch.Proofs.Config.Precedence`: where each setting comes from

Settings are loaded from the first candidate that is there, and from no other. A setting is what its
variable says, else what the file says, else its default, and what is said of one setting says
nothing about another. A file that is not there is as good as an empty one, and one that loads still
does so when a key or a section is taken out of it.

* `loadFirst_append_of_absent`: candidates that are not there are passed over, by induction on them.
* `value_withOverrides`: what the variables change.
* `Source.decided`, `Source.exists_loadFirst_iff`: what is loaded from a document, and when, both by
  induction on the candidates.
* `given_of_differsUnder`, `given_of_differsAtKey`: what a change of the file leaves as it is.
* `given_filter`, `given_insert`: what the file says without a section, or with another key.
* `acceptable_of_differsUnder`, `acceptable_of_differsAtKey`: when the changed file is loaded.
* `loadFirst_precedence`: all of it.
-/

set_option autoImplicit false

namespace TypedSearch

/-! ### Settings under variables -/

namespace SettingName

/-- The value of the variable that overrides the setting, if there is one and it is set. -/
def override? (env : Environment) : SettingName → Option String
  | url => env.url
  | logFormat => env.logFormat
  | logLevel => env.logLevel
  | _ => none

/-- The value of the variable that overrides the setting, else another one. -/
def orElse (s : SettingName) (env : Environment) (value : Option SettingValue) :
    Option SettingValue :=
  match s.override? env with
  | some x => some (.text x)
  | none => value

/-- The setting has the value of its variable, else the one that is given, else the default. What is
given is of the right kind even where it does not count. -/
structure DecidedBy (s : SettingName) (env : Environment) (given : Option Toml)
    (value : Option SettingValue) : Prop where
  overridden : ∀ x, s.override? env = some x → value = some (.text x)
  fromFile : ∀ v, given = some v →
    ∃ x, s.read? v = some x ∧ (s.override? env = none → value = some x)
  byDefault : s.override? env = none → given = none → value = s.default?

/-- A setting has the value of its variable, else the given one, else its default. -/
theorem DecidedBy.eq_orElse {s : SettingName} {env : Environment} {given : Option Toml}
    {value : Option SettingValue} (h : s.DecidedBy env given value) :
    value = s.orElse env (given.elim s.default? s.read?) := by
  rw [orElse]
  cases hover : s.override? env with
  | some x => exact h.overridden x hover
  | none =>
    cases given with
    | none => exact h.byDefault hover rfl
    | some v =>
      obtain ⟨x, hx, hvalue⟩ := h.fromFile v rfl
      exact (hvalue hover).trans hx.symm

end SettingName

/-- The environment without the variables that override settings. -/
def Environment.plain (env : Environment) : Environment := ⟨env.home, none, none, none⟩

namespace Config

/-! ### Variables -/

/-- A variable that is set is the value of its setting. -/
theorem value_withOverrides (c : Config) (env : Environment) (s : SettingName) :
    (c.withOverrides env).value? s = s.orElse env (c.value? s) := by
  obtain ⟨home, url, format, level⟩ := env
  cases s with
  | url => cases url <;> rfl
  | logFormat => cases format <;> rfl
  | logLevel => cases level <;> rfl
  | _ => rfl

/-- Settings that are taken from what is given are decided by it under the variables. -/
theorem decidedBy_withOverrides {c : Config} {s : SettingName} {given : Option Toml}
    (h : s.TakenFrom given (c.value? s)) (env : Environment) :
    s.DecidedBy env given ((c.withOverrides env).value? s) where
  overridden x hx := by rw [value_withOverrides, SettingName.orElse, hx]
  fromFile v hv := by
    rcases h with ⟨v', y, hgiven, hy, hvalue⟩ | ⟨hgiven, -⟩
    · cases hv.symm.trans hgiven
      -- It is of the right kind whether or not a variable counts instead.
      refine ⟨y, hy, ?_⟩
      intro hnone
      rw [value_withOverrides, SettingName.orElse, hnone]
      exact hvalue
    · cases hv.symm.trans hgiven
  byDefault hnone hgiven := by
    rcases h with ⟨v, y, hv, -⟩ | ⟨-, hvalue⟩
    · cases hgiven.symm.trans hv
    · rw [value_withOverrides, SettingName.orElse, hnone]
      exact hvalue

/-- The variables override the settings that are loaded without them, and do nothing else. -/
theorem load_eq_map (env : Environment) (files : String → FileStatus) (path : String) :
    load env files path = (load env.plain files path).map (·.withOverrides env) := by
  have hplace : expandHome env path = expandHome env.plain path := rfl
  rw [load, load, hplace]
  cases expandHome env.plain path with
  | error e => rfl
  | ok place =>
    simp only [bind, Except.bind]
    cases files place with
    | missing => rfl
    | unreadable reason => rfl
    | text content =>
      simp only
      cases ofToml? content <;> rfl

/-- The same for the settings that are loaded from the first file. -/
theorem loadFirst_eq_map (env : Environment) (files : String → FileStatus) (paths : List String) :
    loadFirst env files paths = (loadFirst env.plain files paths).map (·.withOverrides env) := by
  -- Where a candidate is depends on the home directory only, which the variables leave alone.
  have hplace : ∀ path, expandHome env path = expandHome env.plain path := fun _ => rfl
  induction paths with
  | nil => rfl
  | cons path paths ih =>
    rw [loadFirst, loadFirst, hplace]
    cases expandHome env.plain path with
    | error e => rfl
    | ok place =>
      simp only [bind, Except.bind]
      by_cases hmissing : files place = .missing
      · rw [if_pos hmissing, if_pos hmissing, ih]
      · rw [if_neg hmissing, if_neg hmissing, load_eq_map]

/-! ### Candidates -/

/-- The candidate has a place, and nothing is there. -/
def Absent (env : Environment) (files : String → FileStatus) (path : String) : Prop :=
  ∃ place, expandHome env path = .ok place ∧ files place = .missing

section
variable {env : Environment} {files files' : String → FileStatus} {path place : String}
  {paths before after : List String}

/-- A candidate that is not there is passed over. -/
theorem loadFirst_cons_of_absent (h : Absent env files path) :
    loadFirst env files (path :: paths) = loadFirst env files paths := by
  obtain ⟨place, hplace, hmissing⟩ := h
  rw [loadFirst, hplace]
  exact if_pos hmissing

/-- Candidates that are not there are passed over. -/
theorem loadFirst_append_of_absent (h : ∀ p ∈ before, Absent env files p) :
    loadFirst env files (before ++ paths) = loadFirst env files paths := by
  induction before with
  | nil => rfl
  | cons p before ih =>
    obtain ⟨hp, hbefore⟩ := List.forall_mem_cons.1 h
    rw [List.cons_append, loadFirst_cons_of_absent hp, ih hbefore]

/-- A candidate that is there is loaded. -/
theorem loadFirst_cons_of_exists (hplace : expandHome env path = .ok place)
    (hfile : files place ≠ .missing) :
    loadFirst env files (path :: paths) = load env files path := by
  rw [loadFirst, hplace]
  exact if_neg hfile

/-- A candidate without a place is an error. -/
theorem loadFirst_cons_of_error {e : ConfigError} (h : expandHome env path = .error e) :
    loadFirst env files (path :: paths) = .error e := by
  rw [loadFirst, h]
  rfl

/-- Settings are loaded as from a single candidate. -/
theorem load_eq_loadFirst (env : Environment) (files : String → FileStatus) (path : String) :
    load env files path = loadFirst env files [path] := by
  cases hplace : expandHome env path with
  | error e =>
    rw [loadFirst_cons_of_error hplace, load, hplace]
    rfl
  | ok place =>
    by_cases hfile : files place = .missing
    · rw [loadFirst_cons_of_absent ⟨place, hplace, hfile⟩, load, hplace]
      simp only [bind, Except.bind, hfile]
      rfl
    · rw [loadFirst_cons_of_exists hplace hfile]

/-- What is loaded from a place depends on what is there only. -/
theorem load_congr (hplace : expandHome env path = .ok place) (h : files' place = files place) :
    load env files' path = load env files path := by
  rw [load, load, hplace]
  simp only [bind, Except.bind, h]

end

/-- The document behind the candidates: that of the first that is there or, where none is, an empty
one. -/
inductive Source (env : Environment) (files : String → FileStatus) :
    List String → Toml.Table → Prop where
  | nothing : Source env files [] []
  | absent {path : String} {paths : List String} {t : Toml.Table} :
    Absent env files path → Source env files paths t → Source env files (path :: paths) t
  | file {path place content : String} {paths : List String} {t : Toml.Table} :
    expandHome env path = .ok place → files place = .text content →
      Toml.read? content = some t → Source env files (path :: paths) t

section
variable {env : Environment} {files : String → FileStatus} {paths : List String} {c : Config}

/-- What is loaded from a file is read from its document. -/
theorem exists_read_of_load {path place : String} (hplace : expandHome env path = .ok place)
    (hfile : files place ≠ .missing) (h : load env files path = .ok c) :
    ∃ content t c', files place = .text content ∧ Toml.read? content = some t ∧
      read? .toml (.table .header t) = some c' ∧ c = c'.withOverrides env := by
  rw [load, hplace] at h
  simp only [bind, Except.bind] at h
  cases hstatus : files place with
  | missing => exact absurd hstatus hfile
  | unreadable reason =>
    rw [hstatus] at h
    cases h
  | text content =>
    simp only [hstatus] at h
    cases hc : ofToml? content with
    | none =>
      rw [hc] at h
      cases h
    | some c' =>
      rw [hc] at h
      obtain ⟨t, ht, hread⟩ := Option.bind_eq_some_iff.1 hc
      exact ⟨content, t, c', rfl, ht, hread, (Except.ok.inj h).symm⟩

/-- Settings that are loaded have a document behind them. -/
theorem exists_source (h : loadFirst env files paths = .ok c) : ∃ t, Source env files paths t := by
  induction paths with
  | nil => exact ⟨[], .nothing⟩
  | cons path paths ih =>
    cases hplace : expandHome env path with
    | error e =>
      rw [loadFirst_cons_of_error hplace] at h
      cases h
    | ok place =>
      by_cases hfile : files place = .missing
      · have habsent : Absent env files path := ⟨place, hplace, hfile⟩
        rw [loadFirst_cons_of_absent habsent] at h
        obtain ⟨t, ht⟩ := ih h
        exact ⟨t, .absent habsent ht⟩
      · rw [loadFirst_cons_of_exists hplace hfile] at h
        obtain ⟨content, t, -, hcontent, ht, -⟩ := exists_read_of_load hplace hfile h
        exact ⟨t, .file hplace hcontent ht⟩

/-- Settings that are loaded are decided by the variables and the document. -/
theorem Source.decided {t : Toml.Table} (hsource : Source env files paths t)
    (h : loadFirst env files paths = .ok c) (s : SettingName) :
    s.DecidedBy env (s.given? t) (c.value? s) := by
  induction hsource with
  | nothing =>
    obtain rfl : Config.default.withOverrides env = c := Except.ok.inj h
    -- The defaults are what an empty document is read as.
    exact decidedBy_withOverrides (takenFrom_of_read rfl s) env
  | absent habsent _ ih =>
    rw [loadFirst_cons_of_absent habsent] at h
    exact ih h
  | @file path place content paths t hplace hcontent ht =>
    have hfile : files place ≠ .missing := by
      rw [hcontent]
      exact nofun
    rw [loadFirst_cons_of_exists hplace hfile] at h
    obtain ⟨content, t, c', hcontent', ht', hread, rfl⟩ := exists_read_of_load hplace hfile h
    cases hcontent.symm.trans hcontent'
    cases ht.symm.trans ht'
    exact decidedBy_withOverrides (takenFrom_of_read hread s) env

/-- What is loaded from a document is there exactly when the document can be read as settings. -/
theorem Source.exists_loadFirst_iff {t : Toml.Table} (hsource : Source env files paths t) :
    (∃ c, loadFirst env files paths = .ok c) ↔ Acceptable t := by
  induction hsource with
  | nothing =>
    rw [← exists_read_iff]
    exact ⟨fun _ => ⟨Config.default, rfl⟩, fun _ => ⟨_, rfl⟩⟩
  | absent habsent _ ih => rw [loadFirst_cons_of_absent habsent, ih]
  | @file path place content paths t hplace hcontent ht =>
    have hfile : files place ≠ .missing := by
      rw [hcontent]
      exact nofun
    rw [loadFirst_cons_of_exists hplace hfile, ← exists_read_iff, load, hplace]
    simp only [bind, Except.bind, hcontent, ofToml?, ht, Option.bind_some]
    cases read? .toml (.table .header t) <;> simp

end

/-! ### Changes of the document -/

/-- The entries of a section; one that is left out has none. -/
def HasEntries (t : Toml.Table) (name : String) (entries : Toml.Table) : Prop :=
  (∃ origin, Keyed.get? name t = some (.table origin entries)) ∨
    (Keyed.get? name t = none ∧ entries = [])

/-- The tables differ at most in what is under one name. -/
def DiffersUnder (t t' : Toml.Table) (name : String) : Prop :=
  ∀ other, other ≠ name → Keyed.get? other t' = Keyed.get? other t

/-- The documents differ at most in what is under one key of one section. -/
structure DiffersAtKey (t t' : Toml.Table) (name key : String) : Prop where
  outside : DiffersUnder t t' name
  inside : ∃ entries entries', HasEntries t name entries ∧ HasEntries t' name entries' ∧
    DiffersUnder entries entries' key

/-- What is put under a name is a difference under that name. -/
theorem differsUnder_insert (t : Toml.Table) (name : String) (v : Toml) :
    DiffersUnder t (Keyed.insert name v t) name := by
  intro other hother
  rw [Keyed.get_insert, if_neg hother.symm]

/-- What stands in a table that has been rid of a name. -/
theorem get_filter_ne (t : Toml.Table) (name other : String) :
    Keyed.get? other (t.filter fun e => e.1 ≠ name)
      = if other = name then none else Keyed.get? other t := by
  have hget := Keyed.get_filter (fun n => n ≠ name) other t
  simp only [decide_not, Bool.not_eq_true', decide_eq_false_iff_not] at hget
  rw [← ite_not]
  simpa using hget

/-- What is taken from under a name is a difference under that name. -/
theorem differsUnder_filter (t : Toml.Table) (name : String) :
    DiffersUnder t (t.filter fun e => e.1 ≠ name) name := by
  intro other hother
  rw [get_filter_ne, if_neg hother]

/-- What a document says about a setting stands under its key in its section. -/
theorem given_of_hasEntries {t entries : Toml.Table} {s : SettingName}
    (h : HasEntries t s.sectionName entries) : s.given? t = Keyed.get? s.key entries := by
  rw [SettingName.given?]
  rcases h with ⟨origin, hentries⟩ | ⟨hnone, rfl⟩
  · rw [hentries]
    rfl
  · rw [hnone]
    rfl

/-- What a document says about the settings of another section does not change. -/
theorem given_of_differsUnder {t t' : Toml.Table} {name : String}
    (h : DiffersUnder t t' name) {s : SettingName} (hs : s.sectionName ≠ name) :
    s.given? t' = s.given? t := by
  rw [SettingName.given?, SettingName.given?, h s.sectionName hs]

/-- What a document says about all settings but one does not change. -/
theorem given_of_differsAtKey {t t' : Toml.Table} {name key : String}
    (h : DiffersAtKey t t' name key) {s : SettingName}
    (hs : ¬ (s.sectionName = name ∧ s.key = key)) : s.given? t' = s.given? t := by
  by_cases hname : s.sectionName = name
  · obtain ⟨entries, entries', hentries, hentries', hsame⟩ := h.inside
    subst hname
    rw [given_of_hasEntries hentries, given_of_hasEntries hentries']
    exact hsame s.key fun hkey => hs ⟨rfl, hkey⟩
  · exact given_of_differsUnder h.outside hname

/-- A document without a section says nothing about the settings of the section, and the same about
the others. -/
theorem given_filter (t : Toml.Table) (name : String) (s : SettingName) :
    s.given? (t.filter fun e => e.1 ≠ name)
      = if s.sectionName = name then none else s.given? t := by
  split
  · next hs =>
    rw [SettingName.given?, get_filter_ne, if_pos hs]
    rfl
  · next hs => exact given_of_differsUnder (differsUnder_filter t name) hs

/-- A change of the entries of a section under one key is a difference at that key. The section need
not have been there before. -/
theorem differsAtKey_insert {t entries entries' : Toml.Table} {name key : String}
    (h : HasEntries t name entries) (hsame : DiffersUnder entries entries' key)
    (origin : TableOrigin) :
    DiffersAtKey t (Keyed.insert name (.table origin entries') t) name key where
  outside := differsUnder_insert t name _
  inside := ⟨entries, entries', h, .inl ⟨origin, by rw [Keyed.get_insert, if_pos rfl]⟩, hsame⟩

/-- After such a change a document says of the setting what is under the key then. -/
theorem given_insert {t entries entries' : Toml.Table} {name key : String}
    (h : HasEntries t name entries) (hsame : DiffersUnder entries entries' key)
    (origin : TableOrigin) (s : SettingName) :
    s.given? (Keyed.insert name (.table origin entries') t)
      = if s.sectionName = name ∧ s.key = key then Keyed.get? key entries' else s.given? t := by
  split
  · next hs =>
    obtain ⟨rfl, rfl⟩ := hs
    exact given_of_hasEntries (.inl ⟨origin, by rw [Keyed.get_insert, if_pos rfl]⟩)
  · next hs => exact given_of_differsAtKey (differsAtKey_insert h hsame origin) hs

/-- With a change under one key a document can still be read exactly when what is under the key then
is of the right kind. -/
theorem acceptable_of_differsAtKey {t t' : Toml.Table} {name key : String}
    (h : DiffersAtKey t t' name key) (ht : Acceptable t) :
    Acceptable t' ↔
      ∀ s : SettingName, s.sectionName = name → s.key = key → s.Accepts (s.given? t') := by
  refine ⟨fun ht' s _ _ => ht'.accepts s, fun haccepts => ⟨fun s v hv => ?_, fun s => ?_⟩⟩
  · by_cases hname : s.sectionName = name
    · -- The section that is changed is a table, or is left out.
      obtain ⟨-, entries', -, hentries', -⟩ := h.inside
      rw [hname] at hv
      rcases hentries' with ⟨origin, hentries'⟩ | ⟨hnone, -⟩
      · cases hv.symm.trans hentries'
        trivial
      · cases hv.symm.trans hnone
    · rw [h.outside s.sectionName hname] at hv
      exact ht.isSection s v hv
  · by_cases hs : s.sectionName = name ∧ s.key = key
    · exact haccepts s hs.1 hs.2
    · rw [given_of_differsAtKey h hs]
      exact ht.accepts s

/-- With a change of one section a document can still be read exactly when the section then can. -/
theorem acceptable_of_differsUnder {t t' : Toml.Table} {name : String} (h : DiffersUnder t t' name)
    (ht : Acceptable t) :
    Acceptable t' ↔ ∀ s : SettingName, s.sectionName = name →
      (∀ v, Keyed.get? name t' = some v → v.IsSection) ∧ s.Accepts (s.given? t') := by
  constructor
  · rintro ht' s rfl
    exact ⟨ht'.isSection s, ht'.accepts s⟩
  · intro hsection
    refine ⟨fun s v hv => ?_, fun s => ?_⟩
    · by_cases hname : s.sectionName = name
      · exact (hsection s hname).1 v (hname ▸ hv)
      · rw [h s.sectionName hname] at hv
        exact ht.isSection s v hv
    · by_cases hname : s.sectionName = name
      · exact (hsection s hname).2
      · rw [given_of_differsUnder h hname]
        exact ht.accepts s

/-! ### Precedence -/

/-- Candidates are tried in order, and settings are decided one by one. -/
structure Precedence (env : Environment) (paths : List String) : Prop where
  /-- What is said of candidates is said of a single file. -/
  alone : ∀ files path, load env files path = loadFirst env files [path]
  /-- The first candidate that is there is loaded, as it is alone, and with its error if it has
  one. -/
  first : ∀ files before path after place, paths = before ++ path :: after →
    (∀ p ∈ before, Absent env files p) → expandHome env path = .ok place →
    files place ≠ .missing → loadFirst env files paths = load env files path
  /-- No file counts besides, and no candidate behind. -/
  untouched : ∀ files files' before path after after' place, paths = before ++ path :: after →
    (∀ p ∈ before, Absent env files p) → (∀ p ∈ before, Absent env files' p) →
    expandHome env path = .ok place → files place ≠ .missing → files' place = files place →
    loadFirst env files' (before ++ path :: after') = loadFirst env files paths
  /-- A file that is not read, or holds no settings, is an error that tells where it is. -/
  failed : ∀ files path place, expandHome env path = .ok place →
    (∀ reason, files place = .unreadable reason →
      load env files path = .error (.unreadable place reason)) ∧
    ∀ content, files place = .text content →
      (∀ t, Toml.read? content = some t → ¬ Acceptable t) →
      load env files path = .error (.malformed place)
  /-- A candidate whose place is not known is not passed over. -/
  placeless : ∀ files before path after e, paths = before ++ path :: after →
    (∀ p ∈ before, Absent env files p) → expandHome env path = .error e →
    loadFirst env files paths = .error e
  /-- Without a file there are the defaults under the variables. -/
  absent : ∀ files, (∀ p ∈ paths, Absent env files p) →
    loadFirst env files paths = .ok (Config.default.withOverrides env)
  /-- Every setting has the value of its variable, else the one in the file, else its default. -/
  decided : ∀ files c, loadFirst env files paths = .ok c →
    (∃ t, Source env files paths t) ∧
      ∀ t, Source env files paths t → ∀ s : SettingName, s.DecidedBy env (s.given? t) (c.value? s)
  /-- There are settings exactly where every section of the document is one and gives its settings
  values of the right kind. No section and no key has to be there. -/
  loads : ∀ files t, Source env files paths t →
    ((∃ c, loadFirst env files paths = .ok c) ↔ Acceptable t)
  /-- A change of one section changes no setting of another. -/
  otherSection : ∀ files files' t t' c c' name, Source env files paths t →
    Source env files' paths t' → DiffersUnder t t' name →
    loadFirst env files paths = .ok c → loadFirst env files' paths = .ok c' →
    ∀ s : SettingName, s.sectionName ≠ name → c'.value? s = c.value? s
  /-- A change under one key changes no other setting. -/
  otherKey : ∀ files files' t t' c c' name key, Source env files paths t →
    Source env files' paths t' → DiffersAtKey t t' name key →
    loadFirst env files paths = .ok c → loadFirst env files' paths = .ok c' →
    ∀ s : SettingName, ¬ (s.sectionName = name ∧ s.key = key) → c'.value? s = c.value? s
  /-- Without one of its sections a file still loads. The settings of the section then have the
  values of their variables, else their defaults, and the others are as before. -/
  withoutSection : ∀ files files' t c name, Source env files paths t →
    Source env files' paths (t.filter fun e => e.1 ≠ name) → loadFirst env files paths = .ok c →
    ∃ c', loadFirst env files' paths = .ok c' ∧ ∀ s : SettingName,
      c'.value? s = if s.sectionName = name then s.orElse env s.default? else c.value? s
  /-- Without one of its keys a file still loads. The setting of the key then has the value of its
  variable, else its default, and the others are as before. -/
  withoutKey : ∀ files files' t entries c name key origin, Source env files paths t →
    HasEntries t name entries →
    Source env files' paths
      (Keyed.insert name (.table origin (entries.filter fun e => e.1 ≠ key)) t) →
    loadFirst env files paths = .ok c →
    ∃ c', loadFirst env files' paths = .ok c' ∧ ∀ s : SettingName,
      c'.value? s
        = if s.sectionName = name ∧ s.key = key then s.orElse env s.default? else c.value? s
  /-- With a value put under a key a file still loads exactly when the value is of the right kind
  for the setting of the key. The setting then has the value of its variable, else this one, and the
  others are as before. -/
  withKey : ∀ files files' t entries c name key v origin, Source env files paths t →
    HasEntries t name entries →
    Source env files' paths (Keyed.insert name (.table origin (Keyed.insert key v entries)) t) →
    loadFirst env files paths = .ok c →
    ((∃ c', loadFirst env files' paths = .ok c') ↔
        ∀ s : SettingName, s.sectionName = name → s.key = key → ∃ x, s.read? v = some x) ∧
      ∀ c', loadFirst env files' paths = .ok c' → ∀ s : SettingName,
        c'.value? s
          = if s.sectionName = name ∧ s.key = key then s.orElse env (s.read? v) else c.value? s
  /-- A change of the variables changes the settings that they override and no others, and not
  whether there are settings. -/
  otherVariable : ∀ files env' c, env'.home = env.home → loadFirst env files paths = .ok c →
    ∃ c', loadFirst env' files paths = .ok c' ∧
      ∀ s : SettingName, s.override? env' = s.override? env → c'.value? s = c.value? s

/-- A setting has the value of its variable, else what the document says, else its default. -/
theorem value_eq_orElse {env : Environment} {files : String → FileStatus} {paths : List String}
    {t : Toml.Table} {c : Config} (ht : Source env files paths t)
    (hc : loadFirst env files paths = .ok c) (s : SettingName) :
    c.value? s = s.orElse env ((s.given? t).elim s.default? s.read?) :=
  (ht.decided hc s).eq_orElse

/-- Where another document says the same of a setting but in one case, the value of the setting is
the same but in this case. -/
theorem value_eq_ite {env : Environment} {files files' : String → FileStatus}
    {paths : List String} {t t' : Toml.Table} {c c' : Config} (ht : Source env files paths t)
    (ht' : Source env files' paths t') (hc : loadFirst env files paths = .ok c)
    (hc' : loadFirst env files' paths = .ok c') {s : SettingName} {p : Prop} [Decidable p]
    {given : Option Toml} (h : s.given? t' = if p then given else s.given? t) :
    c'.value? s = if p then s.orElse env (given.elim s.default? s.read?) else c.value? s := by
  rw [value_eq_orElse ht' hc' s, value_eq_orElse ht hc s, h]
  split <;> rfl

/-- A document without a section can still be read. -/
theorem acceptable_filter {t : Toml.Table} (ht : Acceptable t) (name : String) :
    Acceptable (t.filter fun e => e.1 ≠ name) := by
  refine (acceptable_of_differsUnder (differsUnder_filter t name) ht).2 fun s hs => ⟨?_, ?_⟩
  · intro v hv
    rw [get_filter_ne, if_pos rfl] at hv
    cases hv
  · intro v hv
    rw [given_filter, if_pos hs] at hv
    cases hv

/-- A document with a change under one key can be read exactly when what is under the key then is of
the right kind for its setting. -/
theorem acceptable_insert_iff {t entries entries' : Toml.Table} {name key : String}
    (ht : Acceptable t) (h : HasEntries t name entries)
    (hsame : DiffersUnder entries entries' key) (origin : TableOrigin) :
    Acceptable (Keyed.insert name (.table origin entries') t) ↔
      ∀ s : SettingName, s.sectionName = name → s.key = key →
        s.Accepts (Keyed.get? key entries') := by
  rw [acceptable_of_differsAtKey (differsAtKey_insert h hsame origin) ht]
  refine forall_congr' fun s => forall₂_congr fun hname hkey => ?_
  rw [given_insert h hsame, if_pos ⟨hname, hkey⟩]

/-- A file that is not read, or holds no settings, is an error. -/
theorem load_eq_error {env : Environment} {files : String → FileStatus} {path place : String}
    (hplace : expandHome env path = .ok place) :
    (∀ reason, files place = .unreadable reason →
      load env files path = .error (.unreadable place reason)) ∧
    ∀ content, files place = .text content →
      (∀ t, Toml.read? content = some t → ¬ Acceptable t) →
      load env files path = .error (.malformed place) := by
  refine ⟨fun reason hreason => ?_, fun content hcontent hnone => ?_⟩
  · rw [load, hplace]
    simp only [bind, Except.bind, hreason]
  · have hread : ofToml? content = none := by
      rw [ofToml?, Option.bind_eq_none_iff]
      intro t ht
      rw [Option.eq_none_iff_forall_ne_some]
      exact fun c hc => hnone t ht (exists_read_iff.1 ⟨c, hc⟩)
    rw [load, hplace]
    simp only [bind, Except.bind, hcontent, hread]

/-- Settings are loaded from the first candidate that is there, and each of them is decided by its
variable, else by that file, else by its default, whatever is said of the others. -/
theorem loadFirst_precedence (env : Environment) (paths : List String) : Precedence env paths where
  alone := load_eq_loadFirst env
  first files before path after place hpaths hbefore hplace hfile := by
    rw [hpaths, loadFirst_append_of_absent hbefore, loadFirst_cons_of_exists hplace hfile]
  untouched files files' before path after after' place hpaths hbefore hbefore' hplace hfile
      hsame := by
    have hfile' : files' place ≠ .missing := hsame ▸ hfile
    rw [hpaths, loadFirst_append_of_absent hbefore, loadFirst_append_of_absent hbefore',
      loadFirst_cons_of_exists hplace hfile, loadFirst_cons_of_exists hplace hfile',
      load_congr hplace hsame]
  failed files path place hplace := load_eq_error hplace
  placeless files before path after e hpaths hbefore herror := by
    rw [hpaths, loadFirst_append_of_absent hbefore, loadFirst_cons_of_error herror]
  absent files h := by
    have hnone : loadFirst env files (paths ++ []) = loadFirst env files [] :=
      loadFirst_append_of_absent h
    rw [List.append_nil] at hnone
    exact hnone
  decided files c hc := ⟨exists_source hc, fun _ ht s => ht.decided hc s⟩
  loads files t ht := ht.exists_loadFirst_iff
  otherSection files files' t t' c c' name ht ht' hdiffers hc hc' s hs := by
    rw [value_eq_orElse ht' hc' s, value_eq_orElse ht hc s, given_of_differsUnder hdiffers hs]
  otherKey files files' t t' c c' name key ht ht' hdiffers hc hc' s hs := by
    rw [value_eq_orElse ht' hc' s, value_eq_orElse ht hc s, given_of_differsAtKey hdiffers hs]
  withoutSection files files' t c name ht ht' hc := by
    obtain ⟨c', hc'⟩ := ht'.exists_loadFirst_iff.2
      (acceptable_filter (ht.exists_loadFirst_iff.1 ⟨c, hc⟩) name)
    exact ⟨c', hc', fun s => value_eq_ite ht ht' hc hc' (given_filter t name s)⟩
  withoutKey files files' t entries c name key origin ht hentries ht' hc := by
    have hsame := differsUnder_filter entries key
    have hnone : Keyed.get? key (entries.filter fun e => e.1 ≠ key) = none := by
      rw [get_filter_ne, if_pos rfl]
    obtain ⟨c', hc'⟩ := ht'.exists_loadFirst_iff.2
      ((acceptable_insert_iff (ht.exists_loadFirst_iff.1 ⟨c, hc⟩) hentries hsame origin).2
        fun s _ _ v hv => by cases hnone.symm.trans hv)
    refine ⟨c', hc', fun s => ?_⟩
    have hgiven := given_insert hentries hsame origin s
    rw [hnone] at hgiven
    exact value_eq_ite ht ht' hc hc' hgiven
  withKey files files' t entries c name key v origin ht hentries ht' hc := by
    have hsame := differsUnder_insert entries key v
    have hsome : Keyed.get? key (Keyed.insert key v entries) = some v := by
      rw [Keyed.get_insert, if_pos rfl]
    refine ⟨?_, fun c' hc' s => ?_⟩
    · rw [ht'.exists_loadFirst_iff,
        acceptable_insert_iff (ht.exists_loadFirst_iff.1 ⟨c, hc⟩) hentries hsame origin, hsome]
      simp [SettingName.Accepts]
    · have hgiven := given_insert hentries hsame origin s
      rw [hsome] at hgiven
      exact value_eq_ite ht ht' hc hc' hgiven
  otherVariable files env' c hhome hc := by
    have hplain : env'.plain = env.plain := by rw [Environment.plain, Environment.plain, hhome]
    rw [loadFirst_eq_map] at hc
    obtain ⟨c₀, hc₀, rfl⟩ := map_eq_ok_iff.1 hc
    refine ⟨c₀.withOverrides env', ?_, fun s hs => ?_⟩
    · rw [loadFirst_eq_map, hplain, hc₀]
      rfl
    · rw [value_withOverrides, value_withOverrides, SettingName.orElse, SettingName.orElse, hs]

/-- A text in the file `b`, and no other file. -/
def inFile (content : String) (path : String) : FileStatus :=
  if path = "b" then .text content else .missing

/-- An environment with a format for the logs. -/
def jsonLogs : Environment := ⟨none, none, some "json", none⟩

/-- A file with two settings in two sections. -/
def twoSettings : Toml.Table :=
  [("observability", .table .header [("log_level", .str "warn")]),
   ("search", .table .header [("default_page_size", .int 5)])]

/-- A file that gives two settings is loaded under a variable that gives a third one. Without the
size of a page, and without its section as well, it still loads, and the size is the default. -/
theorem loadFirst_precedence_twoSettings :
    loadFirst jsonLogs
        (inFile "[search]\ndefault_page_size = 5\n[observability]\nlog_level = \"warn\"") ["a", "b"]
      = .ok { Config.default with search := ⟨5⟩, observability := ⟨"json", "warn"⟩ } ∧
    (∃ c, loadFirst jsonLogs (inFile "[search]\n[observability]\nlog_level = \"warn\"") ["a", "b"]
        = .ok c ∧ c.value? .defaultPageSize = some (.count 30) ∧
      c.value? .logLevel = some (.text "warn") ∧ c.value? .logFormat = some (.text "json")) ∧
    ∃ c, loadFirst jsonLogs (inFile "[observability]\nlog_level = \"warn\"") ["a", "b"] = .ok c ∧
      c.value? .defaultPageSize = some (.count 30) ∧
      c.value? .logLevel = some (.text "warn") ∧ c.value? .logFormat = some (.text "json") := by
  have hsource : ∀ {content t}, Toml.read? content = some t →
      Source jsonLogs (inFile content) ["a", "b"] t :=
    fun ht => .absent ⟨"a", rfl, rfl⟩ (.file rfl rfl ht)
  have hboth : Toml.read? "[search]\ndefault_page_size = 5\n[observability]\nlog_level = \"warn\""
      = some twoSettings := by cbv
  have hwithoutKey : Toml.read? "[search]\n[observability]\nlog_level = \"warn\""
      = some (Keyed.insert "search" (.table .header
          ([("default_page_size", Toml.int 5)].filter fun e => e.1 ≠ "default_page_size"))
          twoSettings) := by cbv
  have hwithoutSection : Toml.read? "[observability]\nlog_level = \"warn\""
      = some (twoSettings.filter fun e => e.1 ≠ "search") := by cbv
  have hloaded : loadFirst jsonLogs
      (inFile "[search]\ndefault_page_size = 5\n[observability]\nlog_level = \"warn\"") ["a", "b"]
      = .ok { Config.default with search := ⟨5⟩, observability := ⟨"json", "warn"⟩ } := by
    decide +kernel
  have hprecedence := loadFirst_precedence jsonLogs ["a", "b"]
  refine ⟨hloaded, ?_, ?_⟩
  · obtain ⟨c, hc, hvalue⟩ := hprecedence.withoutKey _ _ _ _ _ _ _ _ (hsource hboth)
      (.inl ⟨.header, rfl⟩) (hsource hwithoutKey) hloaded
    exact ⟨c, hc, hvalue .defaultPageSize, hvalue .logLevel, hvalue .logFormat⟩
  · obtain ⟨c, hc, hvalue⟩ := hprecedence.withoutSection _ _ _ _ _ (hsource hboth)
      (hsource hwithoutSection) hloaded
    exact ⟨c, hc, hvalue .defaultPageSize, hvalue .logLevel, hvalue .logFormat⟩

end Config

end TypedSearch
