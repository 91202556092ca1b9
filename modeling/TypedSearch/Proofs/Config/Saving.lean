import TypedSearch.Config.Load
import TypedSearch.Proofs.FileTree
import TypedSearch.Proofs.Toml.Document
/-!
# `TypedSearch.Proofs.Config.Saving`: settings survive being saved

Settings are written as sections with distinct names, those without a value left out, and every
setting is read under the name that it is written under. Whether there is a document at all depends
on the numbers only, and is found out before any file is touched.

* `wellNamed_sections`: the names of sections and settings, whichever are left out.
* `exists_toToml_iff`: there is a document unless a number is too large.
* `ofToml_of_toToml`: the settings are read back from the document.
* `load_save`: the settings are loaded from the file that they were saved to.
-/

set_option autoImplicit false

namespace TypedSearch

open Toml (Setting Section WellNamed)

namespace Config

/-- Do the numbers among the settings fit 64 bits with a sign? -/
def Fits (c : Config) : Prop :=
  (c.elasticsearch.timeoutMs.toNat : Int) ≤ Int64.maxValue.toInt ∧
    (c.elasticsearch.connectTimeoutMs.toNat : Int) ≤ Int64.maxValue.toInt ∧
    (c.search.defaultPageSize.toNat : Int) ≤ Int64.maxValue.toInt

/-- The name of a setting, unless it is left out. -/
theorem names_optional (name : String) (value : Option String) :
    ((optional name value).map Prod.fst).Sublist [name] := by
  cases value with
  | none => exact List.nil_sublist _
  | some s => exact List.Sublist.refl _

/-- Settings have distinct names that may be written without quotes, also where some are left
out. -/
theorem wellNamed_sections (c : Config) : WellNamed c.sections := by
  -- The settings that are not left out have some of the names, in order.
  have hsettings : ∀ s ∈ c.sections, ∃ names : List String,
      (s.settings.map Prod.fst).Sublist names ∧ names.Nodup ∧
        ∀ name ∈ names, Toml.IsBare name := by
    simp only [sections, List.forall_mem_cons, List.not_mem_nil, false_imp_iff, implies_true,
      and_true, List.map_append, List.map_cons]
    refine ⟨⟨["url", "username", "password", "api_key", "timeout_ms", "connect_timeout_ms"],
      ?_, by decide, by decide⟩, ⟨_, .refl _, by decide, by decide⟩,
      ⟨_, .refl _, by decide, by decide⟩, ⟨_, .refl _, by decide, by decide⟩⟩
    exact ((((names_optional "username" _).cons_cons "url").append
      (names_optional "password" _)).append (names_optional "api_key" _)).append (.refl _)
  constructor
  · simp only [sections, List.forall_mem_cons]
    decide
  · intro s hs e he
    obtain ⟨names, hsub, -, hbare⟩ := hsettings s hs
    exact hbare _ (hsub.subset (List.mem_map_of_mem he))
  · show ["elasticsearch", "indices", "search", "observability"].Nodup
    decide
  · intro s hs
    obtain ⟨names, hsub, hnodup, -⟩ := hsettings s hs
    exact hnodup.sublist hsub

/-- Settings have a document exactly where their numbers fit. -/
theorem exists_toToml_iff {c : Config} : (∃ text, c.toToml? = some text) ↔ c.Fits := by
  have hcount : ∀ n : Nat, (Setting.count n).Fits ↔ (n : Int) ≤ Int64.maxValue.toInt :=
    fun _ => Iff.rfl
  have htext : ∀ s, (Setting.text s).Fits ↔ True := fun _ => Iff.rfl
  have hoptional : ∀ name value, (∀ e ∈ optional name value, e.2.Fits) ↔ True := by
    intro name value
    cases value with
    | none => simp [optional]
    | some s => simp [optional, htext]
  -- Texts always fit, and so the three numbers decide.
  rw [toToml?, Toml.exists_write_iff, Fits]
  simp only [sections, List.forall_mem_cons, List.forall_mem_append, hcount, htext, hoptional]
  simp [and_assoc]

/-! ### Reading settings back -/

/-- An optional setting is found under its name, unless it is left out. -/
theorem get_optional (name key : String) (value : Option String) :
    Keyed.get? name (optional key value) = if key = name then value.map .text else none := by
  cases value with
  | none => simp [optional]
  | some s => simp [optional]

/-- A table is read as a record of its entries. -/
theorem record_table (names : List String) (t : Toml.Table) :
    SettingNotation.toml.record? names (.table .header t) = some fun name => Keyed.get? name t :=
  rfl

/-- A text is read back. -/
theorem textOr_text (default s : String) :
    SettingNotation.toml.textOr? default (some (Setting.text s).value) = some s := rfl

/-- A text that may be missing is read back. -/
theorem optionalText_text (value : Option String) :
    SettingNotation.toml.optionalText? ((value.map .text).map Setting.value) = some value := by
  cases value <;> rfl

/-- A number of 64 bits is read back. -/
theorem countOr_count (default n : UInt64) :
    SettingNotation.toml.countOr? default (some (Setting.count n.toNat).value) = some n := by
  show ((Toml.int n.toNat).count?).map UInt64.ofNat = _
  rw [Toml.count?, if_pos (Int.natCast_nonneg _), Int.toNat_natCast, Option.map_some,
    UInt64.ofNat_toNat]

/-- Does a table hold the values of settings under their names? -/
def Holds (t : Toml.Table) (settings : List (String × Setting)) : Prop :=
  ∀ name, Keyed.get? name t = (Keyed.get? name settings).map Setting.value

/-- The section about the cluster is read back. -/
theorem read_cluster (c : ClusterConfig) {t : Toml.Table}
    (h : Holds t ((("url", .text c.url) :: optional "username" c.username) ++
      optional "password" c.password ++ optional "api_key" c.apiKey ++
      [("timeout_ms", .count c.timeoutMs.toNat),
       ("connect_timeout_ms", .count c.connectTimeoutMs.toNat)])) :
    ClusterConfig.read? .toml (.table .header t) = some c := by
  obtain ⟨url, username, password, apiKey, timeout, connectTimeout⟩ := c
  have hurl : Keyed.get? "url" t = some (Setting.text url).value := by
    rw [h]
    simp
  have husername : Keyed.get? "username" t = (username.map .text).map Setting.value := by
    rw [h]
    simp [Keyed.get_append, get_optional]
  have hpassword : Keyed.get? "password" t = (password.map .text).map Setting.value := by
    rw [h]
    simp [Keyed.get_append, get_optional]
  have hapiKey : Keyed.get? "api_key" t = (apiKey.map .text).map Setting.value := by
    rw [h]
    simp [Keyed.get_append, get_optional]
  have htimeout : Keyed.get? "timeout_ms" t = some (Setting.count timeout.toNat).value := by
    rw [h]
    simp [Keyed.get_append, get_optional]
  have hconnect : Keyed.get? "connect_timeout_ms" t
      = some (Setting.count connectTimeout.toNat).value := by
    rw [h]
    simp [Keyed.get_append, get_optional]
  simp only [ClusterConfig.read?, record_table, hurl, husername, hpassword, hapiKey, htimeout,
    hconnect, textOr_text, optionalText_text, countOr_count, Option.bind_eq_bind,
    Option.bind_some]

/-- The section about the indices is read back. -/
theorem read_indices (c : IndexNames) {t : Toml.Table}
    (h : Holds t [("job", .text c.job), ("tech_blog", .text c.techBlog),
      ("community_post", .text c.communityPost)]) :
    IndexNames.read? .toml (.table .header t) = some c := by
  have hjob : Keyed.get? "job" t = some (Setting.text c.job).value := h "job"
  have htechBlog : Keyed.get? "tech_blog" t = some (Setting.text c.techBlog).value := h "tech_blog"
  have hcommunityPost : Keyed.get? "community_post" t
      = some (Setting.text c.communityPost).value := h "community_post"
  simp only [IndexNames.read?, record_table, hjob, htechBlog, hcommunityPost, textOr_text,
    Option.bind_eq_bind, Option.bind_some]

/-- The section about searches is read back. -/
theorem read_search (c : SearchConfig) {t : Toml.Table}
    (h : Holds t [("default_page_size", .count c.defaultPageSize.toNat)]) :
    SearchConfig.read? .toml (.table .header t) = some c := by
  have hsize : Keyed.get? "default_page_size" t
      = some (Setting.count c.defaultPageSize.toNat).value := h "default_page_size"
  simp only [SearchConfig.read?, record_table, hsize, countOr_count, Option.bind_eq_bind,
    Option.bind_some]

/-- The section about logs is read back. -/
theorem read_log (c : LogConfig) {t : Toml.Table}
    (h : Holds t [("log_format", .text c.format), ("log_level", .text c.level)]) :
    LogConfig.read? .toml (.table .header t) = some c := by
  have hformat : Keyed.get? "log_format" t = some (Setting.text c.format).value := h "log_format"
  have hlevel : Keyed.get? "log_level" t = some (Setting.text c.level).value := h "log_level"
  simp only [LogConfig.read?, record_table, hformat, hlevel, textOr_text, Option.bind_eq_bind,
    Option.bind_some]

/-- Settings are read back from their document. -/
theorem ofToml_of_toToml {c : Config} {text : String} (h : c.toToml? = some text) :
    ofToml? text = some c := by
  have hnames := c.wellNamed_sections
  have hsection : ∀ s ∈ c.sections,
      Keyed.get? s.name (Toml.tableOf c.sections) = some (.table .header s.table) ∧
        Holds s.table s.settings :=
    fun s hs => ⟨Toml.get_tableOf hnames hs, Toml.get_table hnames hs⟩
  rw [ofToml?, Toml.read_write hnames h, Option.bind_some]
  -- Of the table no more is needed than what is found under the names of the sections.
  generalize Toml.tableOf c.sections = t at hsection
  simp only [sections, List.forall_mem_cons] at hsection
  obtain ⟨⟨hcluster, hcluster'⟩, ⟨hindices, hindices'⟩, ⟨hsearch, hsearch'⟩, ⟨hlog, hlog'⟩, -⟩ :=
    hsection
  simp only [read?, record_table, hcluster, hindices, hsearch, hlog, SettingNotation.sectionOr?,
    read_cluster _ hcluster', read_indices _ hindices', read_search _ hsearch', read_log _ hlog',
    Option.bind_eq_bind, Option.bind_some]

/-! ### Saving and loading -/

/-- A path without a tilde in front is looked up as it is. -/
theorem expandHome_of_head {path : String} (h : path.toList.head? ≠ some '~')
    (env : Environment) : expandHome env path = .ok path := by
  unfold expandHome
  split
  · next hpath => simp [hpath] at h
  · next hpath => simp [hpath] at h
  · rfl

/-- An environment that sets nothing changes nothing. -/
theorem withOverrides_of_none (c : Config) {env : Environment} (hurl : env.url = none)
    (hformat : env.logFormat = none) (hlevel : env.logLevel = none) : c.withOverrides env = c := by
  rw [withOverrides, hurl, hformat, hlevel]
  rfl

/-- A file with the document of settings is loaded as these settings. -/
theorem load_of_toToml {c : Config} {text : String} (h : c.toToml? = some text)
    {files : String → FileStatus} {path : String} (hfile : files path = .text text)
    (hpath : path.toList.head? ≠ some '~') {env : Environment} (hurl : env.url = none)
    (hformat : env.logFormat = none) (hlevel : env.logLevel = none) :
    load env files path = .ok c := by
  rw [load, expandHome_of_head hpath]
  simp only [bind, Except.bind, hfile, ofToml_of_toToml h,
    withOverrides_of_none c hurl hformat hlevel]

/-- Settings whose numbers fit are saved wherever a file can be written, whatever stood there, and
are loaded from there as they were. Settings with a number that does not fit are not saved, and no
file is changed. -/
theorem load_save (c : Config) (tree : FileTree) (path : String) :
    (c.Fits → tree.Writable path → path.toList.head? ≠ some '~' →
      ∃ saved, c.save tree path = (saved, true) ∧
        ∀ env : Environment, env.url = none → env.logFormat = none → env.logLevel = none →
          load env saved.status path = .ok c) ∧
      (¬ c.Fits → c.save tree path = (tree, false)) := by
  constructor
  · intro hfits hwritable hpath
    obtain ⟨text, htext⟩ := exists_toToml_iff.2 hfits
    obtain ⟨saved, hsaved, hfile⟩ := FileTree.write_of_writable hwritable text
    refine ⟨saved, ?_, fun env hurl hformat hlevel =>
      load_of_toToml htext hfile hpath hurl hformat hlevel⟩
    rw [save, htext]
    exact hsaved
  · intro hlarge
    have htext : c.toToml? = none := by
      cases htext : c.toToml? with
      | none => rfl
      | some text => exact absurd (exists_toToml_iff.1 ⟨text, htext⟩) hlarge
    rw [save, htext]

/-- Settings whose texts are hard to quote. -/
def quotedSettings : Config where
  elasticsearch := ⟨"'''\"\"\"\\\n", some "", none, some "a\tb\x00\x7f", 9223372036854775807, 0⟩
  indices := ⟨"''\"", "\"\"\"\n'", "\r\nü\u2028"⟩
  search := ⟨30⟩
  observability := ⟨"\\u0041", "#="⟩

/-- A directory with a file that holds no settings. -/
def brokenTree : FileTree := ⟨[], [(["scout.toml"], .file "[")]⟩

/-- Hard texts survive being saved over a broken file; a page size of 64 bits does not get there. -/
theorem load_save_quotedSettings :
    (∃ saved, quotedSettings.save brokenTree "scout.toml" = (saved, true) ∧
      load ⟨none, none, none, none⟩ saved.status "scout.toml" = .ok quotedSettings) ∧
    { quotedSettings with search := ⟨9223372036854775808⟩ }.save brokenTree "scout.toml"
      = (brokenTree, false) := by
  constructor
  · have hwritable : brokenTree.Writable "scout.toml" := ⟨"", by decide +kernel⟩
    obtain ⟨saved, hsaved, hload⟩ := (load_save quotedSettings brokenTree "scout.toml").1
      (by unfold Fits; decide) hwritable (by decide)
    exact ⟨saved, hsaved, hload _ rfl rfl rfl⟩
  · exact (load_save _ brokenTree "scout.toml").2 (by unfold Fits; decide)

end Config

end TypedSearch
