import TypedSearch.Config.Basic
import TypedSearch.Proofs.Keyed
/-!
# `TypedSearch.Proofs.Config.Settings`: what a document says about each setting

A document of settings is read section by section, and each section setting by setting. A setting
that is not given has its default, and a section that is left out is read as an empty one, so that
it makes no difference which of the two is missing. What is given has to be of the right kind.

* `ClusterConfig.read_empty` and its like: an empty section is read as the default of the section.
* `Config.takenFrom_of_read`: what is read from a document, setting by setting.
* `Config.exists_read_iff`: which documents are read.
-/

set_option autoImplicit false

namespace TypedSearch

/-! ### Sections without settings -/

section
variable {V : Type} {n : SettingNotation V} {v : V}

/-- An empty section is read as the section is where it is left out. -/
theorem ClusterConfig.read_empty (h : n.members? v = some []) :
    ClusterConfig.read? n v = some ClusterConfig.default := by
  rw [ClusterConfig.read?, SettingNotation.record?, h]
  rfl

/-- An empty section is read as the section is where it is left out. -/
theorem IndexNames.read_empty (h : n.members? v = some []) :
    IndexNames.read? n v = some IndexNames.default := by
  rw [IndexNames.read?, SettingNotation.record?, h]
  rfl

/-- An empty section is read as the section is where it is left out. -/
theorem SearchConfig.read_empty (h : n.members? v = some []) :
    SearchConfig.read? n v = some SearchConfig.default := by
  rw [SearchConfig.read?, SettingNotation.record?, h]
  rfl

/-- An empty section is read as the section is where it is left out. -/
theorem LogConfig.read_empty (h : n.members? v = some []) :
    LogConfig.read? n v = some LogConfig.default := by
  rw [LogConfig.read?, SettingNotation.record?, h]
  rfl

end

/-! ### Settings one by one -/

/-- One of the settings. -/
inductive SettingName where
  | url
  | username
  | password
  | apiKey
  | timeoutMs
  | connectTimeoutMs
  | job
  | techBlog
  | communityPost
  | defaultPageSize
  | logFormat
  | logLevel
  deriving DecidableEq, Repr

/-- The value of a setting that has one. -/
inductive SettingValue where
  | text (s : String)
  | count (n : UInt64)
  deriving DecidableEq, Repr

namespace SettingName

/-- The name of the section that the setting is in. -/
def sectionName : SettingName → String
  | url | username | password | apiKey | timeoutMs | connectTimeoutMs => "elasticsearch"
  | job | techBlog | communityPost => "indices"
  | defaultPageSize => "search"
  | logFormat | logLevel => "observability"

/-- The key of the setting in its section. -/
def key : SettingName → String
  | url => "url"
  | username => "username"
  | password => "password"
  | apiKey => "api_key"
  | timeoutMs => "timeout_ms"
  | connectTimeoutMs => "connect_timeout_ms"
  | job => "job"
  | techBlog => "tech_blog"
  | communityPost => "community_post"
  | defaultPageSize => "default_page_size"
  | logFormat => "log_format"
  | logLevel => "log_level"

/-- The keys of the section that the setting is in, in their order. -/
def keys : SettingName → List String
  | url | username | password | apiKey | timeoutMs | connectTimeoutMs =>
    ["url", "username", "password", "api_key", "timeout_ms", "connect_timeout_ms"]
  | job | techBlog | communityPost => ["job", "tech_blog", "community_post"]
  | defaultPageSize => ["default_page_size"]
  | logFormat | logLevel => ["log_format", "log_level"]

/-- The default of the setting; nothing where it has no value then. -/
def default? : SettingName → Option SettingValue
  | url => some (.text "http://localhost:9200")
  | username | password | apiKey => none
  | timeoutMs => some (.count 30000)
  | connectTimeoutMs => some (.count 5000)
  | job => some (.text "jobs")
  | techBlog => some (.text "tech_blogs")
  | communityPost => some (.text "community_posts")
  | defaultPageSize => some (.count 30)
  | logFormat => some (.text "pretty")
  | logLevel => some (.text "info,scout=debug")

/-- Is the setting a number? -/
def isCount : SettingName → Bool
  | timeoutMs | connectTimeoutMs | defaultPageSize => true
  | _ => false

/-- The value that a file gives the setting, if it is of the right kind. -/
def read? (s : SettingName) (v : Toml) : Option SettingValue :=
  if s.isCount then v.count?.map fun n => .count (UInt64.ofNat n) else v.text?.map .text

/-- What a section says about the setting: the value under its key or, in a section that is written
as a list, the value in its place. -/
def givenIn (s : SettingName) (v : Toml) : Option Toml :=
  (SettingNotation.toml.record? s.keys v).bind fun get => get s.key

/-- What a document says about the setting. -/
def given? (t : Toml.Table) (s : SettingName) : Option Toml :=
  (Keyed.get? s.sectionName t).bind s.givenIn

/-- The value is the one that is given or, where none is, the default. -/
def TakenFrom (s : SettingName) (given : Option Toml) (value : Option SettingValue) : Prop :=
  (∃ v x, given = some v ∧ s.read? v = some x ∧ value = some x) ∨
    (given = none ∧ value = s.default?)

/-- What is given to the setting, if anything is, is of the right kind. -/
def Accepts (s : SettingName) (given : Option Toml) : Prop :=
  ∀ v, given = some v → ∃ x, s.read? v = some x

end SettingName

/-- The value can be read as a section: it is a table, or it is taken for one as a list, as tables
under a repeated header, or as a date. -/
def Toml.IsSection : Toml → Prop
  | table _ _ | arr _ | tables _ _ | moment _ => True
  | _ => False

namespace Config

/-- The value that a setting has; nothing for one without a value. -/
def value? (c : Config) : SettingName → Option SettingValue
  | .url => some (.text c.elasticsearch.url)
  | .username => c.elasticsearch.username.map .text
  | .password => c.elasticsearch.password.map .text
  | .apiKey => c.elasticsearch.apiKey.map .text
  | .timeoutMs => some (.count c.elasticsearch.timeoutMs)
  | .connectTimeoutMs => some (.count c.elasticsearch.connectTimeoutMs)
  | .job => some (.text c.indices.job)
  | .techBlog => some (.text c.indices.techBlog)
  | .communityPost => some (.text c.indices.communityPost)
  | .defaultPageSize => some (.count c.search.defaultPageSize)
  | .logFormat => some (.text c.observability.format)
  | .logLevel => some (.text c.observability.level)

/-! ### Reading a document -/

section
variable {s : SettingName} {v : Option Toml}

/-- A text with a default is taken from what is given. -/
theorem takenFrom_text {default x : String} (hkind : s.isCount = false)
    (hdefault : s.default? = some (.text default))
    (h : SettingNotation.toml.textOr? default v = some x) : s.TakenFrom v (some (.text x)) := by
  cases v with
  | none =>
    cases h
    exact .inr ⟨rfl, hdefault.symm⟩
  | some v =>
    have htext : v.text? = some x := h
    exact .inl ⟨v, .text x, rfl, by rw [SettingName.read?, hkind, htext]; rfl, rfl⟩

/-- A text that may be missing is taken from what is given. -/
theorem takenFrom_optionalText {x : Option String} (hkind : s.isCount = false)
    (hdefault : s.default? = none)
    (h : SettingNotation.toml.optionalText? v = some x) : s.TakenFrom v (x.map .text) := by
  cases v with
  | none =>
    cases h
    exact .inr ⟨rfl, hdefault.symm⟩
  | some v =>
    obtain ⟨y, hy, rfl⟩ : ∃ y, v.text? = some y ∧ some y = x := Option.map_eq_some_iff.1 h
    exact .inl ⟨v, .text y, rfl, by rw [SettingName.read?, hkind, hy]; rfl, rfl⟩

/-- A number with a default is taken from what is given. -/
theorem takenFrom_count {default x : UInt64} (hkind : s.isCount = true)
    (hdefault : s.default? = some (.count default))
    (h : SettingNotation.toml.countOr? default v = some x) : s.TakenFrom v (some (.count x)) := by
  cases v with
  | none =>
    cases h
    exact .inr ⟨rfl, hdefault.symm⟩
  | some v =>
    obtain ⟨n, hn, rfl⟩ : ∃ n, v.count? = some n ∧ UInt64.ofNat n = x := Option.map_eq_some_iff.1 h
    exact .inl ⟨v, .count _, rfl, by rw [SettingName.read?, hkind, hn]; rfl, rfl⟩

end

/-- A section that is left out is read as an empty one. -/
theorem read_of_sectionOr {α : Type} {read : Toml → Option α} {default c : α} {v : Option Toml}
    (hempty : read (.table .header []) = some default)
    (h : SettingNotation.sectionOr? read default v = some c) :
    read (v.getD (.table .header [])) = some c := by
  cases v with
  | none => exact hempty.trans h
  | some w => exact h

/-- The settings about the cluster are taken from their section. -/
theorem takenFrom_cluster {w : Toml} {c : ClusterConfig}
    (h : ClusterConfig.read? .toml w = some c) :
    SettingName.url.TakenFrom (SettingName.url.givenIn w) (some (.text c.url)) ∧
      SettingName.username.TakenFrom (SettingName.username.givenIn w) (c.username.map .text) ∧
      SettingName.password.TakenFrom (SettingName.password.givenIn w) (c.password.map .text) ∧
      SettingName.apiKey.TakenFrom (SettingName.apiKey.givenIn w) (c.apiKey.map .text) ∧
      SettingName.timeoutMs.TakenFrom (SettingName.timeoutMs.givenIn w)
        (some (.count c.timeoutMs)) ∧
      SettingName.connectTimeoutMs.TakenFrom (SettingName.connectTimeoutMs.givenIn w)
        (some (.count c.connectTimeoutMs)) := by
  simp only [ClusterConfig.read?, Option.bind_eq_bind, Option.bind_eq_some_iff] at h
  obtain ⟨get, hget, url, hurl, username, husername, password, hpassword, apiKey, hapiKey,
    timeout, htimeout, connect, hconnect, hc⟩ := h
  cases hc
  simp only [SettingName.givenIn, SettingName.keys, SettingName.key, hget, Option.bind_some]
  exact ⟨takenFrom_text rfl rfl hurl, takenFrom_optionalText rfl rfl husername,
    takenFrom_optionalText rfl rfl hpassword, takenFrom_optionalText rfl rfl hapiKey,
    takenFrom_count rfl rfl htimeout, takenFrom_count rfl rfl hconnect⟩

/-- The names of the indices are taken from their section. -/
theorem takenFrom_indices {w : Toml} {c : IndexNames} (h : IndexNames.read? .toml w = some c) :
    SettingName.job.TakenFrom (SettingName.job.givenIn w) (some (.text c.job)) ∧
      SettingName.techBlog.TakenFrom (SettingName.techBlog.givenIn w) (some (.text c.techBlog)) ∧
      SettingName.communityPost.TakenFrom (SettingName.communityPost.givenIn w)
        (some (.text c.communityPost)) := by
  simp only [IndexNames.read?, Option.bind_eq_bind, Option.bind_eq_some_iff] at h
  obtain ⟨get, hget, job, hjob, techBlog, htechBlog, communityPost, hcommunityPost, hc⟩ := h
  cases hc
  simp only [SettingName.givenIn, SettingName.keys, SettingName.key, hget, Option.bind_some]
  exact ⟨takenFrom_text rfl rfl hjob, takenFrom_text rfl rfl htechBlog,
    takenFrom_text rfl rfl hcommunityPost⟩

/-- The size of a page is taken from its section. -/
theorem takenFrom_search {w : Toml} {c : SearchConfig} (h : SearchConfig.read? .toml w = some c) :
    SettingName.defaultPageSize.TakenFrom (SettingName.defaultPageSize.givenIn w)
      (some (.count c.defaultPageSize)) := by
  simp only [SearchConfig.read?, Option.bind_eq_bind, Option.bind_eq_some_iff] at h
  obtain ⟨get, hget, size, hsize, hc⟩ := h
  cases hc
  simp only [SettingName.givenIn, SettingName.keys, SettingName.key, hget, Option.bind_some]
  exact takenFrom_count rfl rfl hsize

/-- The settings about logs are taken from their section. -/
theorem takenFrom_log {w : Toml} {c : LogConfig} (h : LogConfig.read? .toml w = some c) :
    SettingName.logFormat.TakenFrom (SettingName.logFormat.givenIn w) (some (.text c.format)) ∧
      SettingName.logLevel.TakenFrom (SettingName.logLevel.givenIn w) (some (.text c.level)) := by
  simp only [LogConfig.read?, Option.bind_eq_bind, Option.bind_eq_some_iff] at h
  obtain ⟨get, hget, format, hformat, level, hlevel, hc⟩ := h
  cases hc
  simp only [SettingName.givenIn, SettingName.keys, SettingName.key, hget, Option.bind_some]
  exact ⟨takenFrom_text rfl rfl hformat, takenFrom_text rfl rfl hlevel⟩

/-- Every setting that is read from a document is taken from it. -/
theorem takenFrom_of_read {t : Toml.Table} {c : Config}
    (h : read? .toml (.table .header t) = some c) (s : SettingName) :
    s.TakenFrom (s.given? t) (c.value? s) := by
  -- A section that is left out says as much about its settings as an empty one.
  have hgiven : ∀ s : SettingName, s.given? t
      = s.givenIn ((Keyed.get? s.sectionName t).getD (.table .header [])) := by
    intro s
    rw [SettingName.given?]
    cases Keyed.get? s.sectionName t with
    | none => rfl
    | some w => rfl
  -- Each of the four sections is read by itself, and each setting is in one of them.
  simp only [read?, Option.bind_eq_bind, Option.bind_eq_some_iff] at h
  obtain ⟨get, hget, cluster, hcluster, indices, hindices, search, hsearch, log, hlog, hc⟩ := h
  cases hget
  cases hc
  obtain ⟨hurl, husername, hpassword, hapiKey, htimeout, hconnect⟩ :=
    takenFrom_cluster (read_of_sectionOr (ClusterConfig.read_empty rfl) hcluster)
  obtain ⟨hjob, htechBlog, hcommunityPost⟩ :=
    takenFrom_indices (read_of_sectionOr (IndexNames.read_empty rfl) hindices)
  have hsize := takenFrom_search (read_of_sectionOr (SearchConfig.read_empty rfl) hsearch)
  obtain ⟨hformat, hlevel⟩ := takenFrom_log (read_of_sectionOr (LogConfig.read_empty rfl) hlog)
  rw [hgiven]
  cases s with
  | url => exact hurl
  | username => exact husername
  | password => exact hpassword
  | apiKey => exact hapiKey
  | timeoutMs => exact htimeout
  | connectTimeoutMs => exact hconnect
  | job => exact hjob
  | techBlog => exact htechBlog
  | communityPost => exact hcommunityPost
  | defaultPageSize => exact hsize
  | logFormat => exact hformat
  | logLevel => exact hlevel

/-! ### Documents that are read -/

/-- The document can be read as settings: the sections that it has are sections, and what it gives
to each setting is of the right kind. -/
structure Acceptable (t : Toml.Table) : Prop where
  isSection : ∀ (s : SettingName) (v : Toml), Keyed.get? s.sectionName t = some v → v.IsSection
  accepts : ∀ s : SettingName, s.Accepts (s.given? t)

/-- A value is taken for a record exactly when it can be read as a section. -/
theorem exists_record_iff {names : List String} {v : Toml} :
    (∃ get, SettingNotation.toml.record? names v = some get) ↔ v.IsSection := by
  cases v <;> simp [SettingNotation.record?, SettingNotation.toml, Toml.isMoment, Toml.entries?,
    Toml.items?, Toml.IsSection]

/-- What a setting is taken from is of the right kind. -/
theorem accepts_of_takenFrom {s : SettingName} {given : Option Toml} {value : Option SettingValue}
    (h : s.TakenFrom given value) : s.Accepts given := by
  rintro v rfl
  rcases h with ⟨v', x, hv, hx, -⟩ | ⟨hnone, -⟩
  · cases hv
    exact ⟨x, hx⟩
  · cases hnone

section
variable {s : SettingName} {v : Option Toml}

/-- A text is read where what is given is of the right kind. -/
theorem exists_text (hkind : s.isCount = false) (h : s.Accepts v) (default : String) :
    ∃ x, SettingNotation.toml.textOr? default v = some x := by
  cases v with
  | none => exact ⟨default, rfl⟩
  | some v =>
    obtain ⟨x, hx⟩ := h v rfl
    rw [SettingName.read?, hkind] at hx
    obtain ⟨y, hy, -⟩ := Option.map_eq_some_iff.1 hx
    exact ⟨y, hy⟩

/-- A text that may be missing is read where what is given is of the right kind. -/
theorem exists_optionalText (hkind : s.isCount = false) (h : s.Accepts v) :
    ∃ x, SettingNotation.toml.optionalText? v = some x := by
  cases v with
  | none => exact ⟨none, rfl⟩
  | some v =>
    obtain ⟨y, hy⟩ := exists_text hkind h ""
    exact ⟨some y, congrArg (Option.map some) hy⟩

/-- A number is read where what is given is of the right kind. -/
theorem exists_count (hkind : s.isCount = true) (h : s.Accepts v) (default : UInt64) :
    ∃ x, SettingNotation.toml.countOr? default v = some x := by
  cases v with
  | none => exact ⟨default, rfl⟩
  | some v =>
    obtain ⟨x, hx⟩ := h v rfl
    rw [SettingName.read?, hkind] at hx
    obtain ⟨n, hn, -⟩ := Option.map_eq_some_iff.1 hx
    exact ⟨UInt64.ofNat n, congrArg (Option.map UInt64.ofNat) hn⟩

end

section
variable {w : Toml}

/-- What a section gives to a setting is what stands under its key. -/
theorem accepts_key {s : SettingName} {names : List String} {get : String → Option Toml}
    (hget : SettingNotation.toml.record? names w = some get) (h : s.Accepts (s.givenIn w))
    (hnames : s.keys = names) : s.Accepts (get s.key) := by
  rwa [SettingName.givenIn, hnames, hget] at h

/-- The section about the cluster is read where it gives its settings values of the right kind. -/
theorem exists_cluster (hw : w.IsSection)
    (h : ∀ s : SettingName, s.sectionName = "elasticsearch" → s.Accepts (s.givenIn w)) :
    ∃ c, ClusterConfig.read? .toml w = some c := by
  obtain ⟨get, hget⟩ := exists_record_iff.2 hw
  obtain ⟨url, hurl⟩ :=
    exists_text rfl (accepts_key hget (h .url rfl) rfl) ClusterConfig.defaultUrl
  obtain ⟨username, husername⟩ :=
    exists_optionalText rfl (accepts_key hget (h .username rfl) rfl)
  obtain ⟨password, hpassword⟩ :=
    exists_optionalText rfl (accepts_key hget (h .password rfl) rfl)
  obtain ⟨apiKey, hapiKey⟩ := exists_optionalText rfl (accepts_key hget (h .apiKey rfl) rfl)
  obtain ⟨timeout, htimeout⟩ :=
    exists_count rfl (accepts_key hget (h .timeoutMs rfl) rfl) ClusterConfig.defaultTimeoutMs
  obtain ⟨connect, hconnect⟩ := exists_count rfl
    (accepts_key hget (h .connectTimeoutMs rfl) rfl) ClusterConfig.defaultConnectTimeoutMs
  simp only [ClusterConfig.read?, Option.bind_eq_bind, Option.bind_eq_some_iff]
  exact ⟨_, get, hget, url, hurl, username, husername, password, hpassword, apiKey, hapiKey,
    timeout, htimeout, connect, hconnect, rfl⟩

/-- The section about the indices is read where it gives its settings values of the right kind. -/
theorem exists_indices (hw : w.IsSection)
    (h : ∀ s : SettingName, s.sectionName = "indices" → s.Accepts (s.givenIn w)) :
    ∃ c, IndexNames.read? .toml w = some c := by
  obtain ⟨get, hget⟩ := exists_record_iff.2 hw
  obtain ⟨job, hjob⟩ := exists_text rfl (accepts_key hget (h .job rfl) rfl) IndexNames.defaultJob
  obtain ⟨techBlog, htechBlog⟩ :=
    exists_text rfl (accepts_key hget (h .techBlog rfl) rfl) IndexNames.defaultTechBlog
  obtain ⟨communityPost, hcommunityPost⟩ :=
    exists_text rfl (accepts_key hget (h .communityPost rfl) rfl) IndexNames.defaultCommunityPost
  simp only [IndexNames.read?, Option.bind_eq_bind, Option.bind_eq_some_iff]
  exact ⟨_, get, hget, job, hjob, techBlog, htechBlog, communityPost, hcommunityPost, rfl⟩

/-- The section about searches is read where it gives its setting a value of the right kind. -/
theorem exists_search (hw : w.IsSection)
    (h : ∀ s : SettingName, s.sectionName = "search" → s.Accepts (s.givenIn w)) :
    ∃ c, SearchConfig.read? .toml w = some c := by
  obtain ⟨get, hget⟩ := exists_record_iff.2 hw
  obtain ⟨size, hsize⟩ :=
    exists_count rfl (accepts_key hget (h .defaultPageSize rfl) rfl) SearchConfig.defaultSize
  simp only [SearchConfig.read?, Option.bind_eq_bind, Option.bind_eq_some_iff]
  exact ⟨_, get, hget, size, hsize, rfl⟩

/-- The section about logs is read where it gives its settings values of the right kind. -/
theorem exists_log (hw : w.IsSection)
    (h : ∀ s : SettingName, s.sectionName = "observability" → s.Accepts (s.givenIn w)) :
    ∃ c, LogConfig.read? .toml w = some c := by
  obtain ⟨get, hget⟩ := exists_record_iff.2 hw
  obtain ⟨format, hformat⟩ :=
    exists_text rfl (accepts_key hget (h .logFormat rfl) rfl) LogConfig.defaultFormat
  obtain ⟨level, hlevel⟩ :=
    exists_text rfl (accepts_key hget (h .logLevel rfl) rfl) LogConfig.defaultLevel
  simp only [LogConfig.read?, Option.bind_eq_bind, Option.bind_eq_some_iff]
  exact ⟨_, get, hget, format, hformat, level, hlevel, rfl⟩

end

/-- A section that may be left out is read where the one that is there is. -/
theorem exists_sectionOr {α : Type} {read : Toml → Option α} {v : Option Toml}
    (h : ∀ w, v = some w → ∃ c, read w = some c) (default : α) :
    ∃ c, SettingNotation.sectionOr? read default v = some c := by
  cases v with
  | none => exact ⟨default, rfl⟩
  | some w => exact h w rfl

/-- What is read as a section is one. -/
theorem isSection_of_sectionOr {α : Type} {names : List String}
    {rest : (String → Option Toml) → Option α} {default c : α} {v : Option Toml} {w : Toml}
    (h : SettingNotation.sectionOr? (fun w => (SettingNotation.toml.record? names w).bind rest)
      default v = some c) (hw : v = some w) : w.IsSection := by
  subst hw
  obtain ⟨get, hget, -⟩ := Option.bind_eq_some_iff.1 h
  exact exists_record_iff.1 ⟨get, hget⟩

/-- A document is read exactly when it can be read as settings. -/
theorem exists_read_iff {t : Toml.Table} :
    (∃ c, read? .toml (.table .header t) = some c) ↔ Acceptable t := by
  constructor
  · rintro ⟨c, hread⟩
    refine ⟨?_, fun s => accepts_of_takenFrom (takenFrom_of_read hread s)⟩
    simp only [read?, Option.bind_eq_bind, Option.bind_eq_some_iff] at hread
    obtain ⟨get, hget, cluster, hcluster, indices, hindices, search, hsearch, log, hlog, -⟩ := hread
    cases hget
    -- Each setting is in one of the four sections.
    intro s v hv
    cases s with
    | url | username | password | apiKey | timeoutMs | connectTimeoutMs =>
      exact isSection_of_sectionOr hcluster hv
    | job | techBlog | communityPost => exact isSection_of_sectionOr hindices hv
    | defaultPageSize => exact isSection_of_sectionOr hsearch hv
    | logFormat | logLevel => exact isSection_of_sectionOr hlog hv
  · rintro ⟨hsection, haccepts⟩
    -- What the document gives to a setting is what its section does.
    have hgiven : ∀ (s : SettingName) (w : Toml), Keyed.get? s.sectionName t = some w →
        s.Accepts (s.givenIn w) := by
      intro s w hw
      have h := haccepts s
      rwa [SettingName.given?, hw] at h
    obtain ⟨cluster, hcluster⟩ := exists_sectionOr (fun w hw =>
      exists_cluster (hsection .url w hw) fun s hs => hgiven s w (hs ▸ hw)) ClusterConfig.default
    obtain ⟨indices, hindices⟩ := exists_sectionOr (fun w hw =>
      exists_indices (hsection .job w hw) fun s hs => hgiven s w (hs ▸ hw)) IndexNames.default
    obtain ⟨search, hsearch⟩ := exists_sectionOr (fun w hw =>
      exists_search (hsection .defaultPageSize w hw) fun s hs => hgiven s w (hs ▸ hw))
      SearchConfig.default
    obtain ⟨log, hlog⟩ := exists_sectionOr (fun w hw =>
      exists_log (hsection .logFormat w hw) fun s hs => hgiven s w (hs ▸ hw)) LogConfig.default
    simp only [read?, Option.bind_eq_bind, Option.bind_eq_some_iff]
    exact ⟨_, _, rfl, cluster, hcluster, indices, hindices, search, hsearch, log, hlog, rfl⟩

end Config

end TypedSearch
