import TypedSearch.Json.Basic
import TypedSearch.Toml.Reader
import TypedSearch.Toml.Writer
/-!
# `TypedSearch.Config.Basic`: settings and their text

The settings in four sections. Every setting has a default for where its section does not give it,
and every section has one for where it is left out; what is not a setting is passed over. A section
can be written as a record or as a list of its settings in their order.
-/

set_option autoImplicit false

namespace TypedSearch

/-- How to reach the cluster. -/
structure ClusterConfig where
  url : String
  username : Option String
  password : Option String
  apiKey : Option String
  timeoutMs : UInt64
  connectTimeoutMs : UInt64
  deriving DecidableEq, Repr

/-- The names of the three indices in the cluster. -/
structure IndexNames where
  job : String
  techBlog : String
  communityPost : String
  deriving DecidableEq, Repr

/-- How a search is cut into pages. -/
structure SearchConfig where
  defaultPageSize : UInt64
  deriving DecidableEq, Repr

/-- How the program logs. -/
structure LogConfig where
  format : String
  level : String
  deriving DecidableEq, Repr

/-- All settings. -/
structure Config where
  elasticsearch : ClusterConfig
  indices : IndexNames
  search : SearchConfig
  observability : LogConfig
  deriving DecidableEq, Repr

/-! ### Defaults -/

namespace ClusterConfig

/-- The URL in a section without one. -/
def defaultUrl : String := "http://localhost:9200"

/-- How long a request may take, in a section that does not tell. -/
def defaultTimeoutMs : UInt64 := 30000

/-- How long it may take to connect, in a section that does not tell. -/
def defaultConnectTimeoutMs : UInt64 := 5000

/-- The section where there is none. -/
def default : ClusterConfig :=
  ⟨defaultUrl, none, none, none, defaultTimeoutMs, defaultConnectTimeoutMs⟩

end ClusterConfig

namespace IndexNames

/-- The index of job postings in a section without it. -/
def defaultJob : String := "jobs"

/-- The index of blog articles in a section without it. -/
def defaultTechBlog : String := "tech_blogs"

/-- The index of community posts in a section without it. -/
def defaultCommunityPost : String := "community_posts"

/-- The section where there is none. -/
def default : IndexNames := ⟨defaultJob, defaultTechBlog, defaultCommunityPost⟩

end IndexNames

namespace SearchConfig

/-- The size of a page in a section that does not tell. -/
def defaultSize : UInt64 := 30

/-- The section where there is none. -/
def default : SearchConfig := ⟨defaultSize⟩

end SearchConfig

namespace LogConfig

/-- The format in a section without one. -/
def defaultFormat : String := "pretty"

/-- The levels in a section without them. -/
def defaultLevel : String := "info,scout=debug"

/-- The section where there is none. -/
def default : LogConfig := ⟨defaultFormat, defaultLevel⟩

end LogConfig

/-- The settings where nothing is set. -/
def Config.default : Config :=
  ⟨ClusterConfig.default, IndexNames.default, SearchConfig.default, LogConfig.default⟩

/-! ### Notations -/

/-- A notation that settings can be written in, by what its values can be taken for. -/
structure SettingNotation (V : Type) where
  members? : V → Option (Keyed V)
  items? : V → Option (List V)
  text? : V → Option String
  count? : V → Option Nat
  isNull : V → Bool
  /-- May a list be longer than the record it is taken for? -/
  longLists : Bool

/-- Settings in JSON. -/
def SettingNotation.json : SettingNotation Json :=
  ⟨Json.members?, Json.items?, Json.text?, Json.count?, Json.isNull, false⟩

/-- Settings in TOML. A date or time is taken for a record without any known setting. -/
def SettingNotation.toml : SettingNotation Toml where
  members? v := if v.isMoment then some [] else v.entries?
  items? := Toml.items?
  text? := Toml.text?
  count? := Toml.count?
  isNull _ := false
  longLists := true

namespace SettingNotation

variable {V : Type}

/-- A value as a record with the given names. -/
def record? (n : SettingNotation V) (names : List String) (v : V) : Option (String → Option V) :=
  match n.members? v with
  | some members => some fun name => Keyed.get? name members
  | none =>
    match n.items? v with
    | some items =>
      if names.length < items.length ∧ !n.longLists then none
      else some fun name => items[names.idxOf name]?
    | none => none

/-- A text, or its default. -/
def textOr? (n : SettingNotation V) (default : String) (v : Option V) : Option String :=
  match v with
  | some v => n.text? v
  | none => some default

/-- A text that may be missing or null. -/
def optionalText? (n : SettingNotation V) (v : Option V) : Option (Option String) :=
  match v with
  | some v => if n.isNull v then some none else (n.text? v).map some
  | none => some none

/-- A whole number of 64 bits, or its default. -/
def countOr? (n : SettingNotation V) (default : UInt64) (v : Option V) : Option UInt64 :=
  match v with
  | some v => (n.count? v).map UInt64.ofNat
  | none => some default

/-- A section, or its default. -/
def sectionOr? {α : Type} (read : V → Option α) (default : α) (v : Option V) : Option α :=
  match v with
  | some v => read v
  | none => some default

end SettingNotation

open SettingNotation

variable {V : Type}

/-- Reads the section about the cluster. -/
def ClusterConfig.read? (n : SettingNotation V) (v : V) : Option ClusterConfig := do
  let get ← n.record?
    ["url", "username", "password", "api_key", "timeout_ms", "connect_timeout_ms"] v
  some {
    url := ← n.textOr? defaultUrl (get "url")
    username := ← n.optionalText? (get "username")
    password := ← n.optionalText? (get "password")
    apiKey := ← n.optionalText? (get "api_key")
    timeoutMs := ← n.countOr? defaultTimeoutMs (get "timeout_ms")
    connectTimeoutMs := ← n.countOr? defaultConnectTimeoutMs (get "connect_timeout_ms") }

/-- Reads the section about the indices. -/
def IndexNames.read? (n : SettingNotation V) (v : V) : Option IndexNames := do
  let get ← n.record? ["job", "tech_blog", "community_post"] v
  some {
    job := ← n.textOr? defaultJob (get "job")
    techBlog := ← n.textOr? defaultTechBlog (get "tech_blog")
    communityPost := ← n.textOr? defaultCommunityPost (get "community_post") }

/-- Reads the section about searches. -/
def SearchConfig.read? (n : SettingNotation V) (v : V) : Option SearchConfig := do
  let get ← n.record? ["default_page_size"] v
  some ⟨← n.countOr? defaultSize (get "default_page_size")⟩

/-- Reads the section about logs. -/
def LogConfig.read? (n : SettingNotation V) (v : V) : Option LogConfig := do
  let get ← n.record? ["log_format", "log_level"] v
  some ⟨← n.textOr? defaultFormat (get "log_format"), ← n.textOr? defaultLevel (get "log_level")⟩

namespace Config

/-- Reads all sections. -/
def read? (n : SettingNotation V) (v : V) : Option Config := do
  let get ← n.record? ["elasticsearch", "indices", "search", "observability"] v
  some {
    elasticsearch :=
      ← sectionOr? (ClusterConfig.read? n) ClusterConfig.default (get "elasticsearch")
    indices := ← sectionOr? (IndexNames.read? n) IndexNames.default (get "indices")
    search := ← sectionOr? (SearchConfig.read? n) SearchConfig.default (get "search")
    observability := ← sectionOr? (LogConfig.read? n) LogConfig.default (get "observability") }

/-- All settings as JSON, null for those without a value. -/
def toJson (c : Config) : Json :=
  let text? (s : Option String) : Json := .ofOption .str s
  .ofMembers
    [("elasticsearch", .ofMembers
      [("url", .str c.elasticsearch.url), ("username", text? c.elasticsearch.username),
       ("password", text? c.elasticsearch.password), ("api_key", text? c.elasticsearch.apiKey),
       ("timeout_ms", .nat c.elasticsearch.timeoutMs.toNat),
       ("connect_timeout_ms", .nat c.elasticsearch.connectTimeoutMs.toNat)]),
     ("indices", .ofMembers [("job", .str c.indices.job), ("tech_blog", .str c.indices.techBlog),
       ("community_post", .str c.indices.communityPost)]),
     ("search", .ofMembers [("default_page_size", .nat c.search.defaultPageSize.toNat)]),
     ("observability", .ofMembers [("log_format", .str c.observability.format),
       ("log_level", .str c.observability.level)])]

/-- Reads settings from a TOML document. -/
def ofToml? (text : String) : Option Config :=
  (Toml.read? text).bind fun t => read? .toml (.table .header t)

/-- A setting that is left out where it has no value. -/
def optional (name : String) (value : Option String) : List (String × Toml.Setting) :=
  match value with
  | some s => [(name, .text s)]
  | none => []

/-- The settings as sections of a TOML document. -/
def sections (c : Config) : List Toml.Section :=
  [⟨"elasticsearch", (("url", .text c.elasticsearch.url) ::
      optional "username" c.elasticsearch.username) ++
      optional "password" c.elasticsearch.password ++
      optional "api_key" c.elasticsearch.apiKey ++
      [("timeout_ms", .count c.elasticsearch.timeoutMs.toNat),
       ("connect_timeout_ms", .count c.elasticsearch.connectTimeoutMs.toNat)]⟩,
   ⟨"indices", [("job", .text c.indices.job), ("tech_blog", .text c.indices.techBlog),
      ("community_post", .text c.indices.communityPost)]⟩,
   ⟨"search", [("default_page_size", .count c.search.defaultPageSize.toNat)]⟩,
   ⟨"observability", [("log_format", .text c.observability.format),
      ("log_level", .text c.observability.level)]⟩]

/-- The settings as a TOML document; nothing if a number is too large for one. -/
def toToml? (c : Config) : Option String := Toml.write? c.sections

end Config

end TypedSearch
