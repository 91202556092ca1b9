import TypedSearch.Config.Basic
import TypedSearch.FileTree
/-!
# `TypedSearch.Config.Load`: finding, loading and saving settings

Settings are loaded from the first candidate file that exists, and then overridden, one by one, by
the environment. A path that starts with `~/` is under the home directory.
-/

set_option autoImplicit false

namespace TypedSearch

/-- The variables that the settings depend on. -/
structure Environment where
  /-- The path of the home directory. -/
  home : Option String
  url : Option String
  logFormat : Option String
  logLevel : Option String
  deriving DecidableEq, Repr

/-- Why settings are not loaded. The path is given as it was looked up. -/
inductive ConfigError where
  | noHome
  | unreadable (path reason : String)
  | malformed (path : String)
  deriving DecidableEq, Repr

/-- The wording of an error. -/
def ConfigError.message : ConfigError → String
  | noHome => "Cannot determine home directory"
  | unreadable path _ => "Failed to read " ++ path
  | malformed path => "Failed to parse " ++ path

/-- What is behind an error, where there is more to say. -/
def ConfigError.cause? : ConfigError → Option String
  | unreadable _ reason => some reason
  | _ => none

/-- A path under another one. An absolute path stays as it is. -/
def joinPath (base path : String) : String :=
  if path.startsWith "/" then path
  else if base.endsWith "/" then base ++ path
  else base ++ "/" ++ path

/-- The path with a leading `~` replaced by the home directory. -/
def expandHome (env : Environment) (path : String) : Except ConfigError String :=
  match path.toList with
  | '~' :: '/' :: rest =>
    match env.home with
    | some home => .ok (joinPath home (String.ofList rest))
    | none => .error .noHome
  | ['~'] =>
    match env.home with
    | some home => .ok home
    | none => .error .noHome
  | _ => .ok path

namespace Config

/-- The settings with those that the environment sets. -/
def withOverrides (c : Config) (env : Environment) : Config where
  elasticsearch := { c.elasticsearch with url := env.url.getD c.elasticsearch.url }
  indices := c.indices
  search := c.search
  observability :=
    ⟨env.logFormat.getD c.observability.format, env.logLevel.getD c.observability.level⟩

/-- Loads settings from a file; without the file they are the defaults. -/
def load (env : Environment) (files : String → FileStatus) (path : String) :
    Except ConfigError Config := do
  let path ← expandHome env path
  match files path with
  | .missing => .ok (Config.default.withOverrides env)
  | .unreadable reason => .error (.unreadable path reason)
  | .text content =>
    match ofToml? content with
    | some c => .ok (c.withOverrides env)
    | none => .error (.malformed path)

/-- Loads settings from the first file that exists; without any they are the defaults. -/
def loadFirst (env : Environment) (files : String → FileStatus) :
    List String → Except ConfigError Config
  | [] => .ok (Config.default.withOverrides env)
  | path :: paths => do
    if files (← expandHome env path) = .missing then loadFirst env files paths
    else load env files path

/-- The file under the home directory that settings are looked for in. -/
def homePath? (env : Environment) : Option String :=
  env.home.map fun home => joinPath (joinPath home ".scout") "config.toml"

/-- The files that settings are looked for in. -/
def searchPaths (env : Environment) : List String := "scout.toml" :: (homePath? env).toList

/-- Loads settings from where they are looked for. -/
def discover (env : Environment) (files : String → FileStatus) : Except ConfigError Config :=
  loadFirst env files (searchPaths env)

/-- Writes the settings to a file. Gives the files afterwards, and whether the settings were
written; settings without a text change nothing. -/
def save (c : Config) (tree : FileTree) (path : String) : FileTree × Bool :=
  match c.toToml? with
  | some content => tree.write path content
  | none => (tree, false)

end Config

end TypedSearch
