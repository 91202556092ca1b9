import TypedSearch.Cli.Invocation
import TypedSearch.Cluster.Client
import TypedSearch.Config.Load
import TypedSearch.Search
import TypedSearch.Stats.Daily
/-!
# `TypedSearch.Cli.Run`: carrying out a command

A command is carried out with settings and a transport. It sends at most one request, and its
answer is JSON, or messages of which the first says what failed and each further one why the one
before did.
-/

set_option autoImplicit false

namespace TypedSearch.Cli

open Calendar (Instant)

/-- The answer to a command. -/
abbrev Answer := Except (List String) Json

/-- Messages for an error: its wording, and that of the failure behind it. -/
def messagesOf (e : SearchError) : List String :=
  e.message :: (e.cause?.map Failure.message).toList

/-- Messages for settings that are not loaded. -/
def configMessages (e : ConfigError) : List String := e.message :: e.cause?.toList

/-- The name of the index for a schema. -/
def indexOf (names : IndexNames) : SchemaName → String
  | .jobs => names.job
  | .techBlogs => names.techBlog
  | .communityPosts => names.communityPost

/-- The client that the settings describe. -/
def connect (config : Config) : Except (List String) Client :=
  (Client.ofConfig config.elasticsearch).mapError fun cause =>
    ["Cannot create client for " ++ config.elasticsearch.url, cause.message]

/-- The answer that a result stands for. -/
def Answer.ofResult {α : Type} (json : α → Json) (r : Except SearchError α) : Answer :=
  (r.map json).mapError messagesOf

variable {m : Type → Type} [Monad m]

section Searches

variable {F : Type} [DecidableEq F] [FieldSet F]

/-- Reads conditions up to the first that is none. -/
def readConditions (texts : List String) : Except (List String) (List (Condition F)) :=
  texts.mapM fun s =>
    (Condition.ofText s).mapError fun e => ("Invalid --where " ++ quoted s) :: messagesOf e

/-- The window that a search asks for. -/
def Search.window (config : Config) (s : Search) : Except (List String) (Window F) := do
  let conditions ← readConditions s.conditions
  (Window.withDefaults conditions s.start s.stop config.search.defaultPageSize).mapError messagesOf

/-- What a search works with: its window, and a client for the cluster. -/
def Search.prepare (config : Config) (s : Search) :
    Except (List String) (Window F × Client) := do
  let window ← s.window config
  .ok (window, ← connect config)

/-- One page of documents. -/
def search (config : Config) (transport : Transport m) (s : Search) (schema : Schema F) :
    m Answer :=
  match s.prepare config with
  | .error messages => pure (.error messages)
  | .ok (window, client) =>
    Answer.ofResult (Page.toJson Document.toJson) <$>
      (DocumentSearch.mk (client.engine transport) schema (indexOf config.indices s.schema)).search
        window []

/-- The document with an identifier. -/
def get (config : Config) (transport : Transport m) (name : SchemaName) (id : String)
    (schema : Schema F) : m Answer :=
  match connect config with
  | .error messages => pure (.error messages)
  | .ok client =>
    Answer.ofResult Document.toJson <$>
      (DocumentSearch.mk (client.engine transport) schema (indexOf config.indices name)).get id

/-- The index and the body of the request that a search makes. -/
def compile (config : Config) (s : Search) (schema : Schema F) : Answer := do
  let (window, _) ← s.prepare config
  let request ← (schema.buildRequest window []).mapError messagesOf
  .ok (.ofMembers [("index", .str (indexOf config.indices s.schema)), ("body", request.body)])

end Searches

/-- The daily statistics of job postings. -/
def dailyStats (config : Config) (transport : Transport m) (now : Instant) : m Answer :=
  match connect config with
  | .error messages => pure (.error messages)
  | .ok client =>
    Answer.ofResult (fun r => (Daily.Stats.ofResult r).toJson) <$>
      (DocumentSearch.mk (client.engine transport) jobs config.indices.job).aggregateRequests
        (Daily.requests now)

/-- Carries out a command. -/
def Command.run (config : Config) (transport : Transport m) (now : Instant) : Command → m Answer
  | dailyStats time => Cli.dailyStats config transport (time.getD now)
  | search s => s.schema.apply (Cli.search config transport s)
  | get name id => name.apply (Cli.get config transport name id)
  | compile s => pure (s.schema.apply (Cli.compile config s))

namespace Invocation

/-- The files that the settings may be in. -/
def candidates (env : Environment) (i : Invocation) : List String :=
  let paths := match i.config with
    | some path => [path]
    | none => Config.searchPaths env
  paths.filterMap fun path => (expandHome env path).toOption

/-- Loads the settings from where they are told to be, or else from where they are looked for. -/
def loadConfig (env : Environment) (files : String → FileStatus) (i : Invocation) :
    Except ConfigError Config :=
  match i.config with
  | some path => Config.load env files path
  | none => Config.discover env files

/-- Loads the settings and carries out the command. -/
def run (env : Environment) (files : String → FileStatus) (transport : Transport m) (now : Instant)
    (i : Invocation) : m Answer :=
  match i.loadConfig env files with
  | .error e => pure (.error (configMessages e))
  | .ok config => i.command.run config transport now

end Invocation

/-! ### Messages as lines -/

/-- The lines of a text. -/
def linesOf (s : String) : List String := (Text.splitAll '\n' s.toList).map String.ofList

/-- A cause as lines, the first behind a mark and the others as far to the right. -/
def causeLines (mark : String) (cause : String) : List String :=
  match linesOf cause with
  | first :: rest =>
    (mark ++ first) :: rest.map fun line => String.ofList (List.replicate mark.length ' ') ++ line
  | [] => []

/-- Several causes as lines, each behind its number. -/
def numberedLines (causes : List String) : List String :=
  causes.zipIdx.flatMap fun (cause, i) =>
    let number := Decimal.natText i
    causeLines (String.ofList (List.replicate (5 - number.length) ' ') ++ number ++ ": ") cause

/-- Messages as lines: what failed, and behind an empty line the causes. -/
def errorLines (messages : List String) : List String :=
  match messages with
  | [] => []
  | message :: causes => linesOf ("Error: " ++ message) ++ match causes with
    | [] => []
    | [cause] => ["", "Caused by:"] ++ causeLines "    " cause
    | causes => ["", "Caused by:"] ++ numberedLines causes

end TypedSearch.Cli
