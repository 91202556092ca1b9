import TypedSearch.Calendar.Stamp
import TypedSearch.Cli.Usage
import TypedSearch.Decimal.Whole
import TypedSearch.Schema.Catalog
/-!
# `TypedSearch.Cli.Invocation`: what the program is asked to do

The arguments name a command, after which come those of the command itself. Where the settings are
can be told at every step of the way; a fallback stands in where it is not.
-/

set_option autoImplicit false

namespace TypedSearch.Cli

open Calendar (Instant)

/-- What to search for, as it is given: conditions as texts, and which of the results. -/
structure Search where
  schema : SchemaName
  conditions : List String
  start : Option Int64
  stop : Option Int64
  deriving DecidableEq, Repr

/-- What the program can do. -/
inductive Command where
  /-- The daily statistics, at a point in time or now. -/
  | dailyStats (now : Option Instant)
  | search (search : Search)
  | get (schema : SchemaName) (id : String)
  /-- Shows the body of a search without sending it. -/
  | compile (search : Search)
  deriving DecidableEq, Repr

/-- A command, and where the settings for it are. -/
structure Invocation where
  config : Option String
  command : Command
  deriving DecidableEq, Repr

/-- Reads an offset of 64 bits. -/
def readOffset? (s : String) : Option Int64 := do
  let n ← Decimal.readInt? s.toList
  if Int64.minValue.toInt ≤ n ∧ n ≤ Int64.maxValue.toInt then some (Int64.ofInt n) else none

/-! ### What the commands take -/

/-- The option that tells where the settings are. -/
def configRule : OptionRule where
  long := "config"
  short := some 'c'
  repeats := false
  hyphens := false
  accepts path := path ≠ ""

/-- The option for a condition. -/
def whereRule : OptionRule where
  long := "where"
  short := some 'w'
  repeats := true
  hyphens := false
  accepts _ := true

/-- The option for the offset of the first result. It may be negative. -/
def fromRule : OptionRule where
  long := "from"
  short := none
  repeats := false
  hyphens := true
  accepts s := (readOffset? s).isSome

/-- The option for the offset past the last result. -/
def toRule : OptionRule where
  long := "to"
  short := none
  repeats := false
  hyphens := false
  accepts s := (readOffset? s).isSome

/-- The option for the point in time of statistics. -/
def nowRule : OptionRule where
  long := "now"
  short := none
  repeats := false
  hyphens := false
  accepts s := (Calendar.ofText? s).isSome

/-- Is this the name of a schema? -/
def isSchemaName (s : String) : Bool := (SchemaName.ofText? s).isSome

/-- What the program takes. -/
def programUsage : Usage :=
  ⟨[configRule], [], ["stats", "search", "get", "compile", "help"], true⟩

/-- What the command for statistics takes. -/
def statsUsage : Usage := ⟨[configRule], [], ["daily", "help"], false⟩

/-- What the command for daily statistics takes. -/
def dailyUsage : Usage := ⟨[configRule, nowRule], [], [], false⟩

/-- What the commands about a search take. -/
def searchUsage : Usage := ⟨[configRule, whereRule, fromRule, toRule], [isSchemaName], [], false⟩

/-- What the command about a document takes. -/
def getUsage : Usage := ⟨[configRule], [isSchemaName, fun _ => true], [], false⟩

/-! ### Reading arguments -/

/-- A value that must be there. -/
def needed {α : Type} (v : Option α) : Except Stop α :=
  match v with
  | some v => .ok v
  | none => .error .misuse

/-- Reads the arguments of the commands about a search. -/
def Search.ofGiven (g : Given) : Except Stop Search := do
  .ok {
    schema := ← needed (g.operands.head?.bind SchemaName.ofText?)
    conditions := g.values "where"
    start := (g.value? "from").bind readOffset?
    stop := (g.value? "to").bind readOffset? }

/-- Help on the commands that a path of names leads to. -/
def helpOn (names path : List String) : Stop :=
  match path with
  | [] => .help
  | name :: path =>
    if name ∉ names then .misuse
    else match name, path with
      | _, [] => .help
      | "stats", ["daily"] => .help
      | "stats", ["help"] => .help
      | _, _ => .misuse

/-- Where the settings are, from what was given at each step, the last step first. A step that does
not tell uses the fallback, which then must not be empty. -/
def configPath (fallback : Option String) (steps : List Given) : Except Stop (Option String) :=
  let told := steps.map fun g => g.value? configRule.long
  if fallback = some "" ∧ none ∈ told then .error .misuse
  else .ok ((told.findSome? id).or fallback)

/-- Reads the command for statistics. -/
def readStats (arguments : List String) : Except Stop (Command × List Given) := do
  let g ← statsUsage.read arguments
  match g.command with
  | some ("daily", rest) => do
    let daily ← dailyUsage.read rest
    .ok (.dailyStats ((daily.value? "now").bind Calendar.ofText?), [daily, g])
  | some (_, path) => .error (helpOn ["daily", "help"] path)
  | none => .error .misuse

/-- Reads a command, with what was given at each step, the last step first. -/
def readCommand (name : String) (arguments : List String) :
    Except Stop (Command × List Given) := do
  match name with
  | "stats" => readStats arguments
  | "search" => do
    let g ← searchUsage.read arguments
    .ok (.search (← Search.ofGiven g), [g])
  | "get" => do
    let g ← getUsage.read arguments
    .ok (.get (← needed (g.operands[0]?.bind SchemaName.ofText?)) (← needed g.operands[1]?), [g])
  | "compile" => do
    let g ← searchUsage.read arguments
    .ok (.compile (← Search.ofGiven g), [g])
  | _ => .error (helpOn programUsage.commands arguments)

namespace Invocation

/-- Reads the arguments of the program. The fallback tells where the settings are unless the
arguments do. -/
def ofArguments (fallback : Option String) (arguments : List String) : Except Stop Invocation := do
  let g ← programUsage.read arguments
  match g.command with
  | some (name, rest) => do
    let (command, steps) ← readCommand name rest
    .ok ⟨← configPath fallback (steps ++ [g]), command⟩
  | none => .error .misuse

end Invocation

end TypedSearch.Cli
