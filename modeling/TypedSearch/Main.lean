import Std.Time.DateTime.Timestamp
import TypedSearch.Cli.Run
/-!
# `TypedSearch.Main`: the program

Reads the arguments, the variables of the environment and the files that settings are looked for
in, carries out the command, and prints what it comes to. It opens no connection of its own: its
transport reaches no cluster, so that of the commands `compile` alone succeeds.
-/

set_option autoImplicit false

namespace TypedSearch.Main

open Cli (Invocation)

/-- What the program tells about itself. -/
def explanation : String :=
  "Typed search and aggregation reports

Commands:
  stats daily [--now TIMESTAMP]
  search SCHEMA [-w CONDITION]... [--from N] [--to N]
  get SCHEMA ID
  compile SCHEMA [-w CONDITION]... [--from N] [--to N]

SCHEMA is jobs, tech-blogs or community-posts.
CONDITION is field=value or field=lo..hi.
-c PATH tells where the settings are."

/-- The variables that the program depends on. -/
def environment : IO Environment := do
  return {
    home := ← IO.getEnv "HOME"
    url := ← IO.getEnv "SCOUT_ES_URL"
    logFormat := ← IO.getEnv "LOG_FORMAT"
    logLevel := ← IO.getEnv "RUST_LOG" }

/-- What there is under a path. -/
def fileStatus (path : String) : IO FileStatus := do
  try
    return .text (← IO.FS.readFile path)
  catch
    | .inappropriateType _ 21 _ => return .unreadable FileTree.directoryReason
    | .noFileOrDirectory .. | .inappropriateType .. | .invalidArgument .. => return .missing
    | e => return .unreadable e.toString

/-- The point in time at which the program runs. -/
def now : IO Calendar.Instant := do
  let t ← Std.Time.Timestamp.now
  let nanoseconds := t.toNanosecondsSinceUnixEpoch.val
  return ⟨nanoseconds / Calendar.nanosInSecond, (nanoseconds % Calendar.nanosInSecond).toNat⟩

/-- Looks up the files that an invocation may read, and carries it out. -/
def carryOut (env : Environment) (i : Invocation) : IO Cli.Answer := do
  let files ← (i.candidates env).mapM fun path => return (path, ← fileStatus path)
  i.run env (fun path => (files.lookup path).getD .missing) Transport.unreachable (← now)

end TypedSearch.Main

section

open TypedSearch TypedSearch.Main

/-- Runs the program. It ends with 0 if the command was carried out, with 1 if that failed, and
with 2 if the arguments name no command. -/
def main (arguments : List String) : IO UInt32 := do
  match Cli.Invocation.ofArguments (← IO.getEnv "SCOUT_CONFIG") arguments with
  | .error .help =>
    IO.println explanation
    return 0
  | .error .misuse =>
    IO.eprintln explanation
    return 2
  | .ok invocation =>
    match ← carryOut (← environment) invocation with
    | .ok answer =>
      IO.println answer.pretty
      return 0
    | .error messages =>
      (Cli.errorLines messages).forM IO.eprintln
      return 1

end
