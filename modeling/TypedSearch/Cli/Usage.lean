/-!
# `TypedSearch.Cli.Usage`: reading the arguments of one command

A command takes options, each with a value, and operands; where it has commands of its own, the
arguments from the first of these on are left to that one. Arguments are taken in order, and the
first that cannot be taken ends the reading.
-/

set_option autoImplicit false

namespace TypedSearch.Cli

/-- Why arguments are not carried out. -/
inductive Stop where
  /-- They ask what there is to know about the program. -/
  | help
  /-- They are not what the program takes. -/
  | misuse
  deriving DecidableEq, Repr

/-- An option with a value. -/
structure OptionRule where
  long : String
  short : Option Char
  /-- May the option be given more than once? -/
  repeats : Bool
  /-- May a value that stands by itself start with a hyphen? -/
  hyphens : Bool
  accepts : String → Bool

/-- What a command takes. -/
structure Usage where
  options : List OptionRule
  /-- The tests that the operands must pass, in order. All operands are needed. -/
  operands : List (String → Bool)
  commands : List String
  /-- Can the version be asked for? -/
  hasVersion : Bool

/-- What a command was given. -/
structure Given where
  /-- Values under the long names of their options, in order. -/
  options : List (String × String)
  operands : List String
  /-- A command with its arguments. -/
  command : Option (String × List String)
  deriving DecidableEq, Repr

namespace Given

/-- Nothing was given. -/
def nothing : Given := ⟨[], [], none⟩

/-- The values of an option, in order. -/
def values (g : Given) (long : String) : List String :=
  (g.options.filter fun e => e.1 = long).map (·.2)

/-- The value of an option that is not repeated. -/
def value? (g : Given) (long : String) : Option String := (g.values long).head?

/-- Takes a value for an option. -/
def addOption (g : Given) (rule : OptionRule) (value : String) : Except Stop Given :=
  if rule.accepts value ∧ (rule.repeats ∨ g.values rule.long = []) then
    .ok { g with options := g.options ++ [(rule.long, value)] }
  else .error .misuse

end Given

/-- How one argument is to be taken. -/
inductive Shape where
  | operand
  /-- All further arguments are operands. -/
  | operandsOnly
  /-- An option, with its value if that is part of the argument. -/
  | option (rule : OptionRule) (value : Option String)
  | help
  | unknown

namespace Usage

/-- The shape of an argument behind two hyphens. -/
def longShape (u : Usage) (cs : List Char) : Shape :=
  let name := String.ofList (cs.takeWhile (· ≠ '='))
  let value := match cs.dropWhile (· ≠ '=') with
    | _ :: value => some (String.ofList value)
    | [] => none
  match u.options.find? fun rule => rule.long = name with
  | some rule => .option rule value
  | none =>
    if value.isNone ∧ (name = "help" ∨ (u.hasVersion ∧ name = "version")) then .help else .unknown

/-- The shape of an argument behind one hyphen. -/
def shortShape (u : Usage) (c : Char) (rest : List Char) : Shape :=
  match u.options.find? fun rule => rule.short = some c with
  | some rule => .option rule (match rest with
    | [] => none
    | '=' :: value => some (String.ofList value)
    | value => some (String.ofList value))
  | none => if c = 'h' ∨ (u.hasVersion ∧ c = 'V') then .help else .unknown

/-- The shape of an argument. A single hyphen is an operand. -/
def shapeOf (u : Usage) (argument : String) : Shape :=
  match argument.toList with
  | ['-', '-'] => .operandsOnly
  | '-' :: '-' :: rest => u.longShape rest
  | '-' :: c :: rest => u.shortShape c rest
  | _ => .operand

/-- Can the argument be the value of an option that stands by itself? -/
def isPlain (argument : String) : Bool := argument = "-" || !argument.startsWith "-"

/-- Takes an operand. -/
def addOperand (u : Usage) (g : Given) (value : String) : Except Stop Given :=
  match u.operands[g.operands.length]? with
  | some accepts =>
    if accepts value then .ok { g with operands := g.operands ++ [value] } else .error .misuse
  | none => .error .misuse

/-- Takes arguments in order. -/
def take (u : Usage) (g : Given) : List String → Except Stop Given
  | [] => .ok g
  | argument :: rest =>
    if argument ∈ u.commands then .ok { g with command := some (argument, rest) }
    else match u.shapeOf argument with
      | .operand => do u.take (← u.addOperand g argument) rest
      | .operandsOnly => rest.foldlM u.addOperand g
      | .option rule (some value) => do u.take (← g.addOption rule value) rest
      | .option rule none =>
        match rest with
        | value :: rest =>
          if rule.hyphens ∨ isPlain value then do u.take (← g.addOption rule value) rest
          else .error .misuse
        | [] => .error .misuse
      | .help => .error .help
      | .unknown => .error .misuse

/-- Takes all arguments of a command. -/
def read (u : Usage) (arguments : List String) : Except Stop Given := do
  let g ← u.take .nothing arguments
  if g.operands.length < u.operands.length then .error .misuse else .ok g

end Usage

end TypedSearch.Cli
