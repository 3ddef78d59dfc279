import RoutePattern.Command.Arguments
import RoutePattern.Command.Files
import RoutePattern.Options

/-!
# Invocations

`Invocation.read` reads a command line: the command, what it is about, and what the switches say.
-/

namespace RoutePattern

/-- What a command is to do. -/
inductive Task where
  /-- List the parts of a pattern. -/
  | parse (pattern : String)
  /-- Show the expression of patterns and its keys. -/
  | regex (patterns : List String)
  /-- Match texts against a pattern. -/
  | matching (pattern : String) (paths : List String)
  /-- Build a path of a pattern from parameters. -/
  | build (pattern : String) (params : List String)
  /-- Check the route table in a file. -/
  | check (file : FilePath)
deriving DecidableEq, Repr

/-- The patterns that a task is about. -/
def Task.patterns : Task → List String
  | parse pattern | matching pattern _ | build pattern _ => [pattern]
  | regex patterns => patterns
  | check _ => []

/-- A command line that has been read. -/
structure Invocation where
  task : Task
  /-- The options that the switches set. -/
  settings : List Setting
  /-- The configuration file. -/
  config : FilePath
  /-- Whether to list the lexemes of the patterns. -/
  debug : Bool
  /-- Whether to tell of each expression that is compiled. -/
  verbose : Bool
deriving DecidableEq, Repr

/-- The operands of a command. -/
def Verb.operands : Verb → List Operand
  | parse => [⟨"pattern", .one⟩]
  | regex => [⟨"pattern", .many⟩]
  | matching => [⟨"pattern", .one⟩, ⟨"path", .many⟩]
  | build => [⟨"pattern", .one⟩]
  | check => [⟨"file", .one⟩]

/-- The switches of a command. -/
def Verb.switches : Verb → List Switch
  | build => Switch.common ++ [.param]
  | _ => Switch.common

/-- The name of the program. -/
def programName : String := "pathpat"

/-- What a command takes. -/
def Verb.usage (verb : Verb) : Usage where
  program := programName ++ " " ++ verb.label
  switches := verb.switches
  operands := verb.operands

/-- What the program takes: a command and its arguments. -/
def mainUsage : Usage where
  program := programName
  switches := [.help]
  operands := [⟨"command", .remainder⟩]

/-- The option that a switch sets. -/
def Switch.setting? (switch : Switch) (value : String) : Option Setting :=
  match switch with
  | delimiter => some (.delimiter value)
  | prefixes => some (.prefixes value)
  | sensitive => some (.sensitive true)
  | strict => some (.strict true)
  | noStart => some (.anchorStart false)
  | noEnd => some (.anchorEnd false)
  | endsWith => some (.endsWith value)
  | noValidate => some (.validate false)
  | _ => none

/-- The values of a switch, in order. -/
def Arguments.valuesOf (arguments : Arguments) (switch : Switch) : List String :=
  (arguments.switches.filter (·.1 == switch)).map Prod.snd

/-- Whether a switch is given. -/
def Arguments.has (arguments : Arguments) (switch : Switch) : Bool :=
  arguments.switches.any (·.1 == switch)

/-- The values of an operand. -/
def Arguments.operand (arguments : Arguments) (place : Nat) : List String :=
  arguments.operands[place]?.getD []

/-- The task of a command. -/
def Verb.task (verb : Verb) (arguments : Arguments) : Task :=
  let first := (arguments.operand 0).headD ""
  match verb with
  | parse => .parse first
  | regex => .regex (arguments.operand 0)
  | matching => .matching first (arguments.operand 1)
  | build => .build first (arguments.valuesOf .param)
  | check => .check (.ofText first)

/-- The configuration file unless another one is given. -/
def standardConfig : String := "pathpat.toml"

namespace Invocation

/-- The invocation of a command with its arguments. -/
def ofArguments (verb : Verb) (arguments : Arguments) : Invocation :=
  let config := (arguments.valuesOf .config).getLastD ""
  { task := verb.task arguments
    settings := arguments.switches.filterMap fun (switch, value) => switch.setting? value
    config := .ofText (if config.isEmpty then standardConfig else config)
    debug := arguments.has .debug
    verbose := arguments.has .verbose }

/-- Read a command line. Words that nothing takes are refused after everything else has been
read. -/
def read (words : List String) : Except Interruption Invocation := do
  let outer ← mainUsage.read words
  match outer.operand 0 with
  | [] => .error (mainUsage.interrupt (.missingOperands ["command"]))
  | word :: rest =>
      match Verb.ofLabel? word with
      | none => .error (mainUsage.interrupt (.unknownCommand word))
      | some verb => do
          let inner ← verb.usage.read rest
          let extras := outer.extras ++ inner.extras
          if extras.isEmpty then return ofArguments verb inner
          else .error (mainUsage.interrupt (.unrecognized extras))

end Invocation

end RoutePattern
