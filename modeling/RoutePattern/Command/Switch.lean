/-!
# Switches of the command line

A switch has a long name, and some have a short one. Most say something by being there; the others
are followed by a value.
-/

namespace RoutePattern

/-- The switches of all commands. -/
inductive Switch where
  | help
  | delimiter
  | prefixes
  | sensitive
  | strict
  | noStart
  | noEnd
  | endsWith
  | noValidate
  | config
  | debug
  | verbose
  | param
deriving DecidableEq, Repr

namespace Switch

/-- The long name of a switch. -/
def longName : Switch → String
  | help => "--help"
  | delimiter => "--delimiter"
  | prefixes => "--prefixes"
  | sensitive => "--sensitive"
  | strict => "--strict"
  | noStart => "--no-start"
  | noEnd => "--no-end"
  | endsWith => "--ends-with"
  | noValidate => "--no-validate"
  | config => "--config"
  | debug => "--debug"
  | verbose => "--verbose"
  | param => "--param"

/-- The letter that follows the dash of the short name of a switch. -/
def letter? : Switch → Option Char
  | help => some 'h'
  | verbose => some 'v'
  | param => some 'p'
  | _ => none

/-- Whether a switch is followed by a value. -/
def takesValue : Switch → Bool
  | delimiter | prefixes | endsWith | config | param => true
  | _ => false

/-- What stands for the value of a switch that is given none in place of one. No parameter is
written in this way. -/
def absentValue : Switch → String
  | param => "[]"
  | _ => ""

/-- The names of a switch as a message shows them. -/
def title (switch : Switch) : String :=
  match switch.letter? with
  | some c => String.ofList ['-', c] ++ "/" ++ switch.longName
  | none => switch.longName

/-- The switches that every command takes. -/
def common : List Switch :=
  [help, delimiter, prefixes, sensitive, strict, noStart, noEnd, endsWith, noValidate, config,
   debug, verbose]

end Switch

end RoutePattern
