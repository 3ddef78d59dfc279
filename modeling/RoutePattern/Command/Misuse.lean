import RoutePattern.Command.Switch
import RoutePattern.Text.Quoted

/-!
# Misuse of the command line

What can be wrong with the words of a command line, and the line that tells so.
-/

namespace RoutePattern

/-- The commands. -/
inductive Verb where
  | parse
  | regex
  | matching
  | build
  | check
deriving DecidableEq, Repr

namespace Verb

/-- The word for a command. -/
def label : Verb → String
  | parse => "parse"
  | regex => "regex"
  | matching => "match"
  | build => "build"
  | check => "check"

/-- Every command, in the order in which a message lists them. -/
def all : List Verb :=
  [parse, regex, matching, build, check]

/-- The command for a word. -/
def ofLabel? (word : String) : Option Verb :=
  all.find? fun verb => verb.label == word

end Verb

/-- What is wrong with the words of a command line. -/
inductive Misuse where
  /-- A word is the start of more than one long name. -/
  | ambiguous (word : String) (switches : List Switch)
  /-- A switch without a value is given one. -/
  | ignoredValue (switch : Switch) (value : String)
  | missingValue (switch : Switch)
  | unknownCommand (word : String)
  | missingOperands (names : List String)
  | unrecognized (words : List String)
deriving DecidableEq, Repr

/-- The description of what is wrong. -/
def Misuse.message : Misuse → String
  | ambiguous word switches =>
      "ambiguous option: " ++ word ++ " could match "
        ++ ", ".intercalate (switches.map Switch.longName)
  | ignoredValue switch value =>
      "argument " ++ switch.title ++ ": ignored explicit argument " ++ quoted value
  | missingValue switch => "argument " ++ switch.title ++ ": expected one argument"
  | unknownCommand word =>
      "argument command: invalid choice: " ++ quoted word ++ " (choose from "
        ++ ", ".intercalate (Verb.all.map fun verb => quoted verb.label) ++ ")"
  | missingOperands names =>
      "the following arguments are required: " ++ ", ".intercalate names
  | unrecognized words => "unrecognized arguments: " ++ " ".intercalate words

/-- A misuse and the program or command that was misused. -/
structure UsageError where
  program : String
  misuse : Misuse
deriving DecidableEq, Repr

/-- The line that tells of a misuse. -/
def UsageError.message (error : UsageError) : String :=
  error.program ++ ": error: " ++ error.misuse.message

end RoutePattern
