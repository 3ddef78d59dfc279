import RoutePattern.Command.Misuse
import RoutePattern.Text.Cut
import RoutePattern.Text.Digit

/-!
# Words of a command line

`readWords` tells the switches among the words of a command line from the other words. A long name
may be cut short as long as no other switch begins with what is left of it. After a divider, which
is a word of two dashes, there are no switches.
-/

namespace RoutePattern

/-- A switch as one word gives it, by its long or short name, perhaps with a text that goes with it
in the same word. -/
inductive GivenSwitch where
  | long (switch : Switch) (text : Option (List Char))
  | short (switch : Switch) (text : Option (List Char))
deriving DecidableEq, Repr

/-- What a word is. -/
inductive Role where
  | operand
  | divider
  | switch (given : GivenSwitch)
  /-- The word looks like a switch, but there is none of its name. -/
  | unknownSwitch
deriving DecidableEq, Repr

/-- A word with its role. -/
structure Word where
  text : String
  role : Role
deriving DecidableEq, Repr

namespace Word

/-- Whether a word is a divider. -/
def isDivider (word : Word) : Bool :=
  word.role == .divider

/-- Whether a word is an operand. -/
def isOperand (word : Word) : Bool :=
  word.role == .operand

/-- Whether a word is an operand or a divider. -/
def isPlain (word : Word) : Bool :=
  word.isOperand || word.isDivider

end Word

/-- Whether every character is a decimal digit. -/
def allDecimal (text : List Char) : Bool :=
  text.all fun c => isDecimalDigit c.toNat

/-- A text without a line end behind it. -/
def dropLineEnd (text : List Char) : List Char :=
  if text.getLast? = some '\n' then text.dropLast else text

/-- Whether the text after a dash is a number, which is no switch. -/
def isDashedNumber (text : List Char) : Bool :=
  match cut '.' (dropLineEnd text) with
  | (whole, some fraction) => allDecimal whole && !fraction.isEmpty && allDecimal fraction
  | (whole, none) => !whole.isEmpty && allDecimal whole

/-- The switch with a given letter. -/
def switchOfLetter? (switches : List Switch) (letter : Char) : Option Switch :=
  switches.find? fun switch => switch.letter? == some letter

/-- The switches whose long names begin with a text. The whole of a name means its switch alone. -/
def switchesOfStart (switches : List Switch) (start : List Char) : List Switch :=
  match switches.find? fun switch => switch.longName.toList == start with
  | some switch => [switch]
  | none => switches.filter fun switch => start.isPrefixOf switch.longName.toList

/-- The role of a word of at least two characters that begins with a dash and is none of the given
switches. -/
def unnamedRole (text : List Char) : Role :=
  if isDashedNumber (text.drop 1) || text.contains ' ' then .operand else .unknownSwitch

/-- The text that goes with a switch given by its letter, for what follows the letter. An equals
sign right after the letter is no part of it. -/
def textAfterLetter : List Char → Option (List Char)
  | [] => none
  | '=' :: text => some text
  | text => some text

/-- The role of a word in front of which there is no divider. -/
def readRole (switches : List Switch) (text : String) : Except Misuse Role :=
  match text.toList with
  | '-' :: '-' :: rest =>
      if rest.isEmpty then .ok .divider
      else
        let (start, value) := cut '=' text.toList
        match switchesOfStart switches start with
        | [] => .ok (unnamedRole text.toList)
        | [switch] => .ok (.switch (.long switch value))
        | several => .error (.ambiguous text several)
  | '-' :: letter :: rest =>
      match switchOfLetter? switches letter with
      | some switch => .ok (.switch (.short switch (textAfterLetter rest)))
      | none => .ok (unnamedRole text.toList)
  | _ => .ok .operand

/-- The words of a command line with their roles. -/
def readWords (switches : List Switch) : List String → Except Misuse (List Word)
  | [] => .ok []
  | text :: rest => do
      let role ← readRole switches text
      if role = .divider then return ⟨text, role⟩ :: rest.map (⟨·, .operand⟩)
      else return ⟨text, role⟩ :: (← readWords switches rest)

end RoutePattern
