import RoutePattern.Codec
import RoutePattern.Match
import RoutePattern.Text.Cut
import RoutePattern.Text.Digit

/-!
# Parameters on the command line

A parameter is written as a name, an equals sign and a value. A name of digits is the place of an
unnamed key. A name that is given more than once has the list of its values.
-/

namespace RoutePattern

/-- Why a word is no parameter. -/
inductive ParamFault where
  | noEquals (word : String)
  /-- The name consists of digits but is no integer. -/
  | badIndex (fault : IntegerFault)
deriving DecidableEq, Repr

/-- The description of why a word is no parameter. -/
def ParamFault.message : ParamFault → String
  | noEquals word => "invalid param format (expected NAME=VALUE): " ++ word
  | badIndex fault => fault.message

/-- The key name that a text in front of an equals sign stands for. -/
def readParamName (name : List Char) : Except ParamFault KeyName :=
  if !name.isEmpty && name.all (fun c => isDigit c.toNat) then
    (readInteger name).map KeyName.positional |>.mapError .badIndex
  else .ok (.named (String.ofList name))

/-- Read a word as a parameter. -/
def readParam (word : String) : Except ParamFault (KeyName × String) :=
  match cut '=' word.toList with
  | (_, none) => .error (.noEquals word)
  | (name, some value) => do return (← readParamName name, String.ofList value)

/-- Add a value of a name to those it has. -/
def Params.gather (params : Params) (name : KeyName) (value : String) : Params :=
  match params.lookup name with
  | none => params.put name (.text value)
  | some (.list values) => params.put name (.list (values ++ [.text value]))
  | some first => params.put name (.list [first, .text value])

/-- Read words as parameters, on top of those read so far. -/
def readParams (params : Params) : List String → Except ParamFault Params
  | [] => .ok params
  | word :: rest => do
      let (name, value) ← readParam word
      readParams (params.gather name value) rest

end RoutePattern
