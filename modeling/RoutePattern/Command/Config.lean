import RoutePattern.Command.Files
import RoutePattern.Options
import RoutePattern.Text.Utf8
import RoutePattern.Toml.Reader

/-!
# Configuration files

A configuration file is a TOML document. Its table `options` sets options of patterns; everything
else in it is left alone. A file that is not there sets nothing.
-/

namespace RoutePattern

/-- Why a configuration file cannot be used. -/
inductive ConfigFault where
  | unreadable (path : FilePath) (message : String)
  | unknownOption (name : String)
  | wrongType (name expected : String) (value : TomlValue)
  /-- An integer of the file is too long to be read. -/
  | number (fault : IntegerFault)
deriving Repr

/-- The integer that keeps a configuration fault from being told. -/
def ConfigFault.number? : ConfigFault → Option IntegerFault
  | number fault => some fault
  | wrongType _ _ value => if value.isUnwritable then some .unwritable else none
  | _ => none

/-- The description of why a configuration file cannot be used. -/
def ConfigFault.message : ConfigFault → String
  | unreadable path message => "invalid config file " ++ path.text ++ ": " ++ message
  | unknownOption name => "unknown option in config: " ++ name
  | wrongType name expected value =>
      "config option " ++ name ++ " must be " ++ expected ++ ", got " ++ value.shown
  | number fault => fault.message

/-- The options whose values are texts. -/
def textSetting? (name : String) : Option (String → Setting) :=
  match name with
  | "delimiter" => some .delimiter
  | "prefixes" => some .prefixes
  | "ends_with" => some .endsWith
  | _ => none

/-- The options whose values are truth values. -/
def truthSetting? (name : String) : Option (Bool → Setting) :=
  match name with
  | "sensitive" => some .sensitive
  | "strict" => some .strict
  | "start" => some .anchorStart
  | "end" => some .anchorEnd
  | "validate" => some .validate
  | _ => none

/-- The setting of an entry of the table `options`. -/
def readSetting (name : String) (value : TomlValue) : Except ConfigFault Setting :=
  match textSetting? name, truthSetting? name, value with
  | some setting, _, .string text => .ok (setting text)
  | some _, _, value => .error (.wrongType name "str" value)
  | none, some setting, .boolean truth => .ok (setting truth)
  | none, some _, value => .error (.wrongType name "bool" value)
  | none, none, _ => .error (.unknownOption name)

/-- The settings of a document. -/
def readSettings (document : TomlTable) : Except ConfigFault (List Setting) :=
  match document.lookup "options" with
  | some (.table entries) => entries.mapM fun (name, value) => readSetting name value
  | _ => .ok []

/-- The settings of the text of a configuration file. -/
def readConfig (path : FilePath) (text : List Char) : Except ConfigFault (List Setting) :=
  match readToml text with
  | .ok document => readSettings document
  | .error (.wrong message) => .error (.unreadable path message)
  | .error (.number fault) => .error (.number fault)

end RoutePattern
