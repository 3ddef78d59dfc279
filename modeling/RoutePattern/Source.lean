import RoutePattern.Expr.Reader
import RoutePattern.Part.Reader

/-!
# Parts as an expression

`partsSource` writes the parts of a pattern as the text of one expression, with a capture group for
every key that captures, in the order of the keys. `Options` decide how the expression is anchored
and where a match may end. `compileParts` reads that text.
-/

namespace RoutePattern

/-- The expression of a key whose surrounding texts have been escaped. A repeated key captures all
its repetitions at once, with what stands between two of them. -/
def Key.source (key : Key) (before after : String) : String :=
  if !key.captures then "(?:" ++ before ++ after ++ ")" ++ key.modifier
  else if before.isEmpty && after.isEmpty then "(" ++ key.pattern ++ ")" ++ key.modifier
  else if key.repeated then
    let again := "(?:" ++ after ++ before ++ "(?:" ++ key.pattern ++ "))*"
    "(?:" ++ before ++ "((?:" ++ key.pattern ++ ")" ++ again ++ ")" ++ after ++ ")"
      ++ (if key.modifier == "*" then "?" else "")
  else "(?:" ++ before ++ "(" ++ key.pattern ++ ")" ++ after ++ ")" ++ key.modifier

/-- The expression of a part. -/
def Part.source (options : Options) : Part → String
  | .text literal => escape (options.encode literal)
  | .key k => k.source (escape (options.encode k.before)) (escape (options.encode k.after))

/-- An expression for any one of some characters. -/
def oneOf (chars : String) : String :=
  "[" ++ escape chars ++ "]"

/-- An expression for the places that count as the end of the text. -/
def Options.endSource (options : Options) : String :=
  if options.endsWith.isEmpty then "\\Z" else oneOf options.endsWith ++ "|\\Z"

/-- Whether the last part ends in a delimiter as it stands. -/
def endsDelimited (options : Options) (parts : List Part) : Bool :=
  match parts.getLast? with
  | none => true
  | some (.key _) => false
  | some (.text text) =>
      match text.toList.getLast? with
      | none => false
      | some c => options.delimiter.toList.contains c

/-- What follows the parts when a match has to reach the end. -/
def Options.closedEnd (options : Options) : String :=
  (if options.strict then "" else oneOf options.delimiter ++ "?")
    ++ (if options.endsWith.isEmpty then "\\Z" else "(?=" ++ options.endSource ++ ")")

/-- What follows the parts when a match may end at any delimiter. -/
def Options.openEnd (options : Options) (isDelimited : Bool) : String :=
  (if options.strict then ""
    else "(?:" ++ oneOf options.delimiter ++ "(?=" ++ options.endSource ++ "))?")
    ++ (if isDelimited then ""
      else "(?=" ++ oneOf options.delimiter ++ "|" ++ options.endSource ++ ")")

/-- The text of the expression for some parts. -/
def partsSource (options : Options) (parts : List Part) : String :=
  (if options.anchorStart then "^" else "")
    ++ String.join (parts.map (Part.source options))
    ++ (if options.anchorEnd then options.closedEnd
      else options.openEnd (endsDelimited options parts))

/-- The keys that capture, in order. -/
def capturingKeys (parts : List Part) : List Key :=
  parts.filterMap fun part =>
    match part with
    | .key key => if key.captures then some key else none
    | .text _ => none

/-- The expression for some parts. -/
def compileParts (options : Options) (parts : List Part) : Except ExprFault Expression :=
  Expression.read (partsSource options parts) options.flags

end RoutePattern
