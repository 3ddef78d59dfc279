import RoutePattern.Match

/-!
# Building paths

`Builder` holds the parts of a pattern with an expression for each key. `Builder.build` writes the
path for some values: literal text as it is, and each value between the texts of its key. A value
that does not fit its key is an error.
-/

namespace RoutePattern

/-- Why a value does not fit its key. -/
inductive BuildFault where
  /-- The encoded text does not match the expression; `every` tells that it is one of a list. -/
  | mismatch (every : Bool) (pattern segment : String)
  | notRepeated
  | emptyList
  | missing (list : Bool)
deriving DecidableEq, Repr

/-- A value that does not fit its key. For a mismatch the value is the encoded text. -/
structure BuildError where
  fault : BuildFault
  name : KeyName
  value : Value
deriving Repr

/-- The description of a value that does not fit its key. -/
def BuildError.message (error : BuildError) : String :=
  let name := "\"" ++ error.name.text ++ "\""
  match error.fault with
  | .mismatch every pattern segment =>
      "expected " ++ (if every then "all " else "") ++ name ++ " to match \"" ++ pattern
        ++ "\", but got \"" ++ segment ++ "\""
  | .notRepeated => "expected " ++ name ++ " to not repeat, but got a list"
  | .emptyList => "expected " ++ name ++ " to not be empty"
  | .missing list => "expected " ++ name ++ " to be " ++ (if list then "a list" else "a string")

/-- Why a path is not built. -/
inductive BuildFailure where
  | rejected (error : BuildError)
  | search (fault : SearchFault)
deriving Repr

/-- The description of why a path is not built. -/
def BuildFailure.message : BuildFailure → String
  | rejected error => error.message
  | search fault => fault.message

/-- A part that is ready for building: literal text, or a key with its expression. -/
inductive BuildPart where
  | text (text : String)
  | key (key : Key) (expression : Expression)
deriving Repr

/-- A pattern that is ready for building. -/
structure Builder where
  parts : List BuildPart
  options : Options

namespace Builder

/-- Make a part ready. -/
def ofPart (options : Options) : Part → Except ExprFault BuildPart
  | .text literal => .ok (.text literal)
  | .key key => do
      return .key key (← Expression.read ("(?:" ++ key.pattern ++ ")") options.flags)

/-- Make parts ready. -/
def ofParts (options : Options) (parts : List Part) : Except ExprFault Builder := do
  return ⟨← parts.mapM (ofPart options), options⟩

/-- Make a pattern ready. -/
def ofPattern (options : Options) (source : String) : Except CompileError Builder :=
  match parse options source with
  | .error error => .error (.pattern source error)
  | .ok parts => (ofParts options parts).mapError .expression

/-- Whether the encoded text of a value may stand for a key. -/
def accepts (options : Options) (expression : Expression) (encoded : String) :
    Except SearchFault Bool :=
  if options.validate then expression.fullMatch encoded else .ok true

/-- One value in a path, between the texts of its key. -/
def segment (options : Options) (key : Key) (expression : Expression) (every : Bool)
    (value : Value) : Except BuildFailure String := do
  let encoded := options.encode value.toText
  if ← (accepts options expression encoded).mapError .search then
    return key.before ++ encoded ++ key.after
  else .error (.rejected ⟨.mismatch every key.pattern encoded, key.name, .text encoded⟩)

/-- A key that captures, in a path. -/
def capturing (options : Options) (key : Key) (expression : Expression) (value : Value) :
    Except BuildFailure String :=
  let reject (fault : BuildFault) : Except BuildFailure String :=
    .error (.rejected ⟨fault, key.name, value⟩)
  match value.elements? with
  | some items =>
      if !key.repeated then reject .notRepeated
      else if items.isEmpty && !key.optional then reject .emptyList
      else do
        return String.join (← items.mapM (segment options key expression true))
  | none =>
      if value.isScalar then segment options key expression false value
      else if key.optional then .ok ""
      else reject (.missing key.repeated)

/-- A part in a path. -/
def part (options : Options) (params : Params) : BuildPart → Except BuildFailure String
  | .text literal => .ok literal
  | .key key expression =>
      if key.captures then
        capturing options key expression ((params.lookup key.name).getD .null)
      else .ok (if key.optional then "" else key.before ++ key.after)

/-- The path for some values. -/
def build (builder : Builder) (params : Params) : Except BuildFailure String := do
  return String.join (← builder.parts.mapM (part builder.options params))

end Builder

end RoutePattern
