import RoutePattern.Source

/-!
# Paths

A path to be matched is a pattern, an expression that has been read already, or a choice among
paths. `Path.compileInto` turns any of them into one expression and appends the keys of its capture
groups to a list, if anybody asks for them. The keys that were appended before a failure stay.
`Path.compile` does so for a list that is there.
-/

namespace RoutePattern

/-- What can be compiled to an expression. -/
inductive Path where
  | pattern (source : String)
  | expression (expression : Expression)
  | anyOf (paths : List Path)
deriving Repr

/-- Why a path cannot be compiled. -/
inductive CompileError where
  | pattern (source : String) (error : PatternError)
  | expression (fault : ExprFault)
deriving DecidableEq, Repr

/-- Whether a character may stand in the name of a group. -/
def isGroupNameChar (c : Char) : Bool :=
  isWord c.toNat

/-- The name in front of `>` at the start of a text, if there is one. -/
def groupNameAt (text : List Char) : Option (List Char) :=
  let name := text.takeWhile isGroupNameChar
  if !name.isEmpty && (text.drop name.length).head? == some '>' then some name else none

/-- What an opening parenthesis begins, given the text after it: a capture group, with its name if
it has one, or none. A named group may be followed by anything but a question mark, and so may an
unnamed one. -/
def captureAt (text : List Char) : Option (Option (List Char)) :=
  let unnamed := if text.head? == some '?' then none else some none
  match text with
  | '?' :: 'P' :: '<' :: rest =>
      match groupNameAt rest with
      | some name =>
          if (rest.drop (name.length + 1)).head? == some '?' then unnamed else some (some name)
      | none => unnamed
  | _ => unnamed

/-- The names of the capture groups in the text of an expression, found by their opening
parentheses. A parenthesis behind an odd number of backslashes opens nothing. `escaped` tells that
an odd number of backslashes stands in front. -/
def captureNames (escaped : Bool) : List Char → List (Option (List Char))
  | [] => []
  | c :: rest =>
      if c = '(' && !escaped then
        match captureAt rest with
        | some name => name :: captureNames false rest
        | none => captureNames false rest
      else captureNames (c = '\\' && !escaped) rest

/-- The keys of named and unnamed groups. Unnamed ones are counted from `unnamed` on. -/
def groupKeys (unnamed : Nat) : List (Option (List Char)) → List Key
  | [] => []
  | some name :: rest => { name := .named (String.ofList name) } :: groupKeys unnamed rest
  | none :: rest => { name := .positional unnamed } :: groupKeys (unnamed + 1) rest

/-- The keys of the capture groups of an expression, as its text shows them. -/
def Expression.keys (expression : Expression) : List Key :=
  groupKeys 0 (captureNames false expression.source.toList)

/-- Where keys go: to a list, or nowhere if nobody asks for them. -/
abbrev KeySink := Option (List Key)

/-- The sink with more keys in it. -/
def KeySink.append (sink : KeySink) (keys : List Key) : KeySink :=
  sink.map (· ++ keys)

namespace Path

/-- The expression that matches what any of some expressions matches. -/
def union (options : Options) (sources : List String) : Except CompileError Expression :=
  (Expression.read ("(?:" ++ "|".intercalate sources ++ ")") options.flags).mapError .expression

/-- Compile a pattern, appending its keys to a sink. -/
def compilePatternInto (options : Options) (sink : KeySink) (source : String) :
    Except CompileError Expression × KeySink :=
  match parse options source with
  | .error error => (.error (.pattern source error), sink)
  | .ok parts =>
      ((compileParts options parts).mapError .expression, sink.append (capturingKeys parts))

mutual

/-- Compile a path, appending the keys of its groups to a sink. -/
def compileInto (options : Options) (sink : KeySink) :
    Path → Except CompileError Expression × KeySink
  | pattern source => compilePatternInto options sink source
  | expression e => (.ok e, sink.append e.keys)
  | anyOf paths =>
      let (sources, sink) := compileAllInto options sink paths
      (sources.bind (union options), sink)

/-- Compile paths one after the other with one sink for all of them. -/
def compileAllInto (options : Options) (sink : KeySink) :
    List Path → Except CompileError (List String) × KeySink
  | [] => (.ok [], sink)
  | path :: rest =>
      match compileInto options sink path with
      | (.error error, sink) => (.error error, sink)
      | (.ok e, sink) =>
          let (sources, sink) := compileAllInto options sink rest
          (sources.map (e.source :: ·), sink)

end

/-- Compile a path, appending the keys of its groups to a list. -/
def compile (options : Options) (keys : List Key) (path : Path) :
    Except CompileError Expression × List Key :=
  let (result, sink) := path.compileInto options (some keys)
  (result, sink.getD keys)

/-- Compiling with a list is compiling into it. -/
theorem compile_of_compileInto {options : Options} {keys later : List Key} {path : Path}
    {result : Except CompileError Expression}
    (h : path.compileInto options (some keys) = (result, some later)) :
    path.compile options keys = (result, later) := by
  rw [compile, h]
  rfl

/-- A pattern that can be read is compiled from its parts, and their keys are appended. -/
theorem compile_pattern {options : Options} {source : String} {parts : List Part}
    (hparse : parse options source = .ok parts) (keys : List Key) :
    (pattern source).compile options keys =
      ((compileParts options parts).mapError .expression, keys ++ capturingKeys parts) := by
  refine compile_of_compileInto ?_
  rw [compileInto, compilePatternInto, hparse]
  rfl

/-- A pattern that cannot be read leaves the list as it is. -/
theorem compile_pattern_error {options : Options} {source : String} {error : PatternError}
    (hparse : parse options source = .error error) (keys : List Key) :
    (pattern source).compile options keys = (.error (.pattern source error), keys) := by
  refine compile_of_compileInto ?_
  rw [compileInto, compilePatternInto, hparse]

end Path

end RoutePattern
