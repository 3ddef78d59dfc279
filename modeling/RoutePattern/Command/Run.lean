import RoutePattern.Build
import RoutePattern.Caret
import RoutePattern.Command.Config
import RoutePattern.Command.Invocation
import RoutePattern.Command.Param
import RoutePattern.Part.Listing
import RoutePattern.Table
import RoutePattern.Text.Json

/-!
# Running commands

`Invocation.run` does what a command line asks for, given the files it may read. The answer is an
exit status with the text for the output and the text for the reports of errors. Only a few faults
end a command without an answer.
-/

namespace RoutePattern

/-- What a command leaves behind. -/
structure Outcome where
  status : Nat
  output : String := ""
  reports : String := ""
deriving DecidableEq, Repr

/-- A fault that ends a command without an answer. -/
inductive Abort where
  | expression (fault : ExprFault)
  | number (fault : IntegerFault)
  | search (fault : SearchFault)
  | bytes (fault : Utf8.Fault)
  | file (path : FilePath) (fault : FileFault)
deriving DecidableEq, Repr

/-- Why a task cannot be done. -/
inductive TaskError where
  | pattern (source : String) (error : PatternError)
  | building (failure : BuildFailure)
  | matching (fault : MatchFault)
  | expression (fault : ExprFault)
  | file (path : FilePath) (fault : FileFault)
  | bytes (fault : Utf8.Fault)
deriving Repr

/-- A compile error as an error of a task. -/
def CompileError.ofTask : CompileError → TaskError
  | pattern source error => .pattern source error
  | expression fault => .expression fault

/-- A message as it is reported. -/
def errorLine (message : String) : String :=
  "error: " ++ message ++ "\n"

/-- The outcome of an error. -/
def TaskError.outcome : TaskError → Except Abort Outcome
  | pattern source error =>
      .ok { status := 1, reports := (error.report source).render {} ++ "\n" }
  | building (.rejected error) => .ok { status := 1, reports := errorLine error.message }
  | building (.search fault) | matching (.search fault) => .error (.search fault)
  | matching (.decoding fault) => .error (.number fault)
  | expression fault =>
      if fault.isReported then
        .ok { status := 1, reports := errorLine ("invalid capture pattern: " ++ fault.message) }
      else .error (.expression fault)
  | file path .nullCharacter => .error (.file path .nullCharacter)
  | file path fault => .ok { status := 2, reports := errorLine (fault.message path) }
  | bytes fault => .error (.bytes fault)

/-- The line of a match as JSON. Of two names with the same text the later gives the value. -/
def Match.line (found : Match) : String :=
  let params := found.params.foldl
    (fun (params : Params) (name, value) => params.put (.named name.text) value) []
  Json.object
    [("path", Json.string found.path),
     ("index", toString found.index),
     ("params", Json.object (params.map fun (name, value) => (name.text, Json.value value)))]
    ++ "\n"

/-- The line of a problem in a file. -/
def Problem.textLine (file : FilePath) (problem : Problem) : String :=
  file.text ++ ":" ++ toString problem.line ++ ":" ++ toString problem.column ++ ": "
    ++ problem.severity.label ++ ": " ++ problem.message ++ "\n"

/-- A text in which every line ends with a line feed alone. -/
def plainLines : List Char → List Char
  | [] => []
  | '\r' :: '\n' :: rest => '\n' :: plainLines rest
  | '\r' :: rest => '\n' :: plainLines rest
  | c :: rest => c :: plainLines rest

/-- The path to compile for some patterns: one alone, or a choice among several. -/
def pathOfPatterns : List String → Path
  | [source] => .pattern source
  | sources => .anyOf (sources.map .pattern)

/-- List the parts of a pattern. -/
def runParse (options : Options) (source : String) : Except TaskError Outcome := do
  let parts ← (parse options source).mapError (TaskError.pattern source)
  return { status := 0, output := listParts parts }

/-- Show the expression of patterns and its keys. -/
def runRegex (options : Options) (sources : List String) : Except TaskError Outcome := do
  let (result, keys) := (pathOfPatterns sources).compile options []
  let expression ← result.mapError CompileError.ofTask
  return { status := 0
           output := expression.source ++ "\n" ++ listParts (keys.map .key) }

/-- Match texts against a pattern. The status tells whether every text matches. -/
def runMatch (options : Options) (source : String) (texts : List String) :
    Except TaskError Outcome := do
  let matcher ← (Matcher.ofPath options (.pattern source)).mapError CompileError.ofTask
  let found ← (texts.mapM matcher.run).mapError TaskError.matching
  return { status := if found.all Option.isSome then 0 else 1
           output := String.join (found.map fun
             | some found => found.line
             | none => "null\n") }

/-- Build a path of a pattern. -/
def runBuild (options : Options) (source : String) (params : Params) :
    Except TaskError Outcome := do
  let builder ← (Builder.ofPattern options source).mapError CompileError.ofTask
  let path ← (builder.build params).mapError TaskError.building
  return { status := 0, output := path ++ "\n" }

/-- Check the route table in a file. The status tells whether every route is sound. -/
def runCheck (files : Files) (options : Options) (file : FilePath) : Except TaskError Outcome := do
  let bytes ← (files.read file).mapError (TaskError.file file)
  let text ← (Utf8.decode bytes).mapError TaskError.bytes
  let problems ← (checkRoutes options (String.ofList (plainLines text))).mapError
    TaskError.expression
  return { status := if problems.any (·.severity == .error) then 1 else 0
           output := String.join (problems.map (Problem.textLine file)) }

/-- Do a task. `params` are the parameters of a path to be built. -/
def Task.run (files : Files) (options : Options) (params : Params) :
    Task → Except TaskError Outcome
  | parse source => runParse options source
  | regex sources => runRegex options sources
  | matching source texts => runMatch options source texts
  | build source _ => runBuild options source params
  | check file => runCheck files options file

mutual

/-- A path as it is told of. -/
def Path.shown : Path → String
  | .pattern source => quoted source
  | .expression e => quoted e.source
  | .anyOf paths => "[" ++ ", ".intercalate (shownPaths paths) ++ "]"

/-- Paths as they are told of. -/
def shownPaths : List Path → List String
  | [] => []
  | path :: rest => path.shown :: shownPaths rest

end

/-- The line that tells of a path that has been compiled, if it can be. -/
def compileNote (options : Options) (keys : List Key) (path : Path) : String :=
  match path.compile options keys with
  | (.ok e, keys) =>
      "DEBUG pathpat.normalize: compiled " ++ path.shown ++ " to " ++ quoted e.source ++ " with "
        ++ toString keys.length ++ " keys\n"
  | (.error _, _) => ""

mutual

/-- The lines that tell of a path and of the paths it consists of, up to the first that cannot be
compiled. -/
def Path.notes (options : Options) (keys : List Key) (path : Path) : String :=
  match path with
  | .anyOf paths => notesOfAll options keys paths ++ compileNote options keys (.anyOf paths)
  | single => compileNote options keys single

/-- The lines that tell of paths that are compiled one after the other. -/
def notesOfAll (options : Options) (keys : List Key) : List Path → String
  | [] => ""
  | path :: rest =>
      match path.compile options keys with
      | (.ok _, later) => path.notes options keys ++ notesOfAll options later rest
      | (.error _, _) => path.notes options keys

end

/-- The paths that a task compiles. -/
def Task.paths : Task → List Path
  | regex sources => [pathOfPatterns sources]
  | matching source _ => [.pattern source]
  | parse _ | build _ _ | check _ => []

/-- The lexemes of the patterns that can be scanned. -/
def listPatterns (sources : List String) : String :=
  String.join (sources.map fun source =>
    match scan source with
    | .ok lexemes => listLexemes lexemes
    | .error _ => "")

namespace Invocation

/-- What is told besides the outcome. -/
def notes (invocation : Invocation) (options : Options) : String :=
  (if invocation.debug then listPatterns invocation.task.patterns else "")
    ++ (if invocation.verbose then
          String.join (invocation.task.paths.map (Path.notes options []))
        else "")

/-- The settings of the configuration file. One that cannot be found sets nothing. -/
def readConfig (files : Files) (invocation : Invocation) :
    Except Abort (Except ConfigFault (List Setting)) :=
  match files.read invocation.config with
  | .error .tooLong => .error (.file invocation.config .tooLong)
  | .error _ => .ok (.ok [])
  | .ok bytes =>
      match Utf8.decode bytes with
      | .error fault => .error (.bytes fault)
      | .ok text => .ok (RoutePattern.readConfig invocation.config text)

/-- The parameters of a path to be built. -/
def params (invocation : Invocation) : Except ParamFault Params :=
  match invocation.task with
  | .build _ words => readParams [] words
  | _ => .ok []

/-- The outcome of a command line that cannot be used. -/
def refusal (message : String) : Outcome :=
  { status := 2, reports := errorLine message }

/-- Do a task under options, and tell what was asked for before its outcome. -/
def perform (files : Files) (invocation : Invocation) (options : Options) (params : Params) :
    Except Abort Outcome := do
  let outcome ←
    match invocation.task.run files options params with
    | .ok outcome => .ok outcome
    | .error error => error.outcome
  return { outcome with reports := invocation.notes options ++ outcome.reports }

/-- Do what a command line asks for. Switches go before the configuration file. -/
def run (files : Files) (invocation : Invocation) : Except Abort Outcome := do
  match ← invocation.readConfig files with
  | .error fault =>
      match fault.number? with
      | some fault => .error (.number fault)
      | none => return refusal fault.message
  | .ok settings =>
      let options := Options.change {} (settings ++ invocation.settings)
      match invocation.params with
      | .error (.badIndex fault) => .error (.number fault)
      | .error fault => return refusal fault.message
      | .ok params => invocation.perform files options params

end Invocation

end RoutePattern
