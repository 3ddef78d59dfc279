import RoutePattern.Expr.Search
import RoutePattern.Path

/-!
# Matching paths

`Matcher` is a compiled path with the keys of its groups. `Matcher.run` matches a text and gives
each key the decoded text of its group; a repeated key gets a list, split where its surrounding
texts meet.
-/

namespace RoutePattern

/-- Values by name, in the order in which the names were first set. -/
abbrev Params := List (KeyName × Value)

/-- Set the value of a name. A name that is set already keeps its place. -/
def Params.put : Params → KeyName → Value → Params
  | [], name, value => [(name, value)]
  | (other, old) :: rest, name, value =>
      if other = name then (name, value) :: rest else (other, old) :: Params.put rest name value

/-- Whether two maps give the same values to the same names, in any order. -/
def Params.same (params others : Params) : Bool :=
  params.length == others.length &&
    params.all fun (name, value) => ((others.lookup name).map value.same).getD false

/-- A match: the matched text, where it begins, and the values of the keys. -/
structure Match where
  path : String
  index : Nat
  params : Params
deriving Repr

/-- The stretches between the occurrences of a separator. `skip` characters belong to an occurrence
already met, and `current` is the stretch in progress, latest character first. -/
def splitFrom (separator : List Char) (skip : Nat) (current : List Char) :
    List Char → List (List Char)
  | [] => [current.reverse]
  | c :: rest =>
      match skip with
      | skip + 1 => splitFrom separator skip current rest
      | 0 =>
          if separator.isPrefixOf (c :: rest) then
            current.reverse :: splitFrom separator (separator.length - 1) [] rest
          else splitFrom separator 0 (c :: current) rest

/-- The stretches of a text between the occurrences of a separator. -/
def splitText (separator text : String) : List String :=
  (splitFrom separator.toList 0 [] text.toList).map String.ofList

/-- The value of a key for the text that its group captured. -/
def Key.value (options : Options) (key : Key) (captured : String) : Except IntegerFault Value :=
  let separator := key.after ++ key.before
  if key.repeated then do
    let pieces := if separator.isEmpty then [captured] else splitText separator captured
    return .list (← pieces.mapM options.decode)
  else options.decode captured

/-- The values of keys for what their groups captured, put on top of earlier ones. Keys and groups
are paired in order, and a group that took no part gives no value. -/
def bindParams (options : Options) (params : Params) :
    List Key → List (Option String) → Except IntegerFault Params
  | key :: keys, some captured :: groups => do
      bindParams options (params.put key.name (← key.value options captured)) keys groups
  | _ :: keys, none :: groups => bindParams options params keys groups
  | _, _ => .ok params

/-- Why a text is neither matched nor refused. -/
inductive MatchFault where
  | search (fault : SearchFault)
  | decoding (fault : IntegerFault)
deriving DecidableEq, Repr

/-- The description of why a text is neither matched nor refused. -/
def MatchFault.message : MatchFault → String
  | search fault => fault.message
  | decoding fault => fault.message

/-- An expression with the keys of its groups. -/
structure Matcher where
  expression : Expression
  keys : List Key
  options : Options

namespace Matcher

/-- Match a text. -/
def run (matcher : Matcher) (text : String) : Except MatchFault (Option Match) := do
  match ← (matcher.expression.search text).mapError .search with
  | none => return none
  | some found =>
      let groups := matcher.expression.groupTexts found
      let params ← (bindParams matcher.options [] matcher.keys groups).mapError .decoding
      return some ⟨String.ofList found.text, found.index, params⟩

/-- The matcher of a path. -/
def ofPath (options : Options) (path : Path) : Except CompileError Matcher :=
  match path.compile options [] with
  | (.ok expression, keys) => .ok ⟨expression, keys, options⟩
  | (.error error, _) => .error error

/-- A path that is compiled has a matcher with its expression and its keys. -/
theorem ofPath_of_compile {options : Options} {path : Path} {expression : Expression}
    {keys : List Key} (h : path.compile options [] = (.ok expression, keys)) :
    ofPath options path = .ok ⟨expression, keys, options⟩ := by
  rw [ofPath, h]

end Matcher

end RoutePattern
