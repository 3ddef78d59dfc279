import RoutePattern.Caret
import RoutePattern.Text.Blank
import RoutePattern.Text.Lines

/-!
# Route tables

A route table holds one pattern on each line. `readRoutes` finds the patterns, and `checkRoutes`
tells which of them are faulty and which repeat an earlier one.
-/

namespace RoutePattern

/-- A pattern of a table, with its line and column, both counted from one. -/
structure Route where
  pattern : String
  line : Nat
  column : Nat
deriving DecidableEq, Repr

/-- The route of a line, unless the line is blank or a comment. -/
def Route.ofLine? (line : Nat) (text : List Char) : Option Route :=
  match trim text with
  | [] => none
  | '#' :: _ => none
  | pattern =>
      some ⟨String.ofList pattern, line, text.length - (trimFront text).length + 1⟩

/-- The routes of lines, the first of which has the given number. -/
def routesFrom (line : Nat) : List (List Char) → List Route
  | [] => []
  | text :: rest => (Route.ofLine? line text).toList ++ routesFrom (line + 1) rest

/-- The routes of a table. -/
def readRoutes (source : String) : List Route :=
  routesFrom 1 (splitLines source.toList)

/-- How bad a problem is. -/
inductive Severity where
  | error
  | warning
deriving DecidableEq, Repr

/-- The name of a severity. -/
def Severity.label : Severity → String
  | error => "error"
  | warning => "warning"

/-- A problem of a table: where it stands, how many characters it covers, and what it is. -/
structure Problem where
  line : Nat
  column : Nat
  length : Nat
  severity : Severity
  message : String
deriving DecidableEq, Repr

/-- Whether a fault is reported as a problem. The others end the checking of a table. -/
def ExprFault.isReported : ExprFault → Bool
  | countTooLong _ | repetitionTooLarge | behindTooFar | incompatibleFlags => false
  | _ => true

/-- What checking a route gives: the text of its expression, a problem, or a fault that is not
reported. -/
def Route.check (options : Options) (route : Route) : Except ExprFault (String ⊕ Problem) :=
  match parse options route.pattern with
  | .error error =>
      .ok (.inr ⟨route.line, (route.column + error.index).toNat, 1, .error, error.description⟩)
  | .ok parts =>
      let source := partsSource options parts
      match Expression.read source {} with
      | .ok _ => .ok (.inl source)
      | .error fault =>
          if fault.isReported then
            .ok (.inr ⟨route.line, route.column, route.pattern.length, .error,
              "invalid capture pattern: " ++ fault.message⟩)
          else .error fault

/-- The problem of a route with the same expression as an earlier one. -/
def Route.duplicate (route first : Route) : Problem :=
  ⟨route.line, route.column, route.pattern.length, .warning,
    "route " ++ quoted route.pattern ++ " duplicates line " ++ toString first.line⟩

/-- The problems of routes, given the sound ones before them with their expressions. -/
def problemsFrom (options : Options) (seen : List (String × Route)) :
    List Route → Except ExprFault (List Problem)
  | [] => .ok []
  | route :: rest => do
      match ← route.check options with
      | .inr problem => return problem :: (← problemsFrom options seen rest)
      | .inl source =>
          match seen.lookup source with
          | some first => return route.duplicate first :: (← problemsFrom options seen rest)
          | none => problemsFrom options (seen ++ [(source, route)]) rest

/-- The problems of a table, at most one for each route. -/
def checkRoutes (options : Options) (source : String) : Except ExprFault (List Problem) :=
  problemsFrom options [] (readRoutes source)

end RoutePattern
