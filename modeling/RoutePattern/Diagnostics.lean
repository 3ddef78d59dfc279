import RoutePattern.Table

/-!
# Diagnostics for editors

An editor is told about the problems of a table as ranges of characters, counted from zero.
`Workspace.take` answers what an editor tells about one document with the diagnostics of that
document; what is told about a document that is not open stays without an answer.
-/

namespace RoutePattern

/-- A place in a document, both parts counted from zero. -/
structure Position where
  line : Nat
  character : Nat
deriving DecidableEq, Repr

/-- A problem as a range of a document. -/
structure Diagnostic where
  start : Position
  stop : Position
  message : String
  severity : Severity
deriving DecidableEq, Repr

/-- The range of a problem. -/
def Problem.diagnostic (problem : Problem) : Diagnostic :=
  { start := ⟨problem.line - 1, problem.column - 1⟩
    stop := ⟨problem.line - 1, problem.column - 1 + problem.length⟩
    message := problem.message
    severity := problem.severity }

/-- The diagnostics of a document. -/
def diagnose (text : String) : Except ExprFault (List Diagnostic) := do
  return (← checkRoutes {} text).map Problem.diagnostic

/-- What an editor tells about a document: that it has been opened with some text, or that it has a
new text. -/
inductive Notice where
  | opened (document text : String)
  | changed (document text : String)
deriving DecidableEq, Repr

/-- What an editor is told about a document. -/
structure Publication where
  document : String
  diagnostics : List Diagnostic
deriving DecidableEq, Repr

/-- Why a notice is not answered. -/
inductive NoticeFault where
  | notOpen (document : String)
  | expression (fault : ExprFault)
deriving DecidableEq, Repr

/-- The description of why a notice is not answered. -/
def NoticeFault.message : NoticeFault → String
  | notOpen document => quoted document
  | expression fault => fault.message

/-- The documents that are open, latest first. -/
structure Workspace where
  documents : List String := []
deriving DecidableEq, Repr

namespace Workspace

/-- The diagnostics that are published for a document. -/
def publish (document text : String) : Except NoticeFault Publication := do
  return ⟨document, ← (diagnose text).mapError .expression⟩

/-- Take a notice. Only a document that is open can have a new text. -/
def take (workspace : Workspace) : Notice → Except NoticeFault (Publication × Workspace)
  | .opened document text => do
      return (← publish document text, ⟨document :: workspace.documents⟩)
  | .changed document text => do
      if document ∈ workspace.documents then return (← publish document text, workspace)
      else throw (.notOpen document)

/-- Take notices one after the other. -/
def takeAll (workspace : Workspace) : List Notice → Except NoticeFault (List Publication)
  | [] => .ok []
  | notice :: rest => do
      let (publication, workspace) ← workspace.take notice
      return publication :: (← workspace.takeAll rest)

end Workspace

end RoutePattern
