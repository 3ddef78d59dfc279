import RoutePattern.Path

/-!
# Errors shown in their pattern

`Report.render` shows a message with the text it is about and a caret under the offending
character. The text may stand inside a larger file, in which case line and column are those of the
file.
-/

namespace RoutePattern

/-- Where a pattern stands in a file. -/
structure FilePlace where
  filename : String := "<pattern>"
  line : Int := 1
  columnOffset : Int := 0
deriving DecidableEq, Repr

/-- A message about the character of a text at an offset. -/
structure Report where
  message : String
  source : String
  index : Int
deriving DecidableEq, Repr

/-- Blanks up to a column. -/
def blanks (count : Int) : String :=
  String.ofList (List.replicate count.toNat ' ')

/-- Show a report with the line it is about. The gutter holds the number of the line. -/
def Report.render (report : Report) (place : FilePlace) : String :=
  let number := toString place.line
  let gutter := blanks (number.length + 1)
  let column := place.columnOffset + report.index
  "error: " ++ report.message ++ "\n"
    ++ gutter ++ "--> " ++ place.filename ++ ":" ++ number ++ ":" ++ toString (column + 1) ++ "\n"
    ++ gutter ++ "|\n"
    ++ number ++ " | " ++ blanks place.columnOffset ++ report.source ++ "\n"
    ++ gutter ++ "| " ++ blanks column ++ "^"

/-- The description of an error with its offset. -/
def ScanError.description (error : ScanError) : String :=
  error.fault.message ++ " at " ++ toString error.index

/-- The description of why a text is no pattern. -/
def PatternError.description : PatternError → String
  | lexical error => error.description
  | grammatical error => error.message

/-- The offset at which a text stops being a pattern. -/
def PatternError.index : PatternError → Int
  | lexical error => error.index
  | grammatical error => error.index

/-- The report of why a text is no pattern. -/
def PatternError.report (error : PatternError) (source : String) : Report :=
  ⟨error.description, source, error.index⟩

end RoutePattern
