/-!
# Writing text into an expression

`escape` writes text so that an expression matches it literally, and `defaultPattern` is the
expression of a key that gives none: one or more characters other than the delimiters, as few as
possible.
-/

namespace RoutePattern

/-- The characters that are written with a backslash in an expression. -/
def specialChars : List Char :=
  ".+*?=^!:$\x7b\x7d()[]|/\\".toList

/-- Text as an expression that matches it literally. -/
def escapeChars (text : List Char) : List Char :=
  text.flatMap fun c => if specialChars.contains c then ['\\', c] else [c]

/-- Text as an expression that matches it literally. -/
def escape (text : String) : String :=
  String.ofList (escapeChars text.toList)

/-- The expression of a key without one of its own. -/
def defaultPattern (delimiter : String) : String :=
  "[^" ++ escape delimiter ++ "]+?"

end RoutePattern
