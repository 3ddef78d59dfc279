/-!
# Pieces of expression text

The text of an expression is read piece by piece: a piece is a single character, or a backslash with
the character after it.
-/

namespace RoutePattern

/-- A unit of expression text. `lone` is a backslash at the very end. -/
inductive Piece where
  | plain (c : Char)
  | escaped (c : Char)
  | lone
deriving DecidableEq, Repr

namespace Piece

/-- The characters of a piece. -/
def text : Piece → List Char
  | plain c => [c]
  | escaped c => ['\\', c]
  | lone => ['\\']

/-- The pieces of a text. -/
def ofText : List Char → List Piece
  | [] => []
  | ['\\'] => [lone]
  | '\\' :: c :: rest => escaped c :: ofText rest
  | c :: rest => plain c :: ofText rest

end Piece

/-- The pieces of a text hold every character of it. -/
theorem Piece.text_ofText (text : List Char) : (ofText text).flatMap Piece.text = text := by
  fun_induction ofText text <;> simp_all [Piece.text]

end RoutePattern
