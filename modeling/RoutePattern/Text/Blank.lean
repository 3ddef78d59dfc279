import RoutePattern.Text.CodeSet

/-!
# Blanks

The characters that count as white space, and the removal of blanks at the ends of a text.
-/

namespace RoutePattern

/-- The blank characters: spaces, tabs, separators and line breaks. -/
def blankSet : List Nat :=
  [9, 14, 28, 33, 133, 134, 160, 161, 5760, 5761, 8192, 8203, 8232, 8234, 8239, 8240, 8287, 8288,
   12288, 12289]

/-- Whether a code point is blank. -/
def isBlankCode (n : Nat) : Bool :=
  CodeSet.holds blankSet n

/-- Whether a character is blank. -/
def isBlank (c : Char) : Bool :=
  isBlankCode c.toNat

/-- A text without the blanks at its front. -/
def trimFront (text : List Char) : List Char :=
  text.dropWhile isBlank

/-- A text without the blanks at either end. -/
def trim (text : List Char) : List Char :=
  (trimFront (trimFront text).reverse).reverse

end RoutePattern
