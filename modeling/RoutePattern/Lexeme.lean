/-!
# Lexemes of a route pattern

A route pattern such as `/user/:id(\d+)?` is a flat sequence of lexemes. Each lexeme has a kind,
the offset of its first character, and a value. `Lexeme.render` writes a lexeme back as pattern
text, so the values of a scanned pattern together hold everything the pattern says.
-/

namespace RoutePattern

/-- The kinds of lexeme. -/
inductive Kind where
  /-- An opening brace. -/
  | opening
  /-- A closing brace. -/
  | closing
  /-- A parenthesised expression; the value is the text between the parentheses. -/
  | pattern
  /-- A parameter name; the value is the name without its colon. -/
  | name
  /-- Any other single character. -/
  | char
  /-- A character written after a backslash. -/
  | escapedChar
  /-- One of the three repetition marks. -/
  | modifier
  /-- The end of the pattern. -/
  | ending
deriving DecidableEq, Repr, Inhabited

namespace Kind

/-- The name of a kind as it is shown in messages and listings. -/
def label : Kind → String
  | opening => "OPEN"
  | closing => "CLOSE"
  | pattern => "PATTERN"
  | name => "NAME"
  | char => "CHAR"
  | escapedChar => "ESCAPED_CHAR"
  | modifier => "MODIFIER"
  | ending => "END"

/-- Every kind, in the order of declaration. -/
def all : List Kind :=
  [opening, closing, pattern, name, char, escapedChar, modifier, ending]

/-- The kind with the given label. -/
def ofLabel? (text : String) : Option Kind :=
  all.find? fun kind => kind.label == text

end Kind

/-- A lexeme: its kind, the offset of its first character in the pattern, and its value. Lexemes
that were not scanned may claim any offset, also one in front of the pattern. -/
structure Lexeme where
  kind : Kind
  index : Int
  value : String
deriving DecidableEq, Repr, Inhabited

/-- The pattern text that a lexeme stands for. -/
def Lexeme.render (lexeme : Lexeme) : List Char :=
  match lexeme.kind with
  | .opening | .closing | .char | .modifier => lexeme.value.toList
  | .escapedChar => '\\' :: lexeme.value.toList
  | .name => ':' :: lexeme.value.toList
  | .pattern => '(' :: lexeme.value.toList ++ [')']
  | .ending => []

/-- The characters a parameter name may hold: ASCII letters, ASCII digits and the underscore. -/
def isNameChar (c : Char) : Bool :=
  c == '_' || c.isAlphanum

/-- The three repetition marks: optional and repeated, repeated, and optional. -/
def isModifierChar (c : Char) : Bool :=
  c == '*' || c == '+' || c == '?'

end RoutePattern
