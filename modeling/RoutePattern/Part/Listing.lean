import RoutePattern.Lexeme
import RoutePattern.Part
import RoutePattern.Text.Quoted

/-!
# Listings

Lexemes and parts as lines of text, one for each, with every text quoted.
-/

namespace RoutePattern

/-- A text with blanks before it up to a width. -/
def padFront (width : Nat) (text : String) : String :=
  String.ofList (List.replicate (width - text.length) ' ') ++ text

/-- A text with blanks after it up to a width. -/
def padBack (width : Nat) (text : String) : String :=
  text ++ String.ofList (List.replicate (width - text.length) ' ')

/-- The line of a lexeme: its offset, its kind and its value. -/
def Lexeme.listing (lexeme : Lexeme) : String :=
  padFront 4 (toString lexeme.index) ++ " " ++ padBack 12 lexeme.kind.label ++ " "
    ++ quoted lexeme.value ++ "\n"

/-- A name as it is listed. -/
def KeyName.listing : KeyName → String
  | named name => quoted name
  | positional index => toString index

/-- The line of a key: its name and every field that is not empty. -/
def Key.listing (key : Key) : String :=
  let field (label value : String) : String :=
    if value.isEmpty then "" else " " ++ label ++ "=" ++ quoted value
  "Key " ++ key.name.listing ++ field "prefix" key.before ++ field "suffix" key.after
    ++ field "pattern" key.pattern ++ field "modifier" key.modifier ++ "\n"

/-- The line of a part. -/
def Part.listing : Part → String
  | .text literal => "Text(" ++ quoted literal ++ ")\n"
  | .key k => k.listing

/-- The lines of lexemes. -/
def listLexemes (lexemes : List Lexeme) : String :=
  String.join (lexemes.map Lexeme.listing)

/-- The lines of parts. -/
def listParts (parts : List Part) : String :=
  String.join (parts.map Part.listing)

end RoutePattern
