import RoutePattern.Expr.CharTest

/-!
# Flags of an expression

Flags say how the parts of an expression are read: whether case is ignored, whether lines have
anchors of their own, whether a dot accepts a line feed, whether blanks are skipped, whether the
character classes hold ASCII alone, and whether the expression is a template, which has no
repetitions.
-/

namespace RoutePattern

/-- The flags in force at a place in an expression. -/
structure Flags where
  ignoreCase : Bool := false
  multiLine : Bool := false
  dotAll : Bool := false
  verbose : Bool := false
  asciiOnly : Bool := false
  template : Bool := false
deriving DecidableEq, Repr, Inhabited

namespace Flags

/-- How characters compare under the flags. -/
def fold (flags : Flags) : Fold :=
  if flags.ignoreCase then if flags.asciiOnly then .ascii else .unicode else .keep

/-- The letters of the flags that are set. -/
def letters (flags : Flags) : String :=
  String.ofList <|
    [(flags.ignoreCase, 'i'), (flags.multiLine, 'm'), (flags.dotAll, 's'), (flags.verbose, 'x'),
      (flags.asciiOnly, 'a')].filterMap fun (isSet, letter) => if isSet then some letter else none

/-- The flags with the one of a letter turned on or off. -/
def put (flags : Flags) (value : Bool) (letter : Char) : Flags :=
  match letter with
  | 'i' => { flags with ignoreCase := value }
  | 'm' => { flags with multiLine := value }
  | 's' => { flags with dotAll := value }
  | 'x' => { flags with verbose := value }
  | 'a' => { flags with asciiOnly := value }
  | 'u' => { flags with asciiOnly := !value }
  | 't' => { flags with template := value }
  | _ => flags

/-- The flags with some turned on and then some turned off. -/
def change (flags : Flags) (on off : List Char) : Flags :=
  off.foldl (·.put false ·) (on.foldl (·.put true ·) flags)

/-- The flags of a text of letters. -/
def ofLetters (letters : String) : Flags :=
  letters.toList.foldl (·.put true ·) {}

end Flags

/-- The letters that stand for a flag inside an expression. -/
def flagLetters : List Char :=
  ['i', 'L', 'm', 's', 'x', 'a', 't', 'u']

/-- The letters of the flags that fix the characters of a class. -/
def classFlagLetters : List Char :=
  ['a', 'L', 'u']

end RoutePattern
