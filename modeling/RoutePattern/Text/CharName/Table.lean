import RoutePattern.Text.Cut
import RoutePattern.Text.Hex

/-!
# Tables of names

A table of names lists the names of characters in the order of the code points. Neighbours often
begin with the same words, so each name is written as what it does not share with the name before
it. `codeInTable?` finds the character that has a name.
-/

namespace RoutePattern

/-- An entry of a table: the code point, unless it is the one after that of the entry before; how
many words of the name before it the name begins with; and the words that follow them. -/
structure NameEntry where
  place : Option Nat
  shared : Nat
  added : List (List Char)
deriving DecidableEq, Repr

namespace NameEntry

/-- Read a name of an entry: one digit for the shared words, and the others. -/
def ofName (place : Option Nat) : List Char → NameEntry
  | [] => ⟨place, 0, []⟩
  | [count] => ⟨place, hexValue count, []⟩
  | count :: words => ⟨place, hexValue count, stretches ' ' words⟩

/-- Read an entry. A code point is written in hexadecimal with an equals sign behind it. Blanks in
front of an entry are for the layout of the table. -/
def ofText (text : List Char) : NameEntry :=
  match cut '=' (text.dropWhile Char.isWhitespace) with
  | (place, some name) => ofName (some (digitsValue 16 place)) name
  | (name, none) => ofName none name

end NameEntry

/-- The code point of a name among entries. `next` is the code point after that of the entry before
them, and `before` is its name. -/
def codeAmong? (wanted : List (List Char)) (next : Nat) (before : List (List Char)) :
    List NameEntry → Option Nat
  | [] => none
  | entry :: rest =>
      let code := entry.place.getD next
      let name := before.take entry.shared ++ entry.added
      if name = wanted then some code else codeAmong? wanted (code + 1) name rest

/-- The code point of a name in a table, whose entries stand between commas. The name is given by
its words. -/
def codeInTable? (wanted : List (List Char)) (table : String) : Option Nat :=
  codeAmong? wanted 0 [] ((stretches ',' table.toList).map NameEntry.ofText)

end RoutePattern
