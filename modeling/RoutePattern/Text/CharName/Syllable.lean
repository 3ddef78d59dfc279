/-!
# Names of Hangul syllables

A Hangul syllable is a leading consonant, a vowel and a trailing consonant, and its name is written
with the names of the three. The first and the last of them may have no name.
-/

namespace RoutePattern

/-- The names of the leading consonants. -/
def leadingNames : List String :=
  ["G", "GG", "N", "D", "DD", "R", "M", "B", "BB", "S", "SS", "", "J", "JJ", "C", "K", "T", "P",
   "H"]

/-- The names of the vowels. -/
def vowelNames : List String :=
  ["A", "AE", "YA", "YAE", "EO", "E", "YEO", "YE", "O", "WA", "WAE", "OE", "YO", "U", "WEO", "WE",
   "WI", "YU", "EU", "YI", "I"]

/-- The names of the trailing consonants. -/
def trailingNames : List String :=
  ["", "G", "GG", "GS", "N", "NJ", "NH", "D", "L", "LG", "LM", "LB", "LS", "LT", "LP", "LH", "M",
   "B", "BS", "S", "SS", "NG", "J", "C", "K", "T", "P", "H"]

/-- The longest of some names that a text begins with: its number, counted from `number`, and how
long it is. -/
def longestName? (text : List Char) (number : Nat) : List String → Option (Nat × Nat)
  | [] => none
  | name :: rest =>
      let later := longestName? text (number + 1) rest
      if name.toList.isPrefixOf text then
        match later with
        | some (other, length) =>
            if name.length < length then some (other, length) else some (number, name.length)
        | none => some (number, name.length)
      else later

/-- The first syllable. -/
def syllableStart : Nat := 0xAC00

/-- The syllable with the given name. -/
def syllable? (name : List Char) : Option Nat := do
  let (leading, length) ← longestName? name 0 leadingNames
  let name := name.drop length
  let (vowel, length) ← longestName? name 0 vowelNames
  let name := name.drop length
  let (trailing, length) ← longestName? name 0 trailingNames
  if (name.drop length).isEmpty then
    return syllableStart
      + (leading * vowelNames.length + vowel) * trailingNames.length + trailing
  else none

end RoutePattern
