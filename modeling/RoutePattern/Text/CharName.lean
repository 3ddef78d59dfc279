import RoutePattern.Text.CharName.From0000
import RoutePattern.Text.CharName.From1000
import RoutePattern.Text.CharName.From2000
import RoutePattern.Text.CharName.From2C00
import RoutePattern.Text.CharName.From10000
import RoutePattern.Text.CharName.From13000
import RoutePattern.Text.CharName.From1D000
import RoutePattern.Text.CharName.Further
import RoutePattern.Text.CharName.Syllable
import RoutePattern.Text.CharName.Table
import RoutePattern.Text.CodeSet

/-!
# Names of characters

`codeOfName?` finds the character that has a name in the Unicode standard. Most names stand in
tables. The names of ideographs hold the code point, and the names of syllables are put together
from the names of their letters.
-/

namespace RoutePattern

/-- The tables of names. -/
def nameTables : List String :=
  [namesFrom0000, namesFrom1000, namesFrom2000, namesFrom2C00, namesFrom10000, namesFrom13000,
   namesFrom1D000, furtherNames]

/-- Names that end in the code point: what stands in front of it, and the characters. -/
structure NumberedNames where
  stem : String
  codes : CodeSet
deriving Repr

/-- The names of unified ideographs. -/
def ideographNames : NumberedNames :=
  ⟨"CJK UNIFIED IDEOGRAPH-",
   [0x3400, 0x4DC0, 0x4E00, 0xA000, 0x20000, 0x2A6E0, 0x2A700, 0x2B739, 0x2B740, 0x2B81E, 0x2B820,
    0x2CEA2, 0x2CEB0, 0x2EBE1, 0x30000, 0x3134B]⟩

/-- The other names that end in the code point. -/
def otherNumberedNames : List NumberedNames :=
  [⟨"CJK COMPATIBILITY IDEOGRAPH-", [0xF900, 0xFA6E, 0xFA70, 0xFADA, 0x2F800, 0x2FA1E]⟩,
   ⟨"KHITAN SMALL SCRIPT CHARACTER-", [0x18B00, 0x18CD6]⟩,
   ⟨"NUSHU CHARACTER-", [0x1B170, 0x1B2FC]⟩]

/-- What follows a stem at the start of a name. -/
def afterStem? (stem : String) (name : List Char) : Option (List Char) :=
  if stem.toList.isPrefixOf name then some (name.drop stem.length) else none

/-- Whether a character is a hexadecimal digit and no lower-case letter. -/
def isCodeDigit (c : Char) : Bool :=
  isHexDigit c && !c.isLower

/-- The character whose name ends in its code point of four or five digits. -/
def NumberedNames.code? (names : NumberedNames) (name : List Char) : Option Nat := do
  let digits ← afterStem? names.stem name
  let code := digitsValue 16 digits
  if (digits.length = 4 ∨ digits.length = 5) ∧ digits.all isCodeDigit ∧ names.codes.holds code then
    return code
  else none

/-- The character of a name that ends in its code point without a zero in front. -/
def numberedCode? (name : List Char) : Option Nat :=
  otherNumberedNames.findSome? fun names =>
    match afterStem? names.stem name with
    | some ('0' :: _) => none
    | _ => names.code? name

/-- A name with its abbreviations spelt out: a variation selector may be called by two letters and
its number. -/
def spellOut : List Char → List Char
  | 'V' :: 'S' :: number =>
      if !number.isEmpty && number.all Char.isDigit then "VARIATION SELECTOR-".toList ++ number
      else 'V' :: 'S' :: number
  | name => name

/-- Whether a character may stand in a name: a letter, a digit, a blank or a hyphen. -/
def isNamePart (c : Char) : Bool :=
  c.isAlphanum || c == ' ' || c == '-'

/-- The character that has a name. Upper and lower case are the same, but for unified ideographs and
for syllables. -/
def codeOfName? (name : List Char) : Option Nat :=
  if name.all isNamePart then
    match afterStem? "HANGUL SYLLABLE " name, afterStem? ideographNames.stem name with
    | some letters, _ => syllable? letters
    | none, some _ => ideographNames.code? name
    | none, none =>
        let name := name.map Char.toUpper
        let words := stretches ' ' (spellOut name)
        numberedCode? name <|> nameTables.findSome? (codeInTable? words)
  else none

end RoutePattern
