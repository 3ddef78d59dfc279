import RoutePattern.Text.Hex
import RoutePattern.Toml.Value

/-!
# Reading TOML

`readToml` reads a document statement by statement. Every rule takes the text that is left and gives
the text after it, so the place of an error is known from how much is left. `TomlDocument` holds the
entries made so far and which tables may no longer be opened or changed.
-/

namespace RoutePattern

/-- Why a document cannot be read. -/
inductive TomlFault where
  /-- What is wrong, and the text that is left where it is wrong. -/
  | wrong (message : String) (rest : List Char)
  | number (fault : IntegerFault)

namespace Toml

/-- A fault in front of the text that is left. -/
def fail {α : Type} (message : String) (rest : List Char) : Except TomlFault α :=
  .error (.wrong message rest)

/-- Whether a character is a blank within a line. -/
def isSpace (c : Char) : Bool :=
  c == ' ' || c == '\t'

/-- The text after the blanks in front of it. -/
def skipSpaces (text : List Char) : List Char :=
  text.dropWhile isSpace

/-- Whether a character is a control character other than the tab. -/
def isControl (c : Char) : Bool :=
  c != '\t' && (c.toNat < 32 || c.toNat == 127)

/-- Whether a character is a control character that may not stand in a text of several lines. -/
def isLongControl (c : Char) : Bool :=
  c != '\n' && isControl c

/-- Whether a character may stand in a name without quotation marks. -/
def isBareChar (c : Char) : Bool :=
  c.isAlphanum || c == '-' || c == '_'

/-- A text up to a mark, and what follows from the mark on. -/
def splitBefore (mark : List Char) : List Char → Option (List Char × List Char)
  | [] => none
  | c :: rest =>
      if mark.isPrefixOf (c :: rest) then some ([], c :: rest)
      else (splitBefore mark rest).map fun (before, later) => (c :: before, later)

/-- Refuse a text with a character that may not stand in it. `later` follows the text. -/
def refuse (isRefused : Char → Bool) (text later : List Char) : Except TomlFault Unit :=
  match text.dropWhile (!isRefused ·) with
  | [] => .ok ()
  | c :: rest =>
      fail ("Found invalid character " ++ quoted (String.singleton c)) (c :: rest ++ later)

/-- The text up to a mark and the text after the mark. -/
def textTo (mark : List Char) (isRefused : Char → Bool) (text : List Char) :
    Except TomlFault (List Char × List Char) :=
  match splitBefore mark text with
  | none => fail ("Expected " ++ quoted (String.ofList mark)) []
  | some (before, later) => do
      refuse isRefused before later
      return (before, later.drop mark.length)

/-- The text after a comment, if one is in front. -/
def skipComment : List Char → Except TomlFault (List Char)
  | '#' :: rest => do
      let (comment, later) := rest.span (· != '\n')
      refuse isControl comment later
      return later
  | text => .ok text

/-- The text after blanks, line ends and comments. `within` tells that a comment has begun. -/
def skipLines (within : Bool) : List Char → Except TomlFault (List Char)
  | [] => .ok []
  | c :: rest =>
      if c == '\n' then skipLines false rest
      else if within then
        if isControl c then
          fail ("Found invalid character " ++ quoted (String.singleton c)) (c :: rest)
        else skipLines true rest
      else if isSpace c then skipLines false rest
      else if c == '#' then skipLines true rest
      else .ok (c :: rest)

/-- The text after whatever may stand between the items of an array. -/
def skipBetween (text : List Char) : Except TomlFault (List Char) :=
  skipLines false text

/-- The character of a given number of hexadecimal digits. -/
def hexChar (count : Nat) (text : List Char) : Except TomlFault (List Char × List Char) :=
  let digits := text.take count
  if digits.length ≠ count || !digits.all isHexDigit then fail "Invalid hex value" text
  else
    let code := digitsValue 16 digits
    let later := text.drop count
    if code.isValidChar then .ok ([Char.ofNat code], later)
    else fail "Escaped character is not a Unicode scalar value" later

/-- What a backslash and the text after it stand for. In a text of several lines a backslash at the
end of a line takes away the blanks that follow. -/
def escape (long : Bool) (text : List Char) : Except TomlFault (List Char × List Char) :=
  let unescaped {α : Type} (rest : List Char) : Except TomlFault α :=
    fail "Unescaped '\\' in a string" rest
  let skipAll (rest : List Char) : List Char := rest.dropWhile fun c => isSpace c || c == '\n'
  match text with
  | 'b' :: rest => .ok (['\x08'], rest)
  | 't' :: rest => .ok (['\t'], rest)
  | 'n' :: rest => .ok (['\n'], rest)
  | 'f' :: rest => .ok (['\x0c'], rest)
  | 'r' :: rest => .ok (['\r'], rest)
  | '"' :: rest => .ok (['"'], rest)
  | '\\' :: rest => .ok (['\\'], rest)
  | 'u' :: rest => hexChar 4 rest
  | 'U' :: rest => hexChar 8 rest
  | [] => unescaped []
  | c :: rest =>
      if long && c == '\n' then .ok ([], skipAll rest)
      else if long && isSpace c then
        match skipSpaces rest with
        | [] => .ok ([], [])
        | '\n' :: later => .ok ([], skipAll later)
        | later => unescaped later
      else unescaped rest

/-- A text in double quotation marks, after the opening ones. -/
def basic (long : Bool) : Nat → List Char → Except TomlFault (List Char × List Char)
  | 0, rest => fail "Unterminated string" rest
  | _, [] => fail "Unterminated string" []
  | fuel + 1, '"' :: rest => do
      if !long then return ([], rest)
      else if ['"', '"'].isPrefixOf rest then return ([], rest.drop 2)
      else
        let (text, later) ← basic long fuel rest
        return ('"' :: text, later)
  | fuel + 1, '\\' :: rest => do
      let (chars, rest) ← escape long rest
      let (text, later) ← basic long fuel rest
      return (chars ++ text, later)
  | fuel + 1, c :: rest => do
      if (if long then isLongControl c else isControl c) then
        fail ("Illegal character " ++ quoted (String.singleton c)) (c :: rest)
      else
        let (text, later) ← basic long fuel rest
        return (c :: text, later)

/-- A text in one pair of double quotation marks, after the first of them. -/
def shortBasic (text : List Char) : Except TomlFault (List Char × List Char) :=
  basic false (text.length + 1) text

/-- A text in one pair of apostrophes, after the first of them. -/
def shortLiteral (text : List Char) : Except TomlFault (List Char × List Char) :=
  textTo ['\''] isControl text

/-- Up to two marks that belong to a text whose closing marks they stand in front of. -/
def extraMarks (mark : Char) (text later : List Char) : List Char × List Char :=
  match later with
  | a :: b :: rest =>
      if a != mark then (text, later)
      else if b != mark then (text ++ [mark], b :: rest)
      else (text ++ [mark, mark], rest)
  | [a] => if a != mark then (text, later) else (text ++ [mark], [])
  | [] => (text, [])

/-- The text after a line end in front of it. -/
def skipLineEnd : List Char → List Char
  | '\n' :: rest => rest
  | text => text

/-- A text of several lines in double quotation marks, after the opening ones. -/
def longBasic (text : List Char) : Except TomlFault (List Char × List Char) := do
  let (chars, later) ← basic true (text.length + 1) (skipLineEnd text)
  return extraMarks '"' chars later

/-- A text of several lines in apostrophes, after the opening ones. -/
def longLiteral (text : List Char) : Except TomlFault (List Char × List Char) := do
  let (chars, later) ← textTo ['\'', '\'', '\''] isLongControl (skipLineEnd text)
  return extraMarks '\'' chars later

/-- One part of a name. -/
def keyPart (text : List Char) : Except TomlFault (String × List Char) := do
  match text with
  | '\'' :: rest =>
      let (name, later) ← shortLiteral rest
      return (String.ofList name, later)
  | '"' :: rest =>
      let (name, later) ← shortBasic rest
      return (String.ofList name, later)
  | _ =>
      let (name, later) := text.span isBareChar
      if name.isEmpty then fail "Invalid initial character for a key part" text
      else return (String.ofList name, later)

/-- A name: parts with dots between them. -/
def key : Nat → List Char → Except TomlFault (List String × List Char)
  | 0, text => fail "Invalid initial character for a key part" text
  | fuel + 1, text => do
      let (part, later) ← keyPart text
      match skipSpaces later with
      | '.' :: rest =>
          let (parts, later) ← key fuel (skipSpaces rest)
          return (part :: parts, later)
      | rest => return ([part], rest)

/-- A name at the front of a text. -/
def readKey (text : List Char) : Except TomlFault (List String × List Char) :=
  key (text.length + 1) text

/-- Exactly `count` decimal digits, as a number. -/
def digits? (count : Nat) (text : List Char) : Option (Nat × List Char) :=
  let digits := text.take count
  if digits.length = count && digits.all Char.isDigit then
    some (digitsValue 10 digits, text.drop count)
  else none

/-- Two decimal digits, as a number within bounds. -/
def twoDigits? (low high : Nat) (text : List Char) : Option (Nat × List Char) := do
  let (n, later) ← digits? 2 text
  if low ≤ n && n ≤ high then some (n, later) else none

/-- A given character in front. -/
def char? (c : Char) : List Char → Option (List Char)
  | [] => none
  | other :: rest => if other = c then some rest else none

/-- A fraction of a second in millionths, if there is one. Digits beyond the sixth are dropped. -/
def fraction (text : List Char) : Nat × List Char :=
  match text with
  | '.' :: rest =>
      let (digits, later) := rest.span Char.isDigit
      if digits.isEmpty then (0, text)
      else
        let six := digits.take 6
        (digitsValue 10 six * Nat.pow 10 (6 - six.length), later)
  | _ => (0, text)

/-- A time of day. -/
def clockTime? (text : List Char) : Option (ClockTime × List Char) := do
  let (hour, text) ← twoDigits? 0 23 text
  let (minute, text) ← twoDigits? 0 59 (← char? ':' text)
  let (second, text) ← twoDigits? 0 59 (← char? ':' text)
  let (micros, later) := fraction text
  return (⟨hour, minute, second, micros⟩, later)

/-- A day of the calendar, which need not exist. -/
def calendarDate? (text : List Char) : Option (CalendarDate × List Char) := do
  let (year, text) ← digits? 4 text
  let (month, text) ← twoDigits? 1 12 (← char? '-' text)
  let (day, later) ← twoDigits? 1 31 (← char? '-' text)
  return (⟨year, month, day⟩, later)

/-- An offset from universal time, in minutes. -/
def offset? : List Char → Option (Int × List Char)
  | 'Z' :: rest => some (0, rest)
  | 'z' :: rest => some (0, rest)
  | sign :: rest => do
      if sign ≠ '+' ∧ sign ≠ '-' then none
      else
        let (hours, text) ← twoDigits? 0 23 rest
        let (minutes, later) ← twoDigits? 0 59 (← char? ':' text)
        let total : Int := 60 * hours + minutes
        return (if sign = '-' then -total else total, later)
  | [] => none

/-- The time that follows a date, with its offset. -/
def timeAfterDate? : List Char → Option ((ClockTime × Option Int) × List Char)
  | mark :: rest => do
      if mark ≠ 'T' ∧ mark ≠ 't' ∧ mark ≠ ' ' then none
      else
        let (time, later) ← clockTime? rest
        match offset? later with
        | some (offset, later) => return ((time, some offset), later)
        | none => return ((time, none), later)
  | [] => none

/-- Digits with single underscores between them: the digits, and the text after them. -/
def digitRun (isDigit : Char → Bool) : List Char → List Char × List Char
  | [] => ([], [])
  | '_' :: c :: rest =>
      if isDigit c then
        let (digits, later) := digitRun isDigit rest
        (c :: digits, later)
      else ([], '_' :: c :: rest)
  | c :: rest =>
      if isDigit c then
        let (digits, later) := digitRun isDigit rest
        (c :: digits, later)
      else ([], c :: rest)

/-- Digits of which the first may not be an underscore. -/
def digitRun? (isDigit : Char → Bool) : List Char → Option (List Char × List Char)
  | c :: rest =>
      if isDigit c then
        let (digits, later) := digitRun isDigit rest
        some (c :: digits, later)
      else none
  | [] => none

/-- An integer in another base than ten. -/
def basedInteger? : List Char → Option (Nat × List Char)
  | '0' :: mark :: rest => do
      let base ← if mark = 'x' then some 16 else if mark = 'o' then some 8
        else if mark = 'b' then some 2 else none
      let (digits, later) ← digitRun? (fun c => isHexDigit c && hexValue c < base) rest
      return (digitsValue base digits, later)
  | _ => none

/-- The digits of a whole number in base ten: zero, or digits that do not begin with it. -/
def wholeDigits? : List Char → Option (List Char × List Char)
  | '0' :: rest => some (['0'], rest)
  | text => digitRun? Char.isDigit text

/-- The digits after a decimal point, if there are any. -/
def fractionDigits (text : List Char) : List Char × List Char :=
  match text with
  | '.' :: rest => (digitRun? Char.isDigit rest).getD ([], text)
  | _ => ([], text)

/-- A sign in front, as whether it is negative. -/
def sign : List Char → Bool × List Char
  | '-' :: rest => (true, rest)
  | '+' :: rest => (false, rest)
  | text => (false, text)

/-- The exponent of a number, if there is one. -/
def exponent? : List Char → Option (Int × List Char)
  | mark :: rest => do
      if mark ≠ 'e' ∧ mark ≠ 'E' then none
      else
        let (negative, text) := sign rest
        let (digits, later) ← digitRun? Char.isDigit text
        let size : Int := digitsValue 10 digits
        return (if negative then -size else size, later)
  | [] => none

/-- An integer or a decimal in base ten. -/
def decimal? (text : List Char) : Option (Except TomlFault (TomlValue × List Char)) := do
  let (negative, unsigned) := sign text
  let (whole, afterWhole) ← wholeDigits? unsigned
  let (fraction, afterFraction) := fractionDigits afterWhole
  let power := exponent? afterFraction
  if fraction.isEmpty && power.isNone then
    if digitLimit < whole.length then return .error (.number (.tooLong whole.length))
    else
      let size : Int := digitsValue 10 whole
      return .ok (.integer (if negative then -size else size), afterWhole)
  else
    let (power, later) := power.getD (0, afterFraction)
    let value := Binary64.ofDecimal negative (digitsValue 10 (whole ++ fraction))
      (power - fraction.length)
    return .ok (.float value, later)

/-- A number that is not finite. -/
def special? (text : List Char) : Option (TomlValue × List Char) :=
  let (negative, unsigned) := sign text
  match unsigned with
  | 'i' :: 'n' :: 'f' :: rest => some (.float (.infinite negative), rest)
  | 'n' :: 'a' :: 'n' :: rest => some (.float .nan, rest)
  | _ => none

/-- A date, a time, or both. -/
def moment? (text : List Char) : Option (Except TomlFault (TomlValue × List Char)) :=
  match calendarDate? text with
  | some (date, afterDate) =>
      some <|
        if !date.isValid then fail "Invalid date or datetime" text
        else
          match timeAfterDate? afterDate with
          | some ((time, offset), later) => .ok (.dateTime date time offset, later)
          | none => .ok (.date date, afterDate)
  | none => (clockTime? text).map fun (time, later) => .ok (.time time, later)

/-- A value that is no array and no table. -/
def scalar (text : List Char) : Except TomlFault (TomlValue × List Char) := do
  match text with
  | '"' :: '"' :: '"' :: rest =>
      let (chars, later) ← longBasic rest
      return (.string (String.ofList chars), later)
  | '"' :: rest =>
      let (chars, later) ← shortBasic rest
      return (.string (String.ofList chars), later)
  | '\'' :: '\'' :: '\'' :: rest =>
      let (chars, later) ← longLiteral rest
      return (.string (String.ofList chars), later)
  | '\'' :: rest =>
      let (chars, later) ← shortLiteral rest
      return (.string (String.ofList chars), later)
  | 't' :: 'r' :: 'u' :: 'e' :: rest => return (.boolean true, rest)
  | 'f' :: 'a' :: 'l' :: 's' :: 'e' :: rest => return (.boolean false, rest)
  | _ =>
      match moment? text with
      | some result => result
      | none =>
          match basedInteger? text, decimal? text, special? text with
          | some (n, later), _, _ => return (.integer n, later)
          | _, some result, _ => result
          | _, _, some result => return result
          | _, _, _ => fail "Invalid value" text

/-- A path of names as a message shows it. -/
def shownKey (path : List String) : String :=
  match path with
  | [name] => "(" ++ quoted name ++ ",)"
  | names => "(" ++ ", ".intercalate (names.map quoted) ++ ")"

/-- Whether a value is an array or a table. -/
def isNested : TomlValue → Bool
  | .array _ | .table _ => true
  | _ => false

/-- Add an entry to a table inside braces. `frozen` holds the paths that may not be added to. -/
def addInline (entries : TomlTable) (frozen : List (List String)) (path : List String)
    (value : TomlValue) (rest : List Char) : Except TomlFault TomlTable :=
  let parent := path.dropLast
  let name := path.getLastD ""
  if frozen.any (·.isPrefixOf path) then
    fail ("Cannot mutate immutable namespace " ++ shownKey path) rest
  else
    match TomlTable.update false some parent entries with
    | none => fail "Cannot overwrite a value" rest
    | some _ =>
        let add (inner : TomlTable) : Option TomlTable :=
          if (inner.lookup name).isSome then none else some (inner.set name value)
        match TomlTable.update false add parent entries with
        | none => fail ("Duplicate inline table key " ++ quoted name) rest
        | some entries => .ok entries

mutual

/-- A value. -/
def value : Nat → List Char → Except TomlFault (TomlValue × List Char)
  | 0, text => fail "Invalid value" text
  | fuel + 1, text => do
      match text with
      | '[' :: rest =>
          match ← skipBetween rest with
          | ']' :: later => return (.array [], later)
          | items =>
              let (items, later) ← arrayItems fuel items
              return (.array items, later)
      | '\x7b' :: rest =>
          match skipSpaces rest with
          | '\x7d' :: later => return (.table [], later)
          | entries =>
              let (entries, later) ← inlineEntries fuel [] [] entries
              return (.table entries, later)
      | _ => scalar text

/-- The items of an array, up to its end. -/
def arrayItems : Nat → List Char → Except TomlFault (List TomlValue × List Char)
  | 0, text => fail "Unclosed array" text
  | fuel + 1, text => do
      let (item, afterItem) ← value fuel text
      match ← skipBetween afterItem with
      | ']' :: later => return ([item], later)
      | ',' :: rest =>
          match ← skipBetween rest with
          | ']' :: later => return ([item], later)
          | more =>
              let (items, later) ← arrayItems fuel more
              return (item :: items, later)
      | rest => fail "Unclosed array" rest

/-- The entries of a table inside braces, up to its end. -/
def inlineEntries (fuel : Nat) (entries : TomlTable) (frozen : List (List String))
    (text : List Char) : Except TomlFault (TomlTable × List Char) := do
  match fuel with
  | 0 => fail "Unclosed inline table" text
  | fuel + 1 =>
      let ((path, item), afterItem) ← keyValue fuel text
      let entries ← addInline entries frozen path item afterItem
      match skipSpaces afterItem with
      | '\x7d' :: later => return (entries, later)
      | ',' :: rest =>
          inlineEntries fuel entries (if isNested item then path :: frozen else frozen)
            (skipSpaces rest)
      | rest => fail "Unclosed inline table" rest

/-- A name, an equals sign and a value. -/
def keyValue : Nat → List Char → Except TomlFault ((List String × TomlValue) × List Char)
  | 0, text => fail "Invalid value" text
  | fuel + 1, text => do
      let (path, afterKey) ← readKey text
      match afterKey with
      | '=' :: rest =>
          let (item, later) ← value fuel (skipSpaces rest)
          return ((path, item), later)
      | rest => fail "Expected '=' after a key in a key/value pair" rest

end

end Toml

/-- A document being read. `header` is the table that entries go to. `explicit` are the tables that
may not be opened again, `pending` those that join them at the next header, and `frozen` the paths
below which nothing may change. -/
structure TomlDocument where
  entries : TomlTable := []
  header : List String := []
  explicit : List (List String) := []
  pending : List (List String) := []
  frozen : List (List String) := []

namespace TomlDocument

/-- Whether nothing may change at a path. -/
def isFrozen (document : TomlDocument) (path : List String) : Bool :=
  document.frozen.any (·.isPrefixOf path)

/-- The document after a name and a value. `rest` is the text after them. -/
def addEntry (document : TomlDocument) (path : List String) (value : TomlValue)
    (rest : List Char) : Except TomlFault TomlDocument := do
  let parent := document.header ++ path.dropLast
  let name := path.getLastD ""
  let tables := (List.range (path.length - 1)).map fun i => document.header ++ path.take (i + 1)
  match tables.find? document.explicit.contains with
  | some table => Toml.fail ("Cannot redefine namespace " ++ Toml.shownKey table) rest
  | none =>
      if document.isFrozen parent then
        Toml.fail ("Cannot mutate immutable namespace " ++ Toml.shownKey parent) rest
      else
        let add (inner : TomlTable) : Option TomlTable :=
          if (inner.lookup name).isSome then none else some (inner.set name value)
        match TomlTable.update true add parent document.entries with
        | none => Toml.fail "Cannot overwrite a value" rest
        | some entries =>
            let path := document.header ++ path
            return { document with
              entries
              pending := document.pending ++ tables
              frozen := if Toml.isNested value then path :: document.frozen else document.frozen }

/-- The document in front of a header. -/
def settle (document : TomlDocument) : TomlDocument :=
  { document with explicit := document.explicit ++ document.pending, pending := [] }

/-- The document after the header of a table, up to its closing bracket. -/
def openTable (document : TomlDocument) (path : List String) (rest : List Char) :
    Except TomlFault TomlDocument :=
  if document.explicit.contains path || document.isFrozen path then
    Toml.fail ("Cannot declare " ++ Toml.shownKey path ++ " twice") rest
  else
    match TomlTable.update true some path document.entries with
    | none => Toml.fail "Cannot overwrite a value" rest
    | some entries =>
        .ok { document with entries, header := path, explicit := path :: document.explicit }

/-- The document after the header of an array of tables, up to its closing brackets. -/
def openItem (document : TomlDocument) (path : List String) (rest : List Char) :
    Except TomlFault TomlDocument :=
  if document.isFrozen path then
    Toml.fail ("Cannot mutate immutable namespace " ++ Toml.shownKey path) rest
  else
    let name := path.getLastD ""
    let add (inner : TomlTable) : Option TomlTable :=
      match inner.lookup name with
      | none => some (inner.set name (.array [.table []]))
      | some (.array items) => some (inner.set name (.array (items ++ [.table []])))
      | some _ => none
    match TomlTable.update true add path.dropLast document.entries with
    | none => Toml.fail "Cannot overwrite a value" rest
    | some entries =>
        let others := document.explicit.filter fun other => !path.isPrefixOf other
        .ok { document with
          entries
          header := path
          explicit := path :: others
          frozen := document.frozen.filter fun other => !path.isPrefixOf other }

/-- The document after the header of an array of tables, whose second bracket is in front. -/
def itemHeader (document : TomlDocument) (text : List Char) :
    Except TomlFault (TomlDocument × List Char) := do
  let (path, rest) ← Toml.readKey (Toml.skipSpaces text)
  let document ← document.openItem path rest
  match rest with
  | ']' :: ']' :: later => return (document, later)
  | rest => Toml.fail "Expected ']]' at the end of an array declaration" rest

/-- The document after the header of a table. -/
def tableHeader (document : TomlDocument) (text : List Char) :
    Except TomlFault (TomlDocument × List Char) := do
  let (path, rest) ← Toml.readKey (Toml.skipSpaces text)
  let document ← document.openTable path rest
  match rest with
  | ']' :: later => return (document, later)
  | rest => Toml.fail "Expected ']' at the end of a table declaration" rest

/-- The document after a statement, and the text after it. -/
def statement (document : TomlDocument) (text : List Char) :
    Except TomlFault (TomlDocument × List Char) := do
  match text with
  | '[' :: '[' :: rest => document.settle.itemHeader rest
  | '[' :: rest => document.settle.tableHeader rest
  | '#' :: _ => return (document, text)
  | c :: _ =>
      if Toml.isBareChar c || c == '"' || c == '\'' then
        let ((path, value), later) ← Toml.keyValue (2 * text.length + 4) text
        return (← document.addEntry path value later, later)
      else Toml.fail "Invalid statement" text
  | [] => return (document, [])

/-- The document after all statements. -/
def statements (document : TomlDocument) : Nat → List Char → Except TomlFault TomlDocument
  | 0, _ => .ok document
  | fuel + 1, text =>
      match Toml.skipSpaces text with
      | [] => .ok document
      | '\n' :: rest => statements document fuel rest
      | text => do
          let (document, rest) ← document.statement text
          match ← Toml.skipComment (Toml.skipSpaces rest) with
          | [] => return document
          | '\n' :: rest => statements document fuel rest
          | rest => Toml.fail "Expected newline or end of document after a statement" rest

end TomlDocument

/-- A text in which each carriage return with a line feed is a line feed. -/
def unixLines : List Char → List Char
  | [] => []
  | '\r' :: '\n' :: rest => '\n' :: unixLines rest
  | c :: rest => c :: unixLines rest

/-- A place in a text as a message shows it, given what is left there. -/
def tomlPlace (text rest : List Char) : String :=
  if rest.isEmpty then "end of document"
  else
    let before := text.take (text.length - rest.length)
    let line := before.count '\n' + 1
    let column := (before.reverse.takeWhile (· != '\n')).length + 1
    "line " ++ toString line ++ ", column " ++ toString column

/-- Why a text is no document, as it is told. -/
inductive TomlError where
  | wrong (message : String)
  | number (fault : IntegerFault)
deriving DecidableEq, Repr

/-- Read a document. -/
def readToml (source : List Char) : Except TomlError TomlTable :=
  let text := unixLines source
  match TomlDocument.statements {} (text.length + 1) text with
  | .ok document => .ok document.entries
  | .error (.wrong message rest) =>
      .error (.wrong (message ++ " (at " ++ tomlPlace text rest ++ ")"))
  | .error (.number fault) => .error (.number fault)

end RoutePattern
