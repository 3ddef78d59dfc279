import RoutePattern.Text.Hex
import RoutePattern.Value

/-!
# JSON

Texts and values as JSON within ASCII. Every other character is written as the numbers of its
UTF-16 units.
-/

namespace RoutePattern.Json

/-- A UTF-16 unit. -/
def unit (n : Nat) : List Char :=
  '\\' :: 'u' :: hexDigits 4 n

/-- A character inside quotation marks. -/
def char (c : Char) : List Char :=
  if c = '"' ∨ c = '\\' then ['\\', c]
  else if c = '\n' then ['\\', 'n']
  else if c = '\r' then ['\\', 'r']
  else if c = '\t' then ['\\', 't']
  else if c = '\x08' then ['\\', 'b']
  else if c = '\x0c' then ['\\', 'f']
  else
    let n := c.toNat
    if 32 ≤ n ∧ n < 127 then [c]
    else if n < 0x10000 then unit n
    else unit (0xD800 + (n - 0x10000) / 0x400) ++ unit (0xDC00 + (n - 0x10000) % 0x400)

/-- A text. -/
def string (text : String) : String :=
  String.ofList ('"' :: text.toList.flatMap char ++ ['"'])

/-- A list of items. -/
def array (items : List String) : String :=
  "[" ++ ", ".intercalate items ++ "]"

/-- A list of names with their items. -/
def object (fields : List (String × String)) : String :=
  "\x7b" ++ ", ".intercalate (fields.map fun (name, item) => string name ++ ": " ++ item) ++ "\x7d"

/-- A double. -/
def double : Binary64 → String
  | .infinite negative => if negative then "-Infinity" else "Infinity"
  | .nan => "NaN"
  | x => x.text

mutual

/-- A value. -/
def value : Value → String
  | .text s => string s
  | .bool b => if b then "true" else "false"
  | .null => "null"
  | .int n => toString n
  | .float x => double x
  | .list items | .tuple items => array (values items)
  | .record => object []

/-- Values, one after the other. -/
def values : List Value → List String
  | [] => []
  | item :: rest => value item :: values rest

end

end RoutePattern.Json
