import RoutePattern.Number.Integer
import RoutePattern.Number.Shortest
import RoutePattern.Text.Quoted

/-!
# TOML values

The values of a TOML document, and the text in which a message shows one.
-/

namespace RoutePattern

/-- A time of day. -/
structure ClockTime where
  hour : Nat
  minute : Nat
  second : Nat
  micros : Nat
deriving DecidableEq, Repr

/-- A day of the calendar. -/
structure CalendarDate where
  year : Nat
  month : Nat
  day : Nat
deriving DecidableEq, Repr

/-- The number of days of a month. -/
def daysOfMonth (year month : Nat) : Nat :=
  if month = 2 then
    if year % 4 = 0 && (year % 100 != 0 || year % 400 = 0) then 29 else 28
  else if [4, 6, 9, 11].contains month then 30
  else 31

/-- Whether a day exists. -/
def CalendarDate.isValid (date : CalendarDate) : Bool :=
  1 ≤ date.year && 1 ≤ date.month && date.month ≤ 12 && 1 ≤ date.day &&
    date.day ≤ daysOfMonth date.year date.month

/-- A TOML value. The offset of a date with a time is in minutes. -/
inductive TomlValue where
  | string (text : String)
  | integer (value : Int)
  | float (value : Binary64)
  | boolean (value : Bool)
  | date (date : CalendarDate)
  | time (time : ClockTime)
  | dateTime (date : CalendarDate) (time : ClockTime) (offset : Option Int)
  | array (items : List TomlValue)
  | table (entries : List (String × TomlValue))
deriving Repr, Inhabited

namespace ClockTime

/-- The parts of a time that are written: those after the minute only up to the last that is not
zero. -/
def parts (time : ClockTime) : List Nat :=
  [time.hour, time.minute] ++
    if time.micros ≠ 0 then [time.second, time.micros]
    else if time.second ≠ 0 then [time.second]
    else []

end ClockTime

/-- The parts of a date. -/
def CalendarDate.parts (date : CalendarDate) : List Nat :=
  [date.year, date.month, date.day]

/-- Numbers with commas between them. -/
def commaSeparated (numbers : List Nat) : String :=
  ", ".intercalate (numbers.map toString)

/-- The text of an offset from universal time. -/
def offsetText (minutes : Int) : String :=
  if minutes = 0 then "datetime.timezone.utc"
  else
    let days := if minutes < 0 then "days=-1, " else ""
    "datetime.timezone(datetime.timedelta(" ++ days ++ "seconds=" ++ toString (minutes % 1440 * 60)
      ++ "))"

namespace TomlValue

mutual

/-- The text in which a message shows a value. -/
def shown : TomlValue → String
  | string text => quoted text
  | integer value => toString value
  | float value => value.text
  | boolean value => if value then "True" else "False"
  | date d => "datetime.date(" ++ commaSeparated d.parts ++ ")"
  | time t => "datetime.time(" ++ commaSeparated t.parts ++ ")"
  | dateTime d t offset =>
      "datetime.datetime(" ++ commaSeparated (d.parts ++ t.parts)
        ++ (match offset with
          | some minutes => ", tzinfo=" ++ offsetText minutes
          | none => "")
        ++ ")"
  | array items => "[" ++ ", ".intercalate (shownItems items) ++ "]"
  | table entries => "\x7b" ++ ", ".intercalate (shownEntries entries) ++ "\x7d"

/-- The texts of the items of an array. -/
def shownItems : List TomlValue → List String
  | [] => []
  | item :: rest => shown item :: shownItems rest

/-- The texts of the entries of a table. -/
def shownEntries : List (String × TomlValue) → List String
  | [] => []
  | (name, value) :: rest => (quoted name ++ ": " ++ shown value) :: shownEntries rest

end

mutual

/-- Whether a value holds an integer that cannot be written. -/
def isUnwritable : TomlValue → Bool
  | integer value => RoutePattern.isUnwritable value
  | array items => anyUnwritable items
  | table entries => anyEntryUnwritable entries
  | _ => false

/-- Whether some item of an array cannot be written. -/
def anyUnwritable : List TomlValue → Bool
  | [] => false
  | item :: rest => isUnwritable item || anyUnwritable rest

/-- Whether some entry of a table cannot be written. -/
def anyEntryUnwritable : List (String × TomlValue) → Bool
  | [] => false
  | (_, value) :: rest => isUnwritable value || anyEntryUnwritable rest

end

end TomlValue

/-- The entries of a table, in the order in which they were made. -/
abbrev TomlTable := List (String × TomlValue)

namespace TomlTable

/-- Replace the value of a name, or add it at the end. -/
def set (entries : TomlTable) (name : String) (value : TomlValue) : TomlTable :=
  if entries.any (·.1 == name) then
    entries.map fun entry => if entry.1 == name then (name, value) else entry
  else entries ++ [(name, value)]

/-- Change the table at a path, making the tables on the way that do not exist. An array on the way
stands for its last item, if `throughArrays` holds. There is no result where another value is in the
way. -/
def update (throughArrays : Bool) (change : TomlTable → Option TomlTable) :
    List String → TomlTable → Option TomlTable
  | [], entries => change entries
  | name :: path, entries =>
      match entries.lookup name with
      | none => do return entries.set name (.table (← update throughArrays change path []))
      | some (.table inner) => do
          return entries.set name (.table (← update throughArrays change path inner))
      | some (.array items) =>
          match throughArrays, items.getLast? with
          | true, some (.table inner) => do
              let inner ← update throughArrays change path inner
              return entries.set name (.array (items.dropLast ++ [.table inner]))
          | _, _ => none
      | some _ => none

end TomlTable

end RoutePattern
