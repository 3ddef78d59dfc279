import RoutePattern.Text.Blank
import RoutePattern.Text.Digit
import RoutePattern.Text.Quoted

/-!
# Integers in decimal

`readInteger` reads an integer in decimal: blanks around it, a sign, and digits of any script, with
single underscores allowed between digits. Integers of very many digits are neither read nor
written.
-/

namespace RoutePattern

/-- The values of decimal digits, with single underscores between them. -/
def readDigits? : List Char → Option (List Nat)
  | [] => none
  | [c] => (digitValue? c.toNat).map ([·])
  | c :: '_' :: rest => do return (← digitValue? c.toNat) :: (← readDigits? rest)
  | c :: rest => do return (← digitValue? c.toNat) :: (← readDigits? rest)

/-- The number with the given decimal digits. -/
def ofDigits (digits : List Nat) : Nat :=
  digits.foldl (fun total digit => 10 * total + digit) 0

/-- Whether a blank may stand around an integer: the separators within ASCII may not. -/
def isIntegerBlank (c : Char) : Bool :=
  isBlank c && !(28 ≤ c.toNat && c.toNat ≤ 31)

/-- A text without the blanks around an integer. -/
def trimInteger (text : List Char) : List Char :=
  ((text.dropWhile isIntegerBlank).reverse.dropWhile isIntegerBlank).reverse

/-- The sign in front of a number, as whether it is negative, and the text after it. -/
def splitSign : List Char → Bool × List Char
  | '-' :: rest => (true, rest)
  | '+' :: rest => (false, rest)
  | text => (false, text)

/-- The greatest number of digits of an integer that is read or written. -/
def digitLimit : Nat := 4300

/-- Why a text is not read as an integer, or an integer is not written. -/
inductive IntegerFault where
  /-- The text is no integer. -/
  | notInteger (text : String)
  /-- The integer has more digits than are read. -/
  | tooLong (digits : Nat)
  /-- The integer has more digits than are written. -/
  | unwritable
deriving DecidableEq, Repr

/-- How much of a text a message shows, its quotation marks among it. -/
def shownLength : Nat := 200

/-- The description of why an integer is not read or written. -/
def IntegerFault.message : IntegerFault → String
  | notInteger text =>
      "invalid literal for int() with base 10: "
        ++ String.ofList ((quoted text).toList.take shownLength)
  | tooLong digits =>
      "Exceeds the limit (4300 digits) for integer string conversion: value has "
        ++ toString digits ++ " digits; use sys.set_int_max_str_digits() to increase the limit"
  | unwritable =>
      "Exceeds the limit (4300 digits) for integer string conversion; "
        ++ "use sys.set_int_max_str_digits() to increase the limit"

/-- Whether a character goes on with the digits of an integer. -/
def isDigitOrUnderscore (c : Char) : Bool :=
  isDecimalDigit c.toNat || c == '_'

/-- The integer that a text writes in decimal. Digits are counted before what follows them is looked
at. -/
def readInteger (text : List Char) : Except IntegerFault Int :=
  let fault := IntegerFault.notInteger (String.ofList text)
  let (negative, rest) := splitSign (text.dropWhile isIntegerBlank)
  let (run, later) := rest.span isDigitOrUnderscore
  match readDigits? run with
  | none => .error fault
  | some digits =>
      if digitLimit < digits.length then .error (.tooLong digits.length)
      else if later.all isIntegerBlank then
        .ok (if negative then -(ofDigits digits : Int) else ofDigits digits)
      else .error fault

/-- Whether an integer has more digits than are written. -/
def isUnwritable (n : Int) : Bool :=
  Nat.pow 10 digitLimit ≤ n.natAbs

end RoutePattern
