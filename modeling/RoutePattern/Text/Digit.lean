import RoutePattern.Text.CodeSet

/-!
# Digits of all scripts

Every script that writes decimal numbers has ten digits in a row, so a table of zeros gives both the
digits and their values. Other characters, such as superscripts, are digits without standing in a
decimal number.
-/

namespace RoutePattern

/-- The zeros of all scripts. -/
def digitZeros : List Nat :=
  [48, 1632, 1776, 1984, 2406, 2534, 2662, 2790, 2918, 3046, 3174, 3302, 3430, 3558, 3664, 3792,
   3872, 4160, 4240, 6112, 6160, 6470, 6608, 6784, 6800, 6992, 7088, 7232, 7248, 42528, 43216,
   43264, 43472, 43504, 43600, 44016, 65296, 66720, 68912, 69734, 69872, 69942, 70096, 70384, 70736,
   70864, 71248, 71360, 71472, 71904, 72016, 72784, 73040, 73120, 92768, 92864, 93008, 120782,
   120792, 120802, 120812, 120822, 123200, 123632, 125264, 130032]

/-- The digits that stand in no decimal number. -/
def otherDigitSet : List Nat :=
  [178, 180, 185, 186, 4969, 4978, 6618, 6619, 8304, 8305, 8308, 8314, 8320, 8330, 9312, 9321, 9332,
   9341, 9352, 9361, 9450, 9451, 9461, 9470, 9471, 9472, 10102, 10111, 10112, 10121, 10122, 10131,
   68160, 68164, 69216, 69225, 69714, 69723, 127232, 127243]

/-- The value of a decimal digit. -/
def digitValue? (n : Nat) : Option Nat :=
  (digitZeros.find? fun base => base ≤ n && n < base + 10).map (n - ·)

/-- Whether a code point is a decimal digit. -/
def isDecimalDigit (n : Nat) : Bool :=
  (digitValue? n).isSome

/-- Whether a code point is a digit of any kind. -/
def isDigit (n : Nat) : Bool :=
  isDecimalDigit n || CodeSet.holds otherDigitSet n

end RoutePattern
