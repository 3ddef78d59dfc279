import RoutePattern.Number.Binary64
import RoutePattern.Number.Integer
import RoutePattern.Text.Cut

/-!
# Reading doubles

`Binary64.ofText?` reads a decimal with an optional fraction and an optional exponent, or the name
of a number that is not finite, in letters of either case.
-/

namespace RoutePattern

/-- The values of decimal digits of which there may be none. -/
def readAnyDigits? (text : List Char) : Option (List Nat) :=
  if text.isEmpty then some [] else readDigits? text

/-- The exponent behind its mark, which is zero without one. -/
def readPower? : Option (List Char) → Option Int
  | none => some 0
  | some text => do
      let (negative, rest) := splitSign text
      let size : Int := ofDigits (← readDigits? rest)
      return if negative then -size else size

/-- The double nearest to an unsigned decimal in lower-case letters. -/
def readUnsigned? (negative : Bool) (text : List Char) : Option Binary64 := do
  let (mantissa, mark) := cut 'e' text
  let (whole, point) := cut '.' mantissa
  let whole ← readAnyDigits? whole
  let fraction ← readAnyDigits? (point.getD [])
  let power ← readPower? mark
  if whole.isEmpty && fraction.isEmpty then none
  else return .ofDecimal negative (ofDigits (whole ++ fraction)) (power - fraction.length)

/-- The double that a text writes. -/
def Binary64.ofText? (text : String) : Option Binary64 :=
  let (negative, rest) := splitSign (trimInteger text.toList)
  let lower := rest.map Char.toLower
  if lower == "inf".toList || lower == "infinity".toList then some (.infinite negative)
  else if lower == "nan".toList then some .nan
  else readUnsigned? negative lower

end RoutePattern
