/-!
# Binary floating-point numbers

A double is kept as its sign, an integer mantissa and a power of two, so that rounding, comparison
and printing are exact arithmetic on natural numbers. `Binary64.ofDecimal` rounds a decimal to the
nearest double, a tie going to the even mantissa.
-/

namespace RoutePattern

/-- A double. A finite one is `mantissa * 2 ^ exponent` with its sign; the mantissa is below
`2 ^ 53`, and below `2 ^ 52` only at the least exponent. -/
inductive Binary64 where
  | nan
  | infinite (negative : Bool)
  | finite (negative : Bool) (mantissa : Nat) (exponent : Int)
deriving DecidableEq, Repr, Inhabited

namespace Binary64

/-- The exponent of the smallest doubles. -/
def leastExponent : Int := -1074

/-- The exponent of the largest doubles. -/
def greatestExponent : Int := 971

/-- The quotient of two numbers, rounded to the nearest integer, a tie going to the even one. -/
def roundQuotient (numerator denominator : Nat) : Nat :=
  let quotient := numerator / denominator
  let twice := 2 * (numerator % denominator)
  if twice < denominator then quotient
  else if denominator < twice then quotient + 1
  else quotient + quotient % 2

/-- A number as a quotient `numerator / denominator` times `2 ^ exponent`. -/
def scaled (numerator denominator : Nat) (exponent : Int) : Nat × Nat :=
  (numerator * Nat.pow 2 exponent.toNat, denominator * Nat.pow 2 (-exponent).toNat)

/-- The exponent at which a positive quotient has a mantissa of 53 bits, or the least exponent. -/
def exponentFor (numerator denominator : Nat) : Int :=
  let guess : Int := (numerator.log2 : Int) - (denominator.log2 : Int) - 53
  let (high, low) := scaled numerator denominator (-guess)
  max (if high < Nat.pow 2 53 * low then guess else guess + 1) leastExponent

/-- The double nearest to a positive quotient. -/
def ofQuotient (negative : Bool) (numerator denominator : Nat) : Binary64 :=
  let exponent := exponentFor numerator denominator
  let (high, low) := scaled numerator denominator (-exponent)
  let mantissa := roundQuotient high low
  let (mantissa, exponent) :=
    if mantissa < Nat.pow 2 53 then (mantissa, exponent) else (mantissa / 2, exponent + 1)
  if greatestExponent < exponent then infinite negative else finite negative mantissa exponent

/-- The number of decimal digits of a number. -/
def digitCount (n : Nat) : Nat :=
  (Nat.toDigits 10 n).length

/-- The double nearest to `digits * 10 ^ exponent`. Decimals far outside the range of doubles are
settled by their size alone. -/
def ofDecimal (negative : Bool) (digits : Nat) (exponent : Int) : Binary64 :=
  if digits = 0 then finite negative 0 leastExponent
  else if 400 < exponent + digitCount digits then infinite negative
  else if exponent + digitCount digits < -400 then finite negative 0 leastExponent
  else ofQuotient negative (digits * Nat.pow 10 exponent.toNat) (Nat.pow 10 (-exponent).toNat)

/-- The integer that a double is, if it is one. -/
def toInt? : Binary64 → Option Int
  | finite negative mantissa exponent =>
      let divisor := Nat.pow 2 (-exponent).toNat
      if mantissa % divisor = 0 then
        let magnitude : Int := ((mantissa * Nat.pow 2 exponent.toNat / divisor : Nat) : Int)
        some (if negative then -magnitude else magnitude)
      else none
  | _ => none

/-- Whether two doubles are the same number. The two zeros are, and nothing equals `nan`. -/
def same : Binary64 → Binary64 → Bool
  | nan, _ => false
  | _, nan => false
  | finite _ 0 _, finite _ 0 _ => true
  | a, b => a == b

end Binary64

end RoutePattern
