import RoutePattern.Number.Binary64

/-!
# The shortest decimal that reads back

`Shortest.ofFinite` finds the fewest digits that round to a given double, and among those digits the
ones nearest to it. For each digit count in turn it tests the two neighbours of the double on the
decimal grid of that many digits, in exact arithmetic. `Binary64.text` lays the digits out.
-/

namespace RoutePattern

/-- A positive decimal: `digits * 10 ^ exponent`. -/
structure Decimal where
  digits : Nat
  exponent : Int
deriving DecidableEq, Repr

/-- The decimals that round to a double, as exact bounds over one denominator. The bounds
themselves belong to the interval when `closed` holds. -/
structure Rounding where
  low : Nat
  value : Nat
  high : Nat
  denominator : Nat
  closed : Bool
deriving DecidableEq, Repr

namespace Rounding

/-- The decimals that round to `mantissa * 2 ^ exponent`. Below a power of two the next double is
only half as far. -/
def ofFinite (mantissa : Nat) (exponent : Int) : Rounding :=
  let unit := Nat.pow 2 exponent.toNat
  let value := 4 * mantissa * unit
  let nearer := mantissa = Nat.pow 2 52 ∧ exponent ≠ Binary64.leastExponent
  { low := value - (if nearer then unit else 2 * unit)
    value := value
    high := value + 2 * unit
    denominator := 4 * Nat.pow 2 (-exponent).toNat
    closed := mantissa % 2 = 0 }

/-- Whether a decimal lies in the interval. -/
def contains (interval : Rounding) (decimal : Decimal) : Bool :=
  let point := decimal.digits * Nat.pow 10 decimal.exponent.toNat * interval.denominator
  let scale := Nat.pow 10 (-decimal.exponent).toNat
  if interval.closed then interval.low * scale ≤ point && point ≤ interval.high * scale
  else interval.low * scale < point && point < interval.high * scale

/-- The least `p` for which the value is below `10 ^ p`. -/
def magnitude (interval : Rounding) : Int :=
  let below (p : Int) : Bool :=
    interval.value * Nat.pow 10 (-p).toNat < interval.denominator * Nat.pow 10 p.toNat
  let guess : Int :=
    ((interval.value.log2 : Int) - (interval.denominator.log2 : Int)) * 30103 / 100000
  if below guess then guess else if below (guess + 1) then guess + 1 else guess + 2

/-- The decimal with the given grid that is in the interval and nearest to the value, if there is
one; of two that are equally near, the one with an even last digit. -/
def onGrid (interval : Rounding) (exponent : Int) : Option Decimal :=
  let numerator := interval.value * Nat.pow 10 (-exponent).toNat
  let denominator := interval.denominator * Nat.pow 10 exponent.toNat
  let digits := numerator / denominator
  let down : Decimal := ⟨digits, exponent⟩
  let up : Decimal := ⟨digits + 1, exponent⟩
  let twice := 2 * (numerator % denominator)
  let downFirst := twice < denominator || (twice = denominator && digits % 2 = 0)
  match interval.contains down, interval.contains up with
  | true, true => some (if downFirst then down else up)
  | true, false => some down
  | false, true => some up
  | false, false => none

/-- The first grid, from the coarsest of `count` grids down, that has a point in the interval. -/
def firstOnGrids (interval : Rounding) : Nat → Int → Option Decimal
  | 0, _ => none
  | count + 1, exponent =>
      (interval.onGrid exponent).or (interval.firstOnGrids count (exponent - 1))

end Rounding

/-- The shortest decimal that rounds to `mantissa * 2 ^ exponent`. Seventeen digits always
suffice. -/
def Decimal.shortest (mantissa : Nat) (exponent : Int) : Decimal :=
  let interval := Rounding.ofFinite mantissa exponent
  (interval.firstOnGrids 17 (interval.magnitude - 1)).getD ⟨0, 0⟩

/-- A decimal as text: positional from a ten-thousandth up to below `10 ^ 16`, always with a
fractional part, and otherwise with an exponent of at least two digits. -/
def Decimal.text (decimal : Decimal) : String :=
  let padded := Nat.toDigits 10 decimal.digits
  let digits := (padded.reverse.dropWhile (· == '0')).reverse
  let point : Int := decimal.exponent + padded.length
  let zeros (count : Int) : List Char := List.replicate count.toNat '0'
  if -4 < point ∧ point ≤ 16 then
    let whole :=
      if point ≤ 0 then ['0'] else digits.take point.toNat ++ zeros (point - digits.length)
    let fraction := zeros (-point) ++ digits.drop point.toNat
    String.ofList (whole ++ '.' :: if fraction.isEmpty then ['0'] else fraction)
  else
    let power := point - 1
    let size := Nat.toDigits 10 power.natAbs
    let size := if size.length < 2 then '0' :: size else size
    let mantissa := match digits with
      | first :: second :: rest => first :: '.' :: second :: rest
      | short => short
    String.ofList (mantissa ++ 'e' :: (if power < 0 then '-' else '+') :: size)

/-- A double as text: the shortest decimal that reads back. -/
def Binary64.text : Binary64 → String
  | nan => "nan"
  | infinite negative => if negative then "-inf" else "inf"
  | finite negative mantissa exponent =>
      let sign := if negative then "-" else ""
      if mantissa = 0 then sign ++ "0.0"
      else sign ++ (Decimal.shortest mantissa exponent).text

end RoutePattern
