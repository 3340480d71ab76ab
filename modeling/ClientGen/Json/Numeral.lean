import ClientGen.Decimal.Nearest
import ClientGen.Json.Basic
import ClientGen.Text.Digits
import ClientGen.Width

/-!
# Numerals of JSON

A numeral is an optional minus sign, digits without a needless leading zero, an optional fraction
and an optional exponent. Without fraction and exponent it is an integer as long as 64 bits hold
it; all other numerals are doubles. A double is computed from as many leading digits as 64 bits
hold, scaled by a power of ten, so it may be off by a few units in the last place.
-/

namespace ClientGen.Json

/-- A numeral as it is written. Fraction and exponent are empty where there are none. -/
structure Numeral where
  negative : Bool
  whole : List Char
  fraction : List Char
  exponentNegative : Bool
  exponent : List Char
deriving DecidableEq

/-- Appends digits to a number as long as 64 bits hold it; the digits left over come second. -/
def accumulate (n : Nat) : List Char → Nat × List Char
  | [] => (n, [])
  | c :: rest =>
    let next := Nat.ofDigitChars 10 [c] n
    if fitsUnsigned 64 next then accumulate next rest else (n, c :: rest)

/-- The double `10 ^ e`. -/
def powerOfTen (e : Nat) : Float :=
  Decimal.nearest 1 e

/-- A double scaled by a power of ten, in steps of at most 308; the number of steps is bounded by
the fuel. There is none if the result is too large. -/
def scaleByTen : Nat → Float → Int → Option Float
  | 0, x, _ => some x
  | fuel + 1, x, e =>
    if e.natAbs ≤ 308 then
      if 0 ≤ e then
        let y := x * powerOfTen e.toNat
        if y.isInf then none else some y
      else some (x / powerOfTen e.natAbs)
    else if x == 0 then some x
    else if 0 ≤ e then none
    else scaleByTen fuel (x / powerOfTen 308) (e + 308)

/-- A numeral as a double, unless it is too large. -/
def Numeral.toFloat? (n : Numeral) : Option Float :=
  let (whole, wholeRest) := accumulate 0 n.whole
  let (significand, fractionRest) := accumulate whole n.fraction
  let shift : Int := (wholeRest.length : Int) - (n.fraction.length - fractionRest.length : Nat)
  let exponent := Text.decimal n.exponent
  let magnitude :=
    if !fitsSigned 32 exponent then
      if significand ≠ 0 ∧ !n.exponentNegative then none else some 0
    else
      let scale := if n.exponentNegative then shift - exponent else shift + exponent
      scaleByTen 4 (Float.ofNat significand) scale
  magnitude.map fun x => if n.negative then -x else x

/-- The number that a numeral stands for, unless it is too large for a double. -/
def Numeral.toNumber? (n : Numeral) : Option JsonNumber :=
  let whole : Int := Text.decimal n.whole
  if n.fraction ≠ [] ∨ n.exponent ≠ [] then n.toFloat?.map .real
  else if n.negative ∧ whole ≠ 0 ∧ fitsSigned 64 (-whole) then some (.int (-whole))
  else if !n.negative ∧ fitsUnsigned 64 whole then some (.int whole)
  else n.toFloat?.map .real

end ClientGen.Json
