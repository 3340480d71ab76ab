/-!
# Nearest doubles

The double nearest to a decimal, computed in exact arithmetic. Of two doubles that are equally near
the one with the even mantissa is taken, and decimals beyond the largest double give infinity.
-/

namespace ClientGen.Decimal

/-- The quotient rounded to the nearest natural number; a half goes to the even neighbour. -/
def roundedQuotient (num den : Nat) : Nat :=
  let down := num / den
  let rest := num % den
  if 2 * rest > den ∨ (2 * rest = den ∧ down % 2 = 1) then down + 1 else down

/-- The quotient of `num` and `den * 2 ^ e`, rounded. -/
def roundedScaled (num den : Nat) (e : Int) : Nat :=
  if 0 ≤ e then roundedQuotient num (den * Nat.pow 2 e.toNat)
  else roundedQuotient (num * Nat.pow 2 (-e).toNat) den

/-- The bits of the double nearest to the positive ratio of `num` and `den`. A mantissa that is
rounded up to the next power of two carries into the exponent. -/
def nearestBits (num den : Nat) : Nat :=
  let quotientLog : Int :=
    let estimate : Int := (num.log2 : Int) - den.log2
    let reaches : Bool :=
      if 0 ≤ estimate then den * Nat.pow 2 estimate.toNat ≤ num
      else den ≤ num * Nat.pow 2 (-estimate).toNat
    if reaches then estimate else estimate - 1
  let exponent := max (quotientLog - 52) (-1074)
  let bits := (exponent + 1074).toNat * Nat.pow 2 52 + roundedScaled num den exponent
  min bits (2047 * Nat.pow 2 52)

/-- The double nearest to `digits * 10 ^ e`. -/
def nearest (digits : Nat) (e : Int) : Float :=
  let size : Int := (Nat.toDigits 10 digits).length
  if digits = 0 ∨ e + size < -400 then 0
  else if e + size > 400 then 1 / 0
  else
    let bits :=
      if 0 ≤ e then nearestBits (digits * Nat.pow 10 e.toNat) 1
      else nearestBits digits (Nat.pow 10 (-e).toNat)
    Float.ofBits bits.toUInt64

end ClientGen.Decimal
