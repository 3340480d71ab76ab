import ClientGen.Decimal.Shortest
import ClientGen.Json.Basic
import ClientGen.Width

/-!
# Numbers of templates

A number is an integer in a word of 64 or 128 bits or a double. What is written out or counted is
in a word without a sign, what is computed in one with a sign. Integers and doubles are ordered by
their exact values; whether an integer equals a double is asked of the double next to the integer.
-/

namespace ClientGen

/-- A word of some bits that holds integers. -/
inductive Word where
  | unsigned (bits : Nat)
  | signed (bits : Nat)
deriving DecidableEq

/-- The integer of a word that is nearest to a given one. -/
def Word.clamp : Word → Int → Int
  | .unsigned bits, n => max 0 (min n (Nat.pow 2 bits - 1 : Nat))
  | .signed bits, n => max (-(Nat.pow 2 (bits - 1) : Int)) (min n (Nat.pow 2 (bits - 1) - 1 : Nat))

/-- A number. -/
inductive Number where
  | int (word : Word) (value : Int)
  | real (value : Float)
deriving DecidableEq

namespace Number

/-- A natural number in the smaller word that holds it. -/
def ofNat (n : Nat) : Number :=
  .int (.unsigned (if fitsUnsigned 64 n then 64 else 128)) n

/-- An integer in the smaller word with a sign that holds it. -/
def ofInt (n : Int) : Number :=
  .int (.signed (if fitsSigned 64 n then 64 else 128)) n

/-- A number of JSON. -/
def ofJson : JsonNumber → Number
  | .int n => .int (if 0 ≤ n then .unsigned 64 else .signed 64) n
  | .real x => .real x

/-- A number as one of JSON. -/
def toJson : Number → JsonNumber
  | .int _ n => .int n
  | .real x => .real x

/-- Whether a number is zero. -/
def isZero : Number → Bool
  | .int _ n => n == 0
  | .real x => x == 0

/-- A number as a double. -/
def toReal : Number → Float
  | .int _ n => Float.ofInt n
  | .real x => x

/-- The integer that a double equals. -/
def integerOfReal? (x : Float) : Option Int :=
  if !x.isFinite then none
  else
    let b := Decimal.Binary.ofFloat x
    let sign : Int := if x < 0 then -1 else 1
    if 0 ≤ b.exponent then some (sign * b.mantissa * Nat.pow 2 b.exponent.toNat)
    else
      let unit := Nat.pow 2 (-b.exponent).toNat
      if b.mantissa % unit = 0 then some (sign * (b.mantissa / unit : Nat)) else none

/-- The integer that a number equals. -/
def integer? : Number → Option Int
  | .int _ n => some n
  | .real x => integerOfReal? x

/-- Whether an integer in a word equals a double: the double next to the integer is that one, and
leads back to the integer within the word. -/
def sameAsReal (word : Word) (n : Int) (x : Float) : Bool :=
  let y := Float.ofInt n
  y == x && (integerOfReal? y).any fun m => word.clamp m == n

/-- Whether two numbers are equal. -/
def same : Number → Number → Bool
  | .int _ m, .int _ n => m == n
  | .real x, .real y => x == y
  | .int word n, .real x | .real x, .int word n => sameAsReal word n x

/-- The order of two doubles, in which both zeros are equal and what is not a number comes first. -/
def orderReals (x y : Float) : Ordering :=
  if x < y then .lt
  else if y < x then .gt
  else compare y.isNaN x.isNaN

/-- The order of an integer and a double. -/
def orderWithReal (n : Int) (x : Float) : Ordering :=
  if !x.isFinite then orderReals 0 x
  else
    let b := Decimal.Binary.ofFloat x
    let mantissa : Int := if x < 0 then -b.mantissa else b.mantissa
    compare (n * Nat.pow 2 (-b.exponent).toNat) (mantissa * Nat.pow 2 b.exponent.toNat)

/-- The order of two numbers. -/
def order : Number → Number → Ordering
  | .int _ m, .int _ n => compare m n
  | .real x, .real y => orderReals x y
  | .int _ n, .real x => orderWithReal n x
  | .real x, .int _ n => (orderWithReal n x).swap

end Number

end ClientGen
