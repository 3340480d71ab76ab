/-!
# Shortest decimal digits

A positive finite double is `mantissa · 2 ^ exponent`. Its shortest decimal is the one with the
fewest digits among all decimals that read back as the same double, and of those the nearest to it.
For each number of digits only the two neighbours of the double on that decimal grid can read back,
so the search tests these two in exact arithmetic.
-/

namespace ClientGen.Decimal

/-- A positive decimal `0.d₁d₂… · 10 ^ (exponent + 1)`: its digits as a number without trailing
zeros, and the exponent of its first digit. -/
structure Digits where
  value : Nat
  exponent : Int
deriving DecidableEq

/-- The digits themselves. -/
def Digits.toList (d : Digits) : List Char :=
  Nat.toDigits 10 d.value

/-- A positive double as `mantissa · 2 ^ exponent`. -/
structure Binary where
  mantissa : Nat
  exponent : Int
deriving DecidableEq

/-- Whether a double has a minus sign, which also a zero may have. -/
def hasMinus (x : Float) : Bool :=
  x.toBits.toNat / Nat.pow 2 63 == 1

/-- The mantissa and exponent of a finite double's absolute value. -/
def Binary.ofFloat (x : Float) : Binary :=
  let bits : Nat := x.toBits.toNat
  let fraction : Nat := bits % Nat.pow 2 52
  let biased : Nat := bits / Nat.pow 2 52 % Nat.pow 2 11
  if biased = 0 then ⟨fraction, -1074⟩ else ⟨Nat.pow 2 52 + fraction, (biased : Int) - 1075⟩

/-- A ratio of natural numbers times a power of two. -/
structure Ratio where
  num : Nat
  den : Nat

/-- `n · 2 ^ e` as a ratio. -/
def Ratio.scaled (n : Nat) (e : Int) : Ratio :=
  if 0 ≤ e then ⟨n * Nat.pow 2 e.toNat, 1⟩ else ⟨n, Nat.pow 2 (-e).toNat⟩

/-- The ratio divided by `10 ^ e`. -/
def Ratio.shift (r : Ratio) (e : Int) : Ratio :=
  if 0 ≤ e then ⟨r.num, r.den * Nat.pow 10 e.toNat⟩ else ⟨r.num * Nat.pow 10 (-e).toNat, r.den⟩

/-- The reals that round to a double: its two ends, and whether these belong to it. -/
structure Interval where
  low : Ratio
  high : Ratio
  closed : Bool

/-- The reals that round to a double. Below a power of two the doubles lie twice as close. -/
def Binary.interval (b : Binary) : Interval :=
  let below := if b.mantissa = Nat.pow 2 52 ∧ b.exponent ≠ -1074 then 1 else 2
  { low := .scaled (4 * b.mantissa - below) (b.exponent - 2)
    high := .scaled (4 * b.mantissa + 2) (b.exponent - 2)
    closed := b.mantissa % 2 == 0 }

/-- Whether the point `n` of the grid of multiples of `10 ^ e` lies in an interval. -/
def Interval.containsGridPoint (i : Interval) (n : Nat) (e : Int) : Bool :=
  let low := i.low.shift e
  let high := i.high.shift e
  if i.closed then low.num ≤ n * low.den && n * high.den ≤ high.num
  else low.num < n * low.den && n * high.den < high.num

/-- The exponent of the first decimal digit of a ratio, searched from an estimate upwards for as
many steps as given. -/
def firstDigitExponent (r : Ratio) (estimate : Int) : Nat → Int
  | 0 => estimate
  | steps + 1 =>
    let next := r.shift (estimate + 1)
    if next.den ≤ next.num then firstDigitExponent r (estimate + 1) steps else estimate

/-- A decimal without the zeros at its end. -/
def stripZeros : Nat → Nat → Nat
  | 0, n => n
  | steps + 1, n => if n % 10 = 0 ∧ n ≠ 0 then stripZeros steps (n / 10) else n

/-- The first grid from `count` digits on that has a point in the interval. -/
def searchGrid (value : Ratio) (i : Interval) (first : Int) (count : Nat) : Nat → Nat × Int
  | 0 =>
    let grid := first - (count : Int) + 1
    let scaled := value.shift grid
    (scaled.num / scaled.den, grid)
  | steps + 1 =>
    let grid := first - (count : Int) + 1
    let scaled := value.shift grid
    let down := scaled.num / scaled.den
    let rest := scaled.num % scaled.den
    let up := down + 1
    match i.containsGridPoint down grid, i.containsGridPoint up grid with
    | true, false => (down, grid)
    | false, true => (up, grid)
    | true, true =>
      if 2 * rest < scaled.den ∨ (2 * rest = scaled.den ∧ down % 2 = 0) then (down, grid)
      else (up, grid)
    | false, false => searchGrid value i first (count + 1) steps

/-- The shortest decimal digits of a positive finite double. -/
def Binary.shortest (b : Binary) : Digits :=
  let value := Ratio.scaled b.mantissa b.exponent
  let estimate := ((b.mantissa.log2 : Int) + b.exponent) * 30103 / 100000 - 1
  let first := firstDigitExponent value estimate 4
  let (n, grid) := searchGrid value b.interval first 1 17
  { value := stripZeros 20 n
    exponent := grid + ((Nat.toDigits 10 n).length : Int) - 1 }

end ClientGen.Decimal
