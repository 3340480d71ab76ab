import ClientGen.Decimal.Shortest

/-!
# Layout of decimals

How the digits of a number are laid out as text: between which exponents positionally, and with
`e` and an exponent elsewhere. A positional number always has a point and a digit after it.
-/

namespace ClientGen.Decimal

/-- Where a format writes numbers positionally, and what it writes before other exponents that are
not negative. -/
structure Layout where
  positional : Int → Bool
  plus : List Char

/-- Digits with a point, in positional notation. -/
def positionalText (d : Digits) : List Char :=
  let digits := d.toList
  if d.exponent < 0 then
    '0' :: '.' :: List.replicate (-d.exponent - 1).toNat '0' ++ digits
  else
    let whole := d.exponent.toNat + 1
    if digits.length ≤ whole then
      digits ++ List.replicate (whole - digits.length) '0' ++ ['.', '0']
    else
      digits.take whole ++ '.' :: digits.drop whole

/-- Digits with an exponent. -/
def exponentText (plus : List Char) (d : Digits) : List Char :=
  let mantissa :=
    match d.toList with
    | first :: second :: rest => first :: '.' :: second :: rest
    | digits => digits
  let sign := if d.exponent < 0 then ['-'] else plus
  mantissa ++ 'e' :: sign ++ Nat.toDigits 10 d.exponent.natAbs

/-- A finite double as text. -/
def Layout.text (layout : Layout) (x : Float) : List Char :=
  let sign := if hasMinus x then ['-'] else []
  let b := Binary.ofFloat x
  if b.mantissa = 0 then sign ++ ['0', '.', '0']
  else
    let d := b.shortest
    sign ++ if layout.positional d.exponent then positionalText d else exponentText layout.plus d

end ClientGen.Decimal
