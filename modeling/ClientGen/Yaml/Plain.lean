import ClientGen.Decimal.Nearest
import ClientGen.Json.Basic
import ClientGen.Text.Digits
import ClientGen.Width

/-!
# The meaning of plain scalars

A plain scalar may stand for null, a truth value, an integer or a double; otherwise it is a text.
Integers may be decimal, hexadecimal, octal or binary. Digits with a needless zero in front are a
text. Doubles are read exactly.
-/

namespace ClientGen.Yaml

/-- Whether a text stands for null. -/
def isNull (s : String) : Bool :=
  s == "null" || s == "Null" || s == "NULL" || s == "~"

/-- The truth value that a text stands for. -/
def flag? : String → Option Bool
  | "true" | "True" | "TRUE" => some true
  | "false" | "False" | "FALSE" => some false
  | _ => none

/-- Whether a text is digits, after an optional sign, with a needless zero in front. -/
def hasLeadingZero (cs : List Char) : Bool :=
  let digits :=
    match cs with
    | '-' :: rest | '+' :: rest => rest
    | cs => cs
  match digits with
  | '0' :: d :: rest => (d :: rest).all Char.isDigit
  | _ => false

/-- The number that a magnitude stands for: digits with the sign of a base in front, or decimal
digits. -/
def magnitude? (cs : List Char) : Option Nat :=
  match cs with
  | '0' :: 'x' :: rest => Text.number? 16 rest
  | '0' :: 'o' :: rest => Text.number? 8 rest
  | '0' :: 'b' :: rest => Text.number? 2 rest
  | cs => if hasLeadingZero cs then none else Text.number? 10 cs

/-- The integer that a text stands for. -/
def integer? (s : String) : Option Int :=
  match s.toList with
  | '+' :: rest => (magnitude? rest).map fun n => (n : Int)
  | '-' :: rest => (magnitude? rest).map fun n => -(n : Int)
  | cs => (magnitude? cs).map fun n => (n : Int)

/-- The natural number of at most 64 bits that a text stands for. -/
def count? (s : String) : Option Nat :=
  if s.startsWith "-" then none else ((integer? s).filter (fitsUnsigned 64)).map Int.toNat

/-- A decimal with a point or an exponent, or only digits, as a double. -/
def decimal? (cs : List Char) : Option Float :=
  let whole := cs.takeWhile Char.isDigit
  let afterWhole := cs.dropWhile Char.isDigit
  let (fraction, afterFraction) :=
    match afterWhole with
    | '.' :: rest => (rest.takeWhile Char.isDigit, rest.dropWhile Char.isDigit)
    | rest => ([], rest)
  let exponent? : Option Int :=
    match afterFraction with
    | [] => some 0
    | e :: rest =>
      if e = 'e' ∨ e = 'E' then
        match rest with
        | '-' :: digits => (Text.number? 10 digits).map fun n => -(n : Int)
        | '+' :: digits => (Text.number? 10 digits).map fun n => (n : Int)
        | digits => (Text.number? 10 digits).map fun n => (n : Int)
      else none
  if whole ++ fraction = [] then none
  else
    exponent?.map fun exponent =>
      Decimal.nearest (Text.decimal (whole ++ fraction)) (exponent - fraction.length)

/-- The finite double that a text stands for. -/
def finite? (cs : List Char) : Option Float :=
  let value :=
    match cs with
    | '-' :: rest => (decimal? rest).map fun x => -x
    | cs => decimal? cs
  value.filter Float.isFinite

/-- The double that a text stands for. -/
def real? (s : String) : Option Float :=
  match s with
  | ".inf" | ".Inf" | ".INF" | "+.inf" | "+.Inf" | "+.INF" => some (1 / 0)
  | "-.inf" | "-.Inf" | "-.INF" => some (-1 / 0)
  | ".nan" | ".NaN" | ".NAN" => some (0 / 0)
  | s =>
    match s.toList with
    | '+' :: '+' :: _ | '+' :: '-' :: _ => none
    | '+' :: rest => finite? rest
    | cs => finite? cs

/-- What a scalar means. -/
inductive Meaning where
  | null
  | flag (value : Bool)
  | integer (value : Int)
  | real (value : Float)
  | text

/-- Whether an integer has at most 128 bits, or 127 and a sign. -/
def fitsWide (n : Int) : Bool :=
  fitsUnsigned 128 n || fitsSigned 128 n

/-- What a plain scalar means. An integer that is too wide counts as a double if it is decimal and
as a text otherwise. -/
def meaning (s : String) : Meaning :=
  if s = "" ∨ isNull s then .null
  else
    match flag? s with
    | some b => .flag b
    | none =>
      match (integer? s).filter fitsWide with
      | some n => .integer n
      | none =>
        if hasLeadingZero s.toList then .text
        else
          match real? s with
          | some x => .real x
          | none => .text

/-- An integer of at most 64 bits as JSON. -/
def integerJson? (n : Int) : Option Json :=
  if fitsUnsigned 64 n || fitsSigned 64 n then some (.int n) else none

/-- A double as JSON, in which only finite numbers can be written. -/
def realJson (x : Float) : Json :=
  if x.isFinite then .real x else .null

end ClientGen.Yaml
