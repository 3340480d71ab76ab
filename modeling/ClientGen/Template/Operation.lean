import ClientGen.Template.Statement
import ClientGen.Value.Part

/-!
# Operators

What the operators of templates compute. Truth values count as zero and one. Integers stay integers
as long as 128 bits with a sign hold them; if one of two numbers is a double, so is the result.
-/

namespace ClientGen.Template

/-! ## Numbers -/

/-- A pair of numbers in a common form. -/
inductive Operands where
  | ints (left right : Int)
  | reals (left right : Float)

/-- Two numbers in a common form. Integers must fit into 128 bits with a sign, but the bits of two
words of that size without a sign are taken as they are. -/
def operands? (left right : Value) : Option Operands :=
  match left.number?, right.number? with
  | some (.int (.unsigned 128) m), some (.int (.unsigned 128) n) =>
    some (.ints (m.bmod (Nat.pow 2 128)) (n.bmod (Nat.pow 2 128)))
  | some (.int _ m), some (.int _ n) =>
    if fitsSigned 128 m && fitsSigned 128 n then some (.ints m n) else none
  | some m, some n => some (.reals m.toReal n.toReal)
  | _, _ => none

/-- An integer that 128 bits with a sign hold. -/
def intResult (n : Int) : Except TemplateError Value :=
  if fitsSigned 128 n then .ok (.ofInt n) else .error .invalidOperation

/-- Computes with two numbers in their common form. -/
def arithmetic (left right : Value) (ints : Int → Int → Except TemplateError Value)
    (reals : Float → Float → Float) : Except TemplateError Value :=
  match operands? left right with
  | some (.ints m n) => ints m n
  | some (.reals x y) => .ok (.real (reals x y))
  | none => .error .invalidOperation

/-- A double without its fraction. -/
def truncated (x : Float) : Float :=
  if x < 0 then x.ceil else x.floor

/-- What is left of a double after taking off another one as often as possible; it has the sign of
the first. -/
def realRemainder (x y : Float) : Float :=
  if !x.isFinite || y.isNaN || y == 0 then 0 / 0
  else if y.isInf then x
  else
    let a := Decimal.Binary.ofFloat x
    let b := Decimal.Binary.ofFloat y
    let e := min a.exponent b.exponent
    let rest :=
      (a.mantissa * Nat.pow 2 (a.exponent - e).toNat) %
        (b.mantissa * Nat.pow 2 (b.exponent - e).toNat)
    let magnitude := (Float.ofNat rest).scaleB e
    if Decimal.hasMinus x then -magnitude else magnitude

/-- The quotient of two doubles as a whole number, such that the rest is not negative. -/
def realQuotient (x y : Float) : Float :=
  let quotient := truncated (x / y)
  if realRemainder x y < 0 then (if 0 < y then quotient - 1 else quotient + 1) else quotient

/-- A power of an integer, with an exponent of 32 bits. Exponents above 127 matter only for zero
and units, and for these only by whether they are even. -/
def intPower (base exponent : Int) : Except TemplateError Value :=
  if !fitsUnsigned 32 exponent then .error .invalidOperation
  else if exponent ≤ 127 then intResult (base.pow exponent.toNat)
  else if base.natAbs ≤ 1 then intResult (base.pow (2 + exponent.toNat % 2))
  else .error .invalidOperation

/-- The opposite of a number. The greatest integer whose opposite 128 bits hold without holding
itself is its own opposite. -/
def opposite : Value → Except TemplateError Value
  | .number (.real x) => .ok (.real (-x))
  | .number (.int word n) =>
    if n = Nat.pow 2 127 then .ok (.number (.int word n))
    else if fitsSigned 128 n then intResult (-n)
    else .error .invalidOperation
  | _ => .error .invalidOperation

/-! ## Texts and lists -/

/-- The sum of two numbers, or two texts or lists one after the other. -/
def sum (left right : Value) : Except TemplateError Value :=
  match left.text?, right.text?, left.items?, right.items? with
  | some s, some t, _, _ => .ok (.text (s ++ t))
  | _, _, some items, some others => .ok (.series (items ++ others))
  | _, _, _, _ => arithmetic left right (fun m n => intResult (m + n)) fun x y => x + y

/-- As many copies as a value says. -/
def copies {α : Type} (count : Value) (items : List α) : Except TemplateError (List α) :=
  match count.integer? with
  | some (.ofNat n) => .ok (List.replicate n items).flatten
  | _ => .error .invalidOperation

/-- The product of two numbers, or copies of a text or a list. -/
def product (left right : Value) : Except TemplateError Value :=
  match left.text?, right.text?, left.items?, right.items? with
  | some s, _, _, _ => do return .text (String.ofList (← copies right s.toList))
  | _, some s, _, _ => do return .text (String.ofList (← copies left s.toList))
  | _, _, some items, _ => do return .series (← copies right items)
  | _, _, _, some items => do return .series (← copies left items)
  | _, _, _, _ => arithmetic left right (fun m n => intResult (m * n)) fun x y => x * y

/-- A place in a slice, which may be left out. -/
def slicePlace (value : Value) : Except TemplateError (Option Int) :=
  match value, value.integer? with
  | .none, _ => .ok none
  | _, some n => if fitsSigned 64 n then .ok (some n) else .error .invalidOperation
  | _, none => .error .invalidOperation

/-- The items or characters from a place up to another one in steps. -/
def slice (value start stop step : Value) : Except TemplateError Value := do
  let start ← slicePlace start
  let stop ← slicePlace stop
  let step := (← slicePlace step).getD 1
  if step = 0 then throw .invalidOperation
  else
    match value.text?, value.items? with
    | some s, _ => return .text (String.ofList (Value.slice s.toList start stop step))
    | _, some items => return .series (Value.slice items start stop step)
    | _, _ => if value.isAbsent then return .list [] else throw .invalidOperation

/-! ## All operators -/

/-- What an operator computes. -/
def BinaryOperator.apply (context : Context) (operator : BinaryOperator) (left right : Value) :
    Except TemplateError Value :=
  match operator with
  | .add => sum left right
  | .subtract => arithmetic left right (fun m n => intResult (m - n)) fun x y => x - y
  | .multiply => product left right
  | .divide =>
    match left.number?, right.number? with
    | some m, some n => .ok (.real (m.toReal / n.toReal))
    | _, _ => .error .invalidOperation
  | .divideWhole =>
    arithmetic left right
      (fun m n => if n = 0 then .error .invalidOperation else intResult (m / n)) realQuotient
  | .remainder =>
    arithmetic left right
      (fun m n => if n = 0 then .error .invalidOperation else intResult (m % n)) realRemainder
  | .power => arithmetic left right intPower Float.pow
  | .concatenate => .ok (.text (left.display context ++ right.display context))

/-- Whether a comparison of two values holds. -/
def Comparison.holds (context : Context) (comparison : Comparison) (left right : Value) :
    Except TemplateError Bool :=
  match comparison with
  | .equal => .ok (left.same context right)
  | .unequal => .ok (!left.same context right)
  | .less => .ok (left.order context right == .lt)
  | .lessOrEqual => .ok (left.order context right != .gt)
  | .greater => .ok (left.order context right == .gt)
  | .greaterOrEqual => .ok (left.order context right != .lt)
  | .isIn =>
    match right.holds? context left with
    | some b => .ok b
    | none => .error .invalidOperation
  | .isNotIn =>
    match right.holds? context left with
    | some b => .ok !b
    | none => .error .invalidOperation

end ClientGen.Template
