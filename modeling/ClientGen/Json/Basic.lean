/-!
# JSON values

A JSON value keeps the order of an object's members. A number is an integer of at most 64 bits or a
finite double; the two are different values even where they are equal as numbers.
-/

namespace ClientGen

/-- A number of JSON. -/
inductive JsonNumber where
  | int (value : Int)
  | real (value : Float)
deriving DecidableEq

/-- A value of JSON. -/
inductive Json where
  | null
  | bool (value : Bool)
  | number (value : JsonNumber)
  | text (value : String)
  | array (items : List Json)
  | object (members : List (String × Json))

namespace Json

instance : Inhabited Json := ⟨.null⟩

/-- An integer as a value. -/
def int (n : Int) : Json := .number (.int n)

/-- A double as a value. -/
def real (x : Float) : Json := .number (.real x)

/-- The value of a member of an object. -/
def get? (key : String) : Json → Option Json
  | .object members => members.lookup key
  | _ => none

/-- The text of a text value. -/
def text? : Json → Option String
  | .text s => some s
  | _ => none

/-- The truth value of a boolean. -/
def bool? : Json → Option Bool
  | .bool b => some b
  | _ => none

/-- The number of an integral value that is not negative. -/
def nat? : Json → Option Nat
  | .number (.int n) => if 0 ≤ n then some n.toNat else none
  | _ => none

/-- A number as a double. -/
def float? : Json → Option Float
  | .number (.real x) => some x
  | .number (.int n) => some (Float.ofInt n)
  | _ => none

/-- The items of an array. -/
def items : Json → List Json
  | .array items => items
  | _ => []

/-- The members of an object. -/
def members : Json → List (String × Json)
  | .object members => members
  | _ => []

end Json

end ClientGen
