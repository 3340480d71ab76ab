import ClientGen.Value.Number

/-!
# Values of templates

What a template computes with: the values of JSON, a value for what is not defined, and views of the
resources and methods of a context, which are looked into only where a template asks for it. The
keys of a map may be any values; those of objects are texts.
-/

namespace ClientGen

/-- A part of a context. -/
inductive View where
  | resource (node : Nat)
  | method (position : Nat)
deriving DecidableEq

/-- What an object stands for. -/
inductive ObjectKind where
  /-- The state of a loop. -/
  | loop
  /-- A callable that a template declares, by the number of its declaration. -/
  | callable (number : Nat)
  /-- What an imported template defines. -/
  | imported
deriving DecidableEq

/-- A value. -/
inductive Value where
  /-- What a name stands for that nothing defines. -/
  | undefined
  | none
  | flag (value : Bool)
  | number (value : Number)
  | text (value : String)
  /-- A text that needs no escaping. -/
  | markup (value : String)
  | list (items : List Value)
  /-- What is gone through like a list without being one. -/
  | series (items : List Value)
  /-- A map whose keys are distinct. -/
  | map (entries : List (Value × Value))
  /-- A map that is printed as a text of its own. -/
  | object (kind : ObjectKind) (label : String) (entries : List (Value × Value))
  /-- A resource or a method. -/
  | view (part : View)
  /-- A helper, by its name. -/
  | helper (name : String)

namespace Value

instance : Inhabited Value := ⟨.undefined⟩

/-- A natural number. -/
def ofNat (n : Nat) : Value := .number (.ofNat n)

/-- An integer. -/
def ofInt (n : Int) : Value := .number (.ofInt n)

/-- A double. -/
def real (x : Float) : Value := .number (.real x)

/-- Members as the entries of a map. -/
def entriesOf (members : List (String × Value)) : List (Value × Value) :=
  members.map fun member => (.text member.1, member.2)

/-- A map whose keys are texts. -/
def record (members : List (String × Value)) : Value := .map (entriesOf members)

mutual

/-- A JSON value. -/
def ofJson : Json → Value
  | .null => .none
  | .bool b => .flag b
  | .number n => .number (.ofJson n)
  | .text s => .text s
  | .array items => .list (ofItems items)
  | .object members => .map (ofMembers members)

/-- JSON values one after the other. -/
def ofItems : List Json → List Value
  | [] => []
  | item :: rest => ofJson item :: ofItems rest

/-- The members of an object. -/
def ofMembers : List (String × Json) → List (Value × Value)
  | [] => []
  | (key, value) :: rest => (.text key, ofJson value) :: ofMembers rest

end

/-- The text of a value that is one. -/
def text? : Value → Option String
  | .text s | .markup s => some s
  | _ => Option.none

/-- Whether a value is undefined. -/
def isUndefined : Value → Bool
  | .undefined => true
  | _ => false

/-- Whether a value is undefined or none. -/
def isAbsent : Value → Bool
  | .undefined | .none => true
  | _ => false

/-- Whether a value is a list. -/
def isList : Value → Bool
  | .list _ => true
  | _ => false

/-- The items of a value that has any. -/
def items? : Value → Option (List Value)
  | .list items | .series items => some items
  | _ => Option.none

/-- The entries of a map that is laid out. -/
def entries? : Value → Option (List (Value × Value))
  | .map entries | .object _ _ entries => some entries
  | _ => Option.none

/-- Whether a value is a map, an object or a view. -/
def isMap : Value → Bool
  | .map _ | .object _ _ _ | .view _ => true
  | _ => false

/-- Whether a value counts as true: what is absent, zero or empty does not. -/
def isTrue : Value → Bool
  | .undefined | .none => false
  | .flag b => b
  | .number n => !n.isZero
  | .text s | .markup s => s != ""
  | .list items | .series items => !items.isEmpty
  | .map entries | .object _ _ entries => !entries.isEmpty
  | .view _ | .helper _ => true

/-- A value as an integer: an integer, a double that equals one, or a truth value as zero or one. -/
def integer? : Value → Option Int
  | .flag b => some (if b then 1 else 0)
  | .number n => n.integer?
  | _ => Option.none

/-- The place in a list of a given length that a value points at; negative integers count from the
end. -/
def position? (length : Nat) (value : Value) : Option Nat :=
  match value.integer? with
  | some (.ofNat n) => some n
  | some (.negSucc n) => if n < length then some (length - (n + 1)) else Option.none
  | Option.none => Option.none

end Value

end ClientGen
