import ClientGen.Value.Basic

/-!
# Expressions and statements of templates

What a template is made of once it has been read.
-/

namespace ClientGen.Template

/-- An operator with two operands, both of which are always computed. -/
inductive BinaryOperator where
  | add
  | subtract
  | multiply
  | divide
  /-- Division rounded down. -/
  | divideWhole
  | remainder
  | power
  /-- The texts of both values one after the other. -/
  | concatenate
deriving DecidableEq

/-- A comparison of two values. -/
inductive Comparison where
  | equal
  | unequal
  | less
  | lessOrEqual
  | greater
  | greaterOrEqual
  /-- Whether the first value is contained in the second. -/
  | isIn
  | isNotIn
deriving DecidableEq

/-- How a value is passed to a call. -/
inductive Passing where
  | inOrder
  | byName (name : String)
  /-- The items of the value are passed in order. -/
  | items
  /-- The entries of the value are passed by name. -/
  | entries
deriving DecidableEq

/-- An expression. -/
inductive Expression where
  | literal (value : Value)
  | name (name : String)
  | list (items : List Expression)
  | map (entries : List (Expression × Expression))
  /-- The member of a value that a name after a point stands for. -/
  | member (whole : Expression) (name : String)
  /-- The part of a value at a place in brackets. -/
  | item (whole place : Expression)
  /-- The parts of a value from a place up to another one in steps. -/
  | slice (whole start stop step : Expression)
  | negative (operand : Expression)
  | negation (operand : Expression)
  | binary (operator : BinaryOperator) (left right : Expression)
  /-- Whether a value and those after it compare as said, each with the next one. -/
  | compare (first : Expression) (others : List (Comparison × Expression))
  /-- The first value if it does not count as true, otherwise the second. -/
  | both (left right : Expression)
  /-- The first value if it counts as true, otherwise the second. -/
  | either (left right : Expression)
  | choice (condition yes no : Expression)
  | call (name : String) (given : List (Passing × Expression))
  | callMember (whole : Expression) (name : String) (given : List (Passing × Expression))
  | callValue (whole : Expression) (given : List (Passing × Expression))
  | filter (input : Expression) (name : String) (given : List (Passing × Expression))
  | test (subject : Expression) (name : String) (given : List (Passing × Expression))

/-- What values are bound to. -/
inductive Target where
  | name (name : String)
  /-- The items of a value are bound one by one. -/
  | items (targets : List Target)
  /-- A member of a value, which is never bound. -/
  | member (whole : Expression) (name : String)

/-- A filter that is applied to what is captured. -/
structure Application where
  name : String
  given : List (Passing × Expression)

/-- A statement. -/
inductive Statement where
  /-- Writes text. -/
  | content (text : String)
  /-- Writes the value of an expression. -/
  | output (value : Expression)
  | branch (condition : Expression) (yes no : List Statement)
  /-- Goes through the values, or those of them for which a condition holds, or runs the other
  statements if there are none. -/
  | loop (target : Target) (source : Expression) (condition : Option Expression)
      (body otherwise : List Statement)
  | assign (target : Target) (value : Expression)
  /-- Binds a target to what the statements write, after filters. -/
  | capture (target : Target) (filters : List Application) (body : List Statement)
  /-- Renders the first template that exists. -/
  | includeFirst (names : Expression) (ignoreMissing : Bool)
  /-- Binds a name to what a template defines. -/
  | importAll (template : Expression) (name : String)
  /-- Binds names to some of what a template defines. -/
  | importSome (template : Expression) (names : List (String × String))
  /-- Defines a callable, whose parameters may have values for when they are not given. -/
  | callable (name : String) (parameters : List (String × Option Expression))
      (body : List Statement)

instance : Inhabited Expression := ⟨.literal .undefined⟩

instance : Inhabited Statement := ⟨.content ""⟩

end ClientGen.Template
