import ClientGen.Description.Encode
import ClientGen.Text.Blank

/-!
# Parameters

A parameter as a client sees it: every declaration is completed with a name to display, a type and,
if it lists its values, a default.
-/

namespace ClientGen

/-- A parameter of a URI, a query or a header. -/
structure Parameter where
  name : String
  displayName : String
  type : String
  enum : Option (List Json)
  pattern : Option String
  minLength : Option Nat
  maxLength : Option Nat
  minimum : Option Float
  maximum : Option Float
  sample : Option Json
  isRepeated : Bool
  isRequired : Bool
  default : Option Json
  description : String

namespace Parameter

/-- The text of a description without the white space around it. -/
def descriptionText (description : Option String) : String :=
  Text.trim (description.getD "")

/-- The parameter that a declaration introduces under a name. The first listed value is the default
if no other is declared. -/
def ofDecl (name : String) (decl : ParameterDecl) : Parameter where
  name
  displayName := decl.displayName.getD name
  type := decl.type.getD "string"
  enum := decl.enum
  pattern := decl.pattern
  minLength := decl.minLength
  maxLength := decl.maxLength
  minimum := decl.minimum
  maximum := decl.maximum
  sample := decl.sample
  isRepeated := decl.isRepeated
  isRequired := decl.isRequired
  default := decl.default <|> decl.enum.bind List.head?
  description := descriptionText decl.description

/-- The parameters that a table of declarations introduces. -/
def ofTable (decls : OrderedMap ParameterDecl) : OrderedMap Parameter :=
  decls.mapEntries ofDecl

/-- The required parameter that a placeholder introduces if nothing declares it. -/
def implicit (name : String) : Parameter :=
  { ofDecl name {} with isRequired := true }

open Json (memberIfSet) in
/-- A parameter as JSON. -/
def toJson (p : Parameter) : Json :=
  .object (
    [("name", .text p.name), ("display_name", .text p.displayName), ("type", .text p.type)] ++
    memberIfSet "enum" .array p.enum ++
    memberIfSet "pattern" .text p.pattern ++
    memberIfSet "min_length" .ofNat p.minLength ++
    memberIfSet "max_length" .ofNat p.maxLength ++
    memberIfSet "minimum" .real p.minimum ++
    memberIfSet "maximum" .real p.maximum ++
    memberIfSet "example" id p.sample ++
    [("repeat", .bool p.isRepeated), ("required", .bool p.isRequired)] ++
    memberIfSet "default" id p.default ++
    [("description", .text p.description)])

end Parameter

end ClientGen
