import ClientGen.Description.Basic

/-!
# Descriptions as JSON

A description is written with its fields in the order of their declaration. Options that are not
set and empty collections are left out; texts and flags that have a default are always written.
-/

namespace ClientGen

namespace Json

/-- A member that is written if its value is set. -/
def memberIfSet {α : Type} (key : String) (encode : α → Json) (value : Option α) :
    List (String × Json) :=
  match value with
  | some x => [(key, encode x)]
  | none => []

/-- A list that is written if it is not empty. -/
def memberIfAny {α : Type} (key : String) (encode : α → Json) (values : List α) :
    List (String × Json) :=
  if values.isEmpty then [] else [(key, .array (values.map encode))]

/-- A table as an object. -/
def ofTable {α : Type} (encode : α → Json) (table : OrderedMap α) : Json :=
  .object (table.entries.map fun entry => (entry.1, encode entry.2))

/-- A table that is written if it is not empty. -/
def memberIfKeys {α : Type} (key : String) (encode : α → Json) (table : OrderedMap α) :
    List (String × Json) :=
  if table.isEmpty then [] else [(key, ofTable encode table)]

/-- A natural number as a value. -/
def ofNat (n : Nat) : Json := .int n

end Json

open Json (memberIfSet memberIfAny memberIfKeys)

/-- The declaration of a parameter as JSON. -/
def ParameterDecl.toJson (p : ParameterDecl) : Json :=
  .object (
    memberIfSet "displayName" .text p.displayName ++
    memberIfSet "type" .text p.type ++
    memberIfSet "enum" .array p.enum ++
    memberIfSet "pattern" .text p.pattern ++
    memberIfSet "minLength" .ofNat p.minLength ++
    memberIfSet "maxLength" .ofNat p.maxLength ++
    memberIfSet "minimum" .real p.minimum ++
    memberIfSet "maximum" .real p.maximum ++
    memberIfSet "example" id p.sample ++
    [("repeat", .bool p.isRepeated), ("required", .bool p.isRequired)] ++
    memberIfSet "default" id p.default ++
    memberIfSet "description" .text p.description)

/-- The declaration of a method as JSON. -/
def MethodDecl.toJson (m : MethodDecl) : Json :=
  .object (
    [("method", .text m.method)] ++
    memberIfAny "protocols" .text m.protocols ++
    memberIfKeys "responses" id m.responses ++
    memberIfSet "body" id m.body ++
    memberIfKeys "headers" ParameterDecl.toJson m.headers ++
    memberIfKeys "queryParameters" ParameterDecl.toJson m.queryParameters ++
    memberIfAny "securedBy" id m.securedBy ++
    memberIfSet "description" .text m.description)

mutual

/-- The declaration of a resource as JSON. -/
def ResourceDecl.toJson : ResourceDecl → Json
  | ⟨relativeUri, displayName, uriParameters, methods, description, resources⟩ =>
    .object (
      [("relativeUri", .text relativeUri)] ++
      memberIfSet "displayName" .text displayName ++
      memberIfKeys "uriParameters" ParameterDecl.toJson uriParameters ++
      memberIfAny "methods" MethodDecl.toJson methods ++
      memberIfSet "description" .text description ++
      (if resources.isEmpty then []
        else [("resources", .array (ResourceDecl.toItems resources))]))

/-- The declarations of resources as items. -/
def ResourceDecl.toItems : List ResourceDecl → List Json
  | [] => []
  | resource :: rest => resource.toJson :: ResourceDecl.toItems rest

end

/-- A security scheme as JSON. -/
def SecurityScheme.toJson (s : SecurityScheme) : Json :=
  .object (
    [("type", .text s.type)] ++
    memberIfSet "description" .text s.description ++
    memberIfKeys "settings" id s.settings ++
    memberIfSet "describedBy" id s.describedBy)

/-- A chapter of prose as JSON. -/
def Documentation.toJson (d : Documentation) : Json :=
  .object [("title", .text d.title), ("content", .text d.content)]

/-- A description as JSON. -/
def Specification.toJson (s : Specification) : Json :=
  .object (
    [("title", .text s.title)] ++
    memberIfSet "version" .text s.version ++
    memberIfSet "baseUri" .text s.baseUri ++
    memberIfKeys "baseUriParameters" ParameterDecl.toJson s.baseUriParameters ++
    (if s.resources.isEmpty then []
      else [("resources", .array (ResourceDecl.toItems s.resources))]) ++
    memberIfAny "securitySchemes" (Json.ofTable SecurityScheme.toJson) s.securitySchemes ++
    memberIfAny "documentation" Documentation.toJson s.documentation)

end ClientGen
