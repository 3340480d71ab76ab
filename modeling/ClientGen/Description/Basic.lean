import ClientGen.Json.Basic
import ClientGen.OrderedMap

/-!
# API descriptions

What an author writes down about an HTTP API: a title, where the API is found, and a tree of
resources with their methods. Members that need not be given are optional or have an empty default;
free-form members hold any JSON value.
-/

namespace ClientGen

/-- The declaration of a parameter: of a URI, a query or a header. -/
structure ParameterDecl where
  displayName : Option String := none
  type : Option String := none
  enum : Option (List Json) := none
  pattern : Option String := none
  minLength : Option Nat := none
  maxLength : Option Nat := none
  minimum : Option Float := none
  maximum : Option Float := none
  sample : Option Json := none
  isRepeated : Bool := false
  isRequired : Bool := false
  default : Option Json := none
  description : Option String := none

instance : Inhabited ParameterDecl := ⟨{}⟩

/-- The declaration of a method of a resource. -/
structure MethodDecl where
  method : String
  protocols : List String := []
  responses : OrderedMap Json := .empty
  body : Option Json := none
  headers : OrderedMap ParameterDecl := .empty
  queryParameters : OrderedMap ParameterDecl := .empty
  securedBy : List Json := []
  description : Option String := none

/-- The declaration of a resource, relative to the resource that it is nested in. -/
structure ResourceDecl where
  relativeUri : String := ""
  displayName : Option String := none
  uriParameters : OrderedMap ParameterDecl := .empty
  methods : List MethodDecl := []
  description : Option String := none
  resources : List ResourceDecl := []

/-- A way in which clients prove who they are. -/
structure SecurityScheme where
  type : String
  description : Option String := none
  settings : OrderedMap Json := .empty
  describedBy : Option Json := none

/-- A chapter of prose. -/
structure Documentation where
  title : String
  content : String := ""

/-- The description of an API. -/
structure Specification where
  title : String := ""
  version : Option String := none
  baseUri : Option String := none
  baseUriParameters : OrderedMap ParameterDecl := .empty
  resources : List ResourceDecl := []
  securitySchemes : List (OrderedMap SecurityScheme) := []
  documentation : List Documentation := []

end ClientGen
