import ClientGen.Description.Basic

/-!
# Descriptions from JSON

A value that has been read by the layout of a description holds exactly the fields that are set;
the functions here take them out and give every other field its default.
-/

namespace ClientGen

namespace Json

/-- The text at a key, if there is one. -/
def textAt? (value : Json) (key : String) : Option String :=
  (value.get? key).bind Json.text?

/-- The items of the list at a key. -/
def itemsAt (value : Json) (key : String) : List Json :=
  ((value.get? key).map Json.items).getD []

/-- The table at a key, with its values decoded. -/
def tableAt {α : Type} (decode : Json → α) (value : Json) (key : String) : OrderedMap α :=
  (OrderedMap.ofList (((value.get? key).map Json.members).getD [])).mapEntries fun _ v => decode v

/-- The truth value at a key; false if there is none. -/
def flagAt (value : Json) (key : String) : Bool :=
  ((value.get? key).bind Json.bool?).getD false

end Json

/-- The parameter that a value declares. -/
def ParameterDecl.ofJson (value : Json) : ParameterDecl where
  displayName := value.textAt? "displayName"
  type := value.textAt? "type"
  enum := (value.get? "enum").map Json.items
  pattern := value.textAt? "pattern"
  minLength := (value.get? "minLength").bind Json.nat?
  maxLength := (value.get? "maxLength").bind Json.nat?
  minimum := (value.get? "minimum").bind Json.float?
  maximum := (value.get? "maximum").bind Json.float?
  sample := value.get? "example"
  isRepeated := value.flagAt "repeat"
  isRequired := value.flagAt "required"
  default := value.get? "default"
  description := value.textAt? "description"

/-- The method that a value declares. -/
def MethodDecl.ofJson (value : Json) : MethodDecl where
  method := (value.textAt? "method").getD ""
  protocols := (value.itemsAt "protocols").filterMap Json.text?
  responses := value.tableAt id "responses"
  body := value.get? "body"
  headers := value.tableAt ParameterDecl.ofJson "headers"
  queryParameters := value.tableAt ParameterDecl.ofJson "queryParameters"
  securedBy := value.itemsAt "securedBy"
  description := value.textAt? "description"

mutual

/-- The resource that a value declares. -/
def ResourceDecl.ofJson : Json → ResourceDecl
  | .object members =>
    let value := Json.object members
    { relativeUri := (value.textAt? "relativeUri").getD ""
      displayName := value.textAt? "displayName"
      uriParameters := value.tableAt ParameterDecl.ofJson "uriParameters"
      methods := (value.itemsAt "methods").map MethodDecl.ofJson
      description := value.textAt? "description"
      resources := ResourceDecl.nestedIn members }
  | _ => {}

/-- The resources that the members of a resource nest. -/
def ResourceDecl.nestedIn : List (String × Json) → List ResourceDecl
  | [] => []
  | (key, value) :: rest =>
    if key = "resources" then ResourceDecl.listOfJson value else ResourceDecl.nestedIn rest

/-- The resources that a list declares. -/
def ResourceDecl.listOfJson : Json → List ResourceDecl
  | .array items => ResourceDecl.ofItems items
  | _ => []

/-- The resources that items declare. -/
def ResourceDecl.ofItems : List Json → List ResourceDecl
  | [] => []
  | item :: rest => ResourceDecl.ofJson item :: ResourceDecl.ofItems rest

end

/-- The security scheme that a value declares. -/
def SecurityScheme.ofJson (value : Json) : SecurityScheme where
  type := (value.textAt? "type").getD ""
  description := value.textAt? "description"
  settings := value.tableAt id "settings"
  describedBy := value.get? "describedBy"

/-- The chapter that a value holds. -/
def Documentation.ofJson (value : Json) : Documentation where
  title := (value.textAt? "title").getD ""
  content := (value.textAt? "content").getD ""

/-- The security schemes that an entry of a description's list declares. -/
def SecurityScheme.entryOfJson (value : Json) : OrderedMap SecurityScheme :=
  (OrderedMap.ofList value.members).mapEntries fun _ v => SecurityScheme.ofJson v

/-- The API that a value describes. -/
def Specification.ofJson (value : Json) : Specification where
  title := (value.textAt? "title").getD ""
  version := value.textAt? "version"
  baseUri := value.textAt? "baseUri"
  baseUriParameters := value.tableAt ParameterDecl.ofJson "baseUriParameters"
  resources := ((value.get? "resources").map ResourceDecl.listOfJson).getD []
  securitySchemes := (value.itemsAt "securitySchemes").map SecurityScheme.entryOfJson
  documentation := (value.itemsAt "documentation").map Documentation.ofJson

end ClientGen
