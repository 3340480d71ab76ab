import ClientGen.Context
import ClientGen.Template.Error
import ClientGen.Value.Display

/-!
# Looking into values

The members of values, those of resources and methods among them. A resource names its parent and a
method its resource, but neither is listed among the members, so that a value can be laid out in
full: a resource then holds its methods and, in the same way, its children.
-/

namespace ClientGen

namespace Context

/-- The entries of a table as values. -/
def tableValue {α : Type} (encode : α → Json) (table : OrderedMap α) : Value :=
  .record (table.entries.map fun entry => (entry.1, .ofJson (encode entry.2)))

/-- A text that may be missing. -/
def optionalText : Option String → Value
  | some s => .text s
  | none => .none

/-- The names of a method's members. -/
def methodNames : List String := [
  "id", "key", "method", "protocols", "responses", "body", "headers", "query_parameters",
  "secured_by", "description"]

/-- A member of a method. -/
def methodMember? (method : Method) (name : String) : Option Value :=
  match name with
  | "id" => some (.text method.id)
  | "key" => some (.text method.key)
  | "method" => some (.text method.verb)
  | "protocols" => some (.list (method.protocols.map .text))
  | "responses" => some (tableValue (fun v => v) method.responses)
  | "body" => some ((method.body.map .ofJson).getD .none)
  | "headers" => some (tableValue Parameter.toJson method.headers)
  | "query_parameters" => some (tableValue Parameter.toJson method.queryParameters)
  | "secured_by" => some (.list (method.securedBy.map .ofJson))
  | "description" => some (.text method.description)
  | "resource" => some (.view (.resource method.resource))
  | _ => none

/-- The names of a resource's members. -/
def resourceNames : List String := [
  "id", "key", "relative_uri", "uri_parameters", "description", "methods", "children"]

/-- A member of a resource. -/
def resourceMember? (node : Node) (name : String) : Option Value :=
  match name with
  | "id" => some (.text node.id)
  | "key" => some (.text node.key)
  | "relative_uri" => some (.text node.relativeUri)
  | "uri_parameters" => some (.list (node.uriParameters.map fun p => .ofJson p.toJson))
  | "description" => some (.text node.description)
  | "methods" =>
    some (.record (node.methods.entries.map fun entry => (entry.1, .view (.method entry.2))))
  | "children" =>
    some (.record (node.children.entries.map fun entry => (entry.1, .view (.resource entry.2))))
  | "parent" => some ((node.parent.map fun n => .view (.resource n)).getD .none)
  | _ => none

/-- A member of a part of the context. -/
def viewMember? (context : Context) (part : View) (name : String) : Option Value :=
  match part with
  | .resource n => context.tree.nodes[n]?.bind fun node => resourceMember? node name
  | .method i => context.tree.methods[i]?.bind fun method => methodMember? method name

/-- The names of the members of a part of the context. -/
def viewNames : View → List String
  | .resource _ => resourceNames
  | .method _ => methodNames

/-- What the names of a template stand for at its outermost level. -/
def member? (context : Context) (options : OrderedMap Json) (name : String) : Option Value :=
  match name with
  | "id" => some (.text context.id)
  | "title" => some (.text context.title)
  | "version" => some (optionalText context.version)
  | "base_uri" => some (.text context.baseUri)
  | "base_uri_parameters" => some (tableValue Parameter.toJson context.baseUriParameters)
  | "security_schemes" => some (tableValue SecurityScheme.toJson context.securitySchemes)
  | "documentation" => some (.list (context.documentation.map fun d => .ofJson d.toJson))
  | "resources" => some (.view (.resource Tree.root))
  | "all_resources" => some (.list (context.allResources.map fun n => .view (.resource n)))
  | "all_methods" => some (.list (context.allMethods.map fun i => .view (.method i)))
  | "supported_methods" => some (.list (context.supportedMethods.map .text))
  | "options" => some (tableValue (fun v => v) options)
  | _ => none

/-- A method laid out in full. -/
def methodEntries (context : Context) (position : Nat) : List (String × Value) :=
  match context.tree.methods[position]? with
  | some method => methodNames.filterMap fun name =>
      (methodMember? method name).map fun value => (name, value)
  | none => []

/-- A resource laid out in full. Children are created after their parents, so that one whose
position is not greater is left empty. -/
def resourceEntries (context : Context) (n : Nat) : List (String × Value) :=
  if h : n < context.tree.nodes.size then
    let node := context.tree.nodes[n]
    let methods := node.methods.entries.map fun entry =>
      (entry.1, Value.record (context.methodEntries entry.2))
    let children := node.children.entries.map fun entry =>
      (entry.1, if _hc : n < entry.2 then Value.record (context.resourceEntries entry.2)
        else Value.record [])
    resourceNames.filterMap fun name =>
      match name with
      | "methods" => some (name, .record methods)
      | "children" => some (name, .record children)
      | name => (resourceMember? node name).map fun value => (name, value)
  else []
termination_by context.tree.nodes.size - n

/-- A part of the context laid out in full. -/
def viewEntries (context : Context) : View → List (String × Value)
  | .resource n => context.resourceEntries n
  | .method i => context.methodEntries i

end Context

namespace Value

mutual

/-- A value with all its views laid out in full. -/
def expand (context : Context) : Value → Value
  | .list items => .list (expandItems context items)
  | .series items => .series (expandItems context items)
  | .map entries => .map (expandEntries context entries)
  | .object kind label entries => .object kind label (expandEntries context entries)
  | .view part => .record (context.viewEntries part)
  | value => value

/-- Items with all their views laid out in full. -/
def expandItems (context : Context) : List Value → List Value
  | [] => []
  | item :: rest => expand context item :: expandItems context rest

/-- Entries with all their views laid out in full. -/
def expandEntries (context : Context) : List (Value × Value) → List (Value × Value)
  | [] => []
  | (key, value) :: rest => (expand context key, expand context value) :: expandEntries context rest

end

/-- A value as text. -/
def display (context : Context) (value : Value) : String :=
  (value.expand context).plainText

/-- A value as JSON, unless it has a key that JSON does not allow. -/
def toJson? (context : Context) (value : Value) : Option Json :=
  (value.expand context).plainJson?

/-- The value that entries give to a text. -/
def lookupName (entries : List (Value × Value)) (name : String) : Option Value :=
  (entries.find? fun entry => entry.1.text? == some name).map Prod.snd

/-- The member of a value with a name. -/
def member? (context : Context) (value : Value) (name : String) : Option Value :=
  match value with
  | .map entries | .object _ _ entries => lookupName entries name
  | .view part => context.viewMember? part name
  | _ => Option.none

/-- A member of a value, which is undefined if there is none; what is undefined itself cannot be
looked into. -/
def member (context : Context) (value : Value) (name : String) : Except TemplateError Value :=
  match value.member? context name with
  | some member => .ok member
  | Option.none => if value.isUndefined then .error .undefinedValue else .ok .undefined

/-- The values that a loop over a value goes through: items, keys or characters. -/
def iterate? : Value → Option (List Value)
  | .undefined | .none => some []
  | .text s | .markup s => some (s.toList.map fun c => .text c.toString)
  | .list items | .series items => some items
  | .map entries | .object _ _ entries => some (entries.map Prod.fst)
  | .view part => some ((Context.viewNames part).map .text)
  | _ => Option.none

/-- The number of items, keys or characters of a value that has any. -/
def length? : Value → Option Nat
  | .text s | .markup s => some s.length
  | .list items | .series items => some items.length
  | .map entries | .object _ _ entries => some entries.length
  | .view part => some (Context.viewNames part).length
  | _ => Option.none

end Value

end ClientGen
