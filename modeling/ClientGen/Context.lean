import ClientGen.Http
import ClientGen.Tree.Build

/-!
# The context of a client

Everything that the templates of a client can refer to: the resource tree of an API with its
resources and methods in order, and what the description says about the API as a whole.
-/

namespace ClientGen

/-- What a client is generated from. -/
structure Context where
  id : String
  title : String
  version : Option String
  baseUri : String
  baseUriParameters : OrderedMap Parameter
  securitySchemes : OrderedMap SecurityScheme
  documentation : List Documentation
  tree : Tree
  allResources : List Nat
  allMethods : List Nat
  supportedMethods : List String
  warnings : List Warning

namespace Context

/-- The declared security schemes by their types; of two with one type the later counts. -/
def schemesByType (entries : List (OrderedMap SecurityScheme)) : OrderedMap SecurityScheme :=
  (entries.flatMap OrderedMap.values).foldl (fun m scheme => m.insert scheme.type scheme) .empty

/-- The context of a description. The client takes the first identifier after a reset. -/
def build (format : Format) (spec : Specification) (ids : Identifiers) : Context × Identifiers :=
  let (id, ids) := format.nextId ids.reset "client"
  let draft := Tree.build format spec.resources ids
  let context : Context := {
    id
    title := spec.title
    version := spec.version
    baseUri := Uri.sanitize format (spec.baseUri.getD "")
    baseUriParameters := Parameter.ofTable spec.baseUriParameters
    securitySchemes := schemesByType spec.securitySchemes
    documentation := spec.documentation
    tree := draft.tree
    allResources := (draft.tree.flatten? Tree.root).getD []
    allMethods := draft.tree.methodsBelow Tree.root
    supportedMethods := HttpMethod.all.map HttpMethod.verb
    warnings := draft.warnings }
  (context, draft.ids)

end Context

end ClientGen
