import ClientGen.Context

/-!
# Summaries

What can be seen of an API at a glance: its resources with their full URIs, its methods and the
warnings about it.
-/

namespace ClientGen

namespace Tree

/-- The relative URIs from the root down to a node, put together. A parent is created before its
children, so a position that is not smaller is no parent. -/
def joinedUri (tree : Tree) (node : Nat) : String :=
  match tree.nodes[node]? with
  | none => ""
  | some n =>
    match n.parent with
    | none => n.relativeUri
    | some parent =>
      if _h : parent < node then joinedUri tree parent ++ n.relativeUri else n.relativeUri
termination_by node

/-- The full URI of a node, which is a slash if nothing else is known. -/
def fullUri (tree : Tree) (node : Nat) : String :=
  let uri := tree.joinedUri node
  if uri = "" then "/" else uri

end Tree

/-- A resource in a summary. -/
structure ResourceSummary where
  id : String
  key : String
  uri : String
  uriParameters : List String
  methods : List String
deriving DecidableEq

/-- A method in a summary, with the full URI and the identifier of its resource. -/
structure MethodSummary where
  id : String
  method : String
  uri : String
  resource : String
deriving DecidableEq

/-- A summary of an API. -/
structure Summary where
  id : String
  title : String
  version : Option String
  baseUri : String
  securitySchemes : List String
  resources : List ResourceSummary
  methods : List MethodSummary
  warnings : List String
deriving DecidableEq

namespace Summary

/-- The summary of a resource. -/
def ofNode (tree : Tree) (position : Nat) (node : Node) : ResourceSummary where
  id := node.id
  key := node.key
  uri := tree.fullUri position
  uriParameters := node.uriParameters.map Parameter.name
  methods := node.methods.keys

/-- The summary of a method. -/
def ofMethod (tree : Tree) (method : Method) : MethodSummary where
  id := method.id
  method := method.verb
  uri := tree.fullUri method.resource
  resource := (tree.nodes[method.resource]?.map Node.id).getD ""

/-- The summary of a context. -/
def ofContext (context : Context) : Summary where
  id := context.id
  title := context.title
  version := context.version
  baseUri := context.baseUri
  securitySchemes := context.securitySchemes.keys
  resources := context.allResources.filterMap fun position =>
    context.tree.nodes[position]?.map (ofNode context.tree position)
  methods := context.allMethods.filterMap fun position =>
    context.tree.methods[position]?.map (ofMethod context.tree)
  warnings := context.warnings.map Warning.message

end Summary

/-- A list of texts as JSON. -/
def textsJson (texts : List String) : Json :=
  .array (texts.map .text)

/-- A resource of a summary as JSON. -/
def ResourceSummary.toJson (r : ResourceSummary) : Json :=
  .object [("id", .text r.id), ("key", .text r.key), ("uri", .text r.uri),
    ("uri_parameters", textsJson r.uriParameters), ("methods", textsJson r.methods)]

/-- A method of a summary as JSON. -/
def MethodSummary.toJson (m : MethodSummary) : Json :=
  .object [("id", .text m.id), ("method", .text m.method), ("uri", .text m.uri),
    ("resource", .text m.resource)]

/-- A summary as JSON. -/
def Summary.toJson (s : Summary) : Json :=
  .object [("id", .text s.id), ("title", .text s.title),
    ("version", (s.version.map .text).getD .null), ("base_uri", .text s.baseUri),
    ("security_schemes", textsJson s.securitySchemes),
    ("resources", .array (s.resources.map ResourceSummary.toJson)),
    ("methods", .array (s.methods.map MethodSummary.toJson)),
    ("warnings", textsJson s.warnings)]

end ClientGen
