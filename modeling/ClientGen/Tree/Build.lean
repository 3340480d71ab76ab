import ClientGen.Json.Printer
import ClientGen.Tree.Basic
import ClientGen.Tree.Warning
import ClientGen.Uri.Segment

/-!
# Building the resource tree

Each declared resource walks from the node that it is nested in along the segments of its relative
URI. A step goes to the child with the segment's key, which is created if there is none; the walk
ends with a warning if the segment has no key, or if the child with its key has another segment.
The declaration lands on the last node of its walk, which receives its methods and description, and
from which its nested resources walk on.

A segment that is the placeholder of a media type, and whose parameter lists its values, fans out:
the declaration also lands on one child for each value, before the walk goes on with the
placeholder after a dot.
-/

namespace ClientGen.Tree

/-- A tree that is being built, with the identifiers handed out and the warnings given. -/
structure Draft where
  tree : Tree
  ids : Identifiers
  warnings : List Warning

/-- Adds a warning. -/
def Draft.warn (draft : Draft) (warning : Warning) : Draft :=
  { draft with warnings := draft.warnings ++ [warning] }

/-- The method that a declaration introduces, under an identifier. -/
def methodOf (format : Format) (resource : Nat) (id : String) (decl : MethodDecl) : Method where
  id
  key := format.writeName decl.method
  verb := decl.method
  protocols := decl.protocols
  responses := decl.responses
  body := decl.body
  headers := Parameter.ofTable decl.headers
  queryParameters := Parameter.ofTable decl.queryParameters
  securedBy := decl.securedBy
  description := Parameter.descriptionText decl.description
  resource

/-- The methods that declarations introduce on a resource. Each takes an identifier; of two with
one key the later counts, at the place of the earlier. -/
def methodsOf (format : Format) (resource : Nat) (decls : List MethodDecl) (ids : Identifiers) :
    OrderedMap Method × Identifiers :=
  decls.foldl
    (fun (methods, ids) decl =>
      let (id, ids) := format.nextId ids "method"
      let method := methodOf format resource id decl
      (methods.insert method.key method, ids))
    (.empty, ids)

/-- Gives a node the methods and the description of a declaration. -/
def Draft.populate (draft : Draft) (format : Format) (node : Nat) (decl : ResourceDecl) :
    Draft :=
  let (methods, ids) := methodsOf format node decl.methods draft.ids
  let tree := methods.values.foldl (fun tree method => tree.addMethod node method) draft.tree
  let tree :=
    match decl.description with
    | some text => tree.modifyNode node fun n => { n with description := Text.trim text }
    | none => tree
  { draft with tree, ids }

/-- The parameter that a placeholder of a segment stands for. -/
def uriParameter (params : OrderedMap Parameter) (name : String) : Parameter :=
  (params.get? name).getD (.implicit name)

/-- The node that a segment introduces, under an identifier. -/
def nodeOf (format : Format) (params : OrderedMap Parameter) (id key segment : String) : Node :=
  { (default : Node) with
    id, key, segment
    relativeUri := Uri.relativeUri format segment
    uriParameters := (Uri.placeholderNames segment).map (uriParameter params) }

/-- Adds a node for a segment. -/
def Draft.grow (draft : Draft) (format : Format) (params : OrderedMap Parameter) (parent : Nat)
    (key segment : String) : Draft × Nat :=
  let (id, ids) := format.nextId draft.ids "resource"
  let (tree, position) := draft.tree.attach parent (nodeOf format params id key segment)
  ({ draft with tree, ids }, position)

/-- One step of a walk from a node along a segment. A lone slash stays where it is; there is no
node to go on from if the walk ends here. -/
def Draft.step (draft : Draft) (format : Format) (relativeUri : String)
    (params : OrderedMap Parameter) (node : Nat) (segment : String) : Draft × Option Nat :=
  if segment = "/" then (draft, some node)
  else
    match Uri.segmentKey? format segment with
    | none => (draft.warn (.unmappableSegment relativeUri segment), none)
    | some key =>
      match draft.tree.child? node key with
      | none =>
        let (draft, position) := draft.grow format params node key segment
        (draft, some position)
      | some child =>
        let existing := ((draft.tree.nodes[child]?).map Node.segment).getD ""
        if existing = segment then (draft, some child)
        else (draft.warn (.keyCollision key existing segment), none)

/-- The file extension that a listed value of a media type stands for. -/
def extensionText : Json → String
  | .text s => s
  | value => value.compact

/-- The segment of a media type: a dot and the extension without leading dots. -/
def mediaTypeSegment (value : Json) : String :=
  "." ++ String.ofList ((extensionText value).toList.dropWhile (· == '.'))

/-- The segment that stands for all other media types after a fan-out. -/
def otherMediaTypes : String := "." ++ Uri.mediaTypePlaceholder

/-- The values that the media type parameter lists, and the parameters without that list. -/
def takeMediaTypes (params : OrderedMap Parameter) : List Json × OrderedMap Parameter :=
  let listed := ((params.get? Uri.mediaTypeParameter).bind Parameter.enum).getD []
  (listed, params.modify Uri.mediaTypeParameter fun p => { p with enum := none })

/-- What a segment fans out to: the values listed for it, the segment that the walk goes on with,
and the parameters from there on. Only the placeholder of a media type has values. -/
def fanOut (segment : String) (params : OrderedMap Parameter) :
    List Json × String × OrderedMap Parameter :=
  if segment = Uri.mediaTypePlaceholder then
    match takeMediaTypes params with
    | ([], params) => ([], segment, params)
    | (values, params) => (values, otherMediaTypes, params)
  else ([], segment, params)

/-- Goes on with the node that a step leads to, if it leads to one. -/
def goOn {State : Type} (next : Nat → State → State) : State × Option Nat → State
  | (state, none) => state
  | (state, some node) => next node state

/-- Walks from a node along segments and calls `land` with the nodes where the walk ends. The state
of a walk may be of any type for which it is known how to go one step along a segment. -/
def walk {State : Type}
    (step : OrderedMap Parameter → Nat → String → State → State × Option Nat)
    (land : Nat → State → State) :
    List String → OrderedMap Parameter → Nat → State → State
  | [], _, node, state => land node state
  | segment :: rest, params, node, state =>
    let (values, segment, params) := fanOut segment params
    let fanned := values.foldl
      (fun state value => goOn land (step params node (mediaTypeSegment value) state)) state
    goOn (walk step land rest params) (step params node segment fanned)

mutual

/-- Places a declared resource and what it nests, starting from a node. -/
def place (format : Format) : ResourceDecl → Nat → Draft → Draft
  | ⟨relativeUri, displayName, uriParameters, methods, description, resources⟩, parent, draft =>
    let decl : ResourceDecl :=
      ⟨relativeUri, displayName, uriParameters, methods, description, []⟩
    walk (fun params node segment draft => draft.step format relativeUri params node segment)
      (fun node draft => placeAll format resources node (draft.populate format node decl))
      (Uri.segments relativeUri) (Parameter.ofTable uriParameters) parent draft

/-- Places declared resources one after the other. -/
def placeAll (format : Format) : List ResourceDecl → Nat → Draft → Draft
  | [], _, draft => draft
  | resource :: rest, parent, draft =>
    placeAll format rest parent (place format resource parent draft)

end

/-- The tree of declared resources, with the identifiers handed out and the warnings given. -/
def build (format : Format) (resources : List ResourceDecl) (ids : Identifiers) : Draft :=
  let (id, ids) := format.nextId ids "resource"
  placeAll format resources root { tree := withRoot id, ids, warnings := [] }

end ClientGen.Tree
