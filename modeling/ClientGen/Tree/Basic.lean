import ClientGen.Parameter

/-!
# The resource tree

The resources of an API form a tree, whose nodes are kept in the order of their creation and refer
to each other by their positions in that order; the root is node zero. Methods are kept in the
order of their creation as well. A method that a later one replaces keeps its position, but no node
refers to it any more.
-/

namespace ClientGen

/-- A method of a resource. -/
structure Method where
  id : String
  key : String
  verb : String
  protocols : List String
  responses : OrderedMap Json
  body : Option Json
  headers : OrderedMap Parameter
  queryParameters : OrderedMap Parameter
  securedBy : List Json
  description : String
  resource : Nat

/-- A resource. -/
structure Node where
  id : String
  key : String
  segment : String
  relativeUri : String
  uriParameters : List Parameter
  methods : OrderedMap Nat
  description : String
  parent : Option Nat
  children : OrderedMap Nat

instance : Inhabited Node := ⟨⟨"", "", "", "", [], .empty, "", none, .empty⟩⟩

/-- The resources and methods of an API. -/
structure Tree where
  nodes : Array Node
  methods : Array Method

namespace Tree

/-- The position of the root. -/
def root : Nat := 0

/-- The tree that has only a root. -/
def withRoot (id : String) : Tree where
  nodes := #[{ (default : Node) with id }]
  methods := #[]

/-- The child of a node under a key. -/
def child? (tree : Tree) (node : Nat) (key : String) : Option Nat :=
  tree.nodes[node]?.bind fun n => n.children.get? key

/-- The node that a path of keys leads to from the root. -/
def find? (tree : Tree) (path : List String) : Option Nat :=
  path.foldlM tree.child? root

/-- Changes a node. -/
def modifyNode (tree : Tree) (node : Nat) (change : Node → Node) : Tree :=
  { tree with nodes := tree.nodes.modify node change }

/-- Adds a node as the child of another one under its key. -/
def attach (tree : Tree) (parent : Nat) (node : Node) : Tree × Nat :=
  let position := tree.nodes.size
  let grown := { tree with nodes := tree.nodes.push { node with parent := some parent } }
  (grown.modifyNode parent fun p => { p with children := p.children.insert node.key position },
    position)

/-- Adds a method to a node under its key. -/
def addMethod (tree : Tree) (node : Nat) (method : Method) : Tree :=
  let position := tree.methods.size
  let grown := { tree with methods := tree.methods.push method }
  grown.modifyNode node fun n => { n with methods := n.methods.insert method.key position }

/-- A node and the nodes below it: each before its children, and these in the order of their keys.
Children are created after their parents, so a position that is not greater is passed over. -/
def preorder (tree : Tree) (node : Nat) : List Nat :=
  if _h : node < tree.nodes.size then
    node :: (tree.nodes[node].children.values.map fun child =>
      if _hc : node < child then preorder tree child else []).flatten
  else []
termination_by tree.nodes.size - node

/-- Lists the nodes on a stack and all below them: the top comes next, and its children take its
place. There is no result if it comes to a position without a node, or if more nodes than there are
would be listed, as happens where nodes are below themselves. -/
def listStack (tree : Tree) (listed : Array Nat) : List Nat → Option (Array Nat)
  | [] => some listed
  | n :: stack =>
    if _h : listed.size < tree.nodes.size then
      (tree.nodes[n]?).bind fun node =>
        listStack tree (listed.push n) (node.children.values ++ stack)
    else none
termination_by tree.nodes.size - listed.size

/-- A node and the nodes below it, listed with a stack. -/
def flatten? (tree : Tree) (node : Nat) : Option (List Nat) :=
  (tree.listStack #[] [node]).map Array.toList

/-- The methods of a node and of the nodes below it, in the order of the nodes. -/
def methodsBelow (tree : Tree) (node : Nat) : List Nat :=
  ((tree.flatten? node).getD []).flatMap fun n =>
    ((tree.nodes[n]?).map fun n => n.methods.values).getD []

end Tree

end ClientGen
