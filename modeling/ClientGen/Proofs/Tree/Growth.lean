import ClientGen.Proofs.OrderedMap
import ClientGen.Tree.Build

/-!
# Growth of a tree

Building a tree only ever adds to it. A later tree extends an earlier one if every node keeps its
place and what it was created with, and if its children and the keys of its methods are only
continued. This file shows it of the three operations on trees and of everything made of them.
-/

namespace ClientGen

/-- A later state of a node: only children, methods and the description may differ, children are
added at the end, and keys of methods neither move nor go away. -/
structure Node.Extends (node later : Node) : Prop where
  id_eq : later.id = node.id
  key_eq : later.key = node.key
  segment_eq : later.segment = node.segment
  relativeUri_eq : later.relativeUri = node.relativeUri
  uriParameters_eq : later.uriParameters = node.uriParameters
  parent_eq : later.parent = node.parent
  children_prefix : node.children.entries <+: later.children.entries
  methods_prefix : node.methods.keys <+: later.methods.keys

/-- A node extends itself. -/
theorem Node.Extends.refl (node : Node) : node.Extends node :=
  ⟨rfl, rfl, rfl, rfl, rfl, rfl, List.prefix_rfl, List.prefix_rfl⟩

/-- A node that is extended twice extends the first one. -/
theorem Node.Extends.trans {node later latest : Node} (h : node.Extends later)
    (h' : later.Extends latest) : node.Extends latest where
  id_eq := h'.id_eq.trans h.id_eq
  key_eq := h'.key_eq.trans h.key_eq
  segment_eq := h'.segment_eq.trans h.segment_eq
  relativeUri_eq := h'.relativeUri_eq.trans h.relativeUri_eq
  uriParameters_eq := h'.uriParameters_eq.trans h.uriParameters_eq
  parent_eq := h'.parent_eq.trans h.parent_eq
  children_prefix := h.children_prefix.trans h'.children_prefix
  methods_prefix := h.methods_prefix.trans h'.methods_prefix

/-- Binding the key of a method continues a node. -/
theorem Node.extends_insertMethod (node : Node) (key : String) (method : Nat) :
    node.Extends { node with methods := node.methods.insert key method } :=
  ⟨rfl, rfl, rfl, rfl, rfl, rfl, List.prefix_rfl, OrderedMap.keys_prefix_insert _ _ _⟩

/-- Describing a node continues it. -/
theorem Node.extends_describe (node : Node) (description : String) :
    node.Extends { node with description } :=
  ⟨rfl, rfl, rfl, rfl, rfl, rfl, List.prefix_rfl, List.prefix_rfl⟩

/-- A child under a free key continues a node. -/
theorem Node.extends_insertChild {node : Node} {key : String}
    (hfree : node.children.get? key = none) (child : Nat) :
    node.Extends { node with children := node.children.insert key child } := by
  have hentries := OrderedMap.entries_insert_of_get?_eq_none hfree child
  refine ⟨rfl, rfl, rfl, rfl, rfl, rfl, ?_, List.prefix_rfl⟩
  rw [hentries]
  exact List.prefix_append _ _

namespace Tree

variable {tree later latest : Tree} {node : Node} {n i parent : Nat} {key : String}

/-- A later state of a tree: nodes and methods keep their places, and every node extends what it
was. -/
structure Extends (tree later : Tree) : Prop where
  nodes : ∀ {n : Nat} {node : Node}, tree.nodes[n]? = some node →
    ∃ node', later.nodes[n]? = some node' ∧ node.Extends node'
  methods : tree.methods.toList <+: later.methods.toList

/-- A tree extends itself. -/
theorem Extends.refl (tree : Tree) : tree.Extends tree :=
  ⟨fun h => ⟨_, h, .refl _⟩, List.prefix_rfl⟩

/-- A tree that is extended twice extends the first one. -/
theorem Extends.trans (h : tree.Extends later) (h' : later.Extends latest) :
    tree.Extends latest where
  nodes hnode := by
    obtain ⟨node', hnode', hext⟩ := h.nodes hnode
    obtain ⟨node'', hnode'', hext'⟩ := h'.nodes hnode'
    exact ⟨node'', hnode'', hext.trans hext'⟩
  methods := h.methods.trans h'.methods

/-- A node of a tree is a node of every later one. -/
theorem Extends.lt_size (h : tree.Extends later) (hn : n < tree.nodes.size) :
    n < later.nodes.size := by
  obtain ⟨node', hnode', -⟩ := h.nodes (Array.getElem?_eq_getElem hn)
  exact (Array.getElem?_eq_some_iff.mp hnode').1

/-- A node at an old place continues the node that was there. -/
theorem Extends.exists_old (h : tree.Extends later) (hn : n < tree.nodes.size)
    (hnode : later.nodes[n]? = some node) :
    ∃ old, tree.nodes[n]? = some old ∧ old.Extends node := by
  have hold := Array.getElem?_eq_getElem hn
  obtain ⟨node', hnode', hext⟩ := h.nodes hold
  obtain rfl : node' = node := Option.some.inj (hnode'.symm.trans hnode)
  exact ⟨_, hold, hext⟩

/-- The child under a key is read off the node. -/
theorem child?_eq_some_iff {child : Nat} : tree.child? n key = some child ↔
    ∃ node, tree.nodes[n]? = some node ∧ (key, child) ∈ node.children.entries := by
  simp only [child?, Option.bind_eq_some_iff, OrderedMap.get?_eq_some_iff]

/-- Children keep their keys. -/
theorem Extends.child? (h : tree.Extends later) {child : Nat}
    (hc : tree.child? n key = some child) : later.child? n key = some child := by
  obtain ⟨node, hnode, hmem⟩ := child?_eq_some_iff.mp hc
  obtain ⟨node', hnode', hext⟩ := h.nodes hnode
  exact child?_eq_some_iff.mpr ⟨node', hnode', hext.children_prefix.subset hmem⟩

/-! ## The operations -/

/-- Modifying a node leaves all others as they are. -/
theorem getElem?_modifyNode (change : Node → Node) :
    (tree.modifyNode n change).nodes[i]? =
      if n = i then tree.nodes[i]?.map change else tree.nodes[i]? := by
  simp [modifyNode, Array.getElem?_modify]

/-- Changing a node to a later state of it extends the tree. -/
theorem extends_modifyNode {change : Node → Node}
    (hchange : ∀ node : Node, node.Extends (change node)) :
    tree.Extends (tree.modifyNode n change) where
  nodes {i node} hnode := by
    rw [getElem?_modifyNode]
    split
    · exact ⟨change node, by rw [hnode, Option.map_some], hchange node⟩
    · exact ⟨node, hnode, .refl node⟩
  methods := List.prefix_rfl

/-- Attaching a node adds one. -/
theorem size_attach : (tree.attach parent node).1.nodes.size = tree.nodes.size + 1 := by
  simp [attach, modifyNode]

/-- An attached node is the last one; its parent has one more child. -/
theorem getElem?_attach (hparent : parent < tree.nodes.size) :
    (tree.attach parent node).1.nodes[i]? =
      if i = tree.nodes.size then some { node with parent := some parent }
      else if parent = i then tree.nodes[i]?.map fun p =>
        { p with children := p.children.insert node.key tree.nodes.size }
      else tree.nodes[i]? := by
  simp only [attach, getElem?_modifyNode, Array.getElem?_push]
  by_cases hi : i = tree.nodes.size
  · have hne : parent ≠ tree.nodes.size := by omega
    simp [hi, hne]
  · simp [hi]

/-- Attaching a node under a key that is free extends the tree. -/
theorem extends_attach (hparent : parent < tree.nodes.size)
    (hfree : tree.child? parent node.key = none) : tree.Extends (tree.attach parent node).1 where
  nodes {i p} hp := by
    have hi : i ≠ tree.nodes.size := by
      have := (Array.getElem?_eq_some_iff.mp hp).1
      omega
    rw [getElem?_attach hparent, if_neg hi]
    split
    next hpi =>
      subst hpi
      have hget : p.children.get? node.key = none := by simpa [Tree.child?, hp] using hfree
      exact ⟨_, by rw [hp, Option.map_some], Node.extends_insertChild hget _⟩
    next => exact ⟨p, hp, .refl p⟩
  methods := List.prefix_rfl

/-- Adding a method extends the tree. -/
theorem extends_addMethod (method : Method) : tree.Extends (tree.addMethod n method) := by
  have hpush : tree.Extends { tree with methods := tree.methods.push method } :=
    ⟨fun h => ⟨_, h, .refl _⟩, by simp⟩
  exact hpush.trans (extends_modifyNode fun node => node.extends_insertMethod _ _)

/-! ## Populating a node -/

/-- Adding methods one after the other extends the tree. -/
theorem extends_addMethods (methods : List Method) :
    tree.Extends (methods.foldl (fun tree method => tree.addMethod n method) tree) := by
  induction methods generalizing tree with
  | nil => exact .refl tree
  | cons method rest ih => exact (extends_addMethod method).trans ih

/-- Populating a node extends the tree. -/
theorem extends_populate (draft : Draft) (format : Format) (n : Nat) (decl : ResourceDecl) :
    draft.tree.Extends (draft.populate format n decl).tree := by
  have hmethods : draft.tree.Extends _ :=
    extends_addMethods (n := n) (methodsOf format n decl.methods draft.ids).1.values
  simp only [Draft.populate]
  split
  · exact hmethods.trans (extends_modifyNode fun node => node.extends_describe _)
  · exact hmethods

end Tree

end ClientGen
