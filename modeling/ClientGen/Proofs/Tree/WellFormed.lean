import ClientGen.Proofs.Tree.Growth
import Mathlib.Data.List.Nodup
import Mathlib.Logic.Relation

/-!
# Well-formed trees

Positions that refer to each other form a tree if parents and children agree: a child names its
parent and its key, and every node but the root is the child of an earlier one. Attaching a node
under a free key keeps this, and it implies that the keys from the root to a node lead to it and
that every chain of parents ends at the root.
-/

namespace ClientGen.Tree

variable {tree later : Tree} {node : Node} {n p parent : Nat} {key : String}

/-- Parents and children of a tree agree, and parents come first. -/
structure WellFormed (tree : Tree) : Prop where
  size_pos : 0 < tree.nodes.size
  root_parent : ∀ {node : Node}, tree.nodes[root]? = some node → node.parent = none
  parent_child : ∀ {n : Nat} {node : Node}, tree.nodes[n]? = some node → n ≠ root →
    ∃ p, node.parent = some p ∧ p < n ∧ tree.child? p node.key = some n
  child_parent : ∀ {n child : Nat} {key : String}, tree.child? n key = some child →
    ∃ c, tree.nodes[child]? = some c ∧ c.parent = some n ∧ c.key = key

/-! ## What keeps a tree well formed -/

/-- The root alone is a well-formed tree. -/
theorem wellFormed_withRoot (id : String) : (withRoot id).WellFormed where
  size_pos := by simp [withRoot]
  root_parent h := by
    simp only [withRoot, root, List.getElem?_toArray, List.getElem?_cons_zero,
      Option.some.injEq] at h
    rw [← h]
    rfl
  parent_child {n node} h hn := by
    have := (Array.getElem?_eq_some_iff.mp h).1
    simp only [withRoot, List.size_toArray, List.length_singleton] at this
    exact absurd (show n = 0 by omega) hn
  child_parent {n child key} h := by
    obtain ⟨node, hnode, hmem⟩ := child?_eq_some_iff.mp h
    have hn := (Array.getElem?_eq_some_iff.mp hnode).1
    simp only [withRoot, List.size_toArray, List.length_singleton] at hn
    obtain rfl : n = 0 := by omega
    simp only [withRoot, List.getElem?_toArray, List.getElem?_cons_zero,
      Option.some.injEq] at hnode
    rw [← hnode] at hmem
    cases hmem

/-- A tree stays well formed if its nodes are continued and no child is added. -/
theorem WellFormed.of_extends (h : tree.WellFormed) (hext : tree.Extends later)
    (hsize : later.nodes.size = tree.nodes.size)
    (hchild : ∀ n key, later.child? n key = tree.child? n key) : later.WellFormed where
  size_pos := hsize ▸ h.size_pos
  root_parent {node} hnode := by
    obtain ⟨old, hold, hnext⟩ := hext.exists_old h.size_pos hnode
    rw [hnext.parent_eq]
    exact h.root_parent hold
  parent_child {n node} hnode hn := by
    have hlt : n < tree.nodes.size := hsize ▸ (Array.getElem?_eq_some_iff.mp hnode).1
    obtain ⟨old, hold, hnext⟩ := hext.exists_old hlt hnode
    rw [hnext.parent_eq, hnext.key_eq]
    simpa only [hchild] using h.parent_child hold hn
  child_parent {n child key} hc := by
    rw [hchild] at hc
    obtain ⟨c, hc, hparent, hkey⟩ := h.child_parent hc
    obtain ⟨c', hc', hnext⟩ := hext.nodes hc
    exact ⟨c', hc', hnext.parent_eq.trans hparent, hnext.key_eq.trans hkey⟩

/-- An attached node is the only new child. -/
theorem child?_attach_eq_some_iff (hparent : parent < tree.nodes.size)
    (hfree : tree.child? parent node.key = none) (hleaf : node.children = .empty) {child : Nat} :
    (tree.attach parent node).1.child? n key = some child ↔
      tree.child? n key = some child ∨
        n = parent ∧ key = node.key ∧ child = tree.nodes.size := by
  rw [child?_eq_some_iff, child?_eq_some_iff]
  simp only [getElem?_attach hparent]
  by_cases hn : n = tree.nodes.size
  · have hne : tree.nodes.size ≠ parent := by omega
    simp [hn, hleaf, hne]
  · rw [if_neg hn]
    by_cases hp : parent = n
    · subst hp
      have hold := Array.getElem?_eq_getElem hparent
      have hget : tree.nodes[parent].children.get? node.key = none := by
        simpa [Tree.child?, hold] using hfree
      have hentries := OrderedMap.entries_insert_of_get?_eq_none hget tree.nodes.size
      rw [OrderedMap.entries_insert] at hentries
      simp [hold, hentries]
    · simp [hp, Ne.symm hp]

/-- Attaching a node without children under a free key keeps a tree well formed. -/
theorem WellFormed.attach (h : tree.WellFormed) (hparent : parent < tree.nodes.size)
    (hfree : tree.child? parent node.key = none) (hleaf : node.children = .empty) :
    (tree.attach parent node).1.WellFormed where
  size_pos := by
    rw [size_attach]
    omega
  root_parent {r} hr := by
    obtain ⟨old, hold, hnext⟩ := (extends_attach hparent hfree).exists_old h.size_pos hr
    rw [hnext.parent_eq]
    exact h.root_parent hold
  parent_child {n c} hc hn := by
    have hlt := (Array.getElem?_eq_some_iff.mp hc).1
    rw [size_attach] at hlt
    by_cases hlast : n = tree.nodes.size
    · rw [getElem?_attach hparent, if_pos hlast, Option.some.injEq] at hc
      subst hc
      refine ⟨parent, rfl, by omega, ?_⟩
      exact (child?_attach_eq_some_iff hparent hfree hleaf).mpr (Or.inr ⟨rfl, rfl, hlast⟩)
    · have hn' : n < tree.nodes.size := by omega
      obtain ⟨old, hold, hnext⟩ := (extends_attach hparent hfree).exists_old hn' hc
      obtain ⟨p, hp, hlt, hchild⟩ := h.parent_child hold hn
      refine ⟨p, hnext.parent_eq.trans hp, hlt, ?_⟩
      rw [hnext.key_eq]
      exact (extends_attach hparent hfree).child? hchild
  child_parent {n child key} hc := by
    rcases (child?_attach_eq_some_iff hparent hfree hleaf).mp hc with hc | ⟨rfl, rfl, rfl⟩
    · obtain ⟨c, hc, hcp, hck⟩ := h.child_parent hc
      obtain ⟨c', hc', hnext⟩ := (extends_attach hparent hfree).nodes hc
      exact ⟨c', hc', hnext.parent_eq.trans hcp, hnext.key_eq.trans hck⟩
    · exact ⟨{ node with parent := some n }, by rw [getElem?_attach hparent, if_pos rfl], rfl, rfl⟩

/-- Changing anything but the children of a node keeps all children. -/
theorem child?_modifyNode {change : Node → Node}
    (hchange : ∀ node : Node, (change node).children = node.children) (i : Nat) :
    (tree.modifyNode n change).child? i key = tree.child? i key := by
  simp only [Tree.child?, getElem?_modifyNode]
  split
  · cases tree.nodes[i]? <;> simp [hchange]
  · rfl

/-- Continuing a node without adding a child keeps a tree well formed. -/
theorem WellFormed.modifyNode (h : tree.WellFormed) {change : Node → Node}
    (hchange : ∀ node : Node, node.Extends (change node))
    (hchildren : ∀ node : Node, (change node).children = node.children) :
    (tree.modifyNode n change).WellFormed :=
  h.of_extends (extends_modifyNode hchange) (by simp [Tree.modifyNode])
    fun i _ => child?_modifyNode hchildren i

/-- Adding methods keeps a tree well formed. -/
theorem WellFormed.addMethods (h : tree.WellFormed) (methods : List Method) :
    (methods.foldl (fun tree method => tree.addMethod n method) tree).WellFormed := by
  induction methods generalizing tree with
  | nil => exact h
  | cons method rest ih =>
    have hpush : WellFormed { tree with methods := tree.methods.push method } :=
      ⟨h.size_pos, h.root_parent, h.parent_child, h.child_parent⟩
    have hadd : (tree.addMethod n method).WellFormed :=
      hpush.modifyNode (fun node => node.extends_insertMethod _ _) fun _ => rfl
    exact ih hadd

/-- Populating a node keeps a tree well formed. -/
theorem WellFormed.populate {draft : Draft} (h : draft.tree.WellFormed) (format : Format) (n : Nat)
    (decl : ResourceDecl) : (draft.populate format n decl).tree.WellFormed := by
  have hmethods := h.addMethods (n := n) (methodsOf format n decl.methods draft.ids).1.values
  simp only [Draft.populate]
  split
  · exact hmethods.modifyNode (fun node => node.extends_describe _) fun _ => rfl
  · exact hmethods

end ClientGen.Tree
