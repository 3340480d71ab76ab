import ClientGen.Proofs.Tree.WellFormed

/-!
# Paths from the root

In a well-formed tree every node has one path from the root. The keys along it lead to the node,
every chain of parents ends at the root, and no node is above itself.
-/

namespace ClientGen.Tree

variable {tree : Tree} {node : Node} {n p : Nat} {key : String}

/-- The nodes on the way from the root to a node, with both ends. A parent comes before its
children, so a position that is not smaller is no parent. -/
def pathTo (tree : Tree) (n : Nat) : List Node :=
  match tree.nodes[n]? with
  | none => []
  | some node =>
    match node.parent with
    | none => [node]
    | some p => if _h : p < n then pathTo tree p ++ [node] else [node]
termination_by n

/-- A path goes along nodes of the tree. -/
theorem exists_of_mem_pathTo (h : node ∈ tree.pathTo n) :
    ∃ m : Nat, tree.nodes[m]? = some node := by
  fun_induction pathTo tree n with
  | case1 n hnone => cases h
  | case2 n last hlast hroot => exact ⟨n, by rw [List.mem_singleton.mp h, hlast]⟩
  | case3 n last hlast p hparent hlt ih =>
    rcases List.mem_append.mp h with habove | hhere
    · exact ih habove
    · exact ⟨n, by rw [List.mem_singleton.mp hhere, hlast]⟩
  | case4 n last hlast p hparent hlt => exact ⟨n, by rw [List.mem_singleton.mp h, hlast]⟩

/-- The keys on the way from the root to a node; the root is not reached by a key. -/
def keysTo (tree : Tree) (n : Nat) : List String :=
  (tree.pathTo n).tail.map Node.key

/-- One position is that of the parent of the node at the other one. -/
def IsParent (tree : Tree) (n p : Nat) : Prop :=
  ∃ node, tree.nodes[n]? = some node ∧ node.parent = some p

/-- What it means that nodes which refer to each other by position are one tree. -/
structure Rooted (tree : Tree) : Prop where
  /-- There is a root. -/
  root_lt : root < tree.nodes.size
  /-- Every position among children is that of a node. -/
  child_lt : ∀ {n : Nat} {node : Node}, tree.nodes[n]? = some node →
    ∀ child ∈ node.children.values, child < tree.nodes.size
  /-- The root has no parent, and every other node has one. -/
  parent_eq_none_iff : ∀ {n : Nat} {node : Node}, tree.nodes[n]? = some node →
    (node.parent = none ↔ n = root)
  /-- A parent comes before the node and has it as the child under its key. -/
  parent_lt : ∀ {n p : Nat} {node : Node}, tree.nodes[n]? = some node → node.parent = some p →
    p < n ∧ ∃ pnode, tree.nodes[p]? = some pnode ∧ pnode.children.get? node.key = some n
  /-- A node occurs once among the children of its parent and not among those of another node. -/
  count_children : ∀ {n q : Nat} {node qnode : Node}, tree.nodes[n]? = some node →
    tree.nodes[q]? = some qnode →
    qnode.children.values.count n = if node.parent = some q then 1 else 0
  /-- The keys on the way to a node lead to it. -/
  find?_keysTo : ∀ n < tree.nodes.size, tree.find? (tree.keysTo n) = some n
  /-- From parent to parent one comes to the root. -/
  reaches_root : ∀ n < tree.nodes.size, Relation.ReflTransGen tree.IsParent n root
  /-- From parent to parent one never comes back. -/
  acyclic : ∀ n, ¬Relation.TransGen tree.IsParent n n

/-! ## Paths of a well-formed tree -/

/-- The path to the root is the root. -/
theorem WellFormed.pathTo_root (h : tree.WellFormed) (hnode : tree.nodes[root]? = some node) :
    tree.pathTo root = [node] := by
  rw [pathTo, hnode]
  simp only [h.root_parent hnode]

/-- A node is the child of its parent and comes after it. -/
theorem WellFormed.child?_of_parent (h : tree.WellFormed) (hnode : tree.nodes[n]? = some node)
    (hparent : node.parent = some p) : p < n ∧ tree.child? p node.key = some n := by
  have hn : n ≠ root := by
    rintro rfl
    rw [h.root_parent hnode] at hparent
    cases hparent
  obtain ⟨q, hq, hlt, hchild⟩ := h.parent_child hnode hn
  obtain rfl : p = q := Option.some.inj (hparent.symm.trans hq)
  exact ⟨hlt, hchild⟩

/-- A child comes after its parent. -/
theorem WellFormed.lt_child (h : tree.WellFormed) (hchild : tree.child? p key = some n) :
    p < n ∧ n < tree.nodes.size := by
  obtain ⟨c, hc, hparent, -⟩ := h.child_parent hchild
  exact ⟨(h.child?_of_parent hc hparent).1, (Array.getElem?_eq_some_iff.mp hc).1⟩

/-- The root is no child. -/
theorem WellFormed.child_ne_root (h : tree.WellFormed) (hchild : tree.child? p key = some n) :
    n ≠ root :=
  Nat.ne_of_gt (Nat.zero_lt_of_lt (h.lt_child hchild).1)

/-- The path to a child continues the path to its parent. -/
theorem WellFormed.pathTo_child (h : tree.WellFormed) (hchild : tree.child? p key = some n)
    (hnode : tree.nodes[n]? = some node) : tree.pathTo n = tree.pathTo p ++ [node] := by
  obtain ⟨c, hc, hparent, -⟩ := h.child_parent hchild
  obtain rfl : c = node := Option.some.inj (hc.symm.trans hnode)
  rw [pathTo, hnode]
  simp only [hparent, dif_pos (h.child?_of_parent hc hparent).1]

/-- Every node but the root is the child of an earlier one. This is the case distinction behind
every induction along paths. -/
theorem WellFormed.root_or_child (h : tree.WellFormed) (hnode : tree.nodes[n]? = some node) :
    n = root ∨ ∃ p, node.parent = some p ∧ p < n ∧ tree.child? p node.key = some n := by
  by_cases hn : n = root
  · exact Or.inl hn
  · exact Or.inr (h.parent_child hnode hn)

/-- No path to a node is empty. -/
theorem WellFormed.pathTo_ne_nil (h : tree.WellFormed) (hn : n < tree.nodes.size) :
    tree.pathTo n ≠ [] := by
  have hnode := Array.getElem?_eq_getElem hn
  rcases h.root_or_child hnode with rfl | ⟨p, -, -, hchild⟩
  · simp [h.pathTo_root hnode]
  · simp [h.pathTo_child hchild hnode]

/-- A node is found under the keys on the path to it. -/
theorem WellFormed.find?_keysTo (h : tree.WellFormed) (hn : n < tree.nodes.size) :
    tree.find? (tree.keysTo n) = some n := by
  induction n using Nat.strongRecOn with
  | ind n ih =>
    have hnode := Array.getElem?_eq_getElem hn
    rcases h.root_or_child hnode with rfl | ⟨p, -, hlt, hchild⟩
    · rw [keysTo, h.pathTo_root hnode]
      rfl
    · have hp : p < tree.nodes.size := by omega
      have hkeys : tree.keysTo n = tree.keysTo p ++ [tree.nodes[n].key] := by
        rw [keysTo, h.pathTo_child hchild hnode, List.tail_append_of_ne_nil (h.pathTo_ne_nil hp),
          List.map_append]
        rfl
      have hfind : tree.find? (tree.keysTo p) = some p := ih p hlt hp
      rw [find?] at hfind ⊢
      rw [hkeys, List.foldlM_append, hfind]
      simpa using hchild

/-- A parent comes before its child. -/
theorem WellFormed.lt_of_isParent (h : tree.WellFormed) (hp : tree.IsParent n p) : p < n := by
  obtain ⟨node, hnode, hparent⟩ := hp
  exact (h.child?_of_parent hnode hparent).1

/-- The way up from every node ends at the root. -/
theorem WellFormed.reaches_root (h : tree.WellFormed) (hn : n < tree.nodes.size) :
    Relation.ReflTransGen tree.IsParent n root := by
  induction n using Nat.strongRecOn with
  | ind n ih =>
    have hnode := Array.getElem?_eq_getElem hn
    rcases h.root_or_child hnode with rfl | ⟨p, hparent, hlt, -⟩
    · exact .refl
    · have hstep : tree.IsParent n p := ⟨_, hnode, hparent⟩
      exact .head hstep (ih p hlt (by omega))

/-- What is above a node comes before it. -/
theorem WellFormed.lt_of_transGen (h : tree.WellFormed)
    (hp : Relation.TransGen tree.IsParent n p) : p < n := by
  induction hp with
  | single hstep => exact h.lt_of_isParent hstep
  | tail _ hstep ih => exact Nat.lt_trans (h.lt_of_isParent hstep) ih

/-- The children of a node are the nodes that name it as their parent. -/
theorem WellFormed.mem_children_iff (h : tree.WellFormed) {q : Nat} {qnode : Node}
    (hnode : tree.nodes[n]? = some node) (hq : tree.nodes[q]? = some qnode) :
    n ∈ qnode.children.values ↔ node.parent = some q := by
  constructor
  · intro hmem
    obtain ⟨entry, hentry, rfl⟩ := List.mem_map.mp hmem
    obtain ⟨c, hc, hparent, -⟩ := h.child_parent (child?_eq_some_iff.mpr ⟨qnode, hq, hentry⟩)
    obtain rfl : c = node := Option.some.inj (hc.symm.trans hnode)
    exact hparent
  · intro hparent
    obtain ⟨pnode, hpnode, hin⟩ := child?_eq_some_iff.mp (h.child?_of_parent hnode hparent).2
    obtain rfl : pnode = qnode := Option.some.inj (hpnode.symm.trans hq)
    exact List.mem_map_of_mem hin

/-- No node is a child twice, since its key is the only one that leads to it. -/
theorem WellFormed.nodup_children (h : tree.WellFormed) (hnode : tree.nodes[n]? = some node) :
    node.children.values.Nodup := by
  refine List.Nodup.map_on ?_ (List.Nodup.of_map Prod.fst node.children.nodup_keys)
  rintro ⟨k, c⟩ hc ⟨k', c'⟩ hc' hcc
  obtain rfl : c = c' := hcc
  obtain ⟨a, ha, -, hk⟩ := h.child_parent (child?_eq_some_iff.mpr ⟨node, hnode, hc⟩)
  obtain ⟨b, hb, -, hk'⟩ := h.child_parent (child?_eq_some_iff.mpr ⟨node, hnode, hc'⟩)
  obtain rfl : a = b := Option.some.inj (ha.symm.trans hb)
  rw [← hk, ← hk']

/-- Well-formed trees are trees. -/
theorem WellFormed.rooted (h : tree.WellFormed) : tree.Rooted where
  root_lt := h.size_pos
  child_lt {n node} hnode child hchild := by
    obtain ⟨entry, hentry, rfl⟩ := List.mem_map.mp hchild
    exact (h.lt_child (child?_eq_some_iff.mpr ⟨node, hnode, hentry⟩)).2
  parent_eq_none_iff {n node} hnode := by
    constructor
    · intro hnone
      rcases h.root_or_child hnode with hn | ⟨p, hparent, -⟩
      · exact hn
      · rw [hnone] at hparent
        cases hparent
    · rintro rfl
      exact h.root_parent hnode
  parent_lt {n p node} hnode hparent := by
    obtain ⟨hlt, hchild⟩ := h.child?_of_parent hnode hparent
    obtain ⟨pnode, hpnode, hmem⟩ := child?_eq_some_iff.mp hchild
    exact ⟨hlt, pnode, hpnode, OrderedMap.get?_eq_some_iff.mpr hmem⟩
  count_children {n q node qnode} hnode hq := by
    rw [(h.nodup_children hq).count, if_congr (h.mem_children_iff hnode hq) rfl rfl]
  find?_keysTo _ hn := h.find?_keysTo hn
  reaches_root _ hn := h.reaches_root hn
  acyclic n hn := absurd (h.lt_of_transGen hn) (Nat.lt_irrefl n)

end ClientGen.Tree
