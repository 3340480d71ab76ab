import ClientGen.Proofs.Tree.Placement
import Mathlib.Data.List.Nodup
import Mathlib.Data.List.Perm.Subperm

/-!
# Listing the nodes of a tree

The recursive listing of a node has the node and those below it, each once and after all that it is
below. The listing that is run keeps a stack instead. In a well-formed tree its rounds come to an
end, and they list the same nodes in the same order.
-/

namespace ClientGen.Tree

variable {tree : Tree} {node : Node} {n m p child : Nat} {stack rest children : List Nat}

/-! ## The recursive listing -/

/-- What every node takes over from its children holds of all nodes. -/
theorem WellFormed.induction_children (h : tree.WellFormed) {P : Nat → Prop}
    (hstep : ∀ n node, tree.nodes[n]? = some node → (∀ child ∈ node.children.values, P child) →
      P n) : ∀ n < tree.nodes.size, P n := by
  intro n hn
  induction hleft : tree.nodes.size - n using Nat.strongRecOn generalizing n with
  | ind left ih =>
    refine hstep n _ (Array.getElem?_eq_getElem hn) fun child hchild => ?_
    obtain ⟨entry, hentry, rfl⟩ := List.mem_map.mp hchild
    obtain ⟨hlt, hsize⟩ := h.lt_child
      (child?_eq_some_iff.mpr ⟨_, Array.getElem?_eq_getElem hn, hentry⟩)
    exact ih (tree.nodes.size - entry.2) (by omega) entry.2 hsize rfl

/-- Only nodes have parents. -/
theorem IsParent.lt_size (h : tree.IsParent child n) : child < tree.nodes.size := by
  obtain ⟨c, hc, -⟩ := h
  exact (Array.getElem?_eq_some_iff.mp hc).1

/-- The children of a node are those whose parent it is. -/
theorem WellFormed.isParent_iff (h : tree.WellFormed) (hnode : tree.nodes[n]? = some node) :
    tree.IsParent child n ↔ child ∈ node.children.values := by
  constructor
  · rintro ⟨c, hc, hparent⟩
    exact (h.mem_children_iff hc hnode).mpr hparent
  · intro hchild
    obtain ⟨entry, hentry, rfl⟩ := List.mem_map.mp hchild
    obtain ⟨c, hc, hparent, -⟩ := h.child_parent (child?_eq_some_iff.mpr ⟨node, hnode, hentry⟩)
    exact ⟨c, hc, hparent⟩

/-- A node is listed before its children, none of which is passed over. -/
theorem WellFormed.preorder_eq (h : tree.WellFormed) (hnode : tree.nodes[n]? = some node) :
    tree.preorder n = n :: node.children.values.flatMap tree.preorder := by
  obtain ⟨hn, rfl⟩ := Array.getElem?_eq_some_iff.mp hnode
  rw [preorder, dif_pos hn, List.flatMap_def]
  congr 2
  refine List.map_congr_left fun child hchild => ?_
  rw [dif_pos (h.lt_of_isParent ((h.isParent_iff hnode).mpr hchild))]

/-- The nodes listed are the node and those below it. -/
theorem WellFormed.mem_preorder_iff (h : tree.WellFormed) (hn : n < tree.nodes.size) :
    m ∈ tree.preorder n ↔ Relation.ReflTransGen tree.IsParent m n := by
  refine h.induction_children (P := fun n => m ∈ tree.preorder n ↔
    Relation.ReflTransGen tree.IsParent m n) (fun n node hnode ih => ?_) n hn
  rw [h.preorder_eq hnode, List.mem_cons, List.mem_flatMap, Relation.ReflTransGen.cases_tail_iff,
    eq_comm]
  refine or_congr_right (exists_congr fun child => ?_)
  rw [h.isParent_iff hnode, and_comm]
  exact and_congr_left fun hchild => ih child hchild

/-- What is above a node, or the node itself, does not come after it. -/
theorem WellFormed.le_of_reflTransGen (h : tree.WellFormed)
    (hm : Relation.ReflTransGen tree.IsParent m n) : n ≤ m := by
  rcases Relation.reflTransGen_iff_eq_or_transGen.mp hm with rfl | hm
  · exact Nat.le_refl n
  · exact Nat.le_of_lt (h.lt_of_transGen hm)

/-- No node is below two children of one node: one of them would be above the other, and so above
its own parent. -/
theorem WellFormed.below_unique (h : tree.WellFormed) {child' : Nat}
    (hchild : tree.IsParent child n) (hchild' : tree.IsParent child' n)
    (hm : Relation.ReflTransGen tree.IsParent m child)
    (hm' : Relation.ReflTransGen tree.IsParent m child') : child = child' := by
  have hunique : Relator.RightUnique tree.IsParent := by
    rintro a b c ⟨node, hnode, hb⟩ ⟨node', hnode', hc⟩
    obtain rfl : node = node' := Option.some.inj (hnode.symm.trans hnode')
    exact Option.some.inj (hb.symm.trans hc)
  have habove {a b : Nat} (ha : tree.IsParent a n) (hb : tree.IsParent b n)
      (hab : Relation.ReflTransGen tree.IsParent a b) : a = b := by
    rcases hab.cases_head with heq | ⟨parent, hparent, hrest⟩
    · exact heq
    · obtain rfl : parent = n := hunique hparent ha
      have hle := h.le_of_reflTransGen hrest
      have hlt := h.lt_of_isParent hb
      omega
  rcases Relation.ReflTransGen.total_of_right_unique hunique hm hm' with hup | hup
  · exact habove hchild hchild' hup
  · exact (habove hchild' hchild hup).symm

/-- No node is listed twice. -/
theorem WellFormed.nodup_preorder (h : tree.WellFormed) (hn : n < tree.nodes.size) :
    (tree.preorder n).Nodup := by
  refine h.induction_children (P := fun n => (tree.preorder n).Nodup)
    (fun n node hnode ih => ?_) n hn
  have hbelow {child m : Nat} (hchild : child ∈ node.children.values)
      (hm : m ∈ tree.preorder child) : tree.IsParent child n ∧
        Relation.ReflTransGen tree.IsParent m child := by
    have hparent := (h.isParent_iff hnode).mpr hchild
    exact ⟨hparent, (h.mem_preorder_iff hparent.lt_size).mp hm⟩
  rw [h.preorder_eq hnode, List.nodup_cons, List.nodup_flatMap]
  refine ⟨fun hself => ?_, ih, (h.nodup_children hnode).pairwise_of_forall_ne ?_⟩
  · obtain ⟨child, hchild, hself⟩ := List.mem_flatMap.mp hself
    obtain ⟨hparent, hup⟩ := hbelow hchild hself
    have hlt := h.lt_of_isParent hparent
    have hle := h.le_of_reflTransGen hup
    omega
  · intro child hchild child' hchild' hne m hm hm'
    obtain ⟨hparent, hup⟩ := hbelow hchild hm
    obtain ⟨hparent', hup'⟩ := hbelow hchild' hm'
    exact hne (h.below_unique hparent hparent' hup hup')

/-- After a node, its listing has the listings of its children. -/
theorem WellFormed.preorder_child_sublist (h : tree.WellFormed) (hparent : tree.IsParent child n)
    (hn : n < tree.nodes.size) : (tree.preorder child).Sublist (tree.preorder n).tail := by
  have hnode := Array.getElem?_eq_getElem hn
  rw [h.preorder_eq hnode, List.tail_cons, List.flatMap_def]
  exact List.sublist_flatten_of_mem
    (List.mem_map_of_mem ((h.isParent_iff hnode).mp hparent))

/-- The listing of a node below another one is part of the other's. -/
theorem WellFormed.preorder_sublist (h : tree.WellFormed)
    (hm : Relation.ReflTransGen tree.IsParent m n) (hn : n < tree.nodes.size) :
    (tree.preorder m).Sublist (tree.preorder n) := by
  induction hm with
  | refl => exact List.Sublist.refl _
  | @tail child n _ hparent ih =>
    have hchild : (tree.preorder child).Sublist (tree.preorder n) :=
      (h.preorder_child_sublist hparent hn).trans (List.tail_sublist _)
    exact (ih hparent.lt_size).trans hchild

/-- From the root, a node is listed before all that is below it. -/
theorem WellFormed.pair_sublist_preorder (h : tree.WellFormed)
    (hm : Relation.TransGen tree.IsParent m p) : [p, m].Sublist (tree.preorder root) := by
  obtain ⟨child, hup, hparent⟩ := Relation.TransGen.tail'_iff.mp hm
  have hpn : p < tree.nodes.size := Nat.lt_trans (h.lt_of_isParent hparent) hparent.lt_size
  have hmem : m ∈ (tree.preorder p).tail :=
    (h.preorder_child_sublist hparent hpn).subset ((h.mem_preorder_iff hparent.lt_size).mpr hup)
  refine List.Sublist.trans ?_ (h.preorder_sublist (h.reaches_root hpn) h.size_pos)
  rw [h.preorder_eq (Array.getElem?_eq_getElem hpn)] at hmem ⊢
  exact (List.singleton_sublist.mpr hmem).cons_cons p

/-- The listing of the root has all nodes. -/
theorem WellFormed.preorder_root_perm (h : tree.WellFormed) :
    (tree.preorder root).Perm (List.range tree.nodes.size) := by
  refine (List.perm_ext_iff_of_nodup (h.nodup_preorder h.size_pos) List.nodup_range).mpr ?_
  intro m
  rw [h.mem_preorder_iff h.size_pos, List.mem_range]
  constructor
  · intro hm
    rcases hm.cases_head with rfl | ⟨p, ⟨node, hnode, -⟩, -⟩
    · exact h.size_pos
    · exact (Array.getElem?_eq_some_iff.mp hnode).1
  · exact h.reaches_root

/-- The listing from the root has all nodes. -/
theorem WellFormed.mem_preorder_root (h : tree.WellFormed) :
    m ∈ tree.preorder root ↔ m < tree.nodes.size := by
  rw [h.preorder_root_perm.mem_iff, List.mem_range]

/-! ## The listing with a stack -/

/-- The rounds from a stack come to an end, at which these nodes have been listed. -/
inductive Lists (tree : Tree) : List Nat → List Nat → Prop where
  | done : Lists tree [] []
  | round {n : Nat} {node : Node} {stack rest : List Nat} : tree.nodes[n]? = some node →
    Lists tree (node.children.values ++ stack) rest → Lists tree (n :: stack) (n :: rest)

/-- Children on the stack are listed one after the other, each with what is below it. -/
theorem Lists.append_preorder (hchildren : ∀ child ∈ children, ∀ stack rest,
      tree.Lists stack rest → tree.Lists (child :: stack) (tree.preorder child ++ rest))
    (h : tree.Lists stack rest) :
    tree.Lists (children ++ stack) (children.flatMap tree.preorder ++ rest) := by
  induction children with
  | nil => exact h
  | cons child others ih =>
    have hothers := ih fun c hc => hchildren c (List.mem_cons_of_mem _ hc)
    rw [List.flatMap_cons, List.append_assoc]
    exact hchildren child List.mem_cons_self _ _ hothers

/-- A node on top of the stack is listed with all that is below it before the stack goes on. -/
theorem WellFormed.lists_cons (h : tree.WellFormed) (hn : n < tree.nodes.size)
    (hrest : tree.Lists stack rest) : tree.Lists (n :: stack) (tree.preorder n ++ rest) := by
  refine h.induction_children (P := fun n => ∀ stack rest, tree.Lists stack rest →
    tree.Lists (n :: stack) (tree.preorder n ++ rest)) (fun n node hnode ih => ?_) n hn stack rest
    hrest
  intro stack rest hrest
  rw [h.preorder_eq hnode]
  exact .round hnode (Lists.append_preorder ih hrest)

/-- If the rounds list no more nodes than there are, their listing is the result. -/
theorem Lists.listStack_eq (h : tree.Lists stack rest) {listed : Array Nat}
    (hsize : listed.size + rest.length ≤ tree.nodes.size) :
    tree.listStack listed stack = some (listed ++ rest.toArray) := by
  induction h generalizing listed with
  | done => simp [listStack]
  | @round n node stack rest hnode _ ih =>
    rw [List.length_cons] at hsize
    have hlt : listed.size < tree.nodes.size := by omega
    have hpushed : (listed.push n).size + rest.length ≤ tree.nodes.size := by
      rw [Array.size_push]
      omega
    have hnext := ih hpushed
    rw [listStack, dif_pos hlt, hnode, Option.bind_some, hnext]
    simp

/-- The listing with a stack is the recursive one. -/
theorem WellFormed.flatten?_eq (h : tree.WellFormed) (hn : n < tree.nodes.size) :
    tree.flatten? n = some (tree.preorder n) := by
  have hlists : tree.Lists [n] (tree.preorder n) := by
    simpa using h.lists_cons hn .done
  have hlength : (tree.preorder n).length ≤ tree.nodes.size := by
    have hsub := (h.preorder_sublist (h.reaches_root hn) h.size_pos).length_le
    simpa [h.preorder_root_perm.length_eq] using hsub
  rw [flatten?, hlists.listStack_eq (by simpa using hlength)]
  simp

/-- From the root the rounds with a stack list all nodes. -/
theorem WellFormed.flatten?_root (h : tree.WellFormed) :
    tree.flatten? root = some (tree.preorder root) :=
  h.flatten?_eq h.size_pos

/-- In every tree that is built, the rounds of a listing with a stack come to an end at each node,
and the result has the node first and then the listings of its children in their order. From the
root it has every node once, and each before all that is below it. -/
theorem flatten?_build (format : Format) (resources : List ResourceDecl) (ids : Identifiers) :
    let tree := (build format resources ids).tree
    (∀ n node, tree.nodes[n]? = some node →
      tree.Lists [n] (tree.preorder n) ∧ tree.flatten? n = some (tree.preorder n) ∧
        tree.preorder n = n :: node.children.values.flatMap tree.preorder) ∧
    ∃ listed, tree.flatten? root = some listed ∧ listed.head? = some root ∧
      listed.Perm (List.range tree.nodes.size) ∧
      ∀ n p, Relation.TransGen tree.IsParent n p → [p, n].Sublist listed := by
  intro tree
  have h : tree.WellFormed := build_wellFormed format resources ids
  constructor
  · intro n node hnode
    have hn := (Array.getElem?_eq_some_iff.mp hnode).1
    exact ⟨by simpa using h.lists_cons hn .done, h.flatten?_eq hn, h.preorder_eq hnode⟩
  · refine ⟨tree.preorder root, h.flatten?_root, ?_, h.preorder_root_perm, ?_⟩
    · rw [h.preorder_eq (n := root) (Array.getElem?_eq_getElem h.size_pos), List.head?_cons]
    · exact fun n p hnp => h.pair_sublist_preorder hnp

end ClientGen.Tree
