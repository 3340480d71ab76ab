import ClientGen.Proofs.Tree.Methods
import ClientGen.Proofs.Tree.Placement

/-!
# Nodes and their segments

A node shows what its segment introduces: the key of the segment, its URI and one parameter for each
of its placeholders. Only the root is there without a segment. A node has all of this when it is
created, and nothing that happens later touches it, so it is kept while a tree is built.
-/

namespace ClientGen

/-- A node shows the key, the URI and the parameters that its segment introduces. -/
structure Node.Faithful (format : Format) (node : Node) : Prop where
  key : Uri.segmentKey? format node.segment = some node.key
  relativeUri_eq : node.relativeUri = Uri.relativeUri format node.segment
  names_eq : node.uriParameters.map Parameter.name = Uri.placeholderNames node.segment

/-- A node stays faithful to its segment when it is extended. -/
theorem Node.Faithful.of_extends {format : Format} {node later : Node}
    (h : node.Faithful format) (hext : node.Extends later) : later.Faithful format where
  key := by
    rw [hext.segment_eq, hext.key_eq]
    exact h.key
  relativeUri_eq := by
    rw [hext.segment_eq, hext.relativeUri_eq]
    exact h.relativeUri_eq
  names_eq := by
    rw [hext.segment_eq, hext.uriParameters_eq]
    exact h.names_eq

namespace Tree

variable {format : Format} {resources : List ResourceDecl} {journal later : Journal}
  {tree laterTree : Tree} {node : Node} {decl : ResourceDecl} {params : OrderedMap Parameter}
  {n child : Nat} {key : String}

/-- The root has no segment, and all other nodes are faithful to theirs. -/
structure Faithful (format : Format) (tree : Tree) : Prop where
  root : ∀ node, tree.nodes[Tree.root]? = some node →
    node.segment = "" ∧ node.relativeUri = "" ∧ node.uriParameters = []
  others : ∀ {n : Nat} {node : Node}, tree.nodes[n]? = some node → n ≠ Tree.root →
    node.Faithful format

/-- The root alone is a faithful tree. -/
theorem faithful_withRoot (format : Format) (id : String) : (withRoot id).Faithful format where
  root node hnode := by
    obtain rfl : { (default : Node) with id } = node := Option.some.inj hnode
    exact ⟨rfl, rfl, rfl⟩
  others {n node} hnode hn := by
    have hlt : n < 1 := (Array.getElem?_eq_some_iff.mp hnode).1
    exact absurd (Nat.lt_one_iff.mp hlt) hn

/-- A later tree is faithful if its nodes continue old ones or are faithful themselves. -/
theorem Faithful.of_extends (h : tree.Faithful format) (hext : tree.Extends laterTree)
    (hpos : 0 < tree.nodes.size)
    (hnodes : ∀ (n : Nat) (node : Node), laterTree.nodes[n]? = some node →
      (∃ old, tree.nodes[n]? = some old ∧ old.Extends node) ∨ node.Faithful format) :
    laterTree.Faithful format where
  root node hnode := by
    obtain ⟨old, hold, hnext⟩ := hext.exists_old hpos hnode
    rw [hnext.segment_eq, hnext.relativeUri_eq, hnext.uriParameters_eq]
    exact h.root _ hold
  others {n node} hnode hn := by
    rcases hnodes n node hnode with ⟨old, hold, hnext⟩ | hfaithful
    · exact (h.others hold hn).of_extends hnext
    · exact hfaithful

/-! ## Keys and segments -/

/-- A child is found under the key of its segment. -/
theorem Faithful.segmentKey?_of_child? (h : tree.Faithful format) (hwf : tree.WellFormed)
    (hchild : tree.child? n key = some child) (hnode : tree.nodes[child]? = some node) :
    Uri.segmentKey? format node.segment = some key := by
  obtain ⟨node', hnode', -, rfl⟩ := hwf.child_parent hchild
  obtain rfl : node' = node := Option.some.inj (hnode'.symm.trans hnode)
  exact (h.others hnode (hwf.child_ne_root hchild)).key

/-- A child is along its segment. -/
theorem Faithful.childAlong?_segment (h : tree.Faithful format) (hwf : tree.WellFormed)
    (hchild : tree.child? n key = some child) (hnode : tree.nodes[child]? = some node) :
    tree.childAlong? format n node.segment = some child :=
  childAlong?_eq_some_iff.mpr
    ⟨key, node, h.segmentKey?_of_child? hwf hchild hnode, hchild, hnode, rfl⟩

/-- A node at the end of a route is faithful to the last part. -/
theorem Faithful.of_follow? (h : tree.Faithful format) (hwf : tree.WellFormed) {start : Nat}
    {route : List String} {part : String}
    (hend : tree.follow? format start (route ++ [part]) = some n)
    (hnode : tree.nodes[n]? = some node) : node.segment = part ∧ node.Faithful format := by
  obtain ⟨p, -, hlast⟩ := follow?_concat_eq_some_iff.mp hend
  obtain ⟨key, node', -, hchild, hnode', hsegment⟩ := childAlong?_eq_some_iff.mp hlast
  obtain rfl : node' = node := Option.some.inj (hnode'.symm.trans hnode)
  exact ⟨hsegment, h.others hnode (hwf.child_ne_root hchild)⟩

/-- A path of keys leads to a node exactly if it consists of the keys of parts that lead there. -/
theorem Faithful.foldlM_child?_eq_some_iff (h : tree.Faithful format) (hwf : tree.WellFormed)
    {start : Nat} {keys : List String} : keys.foldlM tree.child? start = some n ↔
      ∃ route, List.Forall₂ (fun part key => Uri.segmentKey? format part = some key) route keys ∧
        tree.follow? format start route = some n := by
  induction keys generalizing start with
  | nil => simp [pure, eq_comm]
  | cons key rest ih =>
    simp only [List.foldlM_cons, Option.bind_eq_bind, Option.bind_eq_some_iff, ih]
    constructor
    · rintro ⟨child, hchild, route, hkeys, hroute⟩
      obtain ⟨node, hnode, -⟩ := hwf.child_parent hchild
      have hkey := h.segmentKey?_of_child? hwf hchild hnode
      refine ⟨node.segment :: route, .cons hkey hkeys, ?_⟩
      rw [follow?_cons, h.childAlong?_segment hwf hchild hnode]
      exact hroute
    · rintro ⟨_, hkeys, hroute⟩
      cases hkeys with
      | @cons part _ route _ hkey hkeys =>
        rw [follow?_cons, Option.bind_eq_some_iff] at hroute
        obtain ⟨child, hchild, hroute⟩ := hroute
        exact ⟨child, child?_of_childAlong? hchild hkey, route, hkeys, hroute⟩

/-! ## Parameters of a segment -/

/-- The parameters that a walk has at hand have the names under which they are found. -/
theorem name_of_offers (hoffers : decl.Offers params) {name : String} {param : Parameter}
    (hparam : params.get? name = some param) : param.name = name := by
  rcases hoffers with rfl | rfl
  · simp only [Parameter.ofTable, OrderedMap.get?_mapEntries, Option.map_eq_some_iff] at hparam
    obtain ⟨decl, -, rfl⟩ := hparam
    rfl
  · simp only [takeMediaTypes, OrderedMap.get?_modify, Parameter.ofTable,
      OrderedMap.get?_mapEntries, Option.map_eq_some_iff] at hparam
    obtain ⟨_, ⟨decl, -, rfl⟩, rfl⟩ := hparam
    split <;> rfl

/-- The parameter for a placeholder has its name. -/
theorem name_uriParameter (hoffers : decl.Offers params) (name : String) :
    (uriParameter params name).name = name := by
  rw [uriParameter]
  cases hparam : params.get? name with
  | none => rfl
  | some param => exact name_of_offers hoffers hparam

/-- A new node is faithful to the segment that it is created for. -/
theorem faithful_nodeOf (hoffers : decl.Offers params) {segment : String}
    (hkey : Uri.segmentKey? format segment = some key) (id : String) (parent : Option Nat) :
    Node.Faithful format { nodeOf format params id key segment with parent } where
  key := hkey
  relativeUri_eq := rfl
  names_eq := by
    simp only [nodeOf, List.map_map]
    exact List.map_id'' (name_uriParameter hoffers) _

/-! ## Whole builds -/

/-- Every change keeps a tree faithful. -/
theorem Change.faithful (h : Change format resources journal later)
    (hwf : journal.tree.WellFormed) (hfaithful : journal.tree.Faithful format) :
    later.tree.Faithful format := by
  have hext := h.extends.tree
  cases h with
  | warn => exact hfaithful
  | grow hn hkey hfree _ hoffers =>
    refine hfaithful.of_extends hext hwf.size_pos fun i node hnode => ?_
    refine (getElem?_grow_cases hn hfree hnode).imp_right ?_
    rintro ⟨-, rfl⟩
    exact faithful_nodeOf hoffers hkey _ _
  | land =>
    refine hfaithful.of_extends hext hwf.size_pos fun i node hnode => Or.inl ?_
    have hi := (Array.getElem?_eq_some_iff.mp hnode).1
    rw [Journal.tree, Journal.land, size_populate] at hi
    exact hext.exists_old hi hnode

/-- The nodes of a tree that was built are faithful to their segments. -/
theorem build_faithful (format : Format) (resources : List ResourceDecl) (ids : Identifiers) :
    (build format resources ids).tree.Faithful format := by
  rw [← draft_history]
  exact history_keeps (P := fun journal => journal.tree.Faithful format)
    (fun _ _ hchange => hchange.faithful) (faithful_withRoot format _)

end Tree

end ClientGen
