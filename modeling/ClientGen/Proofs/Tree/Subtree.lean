import ClientGen.Proofs.Tree.Merging
import ClientGen.Proofs.Tree.Traversal

/-!
# What is placed below a node

Declarations that are placed from a node are walked along from there downwards, and children come
after their parents. So whatever is placed from a node, the nodes before it keep their children.
-/

namespace ClientGen.Tree

variable {format : Format} {resources : List ResourceDecl} {tree : Tree} {draft base : Draft}
  {params : OrderedMap Parameter} {n i m : Nat} {key segment : String}

/-- The children of a node with their keys, in their order. -/
def childrenAt (tree : Tree) (n : Nat) : List (String × Nat) :=
  tree.readAt (fun node => node.children.entries) [] n

/-- Adding methods adds no children. -/
theorem childrenAt_addMethods (methods : List Method) :
    (methods.foldl (fun tree method => tree.addMethod n method) tree).childrenAt i =
      tree.childrenAt i := by
  induction methods generalizing tree with
  | nil => rfl
  | cons method rest ih =>
    rw [List.foldl_cons, ih]
    exact readAt_modifyNode_of_eq fun _ => rfl

/-- Populating a node adds no child. -/
theorem childrenAt_populate (draft : Draft) (format : Format) (n : Nat) (decl : ResourceDecl) :
    (draft.populate format n decl).tree.childrenAt i = draft.tree.childrenAt i := by
  have hmethods : childrenAt _ i = draft.tree.childrenAt i :=
    childrenAt_addMethods (n := n) (methodsOf format n decl.methods draft.ids).1.values
  rw [← hmethods]
  simp only [Draft.populate]
  split
  · exact readAt_modifyNode_of_eq fun _ => rfl
  · rfl

/-- A new node is the last child of its parent, and of no other node. -/
theorem childrenAt_grow (hn : n < draft.tree.nodes.size) (hfree : draft.tree.child? n key = none) :
    (draft.grow format params n key segment).1.tree.childrenAt i =
      if i = n then draft.tree.childrenAt n ++ [(key, draft.tree.nodes.size)]
      else draft.tree.childrenAt i := by
  have hnodes : (draft.grow format params n key segment).1.tree.nodes[i]? = _ := getElem?_attach hn
  rw [childrenAt, readAt, hnodes]
  by_cases hlast : i = draft.tree.nodes.size
  · have hother : i ≠ n := by omega
    rw [if_pos hlast, if_neg hother, childrenAt, readAt, Array.getElem?_eq_none (by omega)]
    rfl
  · rw [if_neg hlast]
    by_cases hi : i = n
    · subst hi
      have hnode := Array.getElem?_eq_getElem hn
      have hget : draft.tree.nodes[i].children.get? key = none := by
        simpa [Tree.child?, hnode] using hfree
      rw [if_pos rfl, if_pos rfl, hnode, Option.map_some, Option.map_some, Option.getD_some,
        childrenAt, readAt_of_getElem? hnode]
      exact OrderedMap.entries_insert_of_get?_eq_none hget _
    · rw [if_neg (Ne.symm hi), if_neg hi]
      rfl

/-! ## Growth below a node -/

/-- A draft continues another one, in which a node and those before it keep their children, and
there is a later node. -/
structure Draft.GrownBelow (i : Nat) (base draft : Draft) (m : Nat) : Prop where
  wellFormed : draft.tree.WellFormed
  extends_tree : base.tree.Extends draft.tree
  childrenAt_eq : ∀ j ≤ i, draft.tree.childrenAt j = base.tree.childrenAt j
  lt : i < m
  lt_size : m < draft.tree.nodes.size

/-- A new node below a later node is such growth. -/
theorem Draft.GrownBelow.grow (hm : Draft.GrownBelow i base draft m)
    (hn : Draft.GrownBelow i base draft n) (format : Format) (params : OrderedMap Parameter)
    (segment : String) (hfree : draft.tree.child? n key = none) :
    Draft.GrownBelow i base (draft.grow format params n key segment).1 m := by
  have hext : draft.tree.Extends (draft.grow format params n key segment).1.tree :=
    extends_grow hn.lt_size hfree
  refine ⟨hn.wellFormed.attach hn.lt_size hfree rfl, hm.extends_tree.trans hext, fun j hj => ?_,
    hm.lt, hext.lt_size hm.lt_size⟩
  have hother : j ≠ n := Nat.ne_of_lt (Nat.lt_of_le_of_lt hj hn.lt)
  rw [childrenAt_grow hn.lt_size hfree, if_neg hother, hm.childrenAt_eq j hj]

/-- Nodes after a node lead to later ones, and only these get children. -/
theorem keeps_grownBelow (format : Format) (resources : List ResourceDecl) (i : Nat)
    (base : Draft) :
    (Visitor.drafts format).Keeps resources (Draft.GrownBelow i base) where
  step {decl _ params n m segment draft} _ _ hn hm := by
    rcases step_cases format hn.wellFormed decl.relativeUri params n segment with
      ⟨-, hstep⟩ | ⟨-, child, -, hstep⟩ | ⟨-, key, -, hfree, hstep⟩ | ⟨-, warning, -, hstep⟩ <;>
      simp only [Visitor.drafts, hstep]
    · exact hm
    · exact hm
    · exact hm.grow hn format params segment hfree
    · exact ⟨hm.wellFormed, hm.extends_tree, hm.childrenAt_eq, hm.lt, hm.lt_size⟩
  leads {decl _ params n last segment draft} _ _ hn hlast := by
    rcases step_cases format hn.wellFormed decl.relativeUri params n segment with
      ⟨-, hstep⟩ | ⟨-, child, hchild, hstep⟩ | ⟨-, key, -, hfree, hstep⟩ |
      ⟨-, warning, -, hstep⟩ <;>
      simp only [Visitor.drafts, hstep, Option.some.injEq, reduceCtorEq] at hlast ⊢
    · exact hlast ▸ hn
    · obtain ⟨_, _, -, hin, -⟩ := childAlong?_eq_some_iff.mp hchild
      obtain ⟨hlt, hsize⟩ := hn.wellFormed.lt_child hin
      subst hlast
      exact { hn with lt := Nat.lt_trans hn.lt hlt, lt_size := hsize }
    · have hgrown := hn.grow hn format params segment hfree
      subst hlast
      exact { hgrown with
        lt := Nat.lt_trans hn.lt hn.lt_size
        lt_size := by rw [size_grow]; exact Nat.lt_succ_self _ }
  land {decl _ n m draft} _ _ hm := by
    have hext := extends_populate draft format n decl
    refine ⟨hm.wellFormed.populate format n decl, hm.extends_tree.trans hext, fun j hj => ?_, hm.lt,
      hext.lt_size hm.lt_size⟩
    exact (childrenAt_populate draft format n decl).trans (hm.childrenAt_eq j hj)

/-- Placing declarations from a node changes nothing before it but what nodes show. -/
theorem Draft.GrownBelow.placeAll {start : Nat} (h : Draft.GrownBelow i base draft start)
    (format : Format) (decls : List ResourceDecl) :
    Draft.GrownBelow i base (placeAll format decls start draft) start := by
  rw [← Visitor.visitAll_drafts]
  exact (keeps_grownBelow format decls i base).visitAll decls [] (fun _ => .top) start start draft
    h h

end ClientGen.Tree
