import ClientGen.Proofs.Tree.Journal

/-!
# What happens while a tree is built

A build changes its journal in three ways only: it gives a warning, it adds a node under a free key,
or a declaration lands on a node that one of its routes leads to. Warnings are given and nodes added
only on the way along a route. This file says so once for the whole recursion; what the three
changes keep then holds of every build. In particular every tree that is built is well formed.
-/

namespace ClientGen.Tree

variable {format : Format} {resources : List ResourceDecl} {journal later latest final : Journal}
  {draft : Draft} {tree laterTree : Tree} {decl : ResourceDecl} {params : OrderedMap Parameter}
  {n : Nat} {key segment relativeUri : String} {rest : List String}

/-! ## On the way along a route -/

/-- A walk of a declaration has come to a node, from where the rest of one of its routes is left. -/
def OnWay (format : Format) (resources : List ResourceDecl) (tree : Tree) (decl : ResourceDecl)
    (n : Nat) (rest : List String) : Prop :=
  ∃ chain start trail, Lineage resources (decl :: chain) ∧ tree.LandsOn format chain start ∧
    trail ++ rest ∈ decl.routes ∧ tree.follow? format start trail = some n

/-- A walk stays on its way when the tree is extended. -/
theorem OnWay.mono (h : OnWay format resources tree decl n rest) (hext : tree.Extends laterTree) :
    OnWay format resources laterTree decl n rest := by
  obtain ⟨chain, start, trail, hlineage, hstart, hroute, htrail⟩ := h
  exact ⟨chain, start, trail, hlineage, hstart.mono hext, hroute, hext.follow? htrail⟩

/-- Going along the next segments leaves the rest after them. -/
theorem OnWay.next {first : List String} {last : Nat}
    (h : OnWay format resources tree decl n (first ++ rest))
    (hfirst : tree.follow? format n first = some last) :
    OnWay format resources tree decl last rest := by
  obtain ⟨chain, start, trail, hlineage, hstart, hroute, htrail⟩ := h
  refine ⟨chain, start, trail ++ first, hlineage, hstart, ?_, ?_⟩
  · rwa [List.append_assoc]
  · rw [follow?_append, htrail]
    exact hfirst

/-- A segment leads nowhere from a node, for the reason that a warning gives. -/
inductive Refuses (tree : Tree) (format : Format) (relativeUri : String) (n : Nat)
    (segment : String) : Warning → Prop where
  | unmappable : Uri.segmentKey? format segment = none →
    Refuses tree format relativeUri n segment (.unmappableSegment relativeUri segment)
  | collision {key : String} {child : Nat} {node : Node} :
    Uri.segmentKey? format segment = some key → tree.child? n key = some child →
    tree.nodes[child]? = some node → node.segment ≠ segment →
    Refuses tree format relativeUri n segment (.keyCollision key node.segment segment)

/-- A segment that is refused leads nowhere at any later time. -/
theorem Refuses.childAlong?_eq_none {warning : Warning}
    (h : tree.Refuses format relativeUri n segment warning) (hext : tree.Extends laterTree) :
    laterTree.childAlong? format n segment = none := by
  cases h with
  | unmappable hkey => exact childAlong?_of_segmentKey?_eq_none hkey
  | collision hkey hchild hnode hsegment =>
    exact hext.childAlong?_eq_none hkey hchild hnode hsegment

/-- The key of a segment that is refused is taken, now and later. -/
theorem Refuses.exists_child? {warning : Warning} {key : String}
    (h : tree.Refuses format relativeUri n segment warning) (hext : tree.Extends laterTree)
    (hkey : Uri.segmentKey? format segment = some key) :
    ∃ child, laterTree.child? n key = some child := by
  cases h with
  | unmappable hnone =>
    rw [hnone] at hkey
    cases hkey
  | @collision taken child _ htaken hchild =>
    obtain rfl : taken = key := Option.some.inj (htaken.symm.trans hkey)
    exact ⟨child, hext.child? hchild⟩

/-! ## The three changes -/

/-- The changes that a build can make to its journal. -/
inductive Change (format : Format) (resources : List ResourceDecl) : Journal → Journal → Prop where
  | warn (journal : Journal) {decl : ResourceDecl} {n : Nat} {segment : String}
    {rest : List String} {warning : Warning} :
    OnWay format resources journal.tree decl n (segment :: rest) →
    journal.tree.Refuses format decl.relativeUri n segment warning →
    Change format resources journal { journal with draft := journal.draft.warn warning }
  | grow (journal : Journal) {decl : ResourceDecl} {params : OrderedMap Parameter} {n : Nat}
    {key segment : String} {rest : List String} :
    n < journal.tree.nodes.size → Uri.segmentKey? format segment = some key →
    journal.tree.child? n key = none →
    OnWay format resources journal.tree decl n (segment :: rest) → decl.Offers params →
    Change format resources journal
      { journal with draft := (journal.draft.grow format params n key segment).1 }
  | land (journal : Journal) {decl : ResourceDecl} {chain : List ResourceDecl} {start last : Nat}
    {route : List String} :
    Lineage resources (decl :: chain) → journal.tree.LandsOn format chain start →
    route ∈ decl.routes → journal.tree.follow? format start route = some last →
    Change format resources journal (journal.land format ⟨start, last, decl⟩)

/-- One journal comes after another one in a build. -/
def Develops (format : Format) (resources : List ResourceDecl) : Journal → Journal → Prop :=
  Relation.ReflTransGen (Change format resources)

/-- What every change keeps is kept. -/
theorem Develops.keeps {P : Journal → Prop} (h : Develops format resources journal later)
    (hchange : ∀ journal later, Change format resources journal later → P journal → P later)
    (hP : P journal) : P later := by
  induction h with
  | refl => exact hP
  | tail _ hlast ih => exact hchange _ _ hlast ih

/-- A later journal: the tree, the warnings and the landings are continued. -/
structure Journal.Extends (journal later : Journal) : Prop where
  tree : journal.tree.Extends later.tree
  warnings : journal.warnings <+: later.warnings
  landings : journal.landings <+: later.landings

/-- A journal extends itself. -/
theorem Journal.Extends.refl (journal : Journal) : journal.Extends journal :=
  ⟨.refl _, List.prefix_rfl, List.prefix_rfl⟩

/-- A journal that is extended twice extends the first one. -/
theorem Journal.Extends.trans (h : journal.Extends later) (h' : later.Extends latest) :
    journal.Extends latest :=
  ⟨h.tree.trans h'.tree, h.warnings.trans h'.warnings, h.landings.trans h'.landings⟩

/-- Adding a node under a free key extends the tree. -/
theorem extends_grow (hn : n < draft.tree.nodes.size) (hfree : draft.tree.child? n key = none) :
    draft.tree.Extends (draft.grow format params n key segment).1.tree :=
  extends_attach hn hfree

/-- Growing adds one node. -/
theorem size_grow : (draft.grow format params n key segment).1.tree.nodes.size =
    draft.tree.nodes.size + 1 :=
  size_attach

/-- The node that is added is the last one. -/
theorem getElem?_size_grow (hn : n < draft.tree.nodes.size) :
    (draft.grow format params n key segment).1.tree.nodes[draft.tree.nodes.size]? =
      some { nodeOf format params (format.nextId draft.ids "resource").1 key segment with
        parent := some n } :=
  (getElem?_attach hn).trans (if_pos rfl)

/-- A node afterwards continues one that was there, or is the one that is added. -/
theorem getElem?_grow_cases (hn : n < draft.tree.nodes.size)
    (hfree : draft.tree.child? n key = none) {i : Nat} {node : Node}
    (hnode : (draft.grow format params n key segment).1.tree.nodes[i]? = some node) :
    (∃ old, draft.tree.nodes[i]? = some old ∧ old.Extends node) ∨
      i = draft.tree.nodes.size ∧
        node = { nodeOf format params (format.nextId draft.ids "resource").1 key segment with
          parent := some n } := by
  have hi := (Array.getElem?_eq_some_iff.mp hnode).1
  rw [size_grow] at hi
  rcases Nat.lt_succ_iff_lt_or_eq.mp hi with hlt | rfl
  · exact Or.inl ((extends_grow hn hfree).exists_old hlt hnode)
  · rw [getElem?_size_grow hn, Option.some.injEq] at hnode
    exact Or.inr ⟨rfl, hnode.symm⟩

/-- Every change continues the journal. -/
theorem Change.extends (h : Change format resources journal later) : journal.Extends later := by
  cases h with
  | warn => exact ⟨.refl _, List.prefix_append _ _, List.prefix_rfl⟩
  | grow hn _ hfree => exact ⟨extends_grow hn hfree, List.prefix_rfl, List.prefix_rfl⟩
  | land => exact ⟨extends_populate _ _ _ _, List.prefix_rfl, List.prefix_append _ _⟩

/-- Every change keeps the tree well formed. -/
theorem Change.wellFormed (h : Change format resources journal later)
    (hwf : journal.tree.WellFormed) : later.tree.WellFormed := by
  cases h with
  | warn => exact hwf
  | grow hn _ hfree => exact hwf.attach hn hfree rfl
  | land => exact hwf.populate format _ _

/-- A journal that comes later extends the earlier one. -/
theorem Develops.extends (h : Develops format resources journal later) : journal.Extends later :=
  h.keeps (P := journal.Extends) (fun _ _ hchange hext => hext.trans hchange.extends) (.refl _)

/-- A journal that comes later has a well-formed tree if the earlier one has. -/
theorem Develops.wellFormed (h : Develops format resources journal later)
    (hwf : journal.tree.WellFormed) : later.tree.WellFormed :=
  h.keeps (P := fun journal => journal.tree.WellFormed) (fun _ _ hchange => hchange.wellFormed) hwf

/-! ## A step of a walk -/

/-- The node that a step added is the child along its segment. -/
theorem childAlong?_grow (params : OrderedMap Parameter) (hn : n < draft.tree.nodes.size)
    (hkey : Uri.segmentKey? format segment = some key) (hfree : draft.tree.child? n key = none) :
    (draft.grow format params n key segment).1.tree.childAlong? format n segment =
      some draft.tree.nodes.size := by
  have hchild : (draft.grow format params n key segment).1.tree.child? n key =
      some draft.tree.nodes.size :=
    (child?_attach_eq_some_iff hn hfree rfl).mpr (Or.inr ⟨rfl, rfl, rfl⟩)
  exact childAlong?_eq_some_iff.mpr ⟨key, _, hkey, hchild, getElem?_size_grow hn, rfl⟩

/-- All that a step can do. A lone slash stays; another segment goes to the child along it, adds
that child, or is refused and ends the walk with a warning. -/
theorem step_cases (format : Format) (hwf : draft.tree.WellFormed) (relativeUri : String)
    (params : OrderedMap Parameter) (n : Nat) (segment : String) :
    (segment = "/" ∧ draft.step format relativeUri params n segment = (draft, some n)) ∨
    (segment ≠ "/" ∧ ∃ child, draft.tree.childAlong? format n segment = some child ∧
      draft.step format relativeUri params n segment = (draft, some child)) ∨
    (segment ≠ "/" ∧ ∃ key, Uri.segmentKey? format segment = some key ∧
      draft.tree.child? n key = none ∧ draft.step format relativeUri params n segment =
        ((draft.grow format params n key segment).1, some draft.tree.nodes.size)) ∨
    (segment ≠ "/" ∧ ∃ warning, draft.tree.Refuses format relativeUri n segment warning ∧
      draft.step format relativeUri params n segment = (draft.warn warning, none)) := by
  by_cases hslash : segment = "/"
  · exact Or.inl ⟨hslash, by rw [Draft.step, if_pos hslash]⟩
  refine Or.inr ?_
  rw [Draft.step, if_neg hslash]
  cases hkey : Uri.segmentKey? format segment with
  | none =>
    exact Or.inr (Or.inr ⟨hslash, _, .unmappable hkey, rfl⟩)
  | some key =>
    cases hchild : draft.tree.child? n key with
    | none => exact Or.inr (Or.inl ⟨hslash, key, rfl, hchild, by simp only [hchild]; rfl⟩)
    | some child =>
      obtain ⟨node, hnode, -⟩ := hwf.child_parent hchild
      simp only [hchild, hnode, Option.map_some, Option.getD_some]
      by_cases hsegment : node.segment = segment
      · rw [if_pos hsegment]
        refine Or.inl ⟨hslash, child, ?_, rfl⟩
        exact childAlong?_eq_some_iff.mpr ⟨key, node, hkey, hchild, hnode, hsegment⟩
      · rw [if_neg hsegment]
        exact Or.inr (Or.inr ⟨hslash, _, .collision hkey hchild hnode hsegment, rfl⟩)

/-- A step along a segment that leads to a child goes there and changes nothing. -/
theorem step_of_childAlong?_eq_some (hwf : draft.tree.WellFormed) (hslash : segment ≠ "/")
    (relativeUri : String) (params : OrderedMap Parameter) {child : Nat}
    (hchild : draft.tree.childAlong? format n segment = some child) :
    draft.step format relativeUri params n segment = (draft, some child) := by
  rcases step_cases format hwf relativeUri params n segment with
    ⟨heq, -⟩ | ⟨-, child', hchild', hstep⟩ | ⟨-, key, hkey, hfree, -⟩ | ⟨-, _, hrefused, -⟩
  · exact absurd heq hslash
  · obtain rfl : child = child' := Option.some.inj (hchild.symm.trans hchild')
    exact hstep
  · rw [child?_of_childAlong? hchild hkey] at hfree
    cases hfree
  · rw [hrefused.childAlong?_eq_none (.refl _)] at hchild
    cases hchild

/-- A step along a segment that can never lead anywhere is refused. -/
theorem step_of_childAlong?_eq_none (format : Format) (hwf : draft.tree.WellFormed)
    (hn : n < draft.tree.nodes.size) (hslash : segment ≠ "/") (relativeUri : String)
    (params : OrderedMap Parameter)
    (hnever : ∀ later : Tree, draft.tree.Extends later →
      later.childAlong? format n segment = none) :
    ∃ warning, draft.step format relativeUri params n segment = (draft.warn warning, none) := by
  rcases step_cases format hwf relativeUri params n segment with
    ⟨heq, -⟩ | ⟨-, child, hchild, -⟩ | ⟨-, key, hkey, hfree, -⟩ | ⟨-, warning, -, hstep⟩
  · exact absurd heq hslash
  · rw [hnever _ (.refl _)] at hchild
    cases hchild
  · have hgrown := childAlong?_grow params hn hkey hfree
    rw [hnever _ (extends_grow hn hfree)] at hgrown
    cases hgrown
  · exact ⟨warning, hstep⟩

end ClientGen.Tree
