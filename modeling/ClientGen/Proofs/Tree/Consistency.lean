import ClientGen.Proofs.Tree.Faithful
import ClientGen.Proofs.Tree.Landing

/-!
# Consistent declarations

Nested declarations lead along paths of parts, whatever tree is built for them. They are consistent
if every part on such a path has a key, and if no two parts that continue one path have the same
key. A build gives no warning exactly for consistent declarations: a warning names a part that
breaks the rule, and without warnings all paths are found in the tree, where a part that breaks it
has no place.
-/

namespace ClientGen.Tree

/-- A path of parts that nested declarations, innermost first, lead along: one of their routes after
the other. -/
inductive LeadsAlong : List ResourceDecl → List String → Prop where
  | root : LeadsAlong [] []
  | land {decl : ResourceDecl} {chain : List ResourceDecl} {path route : List String} :
    LeadsAlong chain path → route ∈ decl.routes → LeadsAlong (decl :: chain) (path ++ route)

/-- Some of the nested declarations lead along a path, and perhaps further. -/
def Visits (resources : List ResourceDecl) (path : List String) : Prop :=
  ∃ chain full, Lineage resources chain ∧ LeadsAlong chain full ∧ path <+: full

/-- Declarations are consistent if all parts on their paths have keys, and parts with one key are
the same wherever they continue the same path. -/
structure Consistent (format : Format) (resources : List ResourceDecl) : Prop where
  exists_key : ∀ {path : List String} {part : String}, Visits resources (path ++ [part]) →
    ∃ key, Uri.segmentKey? format part = some key
  eq_of_key_eq : ∀ {path : List String} {part other : String}, Visits resources (path ++ [part]) →
    Visits resources (path ++ [other]) →
    Uri.segmentKey? format part = Uri.segmentKey? format other → part = other

/-- A declaration that leads along a path has a method under a key. -/
def Declares (format : Format) (resources : List ResourceDecl) (path : List String)
    (key : String) : Prop :=
  ∃ decl chain, Lineage resources (decl :: chain) ∧ LeadsAlong (decl :: chain) path ∧
    ∃ method ∈ decl.methods, format.writeName method.method = key

variable {format : Format} {resources : List ResourceDecl} {ids : Identifiers}
  {journal later : Journal} {tree : Tree} {node : Node} {decl : ResourceDecl}
  {chain : List ResourceDecl} {path other rest : List String} {n child : Nat}
  {key part segment relativeUri : String} {warning : Warning}

/-! ## Paths in a tree -/

/-- Declarations land where the paths that they lead along end. -/
theorem landsOn_iff : tree.LandsOn format chain n ↔
    ∃ path, LeadsAlong chain path ∧ tree.follow? format root path = some n := by
  constructor
  · intro h
    induction h with
    | root => exact ⟨[], .root, rfl⟩
    | @land decl chain start last route _ hroute hlast ih =>
      obtain ⟨path, hpath, hstart⟩ := ih
      refine ⟨path ++ route, .land hpath hroute, ?_⟩
      rw [follow?_append, hstart]
      exact hlast
  · rintro ⟨path, hpath, hn⟩
    induction hpath generalizing n with
    | root =>
      obtain rfl : root = n := Option.some.inj hn
      exact .root
    | land _ hroute ih =>
      rw [follow?_append, Option.bind_eq_some_iff] at hn
      obtain ⟨start, hstart, hlast⟩ := hn
      exact .land (ih hstart) hroute hlast

/-- Different paths lead to different nodes. -/
theorem WellFormed.path_unique (h : tree.WellFormed)
    (hpath : tree.follow? format root path = some n)
    (hother : tree.follow? format root other = some n) : path = other := by
  have hsegments := h.map_segment_pathTo hpath
  rw [h.map_segment_pathTo hother] at hsegments
  exact (List.append_cancel_left hsegments).symm

/-- Every node is at the end of a path that declarations lead along. -/
def Explored (format : Format) (resources : List ResourceDecl) (tree : Tree) : Prop :=
  ∀ n < tree.nodes.size, ∃ path, tree.follow? format root path = some n ∧
    (path = [] ∨ Visits resources path)

/-- A path that leads to a node is one of those. -/
theorem Explored.visits (h : Explored format resources tree) (hwf : tree.WellFormed)
    (hpath : tree.follow? format root path = some n) : path = [] ∨ Visits resources path := by
  obtain ⟨other, hother, hvisits⟩ := h n (hwf.follow?_lt_size hwf.size_pos hpath)
  rwa [hwf.path_unique hpath hother]

/-- The segment of a child continues the path to its parent. -/
theorem Explored.visits_segment (h : Explored format resources tree) (hwf : tree.WellFormed)
    (hfaithful : tree.Faithful format) (hpath : tree.follow? format root path = some n)
    (hchild : tree.child? n key = some child) (hnode : tree.nodes[child]? = some node) :
    Visits resources (path ++ [node.segment]) := by
  have halong := hfaithful.childAlong?_segment hwf hchild hnode
  have hend := follow?_concat_eq_some_iff.mpr ⟨n, hpath, halong⟩
  exact (h.visits hwf hend).resolve_left (by simp)

/-- The next part on the way continues the path to the node that a walk has come to. -/
theorem OnWay.visits (h : OnWay format resources tree decl n (part :: rest)) :
    ∃ path, tree.follow? format root path = some n ∧ Visits resources (path ++ [part]) := by
  obtain ⟨chain, start, trail, hlineage, hstart, hroute, htrail⟩ := h
  obtain ⟨path, hpath, hfollow⟩ := landsOn_iff.mp hstart
  refine ⟨path ++ trail, ?_, decl :: chain, _, hlineage, .land hpath hroute, rest, by simp⟩
  rw [follow?_append, hfollow]
  exact htrail

/-- Every change keeps a tree explored. -/
theorem Change.explored (h : Change format resources journal later)
    (hexplored : Explored format resources journal.tree) :
    Explored format resources later.tree := by
  have hext := h.extends.tree
  have hold : ∀ n < journal.tree.nodes.size, ∃ path,
      later.tree.follow? format root path = some n ∧ (path = [] ∨ Visits resources path) := by
    intro n hn
    obtain ⟨path, hpath, hvisits⟩ := hexplored n hn
    exact ⟨path, hext.follow? hpath, hvisits⟩
  cases h with
  | warn => exact hexplored
  | @grow decl params n key segment rest hn hkey hfree hway =>
    intro i hi
    rw [Journal.tree, size_grow] at hi
    rcases Nat.lt_succ_iff_lt_or_eq.mp hi with hlt | rfl
    · exact hold i hlt
    · obtain ⟨path, hpath, hvisits⟩ := hway.visits
      refine ⟨path ++ [segment], follow?_concat_eq_some_iff.mpr ?_, Or.inr hvisits⟩
      exact ⟨n, hext.follow? hpath, childAlong?_grow params hn hkey hfree⟩
  | land =>
    intro i hi
    rw [Journal.tree, Journal.land, size_populate] at hi
    exact hold i hi

/-- Declarations that are consistent are not refused. A child in the way would itself be at the end
of a path, which continues the same one. -/
theorem Consistent.not_refuses (h : Consistent format resources) (hwf : tree.WellFormed)
    (hfaithful : tree.Faithful format) (hexplored : Explored format resources tree)
    (hway : OnWay format resources tree decl n (segment :: rest)) :
    ¬tree.Refuses format relativeUri n segment warning := by
  obtain ⟨path, hpath, hvisits⟩ := hway.visits
  intro hrefused
  cases hrefused with
  | unmappable hkey =>
    obtain ⟨key, hkey'⟩ := h.exists_key hvisits
    rw [hkey] at hkey'
    cases hkey'
  | @collision key child node hkey hchild hnode hsegment =>
    have hsegmentKey := hfaithful.segmentKey?_of_child? hwf hchild hnode
    have hvisitsOther := hexplored.visits_segment hwf hfaithful hpath hchild hnode
    exact hsegment (h.eq_of_key_eq hvisitsOther hvisits (hsegmentKey.trans hkey.symm))

/-- No change gives a warning if the declarations are consistent. -/
theorem Change.warnings_eq_nil (h : Change format resources journal later)
    (hconsistent : Consistent format resources) (hwf : journal.tree.WellFormed)
    (hfaithful : journal.tree.Faithful format)
    (hexplored : Explored format resources journal.tree) (hquiet : journal.warnings = []) :
    later.warnings = [] := by
  cases h with
  | warn hway hrefused =>
    exact absurd hrefused (hconsistent.not_refuses hwf hfaithful hexplored hway)
  | grow => exact hquiet
  | land => exact hquiet

/-! ## Whole builds -/

/-- The root is at the end of the empty path. -/
theorem explored_withRoot (format : Format) (resources : List ResourceDecl) (id : String) :
    Explored format resources (withRoot id) := by
  intro n hn
  obtain rfl : n = root := Nat.lt_one_iff.mp hn
  exact ⟨[], rfl, Or.inl rfl⟩

/-- Every node that is built is at the end of a path that declarations lead along. -/
theorem build_explored (format : Format) (resources : List ResourceDecl) (ids : Identifiers) :
    Explored format resources (build format resources ids).tree := by
  rw [← draft_history]
  exact history_keeps (P := fun journal => Explored format resources journal.tree)
    (fun _ _ hchange _ => hchange.explored) (explored_withRoot format resources _)

/-- Consistent declarations are built without warnings. -/
theorem Consistent.build_warnings_eq_nil (h : Consistent format resources) (ids : Identifiers) :
    (build format resources ids).warnings = [] := by
  rw [← draft_history]
  let P (journal : Journal) : Prop := journal.tree.Faithful format ∧
    Explored format resources journal.tree ∧ journal.warnings = []
  have hfresh : P (fresh format ids) :=
    ⟨faithful_withRoot _ _, explored_withRoot _ _ _, rfl⟩
  have hkept : P (history format resources ids) := by
    refine history_keeps (fun journal later hchange hwf hP => ?_) hfresh
    obtain ⟨hfaithful, hexplored, hquiet⟩ := hP
    exact ⟨hchange.faithful hwf hfaithful, hchange.explored hexplored,
      hchange.warnings_eq_nil h hwf hfaithful hexplored hquiet⟩
  exact hkept.2.2

/-- Without warnings the paths that declarations lead along are found in the tree. -/
theorem exists_follow?_of_leadsAlong (hquiet : (history format resources ids).warnings = [])
    (h : LeadsAlong chain path) (hlineage : chain = [] ∨ Lineage resources chain) :
    ∃ n, (history format resources ids).tree.follow? format root path = some n := by
  induction h with
  | root => exact ⟨root, rfl⟩
  | land hpath hroute ih =>
    have hlineage := hlineage.resolve_left (by simp)
    obtain ⟨start, hstart⟩ := ih hlineage.outer
    have hlands := landsOn_iff.mpr ⟨_, hpath, hstart⟩
    obtain ⟨last, hlast⟩ := (history_settled hlineage hlands).leads hroute hquiet
    refine ⟨last, ?_⟩
    rw [follow?_append, hstart]
    exact hlast

/-- Without warnings every path that is visited is found in the tree. -/
theorem exists_follow?_of_visits (hquiet : (build format resources ids).warnings = [])
    (h : path = [] ∨ Visits resources path) :
    ∃ n, (build format resources ids).tree.follow? format root path = some n := by
  rw [← draft_history] at hquiet ⊢
  rcases h with rfl | ⟨chain, _, hlineage, hleads, rest, rfl⟩
  · exact ⟨root, rfl⟩
  · obtain ⟨last, hlast⟩ := exists_follow?_of_leadsAlong hquiet hleads (Or.inr hlineage)
    rw [follow?_append, Option.bind_eq_some_iff] at hlast
    obtain ⟨n, hn, -⟩ := hlast
    exact ⟨n, hn⟩

/-- Without warnings the last part of a path leads to a child. -/
theorem exists_childAlong?_of_visits (hquiet : (build format resources ids).warnings = [])
    (h : Visits resources (path ++ [part])) :
    ∃ n child, (build format resources ids).tree.follow? format root path = some n ∧
      (build format resources ids).tree.childAlong? format n part = some child := by
  obtain ⟨child, hend⟩ := exists_follow?_of_visits hquiet (Or.inr h)
  obtain ⟨n, hn, hchild⟩ := follow?_concat_eq_some_iff.mp hend
  exact ⟨n, child, hn, hchild⟩

/-- Declarations that are built without warnings are consistent. Two parts with one key lead from
one node to its child under that key, which has one segment. -/
theorem consistent_of_warnings_eq_nil (hquiet : (build format resources ids).warnings = []) :
    Consistent format resources where
  exists_key hvisits := by
    obtain ⟨n, child, -, hchild⟩ := exists_childAlong?_of_visits hquiet hvisits
    obtain ⟨key, _, hkey, -⟩ := childAlong?_eq_some_iff.mp hchild
    exact ⟨key, hkey⟩
  eq_of_key_eq hvisits hvisits' hsame := by
    obtain ⟨n, child, hn, hchild⟩ := exists_childAlong?_of_visits hquiet hvisits
    obtain ⟨n', child', hn', hchild'⟩ := exists_childAlong?_of_visits hquiet hvisits'
    obtain rfl : n = n' := Option.some.inj (hn.symm.trans hn')
    obtain ⟨key, node, hkey, hin, hnode, rfl⟩ := childAlong?_eq_some_iff.mp hchild
    obtain ⟨key', node', hkey', hin', hnode', rfl⟩ := childAlong?_eq_some_iff.mp hchild'
    obtain rfl : key = key' := Option.some.inj (hkey.symm.trans (hsame.trans hkey'))
    obtain rfl : child = child' := Option.some.inj (hin.symm.trans hin')
    rw [Option.some.inj (hnode.symm.trans hnode')]

/-- A build gives no warning exactly if the declarations are consistent. This does not depend on the
order of the declarations, nor on the identifiers. -/
theorem warnings_build_eq_nil_iff :
    (build format resources ids).warnings = [] ↔ Consistent format resources :=
  ⟨consistent_of_warnings_eq_nil, fun h => h.build_warnings_eq_nil ids⟩

/-- The node at the end of a path has exactly the methods that are declared there. -/
theorem hasMethod_iff_declares
    (hpath : (build format resources ids).tree.follow? format root path = some n) :
    (build format resources ids).tree.HasMethod n key ↔ Declares format resources path key := by
  have hwf := build_wellFormed format resources ids
  have hlanded {landing : Landing} : landing ∈ (history format resources ids).landings ↔
      landing.Sound format resources (build format resources ids).tree := by
    rw [mem_landings_iff, Journal.tree, draft_history]
  rw [hasMethod_build_iff]
  constructor
  · rintro ⟨landing, hlanding, rfl, hmethod⟩
    obtain ⟨chain, hlineage, hstart, route, hroute, hlast⟩ := hlanded.mp hlanding
    obtain ⟨path', hleads, hpath'⟩ := landsOn_iff.mp (.land hstart hroute hlast)
    obtain rfl := hwf.path_unique hpath' hpath
    exact ⟨landing.decl, chain, hlineage, hleads, hmethod⟩
  · rintro ⟨decl, chain, hlineage, hleads, hmethod⟩
    cases landsOn_iff.mpr ⟨path, hleads, hpath⟩ with
    | @land _ _ start _ route hstart hroute hlast =>
      exact ⟨⟨start, n, decl⟩, hlanded.mpr ⟨chain, hlineage, hstart, route, hroute, hlast⟩, rfl,
        hmethod⟩

/-- A child of the node at the end of a path has the key of every part that declarations continue
the path with, unless the part has no key. The part is on the way to the innermost declaration or on
one of its routes. -/
theorem exists_child?_of_leadsAlong {full : List String} (h : LeadsAlong chain full)
    (hlineage : chain = [] ∨ Lineage resources chain) (hfull : path ++ [part] <+: full)
    (hpath : (history format resources ids).tree.follow? format root path = some n)
    (hkey : Uri.segmentKey? format part = some key) :
    ∃ child, (history format resources ids).tree.child? n key = some child := by
  induction h with
  | root => simp at hfull
  | @land decl chain before route hbefore hroute ih =>
    have hlineage := hlineage.resolve_left (by simp)
    by_cases hearly : path ++ [part] <+: before
    · exact ih hlineage.outer hearly
    · have hlate := (List.prefix_or_prefix_of_prefix hfull (List.prefix_append _ _)).resolve_left
        hearly
      rcases List.prefix_concat_iff.mp hlate with rfl | ⟨first, rfl⟩
      · exact absurd List.prefix_rfl hearly
      · rw [follow?_append, Option.bind_eq_some_iff] at hpath
        obtain ⟨start, hstart, hfirst⟩ := hpath
        rw [List.append_assoc, List.prefix_append_right_inj] at hfull
        obtain ⟨rest, rfl⟩ := hfull
        rw [List.append_assoc, List.singleton_append] at hroute
        have hlands := landsOn_iff.mpr ⟨_, hbefore, hstart⟩
        exact (history_settled hlineage hlands).exists_child? hroute hfirst hkey

/-- The node at the end of a path has children under exactly the keys of the parts that declarations
continue the path with. -/
theorem exists_child?_iff_visits
    (hpath : (build format resources ids).tree.follow? format root path = some n) :
    (∃ child, (build format resources ids).tree.child? n key = some child) ↔
      ∃ part, Visits resources (path ++ [part]) ∧ Uri.segmentKey? format part = some key := by
  constructor
  · rintro ⟨child, hchild⟩
    have hwf := build_wellFormed format resources ids
    obtain ⟨node, hnode, -⟩ := hwf.child_parent hchild
    have hfaithful := build_faithful format resources ids
    have hexplored := build_explored format resources ids
    exact ⟨node.segment, hexplored.visits_segment hwf hfaithful hpath hchild hnode,
      hfaithful.segmentKey?_of_child? hwf hchild hnode⟩
  · rintro ⟨part, ⟨chain, full, hlineage, hleads, hfull⟩, hkey⟩
    rw [← draft_history] at hpath ⊢
    exact exists_child?_of_leadsAlong hleads (Or.inr hlineage) hfull hpath hkey

end ClientGen.Tree
