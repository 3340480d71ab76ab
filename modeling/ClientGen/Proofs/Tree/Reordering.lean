import ClientGen.Proofs.Tree.Consistency

/-!
# The order of declarations

Where two declarations meet, the first one decides which node is created. Without warnings this
makes no difference: the paths that declarations lead along do not depend on their order, they are
consistent in any order, and a node shows only what its segment introduces. So two builds from
reordered declarations have nodes at the same keys, which agree in everything but identifiers,
descriptions and the order of their children and methods.
-/

namespace ClientGen

/-- The same declarations in another order, in which what they nest may be reordered as well. -/
inductive Reordered : List ResourceDecl → List ResourceDecl → Prop where
  | nil : Reordered [] []
  | cons {decl decl' : ResourceDecl} {rest rest' : List ResourceDecl} :
    decl'.alone = decl.alone → Reordered decl.resources decl'.resources → Reordered rest rest' →
    Reordered (decl :: rest) (decl' :: rest')
  | swap (first second : ResourceDecl) (rest : List ResourceDecl) :
    Reordered (first :: second :: rest) (second :: first :: rest)
  | trans {resources resources' resources'' : List ResourceDecl} :
    Reordered resources resources' → Reordered resources' resources'' →
    Reordered resources resources''

namespace Reordered

variable {resources reordered chain : List ResourceDecl} {decl decl' : ResourceDecl}

/-- To leave everything where it is counts as an order. -/
theorem refl : ∀ resources, Reordered resources resources
  | [] => nil
  | ⟨_, _, _, _, _, nested⟩ :: rest => cons rfl (refl nested) (refl rest)

/-- Declarations can be put back in order. -/
theorem symm (h : Reordered resources reordered) : Reordered reordered resources := by
  induction h with
  | nil => exact nil
  | cons halone _ _ ihNested ihRest => exact cons halone.symm ihNested ihRest
  | swap first second rest => exact swap second first rest
  | trans _ _ ih ih' => exact ih'.trans ih

/-- Every permutation of declarations reorders them. -/
theorem of_perm (h : resources.Perm reordered) : Reordered resources reordered := by
  induction h with
  | nil => exact nil
  | cons decl _ ih => exact cons rfl (refl decl.resources) ih
  | swap first second rest => exact swap second first rest
  | trans _ _ ih ih' => exact ih.trans ih'

/-- Two declarations that differ only in the order of what they nest. -/
def Matches (decl decl' : ResourceDecl) : Prop :=
  decl'.alone = decl.alone ∧ Reordered decl.resources decl'.resources

/-- Declarations that match have the same routes. -/
theorem Matches.routes_eq (h : Matches decl decl') : decl'.routes = decl.routes := by
  have halone := congrArg ResourceDecl.routes h.1
  exact halone

/-- Declarations that match have the same methods. -/
theorem Matches.methods_eq (h : Matches decl decl') : decl'.methods = decl.methods := by
  have halone := congrArg ResourceDecl.methods h.1
  exact halone

/-- Each declaration is found again after reordering. -/
theorem exists_mem (h : Reordered resources reordered) (hdecl : decl ∈ resources) :
    ∃ decl' ∈ reordered, Matches decl decl' := by
  induction h generalizing decl with
  | nil => cases hdecl
  | cons halone hnested _ _ ih =>
    rcases List.mem_cons.mp hdecl with rfl | hdecl
    · exact ⟨_, List.mem_cons_self, halone, hnested⟩
    · obtain ⟨decl', hdecl', hmatches⟩ := ih hdecl
      exact ⟨decl', List.mem_cons_of_mem _ hdecl', hmatches⟩
  | swap first second rest =>
    exact ⟨decl, (List.Perm.swap second first rest).mem_iff.mp hdecl, rfl, refl _⟩
  | trans _ _ ih ih' =>
    obtain ⟨decl', hdecl', halone, hnested⟩ := ih hdecl
    obtain ⟨decl'', hdecl'', halone', hnested'⟩ := ih' hdecl'
    exact ⟨decl'', hdecl'', halone'.trans halone, hnested.trans hnested'⟩

/-- Nested declarations are found again after reordering. -/
theorem exists_lineage (h : Reordered resources reordered) (hlineage : Lineage resources chain) :
    ∃ chain', Lineage reordered chain' ∧ List.Forall₂ Matches chain chain' := by
  induction hlineage with
  | top hdecl =>
    obtain ⟨decl', hdecl', hmatches⟩ := h.exists_mem hdecl
    exact ⟨[decl'], .top hdecl', .cons hmatches .nil⟩
  | nested _ hdecl ih =>
    obtain ⟨_, hlineage', hchain⟩ := ih
    cases hchain with
    | cons houter hrest =>
      obtain ⟨decl', hdecl', hmatches⟩ := houter.2.exists_mem hdecl
      exact ⟨_, .nested hlineage' hdecl', .cons hmatches (.cons houter hrest)⟩

end Reordered

namespace Tree

variable {format : Format} {resources reordered chain chain' : List ResourceDecl}
  {ids ids' : Identifiers} {path keys : List String} {key : String} {tree : Tree} {node : Node}
  {n : Nat}

/-- Where declarations lead does not depend on the order of what they nest. -/
theorem LeadsAlong.of_matches (h : LeadsAlong chain path)
    (hchain : List.Forall₂ Reordered.Matches chain chain') : LeadsAlong chain' path := by
  induction h generalizing chain' with
  | root =>
    cases hchain
    exact .root
  | @land decl chain path route _ hroute ih =>
    cases hchain with
    | cons hdecl hrest => exact .land (ih hrest) (hdecl.routes_eq ▸ hroute)

/-- The same paths are visited in any order. -/
theorem Visits.reorder (h : Visits resources path) (hreordered : Reordered resources reordered) :
    Visits reordered path := by
  obtain ⟨chain, full, hlineage, hleads, hprefix⟩ := h
  obtain ⟨chain', hlineage', hchain⟩ := hreordered.exists_lineage hlineage
  exact ⟨chain', full, hlineage', hleads.of_matches hchain, hprefix⟩

/-- The same methods are declared along the paths in any order. -/
theorem Declares.reorder (h : Declares format resources path key)
    (hreordered : Reordered resources reordered) : Declares format reordered path key := by
  obtain ⟨decl, chain, hlineage, hleads, hmethod⟩ := h
  obtain ⟨_, hlineage', hchain⟩ := hreordered.exists_lineage hlineage
  have hleads' := hleads.of_matches hchain
  cases hchain with
  | cons hdecl _ => exact ⟨_, _, hlineage', hleads', hdecl.methods_eq ▸ hmethod⟩

/-- Declarations stay consistent in another order. -/
theorem Consistent.reorder (h : Consistent format resources)
    (hreordered : Reordered resources reordered) : Consistent format reordered where
  exists_key hvisits := h.exists_key (hvisits.reorder hreordered.symm)
  eq_of_key_eq hvisits hvisits' :=
    h.eq_of_key_eq (hvisits.reorder hreordered.symm) (hvisits'.reorder hreordered.symm)

/-! ## Nodes of two builds -/

/-- The node that a path of keys leads to from the root. -/
def nodeAt? (tree : Tree) (keys : List String) : Option Node :=
  (tree.find? keys).bind fun n => tree.nodes[n]?

/-- Two nodes have the same segment and URI, parameters with the same names, and methods under the
same keys. -/
structure Alike (node node' : Node) : Prop where
  segment_eq : node.segment = node'.segment
  relativeUri_eq : node.relativeUri = node'.relativeUri
  names_eq : node.uriParameters.map Parameter.name = node'.uriParameters.map Parameter.name
  mem_methods_iff : ∀ key, key ∈ node.methods.keys ↔ key ∈ node'.methods.keys

/-- Nodes at the end of one path are alike, if the same methods are declared there. The end of the
empty path is the root, the only node without a segment to be faithful to. -/
theorem alike_of_follow? {n' : Nat} {node' : Node}
    (hpath : (build format resources ids).tree.follow? format root path = some n)
    (hpath' : (build format reordered ids').tree.follow? format root path = some n')
    (hnode : (build format resources ids).tree.nodes[n]? = some node)
    (hnode' : (build format reordered ids').tree.nodes[n']? = some node')
    (hmethods : ∀ key, Declares format resources path key ↔ Declares format reordered path key) :
    Alike node node' := by
  have hfaithful := build_faithful format resources ids
  have hfaithful' := build_faithful format reordered ids'
  have hkeys (key : String) : key ∈ node.methods.keys ↔ key ∈ node'.methods.keys := by
    rw [← hasMethod_iff_mem_keys hnode, ← hasMethod_iff_mem_keys hnode',
      hasMethod_iff_declares hpath, hasMethod_iff_declares hpath', hmethods]
  rcases path.eq_nil_or_concat' with rfl | ⟨first, part, rfl⟩
  · obtain rfl : root = n := Option.some.inj hpath
    obtain rfl : root = n' := Option.some.inj hpath'
    obtain ⟨hsegment, huri, hparams⟩ := hfaithful.root node hnode
    obtain ⟨hsegment', huri', hparams'⟩ := hfaithful'.root node' hnode'
    exact ⟨hsegment.trans hsegment'.symm, huri.trans huri'.symm, by rw [hparams, hparams'], hkeys⟩
  · obtain ⟨rfl, hnodeFaithful⟩ :=
      hfaithful.of_follow? (build_wellFormed format resources ids) hpath hnode
    obtain ⟨hsegment, hnodeFaithful'⟩ :=
      hfaithful'.of_follow? (build_wellFormed format reordered ids') hpath' hnode'
    refine ⟨hsegment.symm, ?_, ?_, hkeys⟩
    · rw [hnodeFaithful.relativeUri_eq, hnodeFaithful'.relativeUri_eq, hsegment]
    · rw [hnodeFaithful.names_eq, hnodeFaithful'.names_eq, hsegment]

/-- A node of one build has its like in any other build from reordered declarations that gives no
warnings. -/
theorem exists_alike (hreordered : Reordered resources reordered)
    (hquiet : (build format reordered ids').warnings = [])
    (hnode : (build format resources ids).tree.nodeAt? keys = some node) :
    ∃ node', (build format reordered ids').tree.nodeAt? keys = some node' ∧ Alike node node' := by
  have hwf' := build_wellFormed format reordered ids'
  obtain ⟨n, hfind, hn⟩ := Option.bind_eq_some_iff.mp hnode
  obtain ⟨path, hkeys, hpath⟩ := ((build_faithful format resources ids).foldlM_child?_eq_some_iff
    (build_wellFormed format resources ids)).mp hfind
  have hvisits := (build_explored format resources ids).visits
    (build_wellFormed format resources ids) hpath
  obtain ⟨n', hpath'⟩ :=
    exists_follow?_of_visits hquiet (hvisits.imp_right fun h => h.reorder hreordered)
  have hlt' := hwf'.follow?_lt_size hwf'.size_pos hpath'
  have hfind' : (build format reordered ids').tree.find? keys = some n' :=
    ((build_faithful format reordered ids').foldlM_child?_eq_some_iff hwf').mpr
      ⟨path, hkeys, hpath'⟩
  obtain ⟨node', hn'⟩ : ∃ node', (build format reordered ids').tree.nodes[n']? = some node' :=
    ⟨_, Array.getElem?_eq_getElem hlt'⟩
  have hnode' : (build format reordered ids').tree.nodeAt? keys = some node' := by
    rw [nodeAt?, hfind']
    exact hn'
  refine ⟨node', hnode', alike_of_follow? hpath hpath' hn hn' fun key => ?_⟩
  exact ⟨fun h => h.reorder hreordered, fun h => h.reorder hreordered.symm⟩

/-- Whether a build gives warnings does not depend on the order of declarations, at any depth.
Without warnings the order does not matter for which keys lead to nodes either, nor for what the
nodes there are: their segments, their URIs, the names of their parameters and the keys of their
methods are the same. -/
theorem build_reordered (hreordered : Reordered resources reordered)
    (hquiet : (build format resources ids).warnings = []) :
    (build format reordered ids').warnings = [] ∧
      ∀ keys, Option.Rel Alike ((build format resources ids).tree.nodeAt? keys)
        ((build format reordered ids').tree.nodeAt? keys) := by
  have hquiet' : (build format reordered ids').warnings = [] :=
    warnings_build_eq_nil_iff.mpr ((warnings_build_eq_nil_iff.mp hquiet).reorder hreordered)
  refine ⟨hquiet', fun keys => ?_⟩
  cases hnode : (build format resources ids).tree.nodeAt? keys with
  | some node =>
    obtain ⟨node', hnode', halike⟩ := exists_alike hreordered hquiet' hnode
    rw [hnode']
    exact .some halike
  | none =>
    cases hnode' : (build format reordered ids').tree.nodeAt? keys with
    | none => exact .none
    | some node' =>
      obtain ⟨node, hfound, -⟩ := exists_alike hreordered.symm hquiet hnode'
      rw [hnode] at hfound
      cases hfound

/-- Accounts, below which users and exports are nested. -/
def accountsDecl : ResourceDecl where
  relativeUri := "/accounts"
  resources := [userDecl, exportsDecl]

/-- Accounts, below which exports come first. -/
def accountsDecl' : ResourceDecl :=
  { accountsDecl with resources := [exportsDecl, userDecl] }

/-- The accounts can be declared in another order, and so can what is nested below them. -/
theorem accountsDecl_reordered :
    Reordered [accountsDecl, usersDecl] [usersDecl, accountsDecl'] ∧
      (build plainFormat [accountsDecl, usersDecl] .fresh).warnings = [] ∧
      (build plainFormat [usersDecl, accountsDecl'] .fresh).warnings = [] ∧
      ∀ keys, Option.Rel Alike
        ((build plainFormat [accountsDecl, usersDecl] .fresh).tree.nodeAt? keys)
        ((build plainFormat [usersDecl, accountsDecl'] .fresh).tree.nodeAt? keys) := by
  have hnested : Reordered [accountsDecl, usersDecl] [accountsDecl', usersDecl] :=
    .cons rfl (.of_perm (List.Perm.swap exportsDecl userDecl [])) (.refl _)
  have hreordered := hnested.trans (.of_perm (List.Perm.swap usersDecl accountsDecl' []))
  have hquiet : (build plainFormat [accountsDecl, usersDecl] .fresh).warnings = [] := by
    decide +kernel
  exact ⟨hreordered, hquiet, build_reordered hreordered hquiet⟩

end Tree

end ClientGen
