import ClientGen.Proofs.Tree.Faithful
import ClientGen.Proofs.Tree.Traversal
import ClientGen.Proofs.Uri.Renaming

/-!
# Where nodes come from

A node is created by the walk of one declaration, and only this declaration gives it parameters. A
finished tree does not show which one it was. Here a tree is built while a register of the created
nodes is kept, which shows that every node but the root is created once, in the order of the
positions, and with the parameters that the registered declaration gives.
-/

namespace ClientGen

/-- A parameter is the one that a declaration declares under its name, perhaps without a list of
media types, or the one that a placeholder introduces where nothing is declared. -/
def ResourceDecl.Gives (decl : ResourceDecl) (param : Parameter) : Prop :=
  match decl.uriParameters.get? param.name with
  | some declared => param = .ofDecl param.name declared ∨
      param.name = Uri.mediaTypeParameter ∧
        param = { Parameter.ofDecl param.name declared with enum := none }
  | none => param = .implicit param.name

/-- A declaration gives the parameters that its walks have at hand for placeholders. -/
theorem ResourceDecl.Offers.gives {decl : ResourceDecl} {params : OrderedMap Parameter}
    (h : decl.Offers params) (name : String) : decl.Gives (Tree.uriParameter params name) := by
  rw [ResourceDecl.Gives, Tree.name_uriParameter h, Tree.uriParameter]
  rcases h with rfl | rfl
  · rw [Parameter.ofTable, OrderedMap.get?_mapEntries]
    cases decl.uriParameters.get? name with
    | none => rfl
    | some declared => exact Or.inl rfl
  · rw [Tree.takeMediaTypes, OrderedMap.get?_modify, Parameter.ofTable, OrderedMap.get?_mapEntries]
    cases decl.uriParameters.get? name with
    | none => rfl
    | some declared =>
      by_cases hname : name = Uri.mediaTypeParameter
      · exact Or.inr ⟨hname, by simp [hname]⟩
      · exact Or.inl (by simp [hname])

namespace Tree

variable {format : Format} {resources : List ResourceDecl} {tree later : Tree}
  {node : Node} {decl : ResourceDecl} {chain : List ResourceDecl}
  {params : OrderedMap Parameter} {n m : Nat} {segment : String}

/-- A node that a walk of a declaration created. -/
structure Creation where
  node : Nat
  decl : ResourceDecl

/-- A draft with the creations that led to it, in their order. -/
structure Register where
  draft : Draft
  creations : List Creation

namespace Register

/-- One step of a walk of a declaration. If the step adds a node, its creation is registered. -/
def step (register : Register) (format : Format) (decl : ResourceDecl)
    (params : OrderedMap Parameter) (n : Nat) (segment : String) : Register × Option Nat :=
  let (draft, next) := register.draft.step format decl.relativeUri params n segment
  let position := register.draft.tree.nodes.size
  let created := if position < draft.tree.nodes.size then [⟨position, decl⟩] else []
  ({ draft, creations := register.creations ++ created }, next)

/-- Registers go steps and take in declarations as drafts do. -/
def visitor (format : Format) : Visitor Register where
  step decl params n segment register := register.step format decl params n segment
  land decl n register := { register with draft := register.draft.populate format n decl }

end Register

/-- The register of building the tree of declared resources. -/
def registered (format : Format) (resources : List ResourceDecl) (ids : Identifiers) : Register :=
  (Register.visitor format).visitAll resources root ⟨(fresh format ids).draft, []⟩

/-- The register of a build ends with its result. -/
theorem draft_registered (format : Format) (resources : List ResourceDecl) (ids : Identifiers) :
    (registered format resources ids).draft = build format resources ids := by
  have hrelated : (Register.visitor format).Related (.drafts format)
      fun register draft => register.draft = draft := by
    constructor
    · rintro decl params n segment register _ rfl
      exact ⟨rfl, rfl⟩
    · rintro decl n register _ rfl
      rfl
  exact (hrelated.visitAll resources root rfl).trans
    (Visitor.visitAll_drafts format resources root _)

/-! ## What the register tells -/

/-- A creation is right if its declaration is one of the resources, or nested in one, and gives the
parameters of its node. -/
structure Creation.Right (resources : List ResourceDecl) (tree : Tree) (creation : Creation) :
    Prop where
  lineage : ∃ chain, Lineage resources (creation.decl :: chain)
  gives : ∃ node, tree.nodes[creation.node]? = some node ∧
    ∀ param ∈ node.uriParameters, creation.decl.Gives param

/-- A creation stays right, since no node changes its parameters. -/
theorem Creation.Right.mono {creation : Creation} (h : creation.Right resources tree)
    (hext : tree.Extends later) : creation.Right resources later where
  lineage := h.lineage
  gives := by
    obtain ⟨node, hnode, hgives⟩ := h.gives
    obtain ⟨node', hnode', hnext⟩ := hext.nodes hnode
    exact ⟨node', hnode', hnext.uriParameters_eq ▸ hgives⟩

/-- A register accounts for its tree: the nodes but the root were created one after the other, as
their creations say. -/
structure Register.Accounts (resources : List ResourceDecl) (register : Register) : Prop where
  wellFormed : register.draft.tree.WellFormed
  map_node : register.creations.map Creation.node =
    List.range' 1 (register.draft.tree.nodes.size - 1)
  right : ∀ creation ∈ register.creations, creation.Right resources register.draft.tree

variable {register : Register}

/-- A fresh register accounts for the root, which is not created. -/
theorem fresh_register_accounts (format : Format) (resources : List ResourceDecl)
    (ids : Identifiers) : Register.Accounts resources ⟨(fresh format ids).draft, []⟩ where
  wellFormed := wellFormed_withRoot _
  map_node := rfl
  right creation hcreation := by cases hcreation

/-- A tree without more nodes is accounted for by the same creations. -/
theorem Register.Accounts.of_size_eq (h : register.Accounts resources) {draft : Draft}
    (hwf : draft.tree.WellFormed) (hext : register.draft.tree.Extends draft.tree)
    (hsize : draft.tree.nodes.size = register.draft.tree.nodes.size) :
    Register.Accounts resources ⟨draft, register.creations⟩ where
  wellFormed := hwf
  map_node := hsize ▸ h.map_node
  right creation hcreation := (h.right creation hcreation).mono hext

/-- A node that a step adds is accounted for by its creation. -/
theorem Register.Accounts.grow (h : register.Accounts resources)
    (hlineage : Lineage resources (decl :: chain)) (hoffers : decl.Offers params)
    (hn : n < register.draft.tree.nodes.size) {key : String}
    (hfree : register.draft.tree.child? n key = none) :
    Register.Accounts resources ⟨(register.draft.grow format params n key segment).1,
      register.creations ++ [⟨register.draft.tree.nodes.size, decl⟩]⟩ where
  wellFormed := h.wellFormed.attach hn hfree rfl
  map_node := by
    have hpos := h.wellFormed.size_pos
    rw [List.map_append, h.map_node, size_grow, List.map_singleton,
      show register.draft.tree.nodes.size + 1 - 1 = register.draft.tree.nodes.size - 1 + 1 by omega,
      List.range'_concat, show 1 + 1 * (register.draft.tree.nodes.size - 1) =
        register.draft.tree.nodes.size by omega]
  right creation hcreation := by
    rcases List.mem_append.mp hcreation with hold | hnew
    · exact (h.right creation hold).mono (extends_grow hn hfree)
    · rw [List.mem_singleton.mp hnew]
      refine ⟨⟨chain, hlineage⟩, _, getElem?_size_grow hn, fun param hparam => ?_⟩
      obtain ⟨name, -, rfl⟩ := List.mem_map.mp hparam
      exact hoffers.gives name

/-- A step keeps the account, and leads to a node. -/
theorem Register.Accounts.step (h : register.Accounts resources)
    (hlineage : Lineage resources (decl :: chain)) (hoffers : decl.Offers params)
    (hn : n < register.draft.tree.nodes.size) (format : Format) (segment : String) :
    let went := register.step format decl params n segment
    went.1.Accounts resources ∧
      register.draft.tree.nodes.size ≤ went.1.draft.tree.nodes.size ∧
      ∀ last, went.2 = some last → last < went.1.draft.tree.nodes.size := by
  have hwf := h.wellFormed
  rcases step_cases format hwf decl.relativeUri params n segment with
    ⟨-, hstep⟩ | ⟨-, child, hchild, hstep⟩ | ⟨-, key, hkey, hfree, hstep⟩ |
    ⟨-, warning, hrefused, hstep⟩ <;> simp only [Register.step, hstep]
  · simpa using ⟨h, hn⟩
  · obtain ⟨key, -, -, hin, -⟩ := childAlong?_eq_some_iff.mp hchild
    simpa using ⟨h, (hwf.lt_child hin).2⟩
  · have hsize : register.draft.tree.nodes.size <
        (register.draft.grow format params n key segment).1.tree.nodes.size := by
      rw [size_grow]
      exact Nat.lt_succ_self _
    rw [if_pos hsize]
    exact ⟨h.grow hlineage hoffers hn hfree, Nat.le_of_lt hsize,
      fun last hlast => Option.some.inj hlast ▸ hsize⟩
  · have hwarned : Register.Accounts resources ⟨register.draft.warn warning, register.creations⟩ :=
      h.of_size_eq hwf (.refl _) rfl
    simpa [Draft.warn] using hwarned

/-- Visiting declarations keeps the account and all nodes. -/
theorem keeps_accounts (format : Format) (resources : List ResourceDecl) :
    (Register.visitor format).Keeps resources fun register n =>
      register.Accounts resources ∧ n < register.draft.tree.nodes.size where
  step hlineage hoffers hn hm := by
    obtain ⟨haccounts, hsize, -⟩ := hn.1.step hlineage hoffers hn.2 format _
    exact ⟨haccounts, Nat.lt_of_lt_of_le hm.2 hsize⟩
  leads hlineage hoffers hn hlast := by
    obtain ⟨haccounts, -, hleads⟩ := hn.1.step hlineage hoffers hn.2 format _
    exact ⟨haccounts, hleads _ hlast⟩
  land {decl chain n m register} _ _ hm := by
    have hsize := size_populate register.draft format n decl
    exact ⟨hm.1.of_size_eq (hm.1.wellFormed.populate format n decl)
      (extends_populate register.draft format n decl) hsize, hsize ▸ hm.2⟩

/-- The register of a build accounts for its tree. -/
theorem registered_accounts (format : Format) (resources : List ResourceDecl) (ids : Identifiers) :
    (registered format resources ids).Accounts resources := by
  have hfresh := fresh_register_accounts format resources ids
  have hroot := hfresh.wellFormed.size_pos
  exact ((keeps_accounts format resources).visitAll resources [] (fun _ => .top) root root _
    ⟨hfresh, hroot⟩ ⟨hfresh, hroot⟩).1

/-! ## Nodes and their segments -/

/-- The nodes of a tree present their segments: each is faithful to its own, has the parameters that
the declaration gives whose walk created it, and shares neither the key nor the segment with another
child of its parent. If URIs are written as they are, the parameters are numbered in its URI. -/
structure Presents (format : Format) (resources : List ResourceDecl) (tree : Tree)
    (creations : List Creation) : Prop where
  faithful : tree.Faithful format
  map_node : creations.map Creation.node = List.range' 1 (tree.nodes.size - 1)
  right : ∀ creation ∈ creations, creation.Right resources tree
  eq_of_siblings : ∀ {n m : Nat} {node other : Node}, tree.nodes[n]? = some node →
    tree.nodes[m]? = some other → node.parent = other.parent →
    node.key = other.key ∨ node.segment = other.segment → n = m
  placeholders_eq : (∀ uri, format.writeUri uri = uri) → ∀ {n : Nat} {node : Node},
    tree.nodes[n]? = some node → Uri.placeholderNames node.relativeUri =
      (List.range node.uriParameters.length).map toString

/-- Children of one node that have the same key or the same segment are the same. -/
theorem Faithful.eq_of_siblings (h : tree.Faithful format) (hwf : tree.WellFormed) {other : Node}
    (hnode : tree.nodes[n]? = some node) (hother : tree.nodes[m]? = some other)
    (hparent : node.parent = other.parent)
    (hsame : node.key = other.key ∨ node.segment = other.segment) : n = m := by
  have hroot : n = Tree.root ↔ m = Tree.root := by
    rw [← hwf.rooted.parent_eq_none_iff hnode, ← hwf.rooted.parent_eq_none_iff hother, hparent]
  by_cases hn : n = Tree.root
  · rw [hn, hroot.mp hn]
  · have hm : m ≠ Tree.root := fun hm => hn (hroot.mpr hm)
    have hkey : node.key = other.key := by
      rcases hsame with hkey | hsegment
      · exact hkey
      · have hkey := (h.others hnode hn).key
        rw [hsegment, (h.others hother hm).key] at hkey
        exact (Option.some.inj hkey).symm
    obtain ⟨p, hp, -, hchild⟩ := hwf.parent_child hnode hn
    have hchild' := (hwf.child?_of_parent hother (hparent ▸ hp)).2
    rw [← hkey, hchild] at hchild'
    exact Option.some.inj hchild'

/-- The placeholders in the URI of a faithful node are the numbers of its parameters. -/
theorem placeholderNames_relativeUri (hplain : ∀ uri, format.writeUri uri = uri)
    (h : node.Faithful format) : Uri.placeholderNames node.relativeUri =
      (List.range node.uriParameters.length).map toString := by
  have hlength := congrArg List.length h.names_eq
  rw [List.length_map] at hlength
  rw [h.relativeUri_eq, Uri.relativeUri, Uri.sanitize, hplain,
    Uri.placeholderNames_dropTrailingSlashes, Uri.placeholderNames_indexed, hlength]

/-- The nodes of a tree that was built present their segments, with the parameters given by the
declarations that are registered for them. -/
theorem build_presents (format : Format) (resources : List ResourceDecl) (ids : Identifiers) :
    (registered format resources ids).draft = build format resources ids ∧
      (build format resources ids).tree.Presents format resources
        (registered format resources ids).creations := by
  have hregistered := draft_registered format resources ids
  have haccounts := registered_accounts format resources ids
  have hfaithful := build_faithful format resources ids
  have hwf := build_wellFormed format resources ids
  refine ⟨hregistered, hfaithful, ?_, ?_, ?_, ?_⟩
  · exact hregistered ▸ haccounts.map_node
  · exact hregistered ▸ haccounts.right
  · exact fun hnode hother => hfaithful.eq_of_siblings hwf hnode hother
  · intro hplain n node hnode
    by_cases hn : n = root
    · obtain ⟨-, huri, hparams⟩ := hfaithful.root node (hn ▸ hnode)
      rw [huri, hparams]
      simp [Uri.placeholderNames, Uri.pieces, Uri.names]
    · exact placeholderNames_relativeUri hplain (hfaithful.others hnode hn)

end Tree

end ClientGen
