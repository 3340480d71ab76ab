import ClientGen.Proofs.Tree.Records
import ClientGen.Proofs.Tree.Traversal

/-!
# Trees with other identifiers

Nothing that a build decides depends on an identifier. If two ways of numbering hand out identifiers
that are equal up to renaming, the trees that are built with them are equal up to renaming as well,
and the same warnings are given.
-/

namespace ClientGen

/-- A node with its identifier renamed. -/
def Node.mapId (rename : String → String) (node : Node) : Node :=
  { node with id := rename node.id }

/-- A method with its identifier renamed. -/
def Method.mapId (rename : String → String) (method : Method) : Method :=
  { method with id := rename method.id }

namespace Tree

variable {rename : String → String} {tree : Tree} {node : Node} {n parent : Nat}

/-- A tree with the identifiers of its nodes and methods renamed. -/
def mapIds (rename : String → String) (tree : Tree) : Tree where
  nodes := tree.nodes.map (Node.mapId rename)
  methods := tree.methods.map (Method.mapId rename)

/-- Renaming no identifier keeps the tree. -/
theorem mapIds_id (tree : Tree) : tree.mapIds id = tree := by
  have hnode : Node.mapId id = id := rfl
  have hmethod : Method.mapId id = id := rfl
  rw [mapIds, hnode, hmethod, Array.map_id, Array.map_id]

/-- Renaming identifiers keeps the children. -/
theorem child?_mapIds (rename : String → String) (tree : Tree) (n : Nat) (key : String) :
    (tree.mapIds rename).child? n key = tree.child? n key := by
  simp only [child?, mapIds, Array.getElem?_map]
  cases tree.nodes[n]? <;> rfl

/-- Renaming identifiers keeps the segments. -/
theorem segment_mapIds (rename : String → String) (tree : Tree) (n : Nat) :
    ((tree.mapIds rename).nodes[n]?).map Node.segment = (tree.nodes[n]?).map Node.segment := by
  simp only [mapIds, Array.getElem?_map, Option.map_map]
  rfl

/-- Renaming identifiers keeps the number of nodes. -/
theorem size_mapIds (rename : String → String) (tree : Tree) :
    (tree.mapIds rename).nodes.size = tree.nodes.size :=
  Array.size_map

/-- A change that does not look at identifiers can be made before or after renaming. -/
theorem mapIds_modifyNode {change : Node → Node}
    (hchange : ∀ node : Node, (change node).mapId rename = change (node.mapId rename)) :
    (tree.modifyNode n change).mapIds rename = (tree.mapIds rename).modifyNode n change := by
  have hnodes : (tree.nodes.modify n change).map (Node.mapId rename) =
      (tree.nodes.map (Node.mapId rename)).modify n change := by
    refine Array.ext_getElem? fun i => ?_
    simp only [Array.getElem?_map, Array.getElem?_modify]
    split
    · cases tree.nodes[i]? <;> simp [hchange]
    · rfl
  simp only [modifyNode, mapIds, hnodes]

/-- A node is attached before or after identifiers are renamed. -/
theorem mapIds_attach : (tree.attach parent node).1.mapIds rename =
    ((tree.mapIds rename).attach parent (node.mapId rename)).1 := by
  rw [attach, attach, mapIds_modifyNode (by exact fun _ => rfl), size_mapIds]
  simp only [mapIds, Array.map_push]
  rfl

/-- A method is added before or after identifiers are renamed. -/
theorem mapIds_addMethod (method : Method) : (tree.addMethod n method).mapIds rename =
    (tree.mapIds rename).addMethod n (method.mapId rename) := by
  rw [addMethod, addMethod, mapIds_modifyNode (by exact fun _ => rfl)]
  simp only [mapIds, Array.map_push, Array.size_map]
  rfl

/-- Methods are added before or after identifiers are renamed. -/
theorem mapIds_addMethods (rename : String → String) (tree : Tree) (n : Nat)
    (methods : List Method) :
    (methods.foldl (fun tree method => tree.addMethod n method) tree).mapIds rename =
      (methods.map (Method.mapId rename)).foldl (fun tree method => tree.addMethod n method)
        (tree.mapIds rename) := by
  induction methods generalizing tree with
  | nil => rfl
  | cons method rest ih =>
    rw [List.foldl_cons, ih, mapIds_addMethod, List.map_cons, List.foldl_cons]

/-! ## Two ways of numbering -/

/-- Two formats differ at most in how they number. What was asked for in the one and in the other
stays related, and the identifiers handed out are equal up to renaming. -/
structure Renumbers (rename : String → String) (I : Identifiers → Identifiers → Prop)
    (format other : Format) : Prop where
  writeUri_eq : format.writeUri = other.writeUri
  writeName_eq : format.writeName = other.writeName
  nextId : ∀ {ids ids' : Identifiers} (stem : String), I ids ids' →
    rename (format.nextId ids stem).1 = rename (other.nextId ids' stem).1 ∧
      I (format.nextId ids stem).2 (other.nextId ids' stem).2

/-- Two drafts are equal up to renaming their identifiers. -/
structure Draft.Renumbered (rename : String → String) (I : Identifiers → Identifiers → Prop)
    (draft other : Draft) : Prop where
  tree_eq : draft.tree.mapIds rename = other.tree.mapIds rename
  warnings_eq : draft.warnings = other.warnings
  ids : I draft.ids other.ids

variable {I : Identifiers → Identifiers → Prop} {format other : Format} {draft draft' : Draft}

/-- Formats that number differently give a segment the same key. -/
theorem Renumbers.segmentKey? (h : Renumbers rename I format other) (segment : String) :
    Uri.segmentKey? format segment = Uri.segmentKey? other segment := by
  simp only [Uri.segmentKey?, h.writeName_eq]

/-- New nodes are equal up to renaming. -/
theorem Renumbers.nodeOf (h : Renumbers rename I format other) (params : OrderedMap Parameter)
    {id id' : String} (hid : rename id = rename id') (key segment : String) :
    (nodeOf format params id key segment).mapId rename =
      (nodeOf other params id' key segment).mapId rename := by
  simp only [Tree.nodeOf, Node.mapId, Uri.relativeUri, Uri.sanitize, h.writeUri_eq, hid]

/-- New methods are equal up to renaming. -/
theorem Renumbers.methodOf (h : Renumbers rename I format other) (resource : Nat)
    {id id' : String} (hid : rename id = rename id') (decl : MethodDecl) :
    (methodOf format resource id decl).mapId rename =
      (methodOf other resource id' decl).mapId rename := by
  simp only [Tree.methodOf, Method.mapId, h.writeName_eq, hid]

/-- The methods that declarations introduce are equal up to renaming. -/
theorem Renumbers.introduced (h : Renumbers rename I format other) (resource : Nat)
    (decls : List MethodDecl) {ids ids' : Identifiers} (hids : I ids ids') :
    (introduced format resource decls ids).1.map (Method.mapId rename) =
        (introduced other resource decls ids').1.map (Method.mapId rename) ∧
      I (introduced format resource decls ids).2 (introduced other resource decls ids').2 := by
  induction decls generalizing ids ids' with
  | nil => exact ⟨rfl, hids⟩
  | cons decl rest ih =>
    obtain ⟨hid, hnext⟩ := h.nextId "method" hids
    obtain ⟨hrest, hlast⟩ := ih hnext
    refine ⟨?_, hlast⟩
    simp only [Tree.introduced, List.map_cons, h.methodOf resource hid decl, hrest]

/-- So are those of them that count. -/
theorem Renumbers.methodsOf (h : Renumbers rename I format other) (resource : Nat)
    (decls : List MethodDecl) {ids ids' : Identifiers} (hids : I ids ids') :
    (methodsOf format resource decls ids).1.values.map (Method.mapId rename) =
        (methodsOf other resource decls ids').1.values.map (Method.mapId rename) ∧
      I (methodsOf format resource decls ids).2 (methodsOf other resource decls ids').2 := by
  obtain ⟨hmethods, hlast⟩ := h.introduced resource decls hids
  have hkey : ∀ method : Method, (method.mapId rename).key = method.key := fun _ => rfl
  rw [methodsOf_eq, methodsOf_eq]
  refine ⟨?_, hlast⟩
  rw [← OrderedMap.values_mapEntries, ← OrderedMap.values_mapEntries,
    ← OrderedMap.collect_map hkey, ← OrderedMap.collect_map hkey, hmethods]

/-- Drafts stay equal up to renaming when a node is added. -/
theorem Draft.Renumbered.grow (hformat : Renumbers rename I format other)
    (h : Draft.Renumbered rename I draft draft') (params : OrderedMap Parameter)
    (parent : Nat) (key segment : String) :
    Draft.Renumbered rename I (draft.grow format params parent key segment).1
      (draft'.grow other params parent key segment).1 := by
  obtain ⟨hid, hids⟩ := hformat.nextId "resource" h.ids
  refine ⟨?_, h.warnings_eq, hids⟩
  simp only [Draft.grow, mapIds_attach, h.tree_eq, hformat.nodeOf params hid]

/-- Drafts stay equal up to renaming in a step, which leads to the same node in both. -/
theorem Draft.Renumbered.step (hformat : Renumbers rename I format other)
    (h : Draft.Renumbered rename I draft draft') (relativeUri : String)
    (params : OrderedMap Parameter) (n : Nat) (segment : String) :
    Draft.Renumbered rename I (draft.step format relativeUri params n segment).1
        (draft'.step other relativeUri params n segment).1 ∧
      (draft.step format relativeUri params n segment).2 =
        (draft'.step other relativeUri params n segment).2 := by
  have hwarn (warning : Warning) :
      Draft.Renumbered rename I (draft.warn warning) (draft'.warn warning) :=
    ⟨h.tree_eq, congrArg (· ++ [warning]) h.warnings_eq, h.ids⟩
  have hchild (key : String) : draft.tree.child? n key = draft'.tree.child? n key := by
    rw [← child?_mapIds rename, h.tree_eq, child?_mapIds]
  have hsegment (child : Nat) : (draft.tree.nodes[child]?).map Node.segment =
      (draft'.tree.nodes[child]?).map Node.segment := by
    rw [← segment_mapIds rename, h.tree_eq, segment_mapIds]
  rw [Draft.step, Draft.step]
  split
  · exact ⟨h, rfl⟩
  · rw [hformat.segmentKey?]
    cases Uri.segmentKey? other segment with
    | none => exact ⟨hwarn _, rfl⟩
    | some key =>
      simp only [hchild]
      cases draft'.tree.child? n key with
      | none =>
        have hsize : draft.tree.nodes.size = draft'.tree.nodes.size := by
          rw [← size_mapIds rename, h.tree_eq, size_mapIds]
        exact ⟨h.grow hformat params n key segment, congrArg some hsize⟩
      | some child =>
        simp only [hsegment]
        split
        · exact ⟨h, rfl⟩
        · exact ⟨hwarn _, rfl⟩

/-- Drafts stay equal up to renaming when a node is populated. -/
theorem Draft.Renumbered.populate (hformat : Renumbers rename I format other)
    (h : Draft.Renumbered rename I draft draft') (n : Nat) (decl : ResourceDecl) :
    Draft.Renumbered rename I (draft.populate format n decl) (draft'.populate other n decl) := by
  obtain ⟨hmethods, hids⟩ := hformat.methodsOf n decl.methods h.ids
  have htree := mapIds_addMethods rename draft.tree n
    (methodsOf format n decl.methods draft.ids).1.values
  have htree' := mapIds_addMethods rename draft'.tree n
    (methodsOf other n decl.methods draft'.ids).1.values
  rw [hmethods, h.tree_eq, ← htree'] at htree
  refine ⟨?_, h.warnings_eq, hids⟩
  simp only [Draft.populate]
  split
  · rw [mapIds_modifyNode (by exact fun _ => rfl), htree, mapIds_modifyNode (by exact fun _ => rfl)]
  · exact htree

/-- Builds with two ways of numbering lead to drafts that are equal up to renaming. -/
theorem Renumbers.build (h : Renumbers rename I format other) (resources : List ResourceDecl)
    {ids ids' : Identifiers} (hids : I ids ids') :
    Draft.Renumbered rename I (build format resources ids) (build other resources ids') := by
  have hrelated : (Visitor.drafts format).Related (.drafts other) (Draft.Renumbered rename I) :=
    ⟨fun hdrafts => hdrafts.step h _ _ _ _, fun hdrafts => hdrafts.populate h _ _⟩
  obtain ⟨hid, hids⟩ := h.nextId "resource" hids
  have hroot : Draft.Renumbered rename I (fresh format ids).draft (fresh other ids').draft :=
    ⟨by simp [fresh, withRoot, mapIds, Node.mapId, hid], rfl, hids⟩
  have hlast := hrelated.visitAll resources root hroot
  rwa [Visitor.visitAll_drafts, Visitor.visitAll_drafts] at hlast

/-- Plain numbering depends on what was numbered plainly before and on nothing else. -/
theorem renumbers_plain (hplain : format.numbering = none) :
    Renumbers id (fun ids ids' => ids.numbering = ids'.numbering) format format where
  writeUri_eq := rfl
  writeName_eq := rfl
  nextId stem hids := by
    rw [Format.nextId_of_plain hplain, Format.nextId_of_plain hplain, hids]
    exact ⟨rfl, rfl⟩

/-- So does a plainly numbered tree. -/
theorem build_eq_of_numbering_eq (hplain : format.numbering = none)
    (resources : List ResourceDecl) {ids ids' : Identifiers}
    (hids : ids.numbering = ids'.numbering) :
    (build format resources ids).tree = (build format resources ids').tree ∧
      (build format resources ids).warnings = (build format resources ids').warnings := by
  obtain ⟨htree, hwarnings, -⟩ := (renumbers_plain hplain).build resources hids
  rw [mapIds_id, mapIds_id] at htree
  exact ⟨htree, hwarnings⟩

end Tree

end ClientGen
