import ClientGen.Proofs.Tree.Numbering
import ClientGen.Proofs.Tree.Ownership
import ClientGen.Proofs.Tree.Path
import ClientGen.Proofs.Tree.Records
import ClientGen.Summary
import Mathlib.Data.List.Forall2

/-!
# What a summary lists

The resources of a summary are the nodes of the tree in the order of their listing, each with its
URI put together from the root downwards. The URI is found by going up from parent to parent, which
comes to the same since every node but the root is the child of its parent. The methods of a summary
are those of its resources: resource by resource and key by key, none is missing and none is left
over.
-/

namespace ClientGen

namespace Tree

variable {format : Format} {tree : Tree} {node : Node} {n : Nat} {uris : List String}

/-! ## URIs from the root downwards -/

/-- The relative URIs on the way from the root down to a node, from child to child. -/
inductive UrisTo (tree : Tree) : Nat → List String → Prop where
  | root {node : Node} : tree.nodes[Tree.root]? = some node →
    UrisTo tree Tree.root [node.relativeUri]
  | child {p n : Nat} {key : String} {node : Node} {uris : List String} : UrisTo tree p uris →
    tree.child? p key = some n → tree.nodes[n]? = some node →
    UrisTo tree n (uris ++ [node.relativeUri])

/-- The URI found by going up is that of the nodes on the path. -/
theorem joinedUri_eq (tree : Tree) (n : Nat) :
    tree.joinedUri n = String.join ((tree.pathTo n).map Node.relativeUri) := by
  fun_induction pathTo tree n with
  | case1 n hnone =>
    rw [joinedUri, hnone]
    rfl
  | case2 n node hnode hroot =>
    rw [joinedUri, hnode]
    simp [hroot]
  | case3 n node hnode p hparent hlt ih =>
    rw [joinedUri, hnode]
    simp [hparent, hlt, ih, String.join_append]
  | case4 n node hnode p hparent hlt =>
    rw [joinedUri, hnode]
    simp [hparent, hlt]

/-- One comes down to a node by its path and in no other way. -/
theorem WellFormed.urisTo_iff (h : tree.WellFormed) (hn : n < tree.nodes.size) :
    tree.UrisTo n uris ↔ uris = (tree.pathTo n).map Node.relativeUri := by
  constructor
  · intro huris
    induction huris with
    | root hnode => rw [h.pathTo_root hnode, List.map_singleton]
    | child _ hchild hnode ih =>
      have hp := Nat.lt_trans (h.lt_child hchild).1 hn
      rw [ih hp, h.pathTo_child hchild hnode, List.map_append, List.map_singleton]
  · rintro rfl
    induction n using Nat.strongRecOn with
    | ind n ih =>
      have hnode := Array.getElem?_eq_getElem hn
      rcases h.root_or_child hnode with rfl | ⟨p, -, hlt, hchild⟩
      · rw [h.pathTo_root hnode]
        exact .root hnode
      · rw [h.pathTo_child hchild hnode, List.map_append, List.map_singleton]
        exact .child (ih p hlt (by omega)) hchild hnode

/-- The full URI of a node is put together on the way down to it. -/
theorem WellFormed.fullUri_eq (h : tree.WellFormed) (hn : n < tree.nodes.size)
    (huris : tree.UrisTo n uris) :
    tree.fullUri n = if String.join uris = "" then "/" else String.join uris := by
  rw [(h.urisTo_iff hn).mp huris, ← joinedUri_eq]
  rfl

/-- Every record of a build is kept under the key that its verb is written as. -/
theorem key_of_mem_methods_build {resources : List ResourceDecl} {ids : Identifiers}
    {method : Method} (hmethod : method ∈ (build format resources ids).tree.methods.toList) :
    method.key = format.writeName method.verb := by
  obtain ⟨made, hmade⟩ := history_makes format resources ids
  rw [← draft_history] at hmethod
  have hin : method ∈ made := hmade.records_subperm.subset hmethod
  obtain ⟨i, hi, rfl⟩ := List.getElem_of_mem hin
  obtain ⟨id, hfrom⟩ := hmade.madeFrom.get (by rwa [hmade.madeFrom.length_eq]) hi
  rw [List.get_eq_getElem] at hfrom
  rw [hfrom]
  rfl

end Tree

/-! ## Entries of a summary -/

namespace Summary

variable {format : Format} {context : Context} {tree : Tree} {node : Node} {n : Nat}
  {listed : List Nat}

/-- An entry shows a node: its texts, and its URI from the root downwards, which is a slash if it
would be empty. -/
structure ShowsNode (tree : Tree) (n : Nat) (entry : ResourceSummary) : Prop where
  node : ∃ node, tree.nodes[n]? = some node ∧ entry.id = node.id ∧ entry.key = node.key ∧
    entry.uriParameters = node.uriParameters.map Parameter.name ∧ entry.methods = node.methods.keys
  uri : ∃ uris, (∀ other, tree.UrisTo n other ↔ other = uris) ∧
    entry.uri = if String.join uris = "" then "/" else String.join uris

/-- The entry of a method belongs to the entry of a resource and to one of its keys. -/
structure BelongsTo (format : Format) (place : ResourceSummary × String) (entry : MethodSummary) :
    Prop where
  resource_eq : entry.resource = place.1.id
  uri_eq : entry.uri = place.1.uri
  key_eq : format.writeName entry.method = place.2

/-- The keys of methods in the order of the resources, each with the entry of its resource. -/
def places (summary : Summary) : List (ResourceSummary × String) :=
  summary.resources.flatMap fun entry => entry.methods.map fun key => (entry, key)

/-- What it means that a summary shows the resources and methods of a client. -/
structure Consistent (format : Format) (context : Context) (summary : Summary) : Prop where
  /-- There is one entry for each listed node. -/
  resources : List.Forall₂ (ShowsNode context.tree) (context.tree.preorder Tree.root)
    summary.resources
  /-- Every node is listed once. -/
  listed_perm : (context.tree.preorder Tree.root).Perm (List.range context.tree.nodes.size)
  /-- A node is listed before its children, which are listed in their order. -/
  listed_eq : ∀ {n : Nat} {node : Node}, context.tree.nodes[n]? = some node →
    context.tree.preorder n = n :: node.children.values.flatMap context.tree.preorder
  /-- Below the root, the relative URI of a node comes after those on the way to its parent. -/
  below : ∀ {n : Nat} {node : Node}, context.tree.nodes[n]? = some node → n ≠ Tree.root →
    ∃ p uris, node.parent = some p ∧ context.tree.UrisTo p uris ∧
      context.tree.UrisTo n (uris ++ [node.relativeUri])
  /-- There is one entry for each key of each resource. -/
  methods : List.Forall₂ (BelongsTo format) summary.places summary.methods
  /-- If identifiers are numbered plainly, the entry of a method names one resource only. -/
  nodup_ids : format.numbering = none → (summary.resources.map ResourceSummary.id).Nodup

/-- The entry of a node shows it. -/
theorem ofNode_showsNode (hwf : tree.WellFormed) (hnode : tree.nodes[n]? = some node) :
    ShowsNode tree n (ofNode tree n node) := by
  have hn := (Array.getElem?_eq_some_iff.mp hnode).1
  have huris (other : List String) : tree.UrisTo n other ↔ other = _ := hwf.urisTo_iff hn
  refine ⟨⟨node, hnode, rfl, rfl, rfl, rfl⟩, _, huris, ?_⟩
  exact hwf.fullUri_eq hn ((huris _).mpr rfl)

/-- The entries of the methods that a node refers to belong to the entry of the node. -/
theorem belongsTo_ofNode (hnode : tree.nodes[n]? = some node)
    (hrecords : ∀ entry ∈ node.methods.entries, tree.Records entry.2 n entry.1)
    (hkeys : ∀ method ∈ tree.methods.toList, method.key = format.writeName method.verb) :
    List.Forall₂ (BelongsTo format) (node.methods.keys.map fun key => (ofNode tree n node, key))
      (node.methods.values.filterMap fun m => tree.methods[m]?.map (ofMethod tree)) := by
  rw [OrderedMap.keys, OrderedMap.values, List.map_map, List.filterMap_map]
  generalize node.methods.entries = entries at hrecords
  induction entries with
  | nil => exact .nil
  | cons entry rest ih =>
    obtain ⟨hentry, hrest⟩ := List.forall_mem_cons.mp hrecords
    obtain ⟨method, hmethod, hresource, hkey⟩ := hentry
    have hshown : (Option.map (ofMethod tree) ∘ fun m => tree.methods[m]?) entry.2 =
        some (ofMethod tree method) := by simp [hmethod]
    have hwritten := hkeys method (Array.mem_toList_iff.mpr (Array.mem_of_getElem? hmethod))
    rw [List.map_cons, List.filterMap_cons_some (by simpa using hshown)]
    refine .cons ⟨?_, ?_, ?_⟩ (ih hrest)
    · simp [ofMethod, hresource, hnode, ofNode]
    · simp [ofMethod, hresource, ofNode]
    · exact hwritten.symm.trans hkey

/-- There is an entry for each node that is listed. -/
theorem forall₂_ofNode (hlisted : ∀ n ∈ listed, n < tree.nodes.size) :
    List.Forall₂ (fun n entry => ∃ node, tree.nodes[n]? = some node ∧ entry = ofNode tree n node)
      listed (listed.filterMap fun n => tree.nodes[n]?.map (ofNode tree n)) := by
  induction listed with
  | nil => exact .nil
  | cons n rest ih =>
    obtain ⟨hn, hrest⟩ := List.forall_mem_cons.mp hlisted
    have hnode := Array.getElem?_eq_getElem hn
    have hentry : tree.nodes[n]?.map (ofNode tree n) = some (ofNode tree n tree.nodes[n]) := by
      rw [hnode, Option.map_some]
    rw [List.filterMap_cons_some (f := fun n => tree.nodes[n]?.map (ofNode tree n)) hentry]
    exact .cons ⟨_, hnode, rfl⟩ (ih hrest)

/-- The entries of the methods of nodes belong one by one to the keys of the nodes' entries. -/
theorem forall₂_belongsTo (hlisted : ∀ n ∈ listed, n < tree.nodes.size)
    (hrecords : ∀ {n : Nat} {key : String} {m : Nat}, tree.Refers n key m → tree.Records m n key)
    (hkeys : ∀ method ∈ tree.methods.toList, method.key = format.writeName method.verb) :
    List.Forall₂ (BelongsTo format)
      ((listed.filterMap fun n => tree.nodes[n]?.map (ofNode tree n)).flatMap fun entry =>
        entry.methods.map fun key => (entry, key))
      ((listed.flatMap tree.methodsAt).filterMap fun m =>
        tree.methods[m]?.map (ofMethod tree)) := by
  rw [List.filterMap_flatMap]
  refine List.rel_flatMap (forall₂_ofNode hlisted).flip ?_
  rintro _ n ⟨node, hnode, rfl⟩
  have hmethods : tree.methodsAt n = node.methods.values := by
    rw [Tree.methodsAt, hnode, Option.map_some, Option.getD_some]
  simp only [hmethods]
  refine belongsTo_ofNode hnode (fun entry hentry => ?_) hkeys
  exact hrecords ⟨node, hnode, OrderedMap.get?_eq_some_iff.mpr hentry⟩

/-- Entries have the identifiers of the nodes that they show. -/
theorem map_id_eq {first : Nat} (hnumbered : ∀ {n : Nat} {node : Node},
      tree.nodes[n]? = some node → node.id = "resource" ++ toString (first + n))
    {entries : List ResourceSummary} (hshown : List.Forall₂ (ShowsNode tree) listed entries) :
    entries.map ResourceSummary.id = listed.map fun n => "resource" ++ toString (first + n) := by
  induction hshown with
  | nil => rfl
  | cons hentry _ ih =>
    obtain ⟨node, hnode, hid, -⟩ := hentry.node
    rw [List.map_cons, List.map_cons, hid, hnumbered hnode, ih]

/-- Entries for different nodes have different identifiers if the nodes are numbered. -/
theorem nodup_map_id {first : Nat} (hnumbered : ∀ {n : Nat} {node : Node},
      tree.nodes[n]? = some node → node.id = "resource" ++ toString (first + n))
    (hnodup : listed.Nodup) {entries : List ResourceSummary}
    (hshown : List.Forall₂ (ShowsNode tree) listed entries) :
    (entries.map ResourceSummary.id).Nodup := by
  rw [map_id_eq hnumbered hshown]
  refine hnodup.map fun n m hsame => ?_
  have hsum : first + n = first + m := numbered_injective "resource" hsame
  omega

/-- Whatever is described, the summary of a client shows its resources and methods. -/
theorem ofContext_consistent (format : Format) (spec : Specification) (ids : Identifiers) :
    Consistent format (Context.build format spec ids).1
      (ofContext (Context.build format spec ids).1) := by
  let context := (Context.build format spec ids).1
  have hlists : context.Listed := Context.build_listed format spec ids
  have hwf := hlists.wellFormed
  have hlisted := hlists.allResources_eq
  have hnodes : ∀ n ∈ context.tree.preorder Tree.root, n < context.tree.nodes.size :=
    fun n hn => hwf.mem_preorder_root.mp hn
  have hresources : List.Forall₂ (ShowsNode context.tree) (context.tree.preorder Tree.root)
      (ofContext context).resources := by
    rw [ofContext, hlisted]
    refine (forall₂_ofNode hnodes).imp ?_
    rintro n _ ⟨node, hnode, rfl⟩
    exact ofNode_showsNode hwf hnode
  refine ⟨hresources, hwf.preorder_root_perm, hwf.preorder_eq, ?_, ?_, fun hplain => ?_⟩
  · intro n node hnode hroot
    obtain ⟨p, hparent, hlt, hchild⟩ := hwf.parent_child hnode hroot
    have hp := Nat.lt_trans hlt (hwf.lt_child hchild).2
    have huris := (hwf.urisTo_iff hp).mpr rfl
    exact ⟨p, _, hparent, huris, .child huris hchild hnode⟩
  · rw [places, ofContext, hlists.allMethods_eq, hlisted]
    exact forall₂_belongsTo hnodes hlists.ownsMethods.records
      fun _ => Tree.key_of_mem_methods_build
  · exact nodup_map_id (Tree.id_of_getElem?_build hplain) (hwf.nodup_preorder hwf.size_pos)
      hresources

end Summary

end ClientGen
