import ClientGen.Proofs.Tree.Faithful
import ClientGen.Proofs.Tree.Ownership
import ClientGen.Proofs.Tree.Records
import ClientGen.Proofs.Tree.Sequence

/-!
# Merged declarations

Several declarations may land on one node, and one declaration several times. The node then has the
methods of all of them: their keys in the order in which they first occur, each with the record of
the last method declaration that has it. Its description is the last one that was given. Both are
continued by a landing on the node and left alone by everything else, so they can be read off the
sequence of landings.
-/

namespace ClientGen

/-- A node is merged from the declarations that landed on it, in their order. -/
structure Node.Merges (format : Format) (tree : Tree) (n : Nat) (node : Node)
    (decls : List ResourceDecl) : Prop where
  /-- Its keys are those of all declared methods, in the order of their first occurrences. -/
  keys_eq : node.methods.keys = ((decls.flatMap ResourceDecl.methods).map fun decl =>
    format.writeName decl.method).eraseDups
  /-- Under a key it refers to a record of the last declared method with this key. -/
  record : ∀ {key : String} {m : Nat}, node.methods.get? key = some m → ∃ decl id,
    ((decls.flatMap ResourceDecl.methods).filter fun decl =>
      format.writeName decl.method = key).getLast? = some decl ∧
    tree.methods[m]? = some (Tree.methodOf format n id decl)
  /-- Its description is the last that was declared, or empty. -/
  description_eq : node.description =
    ((decls.filterMap ResourceDecl.description).getLast?.map Text.trim).getD ""

namespace Tree

variable {format : Format} {resources : List ResourceDecl} {ids : Identifiers} {tree : Tree}
  {draft : Draft} {journal later : Journal} {node : Node} {decl : ResourceDecl} {n i m : Nat}
  {key : String}

/-- The declarations that landed on a node, in their order. -/
def landedOn (landings : List Landing) (n : Nat) : List ResourceDecl :=
  (landings.filter fun landing => landing.node = n).map Landing.decl

/-- The last landing is the last one on its node. -/
theorem landedOn_concat (landings : List Landing) (landing : Landing) (n : Nat) :
    landedOn (landings ++ [landing]) n =
      if landing.node = n then landedOn landings n ++ [landing.decl] else landedOn landings n := by
  rw [landedOn, List.filter_append, List.map_append]
  split <;> simp [landedOn, *]

/-- The method declarations for a node are those of the declarations that landed on it. -/
theorem filter_declared (landings : List Landing) (n : Nat) :
    (declared landings).filter (fun place => place.1 = n) =
      ((landedOn landings n).flatMap ResourceDecl.methods).map fun decl => (n, decl) := by
  induction landings with
  | nil => rfl
  | cons landing rest ih =>
    rw [declared, List.flatMap_cons, List.filter_append, ← declared, ih]
    by_cases hn : landing.node = n
    · simp [landedOn, hn, List.filter_map, Function.comp_def]
    · simp [landedOn, hn, List.filter_map, Function.comp_def]

/-! ## What nodes show -/

/-- What a node shows, or a substitute where there is no node. -/
def readAt {α : Type} (tree : Tree) (view : Node → α) (missing : α) (n : Nat) : α :=
  ((tree.nodes[n]?).map view).getD missing

section ReadAt

variable {α : Type} {view : Node → α} {missing : α}

/-- What is read at a node is what it shows. -/
theorem readAt_of_getElem? (hnode : tree.nodes[n]? = some node) :
    tree.readAt view missing n = view node := by
  rw [readAt, hnode, Option.map_some, Option.getD_some]

/-- A change of a node changes what this node shows. -/
theorem readAt_modifyNode_self {change : Node → Node} (hn : n < tree.nodes.size) :
    (tree.modifyNode n change).readAt view missing n = view (change tree.nodes[n]) := by
  rw [readAt, getElem?_modifyNode, if_pos rfl, Array.getElem?_eq_getElem hn]
  rfl

/-- A change of a node is not seen at other nodes. -/
theorem readAt_modifyNode_of_ne {change : Node → Node} (hi : i ≠ n) :
    (tree.modifyNode n change).readAt view missing i = tree.readAt view missing i := by
  rw [readAt, getElem?_modifyNode, if_neg (Ne.symm hi), readAt]

/-- A change that does not concern what is shown is not seen. -/
theorem readAt_modifyNode_of_eq {change : Node → Node}
    (hchange : ∀ node : Node, view (change node) = view node) :
    (tree.modifyNode n change).readAt view missing i = tree.readAt view missing i := by
  simp only [readAt, getElem?_modifyNode]
  split
  · cases tree.nodes[i]? <;> simp [hchange]
  · rfl

/-- An attached node that shows the substitute is not seen, if children are not shown. -/
theorem readAt_attach {parent : Nat} (hparent : parent < tree.nodes.size)
    (hnew : view { node with parent := some parent } = missing)
    (hchildren : ∀ (p : Node) (children : OrderedMap Nat), view { p with children } = view p) :
    (tree.attach parent node).1.readAt view missing i = tree.readAt view missing i := by
  simp only [readAt, getElem?_attach hparent]
  split
  next hi => simp [hi, hnew]
  next =>
    split
    · cases tree.nodes[i]? <;> simp [hchildren]
    · rfl

end ReadAt

/-- The keys of the methods of a node. -/
def methodKeys (tree : Tree) (n : Nat) : List String :=
  tree.readAt (fun node => node.methods.keys) [] n

/-- The description of a node. -/
def descriptionAt (tree : Tree) (n : Nat) : String :=
  tree.readAt Node.description "" n

/-- The keys of the methods of a node are not repeated. -/
theorem eraseDups_methodKeys (tree : Tree) (n : Nat) :
    (tree.methodKeys n).eraseDups = tree.methodKeys n := by
  rw [methodKeys, readAt]
  cases tree.nodes[n]? with
  | none => rfl
  | some node => exact eraseDups_eq_self node.methods.nodup_keys

/-- Adding a method adds its key to those of its node, unless it is there. -/
theorem methodKeys_addMethod (hn : n < tree.nodes.size) (method : Method) :
    (tree.addMethod n method).methodKeys i =
      if i = n then (tree.methodKeys n ++ [method.key]).eraseDups else tree.methodKeys i := by
  by_cases hi : i = n
  · have hinsert : (tree.addMethod n method).methodKeys n =
        (tree.nodes[n].methods.insert method.key tree.methods.size).keys :=
      readAt_modifyNode_self hn
    rw [if_pos hi, hi, hinsert, OrderedMap.keys_insert, methodKeys,
      readAt_of_getElem? (Array.getElem?_eq_getElem hn)]
  · rw [if_neg hi]
    exact readAt_modifyNode_of_ne hi

/-- Adding methods adds their keys to those of the node, in their order. -/
theorem methodKeys_addMethods (hn : n < tree.nodes.size) (methods : List Method) :
    (methods.foldl (fun tree method => tree.addMethod n method) tree).methodKeys i =
      if i = n then (tree.methodKeys n ++ methods.map Method.key).eraseDups
      else tree.methodKeys i := by
  induction methods generalizing tree with
  | nil =>
    rw [List.foldl_nil, List.map_nil, List.append_nil, eraseDups_methodKeys]
    split
    next hi => rw [hi]
    next => rfl
  | cons method rest ih =>
    have hn' : n < (tree.addMethod n method).nodes.size := by rwa [size_addMethod]
    rw [List.foldl_cons, ih hn', methodKeys_addMethod hn, methodKeys_addMethod hn, if_pos rfl,
      eraseDups_append_left, List.map_cons, List.append_assoc, List.singleton_append]
    split <;> rfl

/-- Adding methods changes no description. -/
theorem descriptionAt_addMethods (methods : List Method) :
    (methods.foldl (fun tree method => tree.addMethod n method) tree).descriptionAt i =
      tree.descriptionAt i := by
  induction methods generalizing tree with
  | nil => rfl
  | cons method rest ih =>
    rw [List.foldl_cons, ih]
    exact readAt_modifyNode_of_eq fun _ => rfl

/-! ## Populating a node -/

/-- Populating a node continues its keys by those of the declared methods. -/
theorem methodKeys_populate (hn : n < draft.tree.nodes.size) (decl : ResourceDecl) :
    (draft.populate format n decl).tree.methodKeys i =
      if i = n then (draft.tree.methodKeys n ++
        decl.methods.map fun decl => format.writeName decl.method).eraseDups
      else draft.tree.methodKeys i := by
  have hmethods := methodKeys_addMethods (i := i) hn
    (methodsOf format n decl.methods draft.ids).1.values
  rw [map_key_methodsOf, eraseDups_append_right] at hmethods
  rw [← hmethods]
  simp only [Draft.populate]
  split
  · exact readAt_modifyNode_of_eq fun _ => rfl
  · rfl

/-- Populating a node replaces its description if the declaration has one. -/
theorem descriptionAt_populate (hn : n < draft.tree.nodes.size) (decl : ResourceDecl) :
    (draft.populate format n decl).tree.descriptionAt i =
      if i = n then (decl.description.map Text.trim).getD (draft.tree.descriptionAt n)
      else draft.tree.descriptionAt i := by
  let methods := (methodsOf format n decl.methods draft.ids).1
  have hmethods : descriptionAt _ i = draft.tree.descriptionAt i :=
    descriptionAt_addMethods (n := n) methods.values
  have hsize : _ = draft.tree.nodes.size := size_addMethods (n := n) methods.values
  simp only [Draft.populate]
  cases decl.description with
  | none =>
    refine hmethods.trans ?_
    split
    next hi => rw [hi]; rfl
    next => rfl
  | some text =>
    by_cases hi : i = n
    · rw [if_pos hi, hi]
      exact readAt_modifyNode_self (hsize.symm ▸ hn)
    · rw [if_neg hi]
      exact (readAt_modifyNode_of_ne hi).trans hmethods

/-- The last elements of related lists are related. -/
theorem exists_getLast?_of_forall₂ {α β : Type} {R : α → β → Prop} {xs : List α} {ys : List β}
    {y : β} (h : List.Forall₂ R xs ys) (hy : ys.getLast? = some y) :
    ∃ x, xs.getLast? = some x ∧ R x y := by
  have hreversed := List.forall₂_reverse_iff.mpr h
  rw [← List.head?_reverse] at hy ⊢
  generalize xs.reverse = xs at hreversed ⊢
  generalize ys.reverse = ys at hreversed hy
  cases hreversed with
  | nil => cases hy
  | cons hfirst =>
    obtain rfl := Option.some.inj hy
    exact ⟨_, rfl, hfirst⟩

/-- A node that gets methods refers to the last of them for each key. -/
theorem exists_refers_addMethods (hn : n < tree.nodes.size) {methods : List Method}
    {method : Method}
    (hlast : (methods.filter fun method => method.key = key).getLast? = some method) :
    let grown := methods.foldl (fun tree method => tree.addMethod n method) tree
    ∃ m, grown.Refers n key m ∧ grown.methods[m]? = some method := by
  induction methods using List.reverseRecOn with
  | nil => cases hlast
  | append_singleton methods last ih =>
    rw [List.foldl_append, List.foldl_cons, List.foldl_nil]
    generalize hgrown : methods.foldl (fun tree method => tree.addMethod n method) tree = grown
      at ih ⊢
    have hsize : n < grown.nodes.size := by rwa [← hgrown, size_addMethods]
    have hmethods : (grown.addMethod n last).methods = grown.methods.push last := rfl
    simp only [refers_addMethod_iff hsize, hmethods, true_and]
    rw [List.filter_append, List.getLast?_append] at hlast
    by_cases hkey : last.key = key
    · obtain rfl : last = method := by simpa [hkey] using hlast
      exact ⟨grown.methods.size, by rw [if_pos hkey.symm], Array.getElem?_push_size⟩
    · obtain ⟨m, hrefers, hm⟩ := ih (by simpa [hkey] using hlast)
      have hlt := (Array.getElem?_eq_some_iff.mp hm).1
      have hkept : (grown.methods.push last)[m]? = some method := by
        rw [Array.getElem?_push_lt hlt, ← Array.getElem?_eq_getElem hlt, hm]
      exact ⟨m, by rwa [if_neg (Ne.symm hkey)], hkept⟩

/-- A node that is populated refers to a record of the last declared method for each key. -/
theorem exists_refers_populate (hn : n < draft.tree.nodes.size) (decl : ResourceDecl)
    {declared : MethodDecl}
    (hlast : (decl.methods.filter fun decl => format.writeName decl.method = key).getLast? =
      some declared) :
    let populated := (draft.populate format n decl).tree
    ∃ m id, populated.Refers n key m ∧
      populated.methods[m]? = some (methodOf format n id declared) := by
  have hmade := introduced_madeFrom format n decl.methods draft.ids
  rw [List.forall₂_map_left_iff] at hmade
  have hsame : Relator.LiftFun (fun method decl => MadeFrom format (n, decl) method) (· ↔ ·)
      (fun method : Method => decide (method.key = key) = true)
      (fun decl : MethodDecl => decide (format.writeName decl.method = key) = true) := by
    rintro _ decl ⟨id, rfl⟩
    rfl
  obtain ⟨method, hmethod, id, rfl⟩ :=
    exists_getLast?_of_forall₂ (List.rel_filter hsame hmade.flip) hlast
  rw [← OrderedMap.getLast?_filter_values_collect] at hmethod
  obtain ⟨m, hrefers, hm⟩ := exists_refers_addMethods hn hmethod
  refine ⟨m, id, ?_⟩
  simp only [Draft.populate, methodsOf_eq]
  split
  · refine ⟨(refers_modifyNode_iff ?_).mpr hrefers, hm⟩
    exact fun _ => rfl
  · exact ⟨hrefers, hm⟩

/-! ## Builds -/

/-- A journal shows what its tree has merged. -/
structure Journal.Merges (format : Format) (journal : Journal) : Prop where
  keys_eq : ∀ n, journal.tree.methodKeys n =
    (((landedOn journal.landings n).flatMap ResourceDecl.methods).map fun decl =>
      format.writeName decl.method).eraseDups
  description_eq : ∀ n, journal.tree.descriptionAt n =
    (((landedOn journal.landings n).filterMap ResourceDecl.description).getLast?.map
      Text.trim).getD ""

/-- A fresh journal has nothing to merge. -/
theorem fresh_merges (format : Format) (ids : Identifiers) :
    (fresh format ids).Merges format := by
  have hroot (n : Nat) : n = 0 ∨ (fresh format ids).tree.nodes[n]? = none := by
    by_cases hn : n = 0
    · exact Or.inl hn
    · refine Or.inr (Array.getElem?_eq_none ?_)
      exact Nat.one_le_iff_ne_zero.mpr hn
  constructor
  · intro n
    rcases hroot n with rfl | hnone
    · rfl
    · rw [methodKeys, readAt, hnone]
      rfl
  · intro n
    rcases hroot n with rfl | hnone
    · rfl
    · rw [descriptionAt, readAt, hnone]
      rfl

/-- A landing on a node is merged into it. -/
theorem Journal.Merges.land (h : journal.Merges format) {landing : Landing}
    (hn : landing.node < journal.tree.nodes.size) :
    (journal.land format landing).Merges format := by
  constructor
  · intro n
    refine (methodKeys_populate hn landing.decl).trans ?_
    rw [Journal.land, landedOn_concat, ← Journal.tree]
    split
    next hi =>
      rw [if_pos hi.symm, ← hi, h.keys_eq, eraseDups_append_left, List.flatMap_append,
        List.flatMap_singleton, List.map_append]
    next hi => rw [if_neg (Ne.symm hi), h.keys_eq]
  · intro n
    refine (descriptionAt_populate hn landing.decl).trans ?_
    rw [Journal.land, landedOn_concat, ← Journal.tree]
    split
    next hi =>
      rw [if_pos hi.symm, ← hi, h.description_eq, List.filterMap_append, List.getLast?_append]
      cases hdescription : landing.decl.description <;> simp [hdescription]
    next hi => rw [if_neg (Ne.symm hi), h.description_eq]

/-- Every change keeps account of what is merged. -/
theorem Change.merges (h : Change format resources journal later)
    (hwf : journal.tree.WellFormed) (hmerges : journal.Merges format) : later.Merges format := by
  cases h with
  | warn => exact ⟨hmerges.keys_eq, hmerges.description_eq⟩
  | grow hn =>
    exact ⟨fun n => (readAt_attach hn rfl fun _ _ => rfl).trans (hmerges.keys_eq n),
      fun n => (readAt_attach hn rfl fun _ _ => rfl).trans (hmerges.description_eq n)⟩
  | land hlineage hstart hroute hlast =>
    exact hmerges.land (hwf.follow?_lt_size (hstart.lt_size hwf) hlast)

/-- The journal of a build merges what landed on each node. -/
theorem history_merges (format : Format) (resources : List ResourceDecl) (ids : Identifiers) :
    (history format resources ids).Merges format :=
  history_keeps (fun _ _ hchange => hchange.merges) (fresh_merges format ids)

/-- The latest record for a resource and a key is the last of those that belong to them. -/
theorem IsLatest.getElem?_eq (h : tree.IsLatest m n key) :
    tree.methods[m]? = (tree.methods.toList.filter (isFor n key)).getLast? := by
  obtain ⟨⟨method, hmethod, hresource, hkey⟩, hlast⟩ := h
  rw [hmethod]
  rw [← Array.getElem?_toList] at hmethod
  have hlt := (List.getElem?_eq_some_iff.mp hmethod).1
  have hlater : (tree.methods.toList.drop (m + 1)).filter (isFor n key) = [] := by
    refine List.filter_eq_nil_iff.mpr fun other hother => ?_
    obtain ⟨k, hk⟩ := List.mem_iff_getElem?.mp hother
    rw [List.getElem?_drop, Array.getElem?_toList] at hk
    intro hfor
    have hplace : other.resource = n ∧ other.key = key := by simpa [isFor] using hfor
    have hle := hlast _ ⟨other, hk, hplace⟩
    omega
  have hsplit : tree.methods.toList =
      (tree.methods.toList.take m ++ [method]) ++ tree.methods.toList.drop (m + 1) := by
    rw [List.append_assoc, List.singleton_append, ← (List.getElem?_eq_some_iff.mp hmethod).2,
      ← List.drop_eq_getElem_cons hlt, List.take_append_drop]
  rw [hsplit, List.filter_append, hlater, List.append_nil, List.filter_append]
  simp [isFor, hresource, hkey]

/-- The last method that was made for a node and a key was made from the last declaration of one. -/
theorem exists_getLast?_declared {made : List Method} {landings : List Landing} {method : Method}
    (hmade : List.Forall₂ (MadeFrom format) (declared landings) made)
    (hlast : (made.filter (isFor n key)).getLast? = some method) :
    ∃ decl id, (((landedOn landings n).flatMap ResourceDecl.methods).filter fun decl =>
      format.writeName decl.method = key).getLast? = some decl ∧
      method = methodOf format n id decl := by
  let hasKey (decl : MethodDecl) : Bool := format.writeName decl.method = key
  have hfor : Relator.LiftFun (MadeFrom format) (· ↔ ·)
      (fun place : Nat × MethodDecl => (hasKey place.2 && decide (place.1 = n)) = true)
      (fun method => isFor n key method = true) := by
    rintro ⟨place, decl⟩ _ ⟨id, rfl⟩
    simp [hasKey, isFor, methodOf, and_comm]
  obtain ⟨place, hplace, id, rfl⟩ :=
    exists_getLast?_of_forall₂ (List.rel_filter hfor hmade) hlast
  rw [← List.filter_filter, filter_declared, List.filter_map, List.getLast?_map,
    Option.map_eq_some_iff] at hplace
  obtain ⟨decl, hdecl, rfl⟩ := hplace
  exact ⟨decl, id, hdecl, rfl⟩

/-- The nodes of a tree are merged from the declarations that landed on them. -/
def Merged (tree : Tree) (format : Format) (landings : List Landing) : Prop :=
  ∀ (n : Nat) (node : Node), tree.nodes[n]? = some node →
    node.Merges format tree n (landedOn landings n)

/-- The declarations land in the order that the tree shows: one after the other, the routes of each
one after the other, and a declaration before what it nests. Every node is merged from those that
landed on it. -/
theorem build_merged (format : Format) (resources : List ResourceDecl) (ids : Identifiers) :
    (history format resources ids).landings =
        landingsOfAll (build format resources ids).tree format resources root ∧
      (build format resources ids).tree.Merged format
        (landingsOfAll (build format resources ids).tree format resources root) := by
  have hlandings := landings_history format resources ids
  refine ⟨hlandings, fun n node hnode => ?_⟩
  have hmerges := history_merges format resources ids
  obtain ⟨made, hmade⟩ := history_makes format resources ids
  rw [← draft_history, ← Journal.tree] at hnode
  rw [← hlandings]
  constructor
  · rw [← hmerges.keys_eq n, methodKeys, readAt_of_getElem? hnode]
  · intro key m hm
    have howned := build_owned format resources ids
    rw [← draft_history, ← Journal.tree] at howned ⊢
    have hlatest := (howned n key m).mp ⟨node, hnode, hm⟩
    have hrecord := hlatest.getElem?_eq
    obtain ⟨method, hmethod, -⟩ := hlatest.1
    rw [hmethod, hmade.last_eq] at hrecord
    obtain ⟨decl, id, hdecl, rfl⟩ := exists_getLast?_declared hmade.madeFrom hrecord.symm
    exact ⟨decl, id, hdecl, hmethod⟩
  · rw [← hmerges.description_eq n, descriptionAt, readAt_of_getElem? hnode]

end Tree

end ClientGen
