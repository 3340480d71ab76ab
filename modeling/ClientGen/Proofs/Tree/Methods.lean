import ClientGen.Proofs.Tree.Growth

/-!
# Methods of nodes

A node has a method under a key exactly if it had one before or a declaration with such a method was
put there. Of the operations on trees only adding methods matters, and only for the node that they
are added to.
-/

namespace ClientGen.Tree

variable {format : Format} {tree : Tree} {draft : Draft} {node : Node} {n i parent : Nat}
  {key : String}

/-- A node has a method under a key. -/
def HasMethod (tree : Tree) (n : Nat) (key : String) : Prop :=
  ∃ node, tree.nodes[n]? = some node ∧ node.methods.contains key = true

/-- A node has a method under the keys of its methods. -/
theorem hasMethod_iff_mem_keys (hnode : tree.nodes[n]? = some node) :
    tree.HasMethod n key ↔ key ∈ node.methods.keys := by
  simp [HasMethod, hnode, OrderedMap.contains_iff_mem_keys]

/-- Changing anything but the methods of a node keeps all methods. -/
theorem hasMethod_modifyNode_iff {change : Node → Node}
    (hchange : ∀ node : Node, (change node).methods = node.methods) :
    (tree.modifyNode n change).HasMethod i key ↔ tree.HasMethod i key := by
  simp only [HasMethod, getElem?_modifyNode]
  split
  · cases tree.nodes[i]? <;> simp [hchange]
  · rfl

/-- An attached node has no methods. -/
theorem hasMethod_attach_iff (hparent : parent < tree.nodes.size) (hnone : node.methods = .empty) :
    (tree.attach parent node).1.HasMethod i key ↔ tree.HasMethod i key := by
  simp only [HasMethod, getElem?_attach hparent]
  split
  next hi =>
    have hnew : tree.nodes[i]? = none := by simp [hi]
    have hempty : (OrderedMap.empty : OrderedMap Nat).contains key = false := rfl
    simp [hnew, hnone, hempty]
  next =>
    split
    · cases tree.nodes[i]? <;> simp
    · rfl

/-- Adding a method adds its key to one node. -/
theorem hasMethod_addMethod_iff (hn : n < tree.nodes.size) (method : Method) :
    (tree.addMethod n method).HasMethod i key ↔
      tree.HasMethod i key ∨ i = n ∧ method.key = key := by
  simp only [HasMethod, addMethod, getElem?_modifyNode, OrderedMap.contains_iff_mem_keys]
  by_cases hi : n = i
  · subst hi
    simp [Array.getElem?_eq_getElem hn, OrderedMap.mem_keys_insert, or_comm, eq_comm]
  · simp [hi, Ne.symm hi]

/-- Adding a method adds no node. -/
theorem size_addMethod (method : Method) :
    (tree.addMethod n method).nodes.size = tree.nodes.size := by
  simp [addMethod, modifyNode]

/-- Adding methods adds no node. -/
theorem size_addMethods (methods : List Method) :
    (methods.foldl (fun tree method => tree.addMethod n method) tree).nodes.size =
      tree.nodes.size := by
  induction methods generalizing tree with
  | nil => rfl
  | cons method rest ih => rw [List.foldl_cons, ih, size_addMethod]

/-- Adding methods adds their keys to one node. -/
theorem hasMethod_addMethods_iff (hn : n < tree.nodes.size) (methods : List Method) :
    (methods.foldl (fun tree method => tree.addMethod n method) tree).HasMethod i key ↔
      tree.HasMethod i key ∨ i = n ∧ ∃ method ∈ methods, method.key = key := by
  induction methods generalizing tree with
  | nil => simp
  | cons method rest ih =>
    have hn' : n < (tree.addMethod n method).nodes.size := by rwa [size_addMethod]
    rw [List.foldl_cons, ih hn', hasMethod_addMethod_iff hn method, or_assoc, ← and_or_left]
    simp

/-! ## Methods that declarations introduce -/

/-- The methods that declarations introduce on a resource, each under the next identifier, and the
identifiers after that. -/
def introduced (format : Format) (resource : Nat) :
    List MethodDecl → Identifiers → List Method × Identifiers
  | [], ids => ([], ids)
  | decl :: rest, ids =>
    let (id, ids) := format.nextId ids "method"
    let (methods, ids) := introduced format resource rest ids
    (methodOf format resource id decl :: methods, ids)

/-- The methods of a declaration are those that it introduces, the last of several with one key. -/
theorem methodsOf_eq (format : Format) (resource : Nat) (decls : List MethodDecl)
    (ids : Identifiers) : methodsOf format resource decls ids =
      (.collect Method.key (introduced format resource decls ids).1,
        (introduced format resource decls ids).2) := by
  rw [methodsOf, OrderedMap.collect]
  generalize OrderedMap.empty = given
  induction decls generalizing given ids with
  | nil => rfl
  | cons decl rest ih => exact ih _ _

/-- The methods that declarations introduce have the keys of the declarations. -/
theorem map_key_introduced (format : Format) (resource : Nat) (decls : List MethodDecl)
    (ids : Identifiers) : (introduced format resource decls ids).1.map Method.key =
      decls.map fun decl => format.writeName decl.method := by
  induction decls generalizing ids with
  | nil => rfl
  | cons decl rest ih =>
    rw [List.map_cons, ← ih]
    rfl

/-- The methods that declarations introduce on a resource are records of that resource. -/
theorem resource_of_mem_introduced {resource : Nat} {decls : List MethodDecl} {ids : Identifiers}
    {method : Method}
    (h : method ∈ (introduced format resource decls ids).1) : method.resource = resource := by
  induction decls generalizing ids with
  | nil => cases h
  | cons decl rest ih =>
    rcases List.mem_cons.mp h with rfl | h
    · rfl
    · exact ih h

/-- The methods that count have the keys of the declarations, each once. -/
theorem map_key_methodsOf (format : Format) (resource : Nat) (decls : List MethodDecl)
    (ids : Identifiers) : (methodsOf format resource decls ids).1.values.map Method.key =
      (decls.map fun decl => format.writeName decl.method).eraseDups := by
  rw [methodsOf_eq, OrderedMap.map_keyOf_values_collect, OrderedMap.keys_collect,
    map_key_introduced]

/-- The keys of methods are the names of the verbs that are declared. -/
theorem exists_mem_methodsOf_iff (format : Format) (resource : Nat) (ids : Identifiers)
    (decls : List MethodDecl) :
    (∃ method ∈ (methodsOf format resource decls ids).1.values, method.key = key) ↔
      ∃ decl ∈ decls, format.writeName decl.method = key := by
  rw [← List.mem_map, map_key_methodsOf, List.mem_eraseDups, List.mem_map]

/-- Methods are made for the resource that they are declared on. -/
theorem resource_of_mem_methodsOf {resource : Nat} {decls : List MethodDecl} {ids : Identifiers}
    {method : Method} (h : method ∈ (methodsOf format resource decls ids).1.values) :
    method.resource = resource := by
  rw [methodsOf_eq] at h
  exact resource_of_mem_introduced (OrderedMap.values_collect_subperm.subset h)

/-! ## Populating a node -/

/-- Populating a node adds no node. -/
theorem size_populate (draft : Draft) (format : Format) (n : Nat) (decl : ResourceDecl) :
    (draft.populate format n decl).tree.nodes.size = draft.tree.nodes.size := by
  have hmethods : _ = draft.tree.nodes.size :=
    size_addMethods (n := n) (methodsOf format n decl.methods draft.ids).1.values
  simp only [Draft.populate]
  split
  · rwa [modifyNode, Array.size_modify]
  · exact hmethods

/-- Populating a node adds the keys of the declared methods to it, and nothing to other nodes. -/
theorem hasMethod_populate_iff (hn : n < draft.tree.nodes.size) (decl : ResourceDecl) :
    (draft.populate format n decl).tree.HasMethod i key ↔ draft.tree.HasMethod i key ∨
      i = n ∧ ∃ method ∈ decl.methods, format.writeName method.method = key := by
  have hmethods : HasMethod _ i key ↔ _ :=
    hasMethod_addMethods_iff hn (methodsOf format n decl.methods draft.ids).1.values
  rw [exists_mem_methodsOf_iff] at hmethods
  rw [← hmethods]
  simp only [Draft.populate]
  split
  · exact hasMethod_modifyNode_iff fun _ => rfl
  · rfl

end ClientGen.Tree
