import ClientGen.Context
import ClientGen.Proofs.Tree.Methods
import ClientGen.Proofs.Tree.Preorder

/-!
# Who owns a method

Every record of a method names the resource and the key that it was made for. Of the records with
one resource and one key only the latest counts: it is the one that the node of the resource refers
to under the key. A method that is added becomes the latest record at one place and leaves all
others as they were, so this is kept while a tree is built. It follows that the methods listed for a
client are the records that count, each once.
-/

namespace ClientGen

namespace Tree

variable {format : Format} {resources : List ResourceDecl} {tree : Tree} {node : Node}
  {method : Method} {n i m parent : Nat} {key k : String}

/-- A record was made for a resource and a key. -/
def Records (tree : Tree) (m n : Nat) (key : String) : Prop :=
  ∃ method, tree.methods[m]? = some method ∧ method.resource = n ∧ method.key = key

/-- A node refers to a record under a key. -/
def Refers (tree : Tree) (n : Nat) (key : String) (m : Nat) : Prop :=
  ∃ node, tree.nodes[n]? = some node ∧ node.methods.get? key = some m

/-- A record is the latest one for a resource and a key. -/
def IsLatest (tree : Tree) (m n : Nat) (key : String) : Prop :=
  tree.Records m n key ∧ ∀ other, tree.Records other n key → other ≤ m

/-- The nodes refer to the latest records. -/
def Owned (tree : Tree) : Prop :=
  ∀ n key m, tree.Refers n key m ↔ tree.IsLatest m n key

/-- A record is stored. -/
theorem Records.lt_size (h : tree.Records m n key) : m < tree.methods.size := by
  obtain ⟨method, hmethod, -⟩ := h
  exact (Array.getElem?_eq_some_iff.mp hmethod).1

/-- Only nodes refer to records. -/
theorem Refers.lt_size (h : tree.Refers n key m) : n < tree.nodes.size := by
  obtain ⟨node, hnode, -⟩ := h
  exact (Array.getElem?_eq_some_iff.mp hnode).1

/-! ## Operations that leave methods alone -/

/-- Records do not depend on the nodes. -/
theorem isLatest_congr {later : Tree} (h : later.methods = tree.methods) :
    later.IsLatest m n key ↔ tree.IsLatest m n key := by
  simp only [IsLatest, Records, h]

/-- Changing anything but the methods of a node keeps all references. -/
theorem refers_modifyNode_iff {change : Node → Node}
    (hchange : ∀ node : Node, (change node).methods = node.methods) :
    (tree.modifyNode n change).Refers i key m ↔ tree.Refers i key m := by
  simp only [Refers, getElem?_modifyNode]
  split
  · cases tree.nodes[i]? <;> simp [hchange]
  · rfl

/-- An attached node refers to nothing. -/
theorem refers_attach_iff (hparent : parent < tree.nodes.size) (hnone : node.methods = .empty) :
    (tree.attach parent node).1.Refers i key m ↔ tree.Refers i key m := by
  simp only [Refers, getElem?_attach hparent]
  split
  next hi =>
    have hnew : tree.nodes[i]? = none := by simp [hi]
    have hempty : (OrderedMap.empty : OrderedMap Nat).get? key = none := rfl
    simp [hnew, hnone, hempty]
  next =>
    split
    · cases tree.nodes[i]? <;> simp
    · rfl

/-- A tree stays owned when a node is modified but for its methods. -/
theorem Owned.modifyNode (h : tree.Owned) {change : Node → Node}
    (hchange : ∀ node : Node, (change node).methods = node.methods) :
    (tree.modifyNode n change).Owned := by
  intro i key m
  rw [refers_modifyNode_iff hchange, h i key m]
  exact (isLatest_congr rfl).symm

/-- A tree stays owned when a node without methods is attached. -/
theorem Owned.attach (h : tree.Owned) (hparent : parent < tree.nodes.size)
    (hnone : node.methods = .empty) : (tree.attach parent node).1.Owned := by
  intro i key m
  rw [refers_attach_iff hparent hnone, h i key m]
  exact (isLatest_congr rfl).symm

/-! ## Adding methods -/

/-- An added method is one more record. -/
theorem records_addMethod_iff : (tree.addMethod n method).Records m i key ↔
    tree.Records m i key ∨ m = tree.methods.size ∧ method.resource = i ∧ method.key = key := by
  simp only [Records, addMethod, modifyNode, Array.getElem?_push]
  by_cases hm : m = tree.methods.size
  · simp [hm]
  · simp [hm]

/-- An added method is the latest record at its place; elsewhere nothing changes. -/
theorem isLatest_addMethod_iff (hresource : method.resource = n) :
    (tree.addMethod n method).IsLatest m i key ↔
      if i = n ∧ key = method.key then m = tree.methods.size else tree.IsLatest m i key := by
  split
  next hplace =>
    obtain ⟨rfl, rfl⟩ := hplace
    constructor
    · rintro ⟨hm, hlast⟩
      have hle := hlast _ (records_addMethod_iff.mpr (Or.inr ⟨rfl, hresource, rfl⟩))
      rcases records_addMethod_iff.mp hm with hold | ⟨hnew, -⟩
      · exact absurd hold.lt_size (by omega)
      · exact hnew
    · rintro rfl
      refine ⟨records_addMethod_iff.mpr (Or.inr ⟨rfl, hresource, rfl⟩), fun other hother => ?_⟩
      rcases records_addMethod_iff.mp hother with hold | ⟨hnew, -⟩
      · exact Nat.le_of_lt hold.lt_size
      · exact Nat.le_of_eq hnew
  next hplace =>
    have hsame (m : Nat) : (tree.addMethod n method).Records m i key ↔ tree.Records m i key := by
      rw [records_addMethod_iff, or_iff_left]
      rintro ⟨-, hi, hkey⟩
      exact hplace ⟨hi.symm.trans hresource, hkey.symm⟩
    simp only [IsLatest, hsame]

/-- A node to which a method is added refers to it under its key. -/
theorem refers_addMethod_iff (hn : n < tree.nodes.size) :
    (tree.addMethod n method).Refers i key m ↔
      if i = n ∧ key = method.key then m = tree.methods.size else tree.Refers i key m := by
  simp only [Refers, addMethod, getElem?_modifyNode]
  by_cases hi : i = n
  · subst hi
    by_cases hkey : key = method.key <;>
      simp [Array.getElem?_eq_getElem hn, OrderedMap.get?_insert, hkey,
        eq_comm (a := tree.methods.size)]
  · simp [hi, Ne.symm hi]

/-- A tree stays owned when a method is added to its own resource. -/
theorem Owned.addMethod (h : tree.Owned) (hn : n < tree.nodes.size)
    (hresource : method.resource = n) : (tree.addMethod n method).Owned := by
  intro i key m
  rw [refers_addMethod_iff hn, isLatest_addMethod_iff hresource, h i key m]

/-- A tree stays owned when methods are added to their own resource. -/
theorem Owned.addMethods (h : tree.Owned) (hn : n < tree.nodes.size) {methods : List Method}
    (hresource : ∀ method ∈ methods, method.resource = n) :
    (methods.foldl (fun tree method => tree.addMethod n method) tree).Owned := by
  induction methods generalizing tree with
  | nil => exact h
  | cons method rest ih =>
    have hn' : n < (tree.addMethod n method).nodes.size := by rwa [size_addMethod]
    exact ih (h.addMethod hn (hresource method List.mem_cons_self)) hn'
      fun method hmethod => hresource method (List.mem_cons_of_mem _ hmethod)

/-- Populating a node keeps the order of ownership. -/
theorem Owned.populate {draft : Draft} (h : draft.tree.Owned) (hn : n < draft.tree.nodes.size)
    (decl : ResourceDecl) : (draft.populate format n decl).tree.Owned := by
  have hresource : ∀ method ∈ (methodsOf format n decl.methods draft.ids).1.values,
      method.resource = n := fun _ => resource_of_mem_methodsOf
  have hmethods := h.addMethods hn hresource
  simp only [Draft.populate]
  split
  · exact hmethods.modifyNode fun _ => rfl
  · exact hmethods

/-! ## Builds -/

/-- The root alone is an owned tree. -/
theorem owned_withRoot (id : String) : (withRoot id).Owned := by
  intro n key m
  constructor
  · rintro ⟨node, hnode, hget⟩
    have hroot : node = { (default : Node) with id } := by
      simpa [withRoot] using Array.mem_of_getElem? hnode
    rw [hroot] at hget
    cases hget
  · rintro ⟨hrecords, -⟩
    exact absurd hrecords.lt_size (Nat.not_lt_zero m)

/-- Every change keeps the order of ownership. -/
theorem Change.owned {journal later : Journal} (h : Change format resources journal later)
    (hwf : journal.tree.WellFormed) (howned : journal.tree.Owned) : later.tree.Owned := by
  cases h with
  | warn => exact howned
  | grow hn => exact howned.attach hn rfl
  | land hlineage hstart hroute hlast =>
    exact howned.populate (hwf.follow?_lt_size (hstart.lt_size hwf) hlast) _

/-- A built tree is owned: its nodes refer to the latest records. -/
theorem build_owned (format : Format) (resources : List ResourceDecl) (ids : Identifiers) :
    (build format resources ids).tree.Owned := by
  rw [← draft_history]
  exact history_keeps (P := fun journal => journal.tree.Owned) (fun _ _ hchange => hchange.owned)
    (owned_withRoot _)

/-! ## Listing the methods -/

/-- The methods that a node refers to. -/
def methodsAt (tree : Tree) (n : Nat) : List Nat :=
  ((tree.nodes[n]?).map fun node => node.methods.values).getD []

/-- The methods at a node are those that it refers to. -/
theorem mem_methodsAt_iff : m ∈ tree.methodsAt n ↔ ∃ key, tree.Refers n key m := by
  cases hnode : tree.nodes[n]? with
  | none => simp [methodsAt, Refers, hnode]
  | some node =>
    simp [methodsAt, Refers, hnode, OrderedMap.values, OrderedMap.get?_eq_some_iff]

/-- No record is referred to from two places. -/
theorem Owned.place_unique (h : tree.Owned) (hm : tree.Refers n key m) (hm' : tree.Refers i k m) :
    n = i ∧ key = k := by
  obtain ⟨method, hmethod, rfl, rfl⟩ := ((h n key m).mp hm).1
  obtain ⟨method', hmethod', rfl, rfl⟩ := ((h i k m).mp hm').1
  obtain rfl : method = method' := Option.some.inj (hmethod.symm.trans hmethod')
  exact ⟨rfl, rfl⟩

/-- No method is at a node under two keys. -/
theorem Owned.nodup_methodsAt (h : tree.Owned) (n : Nat) : (tree.methodsAt n).Nodup := by
  cases hnode : tree.nodes[n]? with
  | none => simp [methodsAt, hnode]
  | some node =>
    have hrefers {entry : String × Nat} (hentry : entry ∈ node.methods.entries) :
        tree.Refers n entry.1 entry.2 := ⟨node, hnode, OrderedMap.get?_eq_some_iff.mpr hentry⟩
    have hnodup : node.methods.values.Nodup := by
      refine List.Nodup.map_on ?_ (List.Nodup.of_map Prod.fst node.methods.nodup_keys)
      rintro ⟨key, m⟩ hm ⟨k, m'⟩ hm' hmm
      obtain rfl : m = m' := hmm
      obtain ⟨-, rfl⟩ : n = n ∧ key = k := h.place_unique (hrefers hm) (hrefers hm')
      rfl
    simpa [methodsAt, hnode] using hnodup

/-- The methods of different nodes are different records. -/
theorem Owned.nodup_flatMap (h : tree.Owned) {nodes : List Nat} (hnodes : nodes.Nodup) :
    (nodes.flatMap tree.methodsAt).Nodup := by
  rw [List.nodup_flatMap]
  refine ⟨fun n _ => h.nodup_methodsAt n, hnodes.imp fun {n i} hne m hm hm' => hne ?_⟩
  obtain ⟨key, hkey⟩ := mem_methodsAt_iff.mp hm
  obtain ⟨k, hk⟩ := mem_methodsAt_iff.mp hm'
  exact (h.place_unique hkey hk).1

end Tree

/-- What it means that the methods of a client have their places. -/
structure Context.OwnsMethods (context : Context) : Prop where
  /-- A node refers under a key to a record that was made for the node and the key. -/
  records : ∀ {n key m}, context.tree.Refers n key m → context.tree.Records m n key
  /-- No record is referred to from two places. -/
  place_unique : ∀ {n i key k m}, context.tree.Refers n key m → context.tree.Refers i k m →
    n = i ∧ key = k
  /-- A record that no node refers to was followed by another one for the same place. -/
  superseded : ∀ {m n key}, context.tree.Records m n key →
    (∀ i k, ¬context.tree.Refers i k m) → ∃ later > m, context.tree.Records later n key
  /-- The record that a node refers to is the last one for its place. -/
  last : ∀ {n key m}, context.tree.Refers n key m → ∀ other, context.tree.Records other n key →
    other ≤ m
  /-- The listed methods are those of the listed resources, in their order. -/
  listed : context.allMethods = context.allResources.flatMap context.tree.methodsAt
  /-- The listed methods are the records that a node refers to. -/
  mem_listed : ∀ m, m ∈ context.allMethods ↔ ∃ n key, context.tree.Refers n key m
  /-- No method is listed twice. -/
  nodup_listed : context.allMethods.Nodup

/-- What the lists of a context have to do with its tree. -/
structure Context.Listed (context : Context) : Prop where
  wellFormed : context.tree.WellFormed
  owned : context.tree.Owned
  allResources_eq : context.allResources = context.tree.preorder Tree.root
  allMethods_eq : context.allMethods = context.allResources.flatMap context.tree.methodsAt

/-- The lists of a built context are those of its tree. -/
theorem Context.build_listed (format : Format) (spec : Specification) (ids : Identifiers) :
    (Context.build format spec ids).1.Listed := by
  let context := (Context.build format spec ids).1
  have hwf : context.tree.WellFormed := Tree.build_wellFormed _ _ _
  refine ⟨hwf, Tree.build_owned _ _ _, ?_, rfl⟩
  show (context.tree.flatten? Tree.root).getD [] = _
  rw [hwf.flatten?_root, Option.getD_some]

/-- All nodes are listed, and nothing else. -/
theorem Context.Listed.mem_allResources_iff {context : Context} (h : context.Listed) {n : Nat} :
    n ∈ context.allResources ↔ n < context.tree.nodes.size := by
  rw [h.allResources_eq, h.wellFormed.mem_preorder_root]

/-- The methods of a context that lists its tree have their places. -/
theorem Context.Listed.ownsMethods {context : Context} (h : context.Listed) :
    context.OwnsMethods := by
  have howned := h.owned
  refine ⟨fun href => ((howned _ _ _).mp href).1, howned.place_unique, ?_,
    fun href => ((howned _ _ _).mp href).2, h.allMethods_eq, fun m => ?_, ?_⟩
  · intro m n key hm hnone
    by_contra hlast
    refine hnone n key ((howned n key m).mpr ⟨hm, fun other hother => ?_⟩)
    by_contra hlt
    exact hlast ⟨other, Nat.lt_of_not_le hlt, hother⟩
  · rw [h.allMethods_eq, List.mem_flatMap]
    constructor
    · rintro ⟨n, -, hm⟩
      exact ⟨n, Tree.mem_methodsAt_iff.mp hm⟩
    · rintro ⟨n, key, hm⟩
      exact ⟨n, h.mem_allResources_iff.mpr hm.lt_size, Tree.mem_methodsAt_iff.mpr ⟨key, hm⟩⟩
  · rw [h.allMethods_eq, h.allResources_eq]
    exact howned.nodup_flatMap (h.wellFormed.nodup_preorder h.wellFormed.size_pos)

/-- Whatever is described, every node refers to the latest record for each of its keys and to no
other, and these records are the listed methods. -/
theorem Context.build_ownsMethods (format : Format) (spec : Specification) (ids : Identifiers) :
    (Context.build format spec ids).1.OwnsMethods :=
  (Context.build_listed format spec ids).ownsMethods

end ClientGen
