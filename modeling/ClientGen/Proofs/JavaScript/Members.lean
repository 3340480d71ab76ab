import ClientGen.Proofs.JavaScript.Hygiene
import ClientGen.Proofs.Tree.Consistency

/-!
# Members of the objects of a client

The object of a resource has its children as properties, which its constructor sets, and its methods
as functions of its class. The root is the client itself, which has the options and two functions of
its own as well. Properties hide functions of the same name, and functions of the client class hide
those of the class of the root. Keys of children are told apart from each other while a tree is
built, and so are those of methods, but not the ones from the others. From the declarations one can
tell when nothing is hidden.
-/

namespace ClientGen.JavaScript

variable {context : Context} {n : Nat} {key name : String}

/-- What a name finds on the object of a resource. -/
inductive Member where
  /-- A property or function that every client has under the name. -/
  | fixed (name : String)
  | child (n : Nat)
  | method (m : Nat)
deriving DecidableEq

/-- The properties of every object. -/
def objectFields : List String := ["_client", "_path"]

/-- The functions of the client class. -/
def clientFunctions : List String := ["constructor", "baseUri", "request"]

/-- The members of the client that its requests go through. -/
def clientMembers : List String := ["options", "baseUri", "request"]

/-- What a name finds on the object of a resource. The options of the client are the last property
that is set, after the children and these after the properties of every object. Without a property
the functions of the client class are found before those of the class of the resource. -/
def member? (context : Context) (n : Nat) (name : String) : Option Member :=
  if n = Tree.root ∧ name = "options" then some (.fixed name)
  else
    match (resourceAt context n).children.get? name with
    | some child => some (.child child)
    | none =>
      if name ∈ objectFields ∨ n = Tree.root ∧ name ∈ clientFunctions then some (.fixed name)
      else ((resourceAt context n).methods.get? name).map .method

/-- No child hides a method of the same resource, or what requests go through. -/
structure Unshadowed (context : Context) : Prop where
  disjoint : ∀ n < context.tree.nodes.size,
    (resourceAt context n).children.keys.Disjoint (resourceAt context n).methods.keys
  avoids : ∀ name ∈ clientMembers, name ∉ (resourceAt context Tree.root).children.keys

/-- All children and methods are found under their keys, and requests find what they go through. -/
structure Accessible (context : Context) : Prop where
  child : ∀ n < context.tree.nodes.size, ∀ entry ∈ (resourceAt context n).children.entries,
    member? context n entry.1 = some (.child entry.2)
  method : ∀ n < context.tree.nodes.size, ∀ entry ∈ (resourceAt context n).methods.entries,
    member? context n entry.1 = some (.method entry.2)
  field : ∀ n < context.tree.nodes.size, ∀ name ∈ objectFields,
    member? context n name = some (.fixed name)
  request : ∀ name ∈ clientMembers, member? context Tree.root name = some (.fixed name)

/-! ## What is found -/

/-- An object has a child under a key unless it is the client, whose options hide it. -/
theorem member?_eq_child_iff {child : Nat} : member? context n key = some (.child child) ↔
    (resourceAt context n).children.get? key = some child ∧ ¬(n = Tree.root ∧ key = "options") := by
  rw [member?]
  split
  next hoptions => simp [hoptions]
  next hoptions =>
    split
    next other hother => simp [hother, hoptions]
    next hnone =>
      split
      next => simp [hnone]
      next => simp [hnone]

/-- An object has a method under a key unless a child, a field or the client hides it. -/
theorem member?_eq_method_iff {m : Nat} : member? context n key = some (.method m) ↔
    (resourceAt context n).methods.get? key = some m ∧
      (resourceAt context n).children.get? key = none ∧ key ∉ objectFields ∧
      ¬(n = Tree.root ∧ key ∈ "options" :: clientFunctions) := by
  rw [member?, List.mem_cons]
  split
  next hoptions => simp [hoptions]
  next hoptions =>
    split
    next other hother => simp [hother]
    next hnone =>
      split
      next hfixed =>
        simp only [Option.some.injEq, reduceCtorEq, false_iff]
        rintro ⟨-, -, hfield, hclient⟩
        exact hfixed.elim hfield fun h => hclient ⟨h.1, Or.inr h.2⟩
      next hfree =>
        rw [not_or] at hfree
        have hclient : ¬(n = Tree.root ∧ (key = "options" ∨ key ∈ clientFunctions)) :=
          fun h => h.2.elim (fun heq => hoptions ⟨h.1, heq⟩) fun hmem => hfree.2 ⟨h.1, hmem⟩
        simp [hnone, hfree.1, hclient]

/-- What is fixed is found unless a child has its name, but no child hides the options. -/
theorem member?_eq_fixed_iff : member? context n key = some (.fixed key) ↔
    n = Tree.root ∧ key = "options" ∨ (resourceAt context n).children.get? key = none ∧
      (key ∈ objectFields ∨ n = Tree.root ∧ key ∈ clientFunctions) := by
  rw [member?]
  split
  next hoptions => simp [hoptions]
  next hoptions =>
    split
    next other hother => simp [hother, hoptions]
    next hnone =>
      split
      next hfixed => simp [hnone, hfixed]
      next hfree => simp [hfree, hoptions]

/-- What is found has not been hidden by a child. -/
theorem Accessible.unshadowed (h : Accessible context) (hpos : 0 < context.tree.nodes.size) :
    Unshadowed context where
  disjoint n hn key hchild hmethod := by
    obtain ⟨entry, hentry, rfl⟩ := List.mem_map.mp hmethod
    have hfound := (member?_eq_method_iff.mp (h.method n hn entry hentry)).2.1
    exact OrderedMap.get?_eq_none_iff.mp hfound hchild
  avoids name hname hmem := by
    obtain ⟨entry, hentry, rfl⟩ := List.mem_map.mp hmem
    have hfound := member?_eq_child_iff.mp (h.child Tree.root hpos entry hentry)
    rcases member?_eq_fixed_iff.mp (h.request entry.1 hname) with hoptions | ⟨hnone, -⟩
    · exact hfound.2 hoptions
    · exact OrderedMap.get?_eq_none_iff.mp hnone hmem

/-- Where no key is a property of every object and the client itself hides no method of the root,
everything is found that is not hidden by a child. -/
theorem Unshadowed.accessible (h : Unshadowed context)
    (hchildren : ∀ n < context.tree.nodes.size, ∀ key ∈ (resourceAt context n).children.keys,
      key ∉ objectFields)
    (hmethods : ∀ n < context.tree.nodes.size, ∀ key ∈ (resourceAt context n).methods.keys,
      key ∉ objectFields)
    (hroot : ∀ key ∈ "options" :: clientFunctions,
      key ∉ (resourceAt context Tree.root).methods.keys) : Accessible context where
  child n hn entry hentry := by
    refine member?_eq_child_iff.mpr ⟨OrderedMap.get?_eq_some_iff.mpr hentry, ?_⟩
    rintro ⟨rfl, hoptions⟩
    exact h.avoids entry.1 (by simp [hoptions, clientMembers]) (List.mem_map_of_mem hentry)
  method n hn entry hentry := by
    have hkey : entry.1 ∈ (resourceAt context n).methods.keys := List.mem_map_of_mem hentry
    have hfree := OrderedMap.get?_eq_none_iff.mpr fun hchild => h.disjoint n hn hchild hkey
    refine member?_eq_method_iff.mpr
      ⟨OrderedMap.get?_eq_some_iff.mpr hentry, hfree, hmethods n hn _ hkey, ?_⟩
    rintro ⟨rfl, hclient⟩
    exact hroot entry.1 hclient hkey
  field n hn name hname := by
    have hfree := OrderedMap.get?_eq_none_iff.mpr fun hchild => hchildren n hn name hchild hname
    exact member?_eq_fixed_iff.mpr (Or.inr ⟨hfree, Or.inl hname⟩)
  request name hname := by
    have hfree := OrderedMap.get?_eq_none_iff.mpr (h.avoids name hname)
    have hfunction : ∀ name ∈ clientMembers, name = "options" ∨ name ∈ clientFunctions := by decide
    rcases hfunction name hname with hoptions | hclient
    · exact member?_eq_fixed_iff.mpr (Or.inl ⟨rfl, hoptions⟩)
    · exact member?_eq_fixed_iff.mpr (Or.inr ⟨hfree, Or.inr ⟨rfl, hclient⟩⟩)

/-! ## Built clients -/

/-- Declarations keep the members of objects apart: where a path leads in a tree, no method is
declared under the key of a part that continues the path, and no top-level part has the key of
something that requests go through. -/
structure KeepsApart (resources : List ResourceDecl) (tree : Tree) : Prop where
  disjoint : ∀ {path : List String} {n : Nat} {part key : String},
    tree.follow? format Tree.root path = some n → Tree.Visits resources (path ++ [part]) →
    Uri.segmentKey? format part = some key → ¬Tree.Declares format resources path key
  avoids : ∀ {part key : String}, Tree.Visits resources [part] →
    Uri.segmentKey? format part = some key → key ∉ clientMembers

section Built

variable {resources : List ResourceDecl} {ids : Identifiers} {path : List String}

/-- The children of the node at the end of a path have the keys of the parts that continue it. -/
theorem mem_keys_children_iff (hbuilt : context.tree = (Tree.build format resources ids).tree)
    (hpath : context.tree.follow? format Tree.root path = some n) :
    key ∈ (resourceAt context n).children.keys ↔
      ∃ part, Tree.Visits resources (path ++ [part]) ∧ Uri.segmentKey? format part = some key := by
  have hwf : context.tree.WellFormed := hbuilt ▸ Tree.build_wellFormed format resources ids
  have hnode := getElem?_resourceAt (hwf.follow?_lt_size hwf.size_pos hpath)
  have hchild : key ∈ (resourceAt context n).children.keys ↔
      ∃ child, context.tree.child? n key = some child := by
    rw [Tree.child?, hnode, Option.bind_some, ← Option.ne_none_iff_exists', ne_eq,
      OrderedMap.get?_eq_none_iff, not_not]
  rw [hbuilt] at hpath hchild
  rw [hchild, Tree.exists_child?_iff_visits hpath]

/-- The node at the end of a path has the methods that are declared there. -/
theorem mem_keys_methods_iff (hbuilt : context.tree = (Tree.build format resources ids).tree)
    (hpath : context.tree.follow? format Tree.root path = some n) :
    key ∈ (resourceAt context n).methods.keys ↔ Tree.Declares format resources path key := by
  have hwf : context.tree.WellFormed := hbuilt ▸ Tree.build_wellFormed format resources ids
  have hnode := getElem?_resourceAt (hwf.follow?_lt_size hwf.size_pos hpath)
  rw [← Tree.hasMethod_iff_mem_keys hnode, hbuilt]
  rw [hbuilt] at hpath
  exact Tree.hasMethod_iff_declares hpath

/-- Every node is at the end of a path. -/
theorem exists_path (hbuilt : context.tree = (Tree.build format resources ids).tree)
    (hn : n < context.tree.nodes.size) :
    ∃ path, context.tree.follow? format Tree.root path = some n := by
  rw [hbuilt] at hn ⊢
  obtain ⟨path, hpath, -⟩ := Tree.build_explored format resources ids n hn
  exact ⟨path, hpath⟩

/-- Property names are not among the properties of every object. -/
theorem propertyName_not_mem_objectFields (name : String) : propertyName name ∉ objectFields := by
  have hfields : ∀ field ∈ objectFields, '_' ∈ field.toList := by decide
  exact fun hmem => underscore_not_mem_propertyName name (hfields _ hmem)

/-- Nothing is hidden by a child exactly if the declarations keep members apart. -/
theorem unshadowed_iff_keepsApart
    (hbuilt : context.tree = (Tree.build format resources ids).tree) :
    Unshadowed context ↔ KeepsApart resources context.tree := by
  have hwf : context.tree.WellFormed := hbuilt ▸ Tree.build_wellFormed format resources ids
  have hroot : context.tree.follow? format Tree.root [] = some Tree.root := rfl
  constructor
  · intro h
    refine ⟨fun {path n part key} hpath hvisits hkey hdeclares => ?_,
      fun {part key} hvisits hkey hmem => ?_⟩
    · exact h.disjoint n (hwf.follow?_lt_size hwf.size_pos hpath)
        ((mem_keys_children_iff hbuilt hpath).mpr ⟨part, hvisits, hkey⟩)
        ((mem_keys_methods_iff hbuilt hpath).mpr hdeclares)
    · exact h.avoids key hmem ((mem_keys_children_iff hbuilt hroot).mpr ⟨part, hvisits, hkey⟩)
  · intro h
    refine ⟨fun n hn key hchild hmethod => ?_, fun name hname hmem => ?_⟩
    · obtain ⟨path, hpath⟩ := exists_path hbuilt hn
      obtain ⟨part, hvisits, hkey⟩ := (mem_keys_children_iff hbuilt hpath).mp hchild
      exact h.disjoint hpath hvisits hkey ((mem_keys_methods_iff hbuilt hpath).mp hmethod)
    · obtain ⟨part, hvisits, hkey⟩ := (mem_keys_children_iff hbuilt hroot).mp hmem
      exact h.avoids hvisits hkey hname

/-- Everything is found exactly if the declarations keep members apart and no method is declared at
the root under a key that the client itself uses. -/
theorem accessible_iff_keepsApart
    (hbuilt : context.tree = (Tree.build format resources ids).tree) :
    Accessible context ↔ KeepsApart resources context.tree ∧
      ∀ key ∈ "options" :: clientFunctions, ¬Tree.Declares format resources [] key := by
  have hwf : context.tree.WellFormed := hbuilt ▸ Tree.build_wellFormed format resources ids
  have hroot : context.tree.follow? format Tree.root [] = some Tree.root := rfl
  rw [← unshadowed_iff_keepsApart hbuilt]
  simp only [← mem_keys_methods_iff hbuilt hroot]
  constructor
  · intro h
    refine ⟨h.unshadowed hwf.size_pos, fun key hkey hmem => ?_⟩
    obtain ⟨entry, hentry, rfl⟩ := List.mem_map.mp hmem
    have hfound := member?_eq_method_iff.mp (h.method Tree.root hwf.size_pos entry hentry)
    exact hfound.2.2.2 ⟨rfl, hkey⟩
  · rintro ⟨h, hfree⟩
    refine h.accessible (fun n hn key hmem => ?_) (fun n hn key hmem => ?_) hfree
    · obtain ⟨path, hpath⟩ := exists_path hbuilt hn
      obtain ⟨part, -, hkey⟩ := (mem_keys_children_iff hbuilt hpath).mp hmem
      obtain ⟨name, -, rfl⟩ := Option.map_eq_some_iff.mp hkey
      exact propertyName_not_mem_objectFields _
    · obtain ⟨path, hpath⟩ := exists_path hbuilt hn
      obtain ⟨decl, chain, -, -, method, -, rfl⟩ := (mem_keys_methods_iff hbuilt hpath).mp hmem
      exact propertyName_not_mem_objectFields _

end Built

/-- No child of a built client hides a method or what requests go through exactly if the
declarations keep the members apart. All children and methods are found under their keys exactly if
moreover no method is declared at the root under a key that the client itself uses. -/
theorem build_unshadowed_iff (spec : Specification) (ids : Identifiers) :
    let context := (Context.build format spec ids).1
    (Unshadowed context ↔ KeepsApart spec.resources context.tree) ∧
      (Accessible context ↔ KeepsApart spec.resources context.tree ∧
        ∀ key ∈ "options" :: clientFunctions, ¬Tree.Declares format spec.resources [] key) := by
  have hbuilt : (Context.build format spec ids).1.tree =
      (Tree.build format spec.resources (format.nextId ids.reset "client").2).tree := rfl
  exact ⟨unshadowed_iff_keepsApart hbuilt, accessible_iff_keepsApart hbuilt⟩

/-- A resource is called like a method of the root, another one like a function of the client, and a
method of the root like its options. -/
def shadowingSpec : Specification where
  resources := [
    { relativeUri := "/", methods := [{ method := "get" }, { method := "options" }] },
    { relativeUri := "/get" }, { relativeUri := "/request" }]

/-- Without a warning the method is hidden by the resource, the client makes no requests, and the
other method is hidden by the options. -/
theorem shadowingSpec_shadowed :
    let context := (Context.build format shadowingSpec .fresh).1
    context.warnings = [] ∧ ¬Unshadowed context ∧
      (resourceAt context Tree.root).methods.entries = [("get", 0), ("options", 1)] ∧
      (resourceAt context Tree.root).children.entries = [("get", 1), ("request", 2)] ∧
      member? context Tree.root "get" = some (.child 1) ∧
      member? context Tree.root "request" = some (.child 2) ∧
      member? context Tree.root "options" = some (.fixed "options") := by
  have hkeys : (resourceAt (Context.build format shadowingSpec .fresh).1 Tree.root).children.keys =
      ["get", "request"] := by decide +kernel
  refine ⟨by decide +kernel, fun h => ?_, by decide +kernel, by decide +kernel, by decide +kernel,
    by decide +kernel, by decide +kernel⟩
  exact h.avoids "request" (by decide) (by rw [hkeys]; decide)

end ClientGen.JavaScript
