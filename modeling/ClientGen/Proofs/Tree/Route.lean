import ClientGen.Proofs.Tree.Path
import ClientGen.Proofs.Uri.Segments

/-!
# Where declarations lead

A relative URI names nodes by its parts, which are its segments without lone slashes. A declaration
has one route, its parts, unless it lists media types: then every media type is the end of a route
of its own, and the last route goes on for all others. Following a route in a tree goes from child
to child by the keys of its parts and only over nodes with these parts as their segments.

The nodes that a declaration lands on are defined here by the tree alone. Other files show that
building a tree lands on them.
-/

namespace ClientGen

/-- A declaration without what it nests. -/
def ResourceDecl.alone (decl : ResourceDecl) : ResourceDecl :=
  { decl with resources := [] }

/-- The media types that a declaration lists for its URI. -/
def ResourceDecl.mediaTypes (decl : ResourceDecl) : List Json :=
  ((decl.uriParameters.get? Uri.mediaTypeParameter).bind ParameterDecl.enum).getD []

namespace Tree

variable {format : Format} {tree later : Tree} {node : Node} {n start last : Nat}
  {part : String} {route : List String} {decl : ResourceDecl} {chain : List ResourceDecl}

/-- The ways that parts can be read if some media types are listed: the first placeholder of a media
type stands for each of them, where the way ends, and for all others after a dot. -/
def routes (values : List Json) : List String → List (List String)
  | [] => [[]]
  | part :: rest =>
    if part = Uri.mediaTypePlaceholder ∧ values.isEmpty = false then
      values.map (fun value => [mediaTypeSegment value]) ++ [otherMediaTypes :: rest]
    else (routes values rest).map (part :: ·)

/-- The child of a node along a part: the child under the part's key, if the part is its segment. -/
def childAlong? (tree : Tree) (format : Format) (n : Nat) (part : String) : Option Nat :=
  (Uri.segmentKey? format part).bind fun key =>
    (tree.child? n key).filter fun child => (tree.nodes[child]?).map Node.segment = some part

/-- The node that a route leads to. -/
def follow? (tree : Tree) (format : Format) (start : Nat) (route : List String) : Option Nat :=
  route.foldlM (tree.childAlong? format) start

end Tree

/-- The routes of a declaration. -/
def ResourceDecl.routes (decl : ResourceDecl) : List (List String) :=
  Tree.routes decl.mediaTypes (Uri.parts decl.relativeUri)

/-- The parameters that a walk of a declaration has at hand: those declared, from which the media
types may have been taken. -/
def ResourceDecl.Offers (decl : ResourceDecl) (params : OrderedMap Parameter) : Prop :=
  params = Parameter.ofTable decl.uriParameters ∨
    params = (Tree.takeMediaTypes (Parameter.ofTable decl.uriParameters)).2

/-- A declaration among the resources, preceded by the declarations that it is nested in; the
innermost comes first. -/
inductive Lineage (resources : List ResourceDecl) : List ResourceDecl → Prop where
  | top {decl : ResourceDecl} : decl ∈ resources → Lineage resources [decl]
  | nested {decl outer : ResourceDecl} {chain : List ResourceDecl} :
    Lineage resources (outer :: chain) → decl ∈ outer.resources →
    Lineage resources (decl :: outer :: chain)

/-- What a declaration is nested in is a declaration among the resources as well. -/
theorem Lineage.outer {resources chain : List ResourceDecl} {decl : ResourceDecl}
    (h : Lineage resources (decl :: chain)) : chain = [] ∨ Lineage resources chain := by
  cases h with
  | top => exact Or.inl rfl
  | nested houter => exact Or.inr houter

/-- Each of nested declarations is a declaration among the resources. -/
theorem Lineage.of_mem {resources chain : List ResourceDecl} (h : Lineage resources chain)
    {decl : ResourceDecl} (hdecl : decl ∈ chain) : ∃ outer, Lineage resources (decl :: outer) := by
  induction h with
  | top hmem =>
    rw [List.mem_singleton] at hdecl
    exact ⟨[], hdecl ▸ .top hmem⟩
  | nested houter hmem ih =>
    rcases List.mem_cons.mp hdecl with rfl | hdecl
    · exact ⟨_, .nested houter hmem⟩
    · exact ih hdecl

/-- A node that nested declarations, innermost first, lead to from the root: each starts at a node
that the one around it leads to, and goes along one of its routes. -/
inductive Tree.LandsOn (tree : Tree) (format : Format) : List ResourceDecl → Nat → Prop where
  | root : LandsOn tree format [] Tree.root
  | land {decl : ResourceDecl} {chain : List ResourceDecl} {start last : Nat}
    {route : List String} : LandsOn tree format chain start → route ∈ decl.routes →
    tree.follow? format start route = some last → LandsOn tree format (decl :: chain) last

namespace Tree

variable {format : Format} {tree later : Tree} {node : Node} {n start last child : Nat}
  {part : String} {route rest : List String} {values : List Json} {decl : ResourceDecl}
  {chain : List ResourceDecl}

/-! ## Following a route -/

/-- A part leads to the child that has its key and its segment. -/
theorem childAlong?_eq_some_iff : tree.childAlong? format n part = some child ↔
    ∃ key node, Uri.segmentKey? format part = some key ∧ tree.child? n key = some child ∧
      tree.nodes[child]? = some node ∧ node.segment = part := by
  simp only [childAlong?, Option.bind_eq_some_iff, Option.filter_eq_some_iff, decide_eq_true_eq,
    Option.map_eq_some_iff]
  constructor
  · rintro ⟨key, hkey, hchild, node, hnode, hsegment⟩
    exact ⟨key, node, hkey, hchild, hnode, hsegment⟩
  · rintro ⟨key, node, hkey, hchild, hnode, hsegment⟩
    exact ⟨key, hkey, hchild, node, hnode, hsegment⟩

/-- A child along a part is found under the key of the part. -/
theorem child?_of_childAlong? {key : String} (hchild : tree.childAlong? format n part = some child)
    (hkey : Uri.segmentKey? format part = some key) : tree.child? n key = some child := by
  obtain ⟨key', _, hkey', hin, -⟩ := childAlong?_eq_some_iff.mp hchild
  obtain rfl : key = key' := Option.some.inj (hkey.symm.trans hkey')
  exact hin

/-- The empty path leads to where it starts. -/
@[simp] theorem follow?_nil : tree.follow? format n [] = some n := rfl

/-- A path leads along its first part and on along the others. -/
theorem follow?_cons : tree.follow? format n (part :: rest) =
    (tree.childAlong? format n part).bind fun child => tree.follow? format child rest := by
  simp only [follow?, List.foldlM_cons]
  rfl

/-- A path that goes on leads on from the end of its first parts. -/
theorem follow?_append {first : List String} : tree.follow? format n (first ++ rest) =
    (tree.follow? format n first).bind fun last => tree.follow? format last rest := by
  simp only [follow?, List.foldlM_append]
  rfl

/-- A path of one part leads along the part. -/
theorem follow?_singleton : tree.follow? format n [part] = tree.childAlong? format n part := by
  simp only [follow?_cons, follow?_nil, Option.bind_fun_some]

/-- The last part of a route leads to a child of the node before. -/
theorem follow?_concat_eq_some_iff : tree.follow? format start (route ++ [part]) = some last ↔
    ∃ n, tree.follow? format start route = some n ∧ tree.childAlong? format n part = some last := by
  simp only [follow?_append, Option.bind_eq_some_iff, follow?_singleton]

/-- A child along a part stays where it is. -/
theorem Extends.childAlong? (h : tree.Extends later)
    (hchild : tree.childAlong? format n part = some child) :
    later.childAlong? format n part = some child := by
  obtain ⟨key, node, hkey, hchild, hnode, hsegment⟩ := childAlong?_eq_some_iff.mp hchild
  obtain ⟨node', hnode', hext⟩ := h.nodes hnode
  exact childAlong?_eq_some_iff.mpr
    ⟨key, node', hkey, h.child? hchild, hnode', hext.segment_eq.trans hsegment⟩

/-- A route leads where it led before. -/
theorem Extends.follow? (h : tree.Extends later)
    (hlast : tree.follow? format start route = some last) :
    later.follow? format start route = some last := by
  induction route generalizing start with
  | nil => exact hlast
  | cons part rest ih =>
    rw [follow?_cons, Option.bind_eq_some_iff] at hlast ⊢
    obtain ⟨child, hchild, hrest⟩ := hlast
    exact ⟨child, h.childAlong? hchild, ih hrest⟩

/-- A part without a key leads nowhere. -/
theorem childAlong?_of_segmentKey?_eq_none (hkey : Uri.segmentKey? format part = none) :
    tree.childAlong? format n part = none := by
  simp [childAlong?, hkey]

/-- A part whose key is taken by another segment leads nowhere, now and later. -/
theorem Extends.childAlong?_eq_none (h : tree.Extends later) {key : String}
    (hkey : Uri.segmentKey? format part = some key) (hchild : tree.child? n key = some child)
    (hnode : tree.nodes[child]? = some node) (hother : node.segment ≠ part) :
    later.childAlong? format n part = none := by
  rw [Option.eq_none_iff_forall_ne_some]
  intro child' hchild'
  obtain ⟨key', node', hkey', hin, hnode', hsegment⟩ := childAlong?_eq_some_iff.mp hchild'
  obtain rfl : key = key' := Option.some.inj (hkey.symm.trans hkey')
  obtain rfl : child = child' := Option.some.inj ((h.child? hchild).symm.trans hin)
  obtain ⟨node'', hnode'', hext⟩ := h.nodes hnode
  obtain rfl : node'' = node' := Option.some.inj (hnode''.symm.trans hnode')
  exact hother (hext.segment_eq.symm.trans hsegment)

/-- The segments on the way to the end of a route are those to its start and the route. -/
theorem WellFormed.map_segment_pathTo (h : tree.WellFormed)
    (hlast : tree.follow? format start route = some last) :
    (tree.pathTo last).map Node.segment = (tree.pathTo start).map Node.segment ++ route := by
  induction route generalizing start with
  | nil =>
    obtain rfl : start = last := Option.some.inj hlast
    simp
  | cons part rest ih =>
    rw [follow?_cons, Option.bind_eq_some_iff] at hlast
    obtain ⟨child, hchild, hrest⟩ := hlast
    obtain ⟨key, node, -, hin, hnode, hsegment⟩ := childAlong?_eq_some_iff.mp hchild
    rw [ih hrest, h.pathTo_child hin hnode, List.map_append, List.append_assoc]
    simp [hsegment]

/-- A route leads to a node with its last part as the segment. -/
theorem segment_of_follow? (hlast : tree.follow? format start route = some last)
    (hpart : route.getLast? = some part) :
    ∃ node, tree.nodes[last]? = some node ∧ node.segment = part := by
  obtain ⟨first, rfl⟩ := List.getLast?_eq_some_iff.mp hpart
  obtain ⟨middle, -, hlast⟩ := follow?_concat_eq_some_iff.mp hlast
  obtain ⟨key, node, -, -, hnode, hsegment⟩ := childAlong?_eq_some_iff.mp hlast
  exact ⟨node, hnode, hsegment⟩

/-- The end of a route from a node is a node. -/
theorem WellFormed.follow?_lt_size (h : tree.WellFormed) (hstart : start < tree.nodes.size)
    (hlast : tree.follow? format start route = some last) : last < tree.nodes.size := by
  induction route generalizing start with
  | nil =>
    obtain rfl : start = last := Option.some.inj hlast
    exact hstart
  | cons part rest ih =>
    rw [follow?_cons, Option.bind_eq_some_iff] at hlast
    obtain ⟨child, hchild, hrest⟩ := hlast
    obtain ⟨key, node, -, hin, -⟩ := childAlong?_eq_some_iff.mp hchild
    exact ih (h.lt_child hin).2 hrest

/-! ## Landing -/

/-- Declarations land on the same nodes when the tree is extended. -/
theorem LandsOn.mono (hland : tree.LandsOn format chain n) (h : tree.Extends later) :
    later.LandsOn format chain n := by
  induction hland with
  | root => exact .root
  | land _ hroute hlast ih => exact .land ih hroute (h.follow? hlast)

/-- Declarations land on nodes of the tree. -/
theorem LandsOn.lt_size (hland : tree.LandsOn format chain n) (h : tree.WellFormed) :
    n < tree.nodes.size := by
  induction hland with
  | root => exact h.size_pos
  | land _ _ hlast ih => exact h.follow?_lt_size ih hlast

/-! ## Routes -/

/-- Without media types the parts are the only route. -/
@[simp] theorem routes_nil (parts : List String) : routes [] parts = [parts] := by
  induction parts with
  | nil => rfl
  | cons part rest ih => simp [routes, ih]

/-- A declaration has a route. -/
theorem routes_ne_nil (values : List Json) (parts : List String) : routes values parts ≠ [] := by
  induction parts with
  | nil => simp [routes]
  | cons part rest ih =>
    rw [routes]
    split
    · simp
    · simpa using ih

/-- Unless it fans out, the first segment of a walk comes first on all routes. -/
theorem routes_dropSlashes_cons {segment : String} {rest : List String}
    (h : ¬(segment = Uri.mediaTypePlaceholder ∧ values.isEmpty = false)) :
    routes values (Uri.dropSlashes (segment :: rest)) =
      (routes values (Uri.dropSlashes rest)).map (Uri.dropSlashes [segment] ++ ·) := by
  by_cases hslash : segment = "/"
  · simp [Uri.dropSlashes, hslash]
  · have hfirst : Uri.dropSlashes [segment] = [segment] := by simp [Uri.dropSlashes, hslash]
    have hcons : Uri.dropSlashes (segment :: rest) = segment :: Uri.dropSlashes rest := by
      simp [Uri.dropSlashes, hslash]
    rw [hcons, hfirst, routes, if_neg h]
    rfl

/-- A placeholder that fans out has one route for each media type and one for all others. -/
theorem routes_dropSlashes_placeholder {rest : List String} (h : values.isEmpty = false) :
    routes values (Uri.dropSlashes (Uri.mediaTypePlaceholder :: rest)) =
      values.map (fun value => [mediaTypeSegment value]) ++
        [otherMediaTypes :: Uri.dropSlashes rest] := by
  have hslash : Uri.mediaTypePlaceholder ≠ "/" := by decide
  have hcons : Uri.dropSlashes (Uri.mediaTypePlaceholder :: rest) =
      Uri.mediaTypePlaceholder :: Uri.dropSlashes rest := by
    simp [Uri.dropSlashes, hslash]
  rw [hcons, routes, if_pos ⟨rfl, h⟩]

end Tree

end ClientGen
