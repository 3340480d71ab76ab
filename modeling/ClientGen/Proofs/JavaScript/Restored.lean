import ClientGen.Proofs.JavaScript.Client
import ClientGen.Proofs.Tree.NodeUri
import ClientGen.Proofs.Uri.Renaming

/-!
# Restored names

Documentation shows URIs with the names of their placeholders, which are put back in place of their
numbers one after the other. A name that is put back is looked at again when later numbers are
replaced, so a name that is such a number goes on to become another name. The URI is restored
exactly if that never happens, or if the other name is the same.
-/

namespace ClientGen.JavaScript

open Uri (renamed placeholderNames indexed)

variable {uri : String} {names fresh : List String} {context : Context} {n : Nat}

/-! ## Names one after the other -/

/-- What a name becomes when the numbers from `index` on are replaced by the names given, one after
the other. -/
def settledName (index : Nat) (name : String) : List String → String
  | [] => name
  | first :: rest => settledName (index + 1) (if name = toString index then first else name) rest

/-- No placeholder has the number of a later one for its name, unless the later one has that name as
well. -/
def Unconfused (names : List String) : Prop :=
  ∀ i < names.length, ∀ j < i, names[j]? = some (toString i) → names[i]? = some (toString i)

instance (names : List String) : Decidable (Unconfused names) :=
  inferInstanceAs (Decidable (∀ i < names.length, ∀ j < i, _))

/-- A name stays as it is if the number that it may be is to be replaced by that name. -/
theorem settledName_eq_self {index : Nat} {name : String}
    (h : ∀ i < names.length, name = toString (index + i) → names[i]? = some name) :
    settledName index name names = name := by
  induction names generalizing index with
  | nil => rfl
  | cons first rest ih =>
    have hfirst : (if name = toString index then first else name) = name := by
      split
      next heq => exact Option.some.inj (h 0 (by simp) heq)
      next => rfl
    rw [settledName, hfirst]
    refine ih fun i hi heq => ?_
    rw [Nat.add_assoc, Nat.add_comm 1 i] at heq
    simpa using h (i + 1) (by simpa using hi) heq

/-- A number stays until it is its turn, and then it is replaced by its name. -/
theorem settledName_toString {index k : Nat} (hk : k < names.length) :
    settledName index (toString (index + k)) names =
      settledName (index + k + 1) names[k] (names.drop (k + 1)) := by
  induction names generalizing index k with
  | nil => cases hk
  | cons first rest ih =>
    cases k with
    | zero => simp [settledName]
    | succ k =>
      have hother : toString (index + (k + 1)) ≠ toString index := by
        rw [toString_injective.ne_iff]
        omega
      have hnext : index + (k + 1) = index + 1 + k := by omega
      rw [settledName, if_neg hother, hnext, ih (Nat.lt_of_succ_lt_succ hk)]
      simp

/-- If no name is confused with a number, names stay as they are once their turn is over. -/
theorem Unconfused.settledName_eq (h : Unconfused names) {i : Nat} (hi : i < names.length) :
    settledName (i + 1) names[i] (names.drop (i + 1)) = names[i] := by
  refine settledName_eq_self fun k hk heq => ?_
  rw [List.length_drop] at hk
  have hlater := h (i + 1 + k) (by omega) i (by omega)
  rw [List.getElem?_eq_getElem hi, heq] at hlater
  rw [List.getElem?_drop, heq]
  exact hlater rfl

/-- If names stay as they are once their turn is over, none is confused with a number. -/
theorem unconfused_of_settledName_eq
    (h : ∀ i (hi : i < names.length),
      settledName (i + 1) names[i] (names.drop (i + 1)) = names[i]) : Unconfused names := by
  intro i hi j hj hname
  obtain ⟨hj', heq⟩ := List.getElem?_eq_some_iff.mp hname
  obtain ⟨k, rfl⟩ := Nat.exists_eq_add_of_le hj
  have hk : k < (names.drop (j + 1)).length := by
    rw [List.length_drop]
    omega
  have hnumber := h j hj'
  rw [heq, settledName_toString hk, List.drop_drop, List.getElem_drop] at hnumber
  have hturn := h (j.succ + k) hi
  rw [List.getElem?_eq_getElem hi, ← hturn]
  exact congrArg some hnumber

/-- All numbers are replaced by their own names exactly if no name is confused with a number. -/
theorem map_settledName_eq_iff (names : List String) :
    ((List.range names.length).map fun i => settledName 0 (toString i) names) = names ↔
      Unconfused names := by
  have hturn : ∀ i (hi : i < names.length), settledName 0 (toString i) names =
      settledName (i + 1) names[i] (names.drop (i + 1)) := by
    intro i hi
    have hsettled : settledName 0 (toString (0 + i)) names = _ := settledName_toString hi
    rwa [Nat.zero_add] at hsettled
  constructor
  · intro heq
    refine unconfused_of_settledName_eq fun i hi => ?_
    have hat := congrArg (fun list => list[i]?) heq
    rw [← hturn i hi]
    simpa [hi] using hat
  · intro h
    refine List.ext_getElem (by simp) fun i hi hi' => ?_
    rw [List.getElem_map, List.getElem_range, hturn i hi', h.settledName_eq hi']

/-! ## Filled templates -/

/-- Filling in names gives the placeholders of a template the names that theirs become. -/
theorem fillFrom_renamed (hfresh : Uri.NamesFor uri fresh)
    (hnames : ∀ name ∈ names, Uri.IsName name.toList) (index : Nat) :
    fillFrom index (renamed uri fresh) names =
      renamed uri (fresh.map fun name => settledName index name names) := by
  induction names generalizing index fresh with
  | nil => simp [fillFrom, settledName]
  | cons first rest ih =>
    have hswapped : Uri.NamesFor uri
        (fresh.map fun name => if name = toString index then first else name) := by
      refine hfresh.map fun name hname => ?_
      split
      next => exact hnames first List.mem_cons_self
      next => exact hfresh.isName name hname
    rw [fillFrom, Uri.replaceAll_placeholder (Uri.isName_toString index),
      hfresh.placeholderNames_renamed, hfresh.renamed_renamed hswapped,
      ih hswapped (fun name hname => hnames name (List.mem_cons_of_mem _ hname)), List.map_map]
    rfl

/-- The names that the placeholders of a template have after its numbers are filled in. -/
def restoredNames (uri : String) : List String :=
  (List.range (placeholderNames uri).length).map fun i =>
    settledName 0 (toString i) (placeholderNames uri)

/-- Whatever name stands in the end, it is made of the characters of names. -/
theorem isName_settledName {index : Nat} {name : String}
    (hname : Uri.IsName name.toList) (hnames : ∀ name ∈ names, Uri.IsName name.toList) :
    Uri.IsName (settledName index name names).toList := by
  induction names generalizing index name with
  | nil => exact hname
  | cons first rest ih =>
    refine ih ?_ fun name hname => hnames name (List.mem_cons_of_mem _ hname)
    split
    next => exact hnames first List.mem_cons_self
    next => exact hname

/-- In the end there is one name for each placeholder. -/
theorem namesFor_restoredNames (uri : String) : Uri.NamesFor uri (restoredNames uri) := by
  have hnumbers := Uri.namesFor_range uri
  have hsettled : Uri.NamesFor uri (((List.range (placeholderNames uri).length).map toString).map
      fun name => settledName 0 name (placeholderNames uri)) :=
    hnumbers.map fun name hname =>
      isName_settledName (hnumbers.isName name hname) (Uri.namesFor_placeholderNames uri).isName
  rwa [List.map_map] at hsettled

/-- An indexed template is filled with the names that its numbers become. -/
theorem fillPlaceholders_indexed (uri : String) :
    fillPlaceholders (indexed uri) (placeholderNames uri) = renamed uri (restoredNames uri) := by
  rw [fillPlaceholders, Uri.indexed_eq_renamed, fillFrom_renamed (Uri.namesFor_range uri)
    (Uri.namesFor_placeholderNames uri).isName, List.map_map]
  rfl

/-- An indexed template is restored exactly if none of its names is confused with a number. -/
theorem fillPlaceholders_indexed_eq_iff (uri : String) :
    fillPlaceholders (indexed uri) (placeholderNames uri) = uri ↔
      Unconfused (placeholderNames uri) := by
  rw [fillPlaceholders_indexed, (namesFor_restoredNames uri).renamed_eq_self_iff, restoredNames,
    map_settledName_eq_iff]

/-! ## Documented URIs -/

/-- The URI of a resource as it is declared: the segments on the way to it, or a slash. -/
def declaredUri (context : Context) (n : Nat) : String :=
  if context.tree.uriOf n = "" then "/" else context.tree.uriOf n

/-- The segment of a resource is closed, and if it does not end with a slash, its URI is the segment
with the names that its numbers become. -/
theorem segment_build {spec : Specification} {ids : Identifiers} {node : Node}
    (hnode : (Context.build format spec ids).1.tree.nodes[n]? = some node)
    (hslash : node.segment.toList.getLast? ≠ some '/') :
    Uri.Closed node.segment.toList ∧
      fillPlaceholders node.relativeUri (node.uriParameters.map Parameter.name) =
        renamed node.segment (restoredNames node.segment) := by
  have hfaithful : (Context.build format spec ids).1.tree.Faithful format :=
    Tree.build_faithful _ _ _
  by_cases hn : n = Tree.root
  · subst hn
    obtain ⟨hsegment, hrelative, hnone⟩ := hfaithful.root node hnode
    rw [hsegment, hrelative, hnone]
    exact ⟨by simp [Uri.Closed, Uri.pieces], by simp [fillPlaceholders, fillFrom, renamed,
      Uri.pieces, Uri.rename, Uri.join]⟩
  · have hown := hfaithful.others hnode hn
    have hrelative : node.relativeUri = indexed node.segment := by
      rw [hown.relativeUri_eq]
      refine Uri.dropTrailingSlashes_eq_self ?_
      rw [show format.writeUri = id from rfl, id, Uri.indexed_eq_renamed, Uri.getLast?_renamed]
      exact hslash
    rw [hrelative, hown.names_eq, fillPlaceholders_indexed]
    exact ⟨Uri.closed_of_segmentKey? hown.key, rfl⟩

/-- Texts are empty together exactly if each of them is. -/
theorem join_eq_empty_iff {texts : List String} :
    String.join texts = "" ↔ ∀ s ∈ texts, s = "" := by
  simp only [← String.toList_eq_nil_iff, String.toList_join, List.flatMap_eq_nil_iff]

/-- If no segment on the way to a resource ends with a slash, the resource is shown under the URI
that is declared exactly if no name in these segments is confused with a number. -/
theorem documentedUri_build {spec : Specification} {ids : Identifiers}
    (hcontext : context = (Context.build format spec ids).1)
    (hslash : ∀ node ∈ context.tree.pathTo n, node.segment.toList.getLast? ≠ some '/') :
    documentedUri context n = declaredUri context n ↔
      ∀ node ∈ context.tree.pathTo n, Unconfused (placeholderNames node.segment) := by
  subst hcontext
  let context := (Context.build format spec ids).1
  let uris := (context.tree.pathTo n).map Node.segment
  have hsegments : ∀ node ∈ context.tree.pathTo n, Uri.Closed node.segment.toList ∧
      fillPlaceholders node.relativeUri (node.uriParameters.map Parameter.name) =
        renamed node.segment (restoredNames node.segment) := by
    intro node hnode
    obtain ⟨m, hm⟩ := Tree.exists_of_mem_pathTo hnode
    exact segment_build hm (hslash node hnode)
  have hshown : pathText context n =
      String.join (uris.map fun uri => renamed uri (restoredNames uri)) := by
    rw [pathText, List.map_map]
    exact congrArg String.join (List.map_congr_left fun node hnode => (hsegments node hnode).2)
  have hclosed : ∀ uri ∈ uris, Uri.Closed uri.toList := by
    intro uri huri
    obtain ⟨node, hnode, rfl⟩ := List.mem_map.mp huri
    exact (hsegments node hnode).1
  have hempty : pathText context n = "" ↔ context.tree.uriOf n = "" := by
    rw [hshown, Tree.uriOf, join_eq_empty_iff, join_eq_empty_iff, List.forall_mem_map]
    simp only [Uri.renamed_eq_empty_iff]
    rfl
  have hequal : pathText context n = context.tree.uriOf n ↔
      ∀ node ∈ context.tree.pathTo n, Unconfused (placeholderNames node.segment) := by
    rw [hshown, Tree.uriOf, Uri.join_renamed_eq_iff hclosed fun uri _ => namesFor_restoredNames uri,
      List.forall_mem_map]
    simp only [restoredNames, map_settledName_eq_iff]
  rw [← hequal, documentedUri, declaredUri, if_congr hempty rfl rfl]
  split
  next h => exact ⟨fun _ => (hempty.mpr h).trans h.symm, fun _ => rfl⟩
  next => exact Iff.rfl

/-- The names of placeholders are restored in a template exactly if none is confused with a number.
The helper for full URIs shows a resource of a built client, on the way to which no segment ends
with a slash, under the URI that is declared exactly if no name in these segments is confused. -/
theorem names_restored_iff (uri : String) (spec : Specification) (ids : Identifiers) (n : Nat) :
    (fillPlaceholders (indexed uri) (placeholderNames uri) = uri ↔
      Unconfused (placeholderNames uri)) ∧
    let context := (Context.build format spec ids).1
    n < context.tree.nodes.size →
    (∀ node ∈ context.tree.pathTo n, node.segment.toList.getLast? ≠ some '/') →
    uriHelper context [.view (.resource n)] = .ok (.text (documentedUri context n)) ∧
      (documentedUri context n = declaredUri context n ↔
        ∀ node ∈ context.tree.pathTo n, Unconfused (placeholderNames node.segment)) := by
  refine ⟨fillPlaceholders_indexed_eq_iff uri, ?_⟩
  intro context hn hslash
  have hwf : context.tree.WellFormed := Tree.build_wellFormed _ _ _
  exact ⟨uriHelper_resource hwf (getElem?_resourceAt hn), documentedUri_build rfl hslash⟩

/-- What holds of the segments on the way to a resource. -/
theorem forall_pathTo {tree : Tree} {segments : List String} (P : String → Prop)
    (hpath : (tree.pathTo n).map Node.segment = segments) (h : ∀ s ∈ segments, P s) :
    ∀ node ∈ tree.pathTo n, P node.segment := by
  intro node hnode
  exact h _ (hpath ▸ List.mem_map_of_mem hnode)

/-- Both placeholders of copies have the number of the second one for their name. -/
def copiesSpec : Specification where
  resources := [{
    relativeUri := "/books\x7bisbn\x7d"
    resources := [{ relativeUri := "/copies\x7b1\x7d\x7b1\x7d" }] }]

/-- The names of copies are restored, in the template and in the full URI. -/
theorem copiesSpec_restored :
    let uri := "/copies\x7b1\x7d\x7b1\x7d"
    let context := (Context.build format copiesSpec .fresh).1
    fillPlaceholders (indexed uri) (placeholderNames uri) = uri ∧
      2 < context.tree.nodes.size ∧
      (∀ node ∈ context.tree.pathTo 2, node.segment.toList.getLast? ≠ some '/') ∧
      uriHelper context [.view (.resource 2)] = .ok (.text ("/books\x7bisbn\x7d" ++ uri)) := by
  intro uri context
  have hn : 2 < context.tree.nodes.size := by decide +kernel
  have hpath : (context.tree.pathTo 2).map Node.segment = ["", "/books\x7bisbn\x7d", uri] := by
    decide +kernel
  have hslash := forall_pathTo (fun s => s.toList.getLast? ≠ some '/') hpath (by decide)
  obtain ⟨htemplate, hfull⟩ := names_restored_iff uri copiesSpec .fresh 2
  obtain ⟨hhelper, hshown⟩ := hfull hn hslash
  have hdeclared : declaredUri context 2 = "/books\x7bisbn\x7d" ++ uri := by
    rw [declaredUri, Tree.uriOf, hpath]
    decide
  have hunconfused :=
    forall_pathTo (fun s => Unconfused (placeholderNames s)) hpath (by decide +kernel)
  exact ⟨htemplate.mpr (by decide +kernel), hn, hslash,
    by rw [hhelper, hshown.mpr hunconfused, hdeclared]⟩

/-- The first placeholder has the number of the second one for its name. -/
def confusedSpec : Specification where
  resources := [{ relativeUri := "/a\x7b1\x7d\x7bx\x7d" }]

/-- The first placeholder is shown under the name of the second one. -/
theorem confusedSpec_not_restored :
    fillPlaceholders (indexed "/a\x7b1\x7d\x7bx\x7d") (placeholderNames "/a\x7b1\x7d\x7bx\x7d") =
        "/a\x7bx\x7d\x7bx\x7d" ∧
      let context := (Context.build format confusedSpec .fresh).1
      context.warnings = [] ∧ 1 < context.tree.nodes.size ∧
        (∀ node ∈ context.tree.pathTo 1, node.segment.toList.getLast? ≠ some '/') ∧
        context.tree.uriOf 1 = "/a\x7b1\x7d\x7bx\x7d" ∧
        uriHelper context [.view (.resource 1)] = .ok (.text "/a\x7bx\x7d\x7bx\x7d") := by
  refine ⟨by decide +kernel, ?_⟩
  intro context
  have hn : 1 < context.tree.nodes.size := by decide +kernel
  have hpath : (context.tree.pathTo 1).map Node.segment = ["", "/a\x7b1\x7d\x7bx\x7d"] := by
    decide +kernel
  have hslash := forall_pathTo (fun s => s.toList.getLast? ≠ some '/') hpath (by decide)
  have hshown : documentedUri context 1 = "/a\x7bx\x7d\x7bx\x7d" := by decide +kernel
  refine ⟨by decide +kernel, hn, hslash, ?_, ?_⟩
  · rw [Tree.uriOf, hpath]
    rfl
  · rw [uriHelper_resource (Tree.build_wellFormed _ _ _) (getElem?_resourceAt hn), hshown]

end ClientGen.JavaScript
