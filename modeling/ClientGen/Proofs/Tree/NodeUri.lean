import ClientGen.Proofs.Tree.Faithful
import ClientGen.Proofs.Tree.Landing

/-!
# URIs of nodes

The segments from the root to a node make up the URI that is requested there. If no media types are
listed, a declaration lands on one node only, whose URI is made up of the relative URIs of the
declarations around it and of its own. Only slashes are missing in it: a relative URI loses those
that stand alone, whatever follows in the URIs nested in it.
-/

namespace ClientGen.Tree

variable {format : Format} {resources : List ResourceDecl} {ids : Identifiers} {tree : Tree}
  {chain : List ResourceDecl} {n m : Nat}

/-- The URI of a node: the segments on the way to it. -/
def uriOf (tree : Tree) (n : Nat) : String :=
  String.join ((tree.pathTo n).map Node.segment)

/-- The URI of nested declarations, innermost first, without the slashes that stand alone. -/
def nestedUri (chain : List ResourceDecl) : String :=
  String.join (chain.reverse.map fun decl => Uri.withoutBareSlashes decl.relativeUri)

/-- Without media types the parts of a declaration are its only route. -/
theorem routes_of_mediaTypes_eq_nil {decl : ResourceDecl} (h : decl.mediaTypes = []) :
    decl.routes = [Uri.parts decl.relativeUri] := by
  rw [ResourceDecl.routes, h, routes_nil]

/-- Without media types nested declarations land on one node at most. -/
theorem LandsOn.unique (hplain : ∀ decl ∈ chain, decl.mediaTypes = [])
    (h : tree.LandsOn format chain n) (h' : tree.LandsOn format chain m) : n = m := by
  induction h generalizing m with
  | root =>
    cases h'
    rfl
  | @land decl chain start last route _ hroute hlast ih =>
    cases h' with
    | @land _ _ start' _ route' hstart' hroute' hlast' =>
      rw [routes_of_mediaTypes_eq_nil (hplain decl List.mem_cons_self), List.mem_singleton]
        at hroute hroute'
      obtain rfl : start = start' :=
        ih (fun inner hinner => hplain inner (List.mem_cons_of_mem _ hinner)) hstart'
      rw [hroute] at hlast
      rw [hroute', hlast] at hlast'
      exact Option.some.inj hlast'

/-- The URI of a node that declarations without media types land on is theirs. -/
theorem LandsOn.uriOf_eq (hwf : tree.WellFormed) (hroot : tree.uriOf Tree.root = "")
    (hplain : ∀ decl ∈ chain, decl.mediaTypes = []) (h : tree.LandsOn format chain n) :
    tree.uriOf n = nestedUri chain := by
  induction h with
  | root => exact hroot
  | @land decl chain start last route _ hroute hlast ih =>
    rw [routes_of_mediaTypes_eq_nil (hplain decl List.mem_cons_self), List.mem_singleton] at hroute
    have houter := ih fun inner hinner => hplain inner (List.mem_cons_of_mem _ hinner)
    rw [uriOf, hwf.map_segment_pathTo hlast, String.join_append, ← uriOf, houter, hroute,
      Uri.join_parts, nestedUri, nestedUri, List.reverse_cons, List.map_append, String.join_append]
    simp [String.join]

/-- The URI of the root is empty. -/
theorem uriOf_root (format : Format) (resources : List ResourceDecl) (ids : Identifiers) :
    (build format resources ids).tree.uriOf root = "" := by
  have hwf := build_wellFormed format resources ids
  have hroot := Array.getElem?_eq_getElem hwf.size_pos
  obtain ⟨hsegment, -, -⟩ := (build_faithful format resources ids).root _ hroot
  rw [uriOf, hwf.pathTo_root hroot, List.map_singleton, hsegment]
  rfl

/-- If no media types are listed, declarations land on nodes with their URI, and on one at most. -/
theorem uriOf_of_landsOn
    (hplain : ∀ decl chain, Lineage resources (decl :: chain) → decl.mediaTypes = [])
    (hlineage : Lineage resources chain)
    (hn : (build format resources ids).tree.LandsOn format chain n) :
    (∀ m, (build format resources ids).tree.LandsOn format chain m → m = n) ∧
      (build format resources ids).tree.uriOf n = nestedUri chain := by
  have hmembers : ∀ decl ∈ chain, decl.mediaTypes = [] := by
    intro decl hdecl
    obtain ⟨outer, houter⟩ := hlineage.of_mem hdecl
    exact hplain decl outer houter
  have hwf := build_wellFormed format resources ids
  exact ⟨fun m hm => hm.unique hmembers hn, hn.uriOf_eq hwf (uriOf_root _ _ _) hmembers⟩

/-- If there are no warnings and no media types are listed, every declaration lands on exactly one
node. The URI of that node is made up of the relative URIs of the declarations around it and its
own, each without the slashes that stand alone in it: those before a slash, before a dot, before a
placeholder of a media type that ends the relative URI, and at its end. -/
theorem uriOf_landing (hquiet : (build format resources ids).warnings = [])
    (hplain : ∀ decl chain, Lineage resources (decl :: chain) → decl.mediaTypes = [])
    (hlineage : Lineage resources chain) :
    ∃ n, (build format resources ids).tree.LandsOn format chain n ∧
      (∀ m, (build format resources ids).tree.LandsOn format chain m → m = n) ∧
      (build format resources ids).tree.uriOf n = nestedUri chain := by
  obtain ⟨n, hn⟩ : ∃ n, (build format resources ids).tree.LandsOn format chain n := by
    rw [← draft_history] at hquiet ⊢
    exact exists_landsOn hquiet hlineage
  exact ⟨n, hn, uriOf_of_landsOn hplain hlineage hn⟩

/-! ## Slashes that are not redundant -/

/-- The characters without the slashes before another slash or at the end, which are redundant. -/
def dropRedundantSlashes : List Char → List Char
  | [] => []
  | c :: rest =>
    if c = '/' ∧ (rest = [] ∨ rest.head? = some '/') then dropRedundantSlashes rest
    else c :: dropRedundantSlashes rest

/-- The URI of nested declarations, innermost first, without redundant slashes. -/
def tidyUri (chain : List ResourceDecl) : String :=
  String.ofList (dropRedundantSlashes
    (String.join (chain.reverse.map ResourceDecl.relativeUri)).toList)

/-- A relative URI with a slash before a dot. -/
def dottedDecl : ResourceDecl := { relativeUri := "/.json" }

/-- A relative URI with a slash before the placeholder of a media type. -/
def templatedDecl : ResourceDecl := { relativeUri := "/\x7bmediaTypeExtension\x7d" }

/-- A relative URI that starts with neither a dot nor a slash. -/
def bareDecl : ResourceDecl := { relativeUri := "users" }

/-- A lone slash, followed by the URI nested in it. -/
def slashDecl : ResourceDecl := { relativeUri := "/", resources := [bareDecl] }

/-- Resources whose URIs all lose a slash. -/
def slashedDecls : List ResourceDecl := [dottedDecl, templatedDecl, slashDecl]

/-- None of these declarations lists media types, however deeply it is nested. -/
theorem slashedDecls_plain (decl : ResourceDecl) (chain : List ResourceDecl)
    (h : Lineage slashedDecls (decl :: chain)) : decl.mediaTypes = [] := by
  have hmem : ∀ chain, Lineage slashedDecls chain →
      ∀ decl ∈ chain, decl ∈ bareDecl :: slashedDecls := by
    intro chain h
    induction h with
    | top hdecl =>
      intro decl hin
      rw [List.mem_singleton.mp hin]
      exact List.mem_cons_of_mem _ hdecl
    | @nested decl outer chain _ hdecl ih =>
      intro inner hin
      rcases List.mem_cons.mp hin with rfl | hin
      · have houter := ih outer List.mem_cons_self
        simp only [slashedDecls, List.mem_cons, List.not_mem_nil, or_false] at houter
        rcases houter with rfl | rfl | rfl | rfl
        · cases hdecl
        · cases hdecl
        · cases hdecl
        · rw [List.mem_singleton.mp hdecl]
          exact List.mem_cons_self
      · exact ih inner hin
  have hdecl := hmem _ h decl List.mem_cons_self
  simp only [slashedDecls, List.mem_cons, List.not_mem_nil, or_false] at hdecl
  rcases hdecl with rfl | rfl | rfl | rfl <;> rfl

/-- Each of these resources is nested as it is declared. -/
theorem slashedDecls_lineage : ∀ chain ∈ [[dottedDecl], [templatedDecl], [bareDecl, slashDecl]],
    Lineage slashedDecls chain := by
  have hslash : Lineage slashedDecls [slashDecl] := .top (by simp [slashedDecls])
  intro chain hchain
  simp only [List.mem_cons, List.not_mem_nil, or_false] at hchain
  rcases hchain with rfl | rfl | rfl
  · exact .top (by simp [slashedDecls])
  · exact .top (by simp [slashedDecls])
  · exact .nested hslash (List.mem_singleton_self _)

/-- The slash before the nested URI is not found in the URI of its node. -/
theorem uriOf_bareDecl :
    (build plainFormat slashedDecls .fresh).warnings = [] ∧
      (∀ decl chain, Lineage slashedDecls (decl :: chain) → decl.mediaTypes = []) ∧
      Lineage slashedDecls [bareDecl, slashDecl] ∧
      ∃ n, (build plainFormat slashedDecls .fresh).tree.LandsOn plainFormat
          [bareDecl, slashDecl] n ∧
        (∀ m, (build plainFormat slashedDecls .fresh).tree.LandsOn plainFormat
          [bareDecl, slashDecl] m → m = n) ∧
        (build plainFormat slashedDecls .fresh).tree.uriOf n = nestedUri [bareDecl, slashDecl] := by
  have hquiet : (build plainFormat slashedDecls .fresh).warnings = [] := by decide +kernel
  have hlineage := slashedDecls_lineage [bareDecl, slashDecl] (by simp)
  exact ⟨hquiet, slashedDecls_plain, hlineage,
    uriOf_landing hquiet slashedDecls_plain hlineage⟩

/-- More than redundant slashes can be missing: there are resources without warnings and without
media types, three of which land only on nodes with another URI than their tidied one. -/
theorem uriOf_ne_tidyUri :
    (build plainFormat slashedDecls .fresh).warnings = [] ∧
      (∀ decl chain, Lineage slashedDecls (decl :: chain) → decl.mediaTypes = []) ∧
      ∀ chain ∈ [[dottedDecl], [templatedDecl], [bareDecl, slashDecl]],
        Lineage slashedDecls chain ∧
          ∀ n, (build plainFormat slashedDecls .fresh).tree.LandsOn plainFormat chain n →
            (build plainFormat slashedDecls .fresh).tree.uriOf n ≠ tidyUri chain := by
  refine ⟨by decide +kernel, slashedDecls_plain, fun chain hchain => ?_⟩
  have hlineage := slashedDecls_lineage chain hchain
  refine ⟨hlineage, fun n hn => ?_⟩
  rw [(uriOf_of_landsOn slashedDecls_plain hlineage hn).2]
  simp only [List.mem_cons, List.not_mem_nil, or_false] at hchain
  rcases hchain with rfl | rfl | rfl <;> decide

end ClientGen.Tree
