import ClientGen.Proofs.Tree.Landing

/-!
# Where media types fan out

A declaration should land only on nodes for the last part of its relative URI, and media types
should fan out only where their placeholder ends it. A placeholder is the first part of a URI or the
last one. At the end of a URI the fan-out is in order. A placeholder that opens a longer URI fans
out as well, and the declaration lands halfway, on the nodes of the media types.
-/

namespace ClientGen.Tree

variable {format : Format} {resources : List ResourceDecl} {ids : Identifiers} {tree : Tree}
  {decl : ResourceDecl} {values : List Json} {parts route : List String} {part segment : String}
  {start last : Nat}

/-- A segment is that of a part. The placeholder of a media type stands for the listed media types
and for all others. -/
def StandsFor (values : List Json) (part segment : String) : Prop :=
  segment = part ∨ part = Uri.mediaTypePlaceholder ∧
    (segment = otherMediaTypes ∨ ∃ value ∈ values, segment = mediaTypeSegment value)

/-- A declaration landed on a node for the last part of its URI. If that was the node of a media
type, then in place of a placeholder at the end. -/
structure Landing.AtLastPart (format : Format) (tree : Tree) (landing : Landing) : Prop where
  segment : ∀ part, (Uri.parts landing.decl.relativeUri).getLast? = some part →
    ∃ node, tree.nodes[landing.node]? = some node ∧
      StandsFor landing.decl.mediaTypes part node.segment
  fanOut : ∀ pre post value, Uri.parts landing.decl.relativeUri =
      pre ++ Uri.mediaTypePlaceholder :: post → value ∈ landing.decl.mediaTypes →
    tree.follow? format landing.start (pre ++ [mediaTypeSegment value]) = some landing.node →
    post = []

/-! ## The ends of routes -/

/-- If placeholders occur at the end only, routes end with a segment for the last part. -/
theorem getLast?_of_mem_routes
    (hend : ∀ pre post, parts = pre ++ Uri.mediaTypePlaceholder :: post → post = [])
    (hroute : route ∈ routes values parts) (hpart : parts.getLast? = some part) :
    ∃ segment, route.getLast? = some segment ∧ StandsFor values part segment := by
  induction parts generalizing route with
  | nil => cases hpart
  | cons p rest ih =>
    rw [routes] at hroute
    split at hroute
    next hfan =>
      obtain rfl : rest = [] := hend [] rest (by rw [hfan.1]; rfl)
      obtain rfl : p = part := by simpa using hpart
      rcases List.mem_append.mp hroute with hroute | hroute
      · obtain ⟨value, hvalue, rfl⟩ := List.mem_map.mp hroute
        exact ⟨_, rfl, Or.inr ⟨hfan.1, Or.inr ⟨value, hvalue, rfl⟩⟩⟩
      · rw [List.mem_singleton.mp hroute]
        exact ⟨_, rfl, Or.inr ⟨hfan.1, Or.inl rfl⟩⟩
    next =>
      obtain ⟨tail, htail, rfl⟩ := List.mem_map.mp hroute
      cases rest with
      | nil =>
        obtain rfl : tail = [] := by simpa [routes] using htail
        obtain rfl : p = part := by simpa using hpart
        exact ⟨p, rfl, Or.inl rfl⟩
      | cons q rest =>
        rw [List.getLast?_cons_cons] at hpart
        have hend' : ∀ pre post, q :: rest = pre ++ Uri.mediaTypePlaceholder :: post →
            post = [] := fun pre post h => hend (p :: pre) post (by rw [h]; rfl)
        obtain ⟨segment, hsegment, hstands⟩ := ih hend' htail hpart
        refine ⟨segment, ?_, hstands⟩
        rw [List.getLast?_cons, hsegment]
        rfl

/-- A route is that of a media type which a placeholder at the front lists, or it ends with a
segment for the last part. -/
theorem route_cases (hroute : route ∈ decl.routes) :
    (∃ rest, Uri.parts decl.relativeUri = Uri.mediaTypePlaceholder :: rest ∧
      ∃ value ∈ decl.mediaTypes, route = [mediaTypeSegment value]) ∨
    ∀ part, (Uri.parts decl.relativeUri).getLast? = some part →
      ∃ segment, route.getLast? = some segment ∧ StandsFor decl.mediaTypes part segment := by
  have hplace := @Uri.parts_placeholder decl.relativeUri
  rw [ResourceDecl.routes] at hroute
  generalize Uri.parts decl.relativeUri = parts at hplace hroute
  cases parts with
  | nil => exact Or.inr fun part hpart => by cases hpart
  | cons p rest =>
    by_cases hfan : p = Uri.mediaTypePlaceholder ∧ decl.mediaTypes.isEmpty = false
    · rw [routes, if_pos hfan] at hroute
      rcases List.mem_append.mp hroute with hroute | hroute
      · obtain ⟨value, hvalue, rfl⟩ := List.mem_map.mp hroute
        exact Or.inl ⟨rest, by rw [hfan.1], value, hvalue, rfl⟩
      · rw [List.mem_singleton.mp hroute]
        refine Or.inr fun part hpart => ?_
        cases rest with
        | nil =>
          obtain rfl : p = part := by simpa using hpart
          exact ⟨_, rfl, Or.inr ⟨hfan.1, Or.inl rfl⟩⟩
        | cons q rest =>
          rw [List.getLast?_cons_cons] at hpart
          exact ⟨part, by rw [List.getLast?_cons_cons, hpart], Or.inl rfl⟩
    · refine Or.inr fun part hpart => ?_
      by_cases hp : p = Uri.mediaTypePlaceholder
      · have hnone : decl.mediaTypes = [] := by simpa [hp] using hfan
        rw [hnone, routes_nil, List.mem_singleton] at hroute
        exact ⟨part, by rw [hroute, hpart], Or.inl rfl⟩
      · refine getLast?_of_mem_routes (fun pre post h => ?_) hroute hpart
        rcases hplace h with rfl | hpost
        · exact absurd (List.cons.inj h).1 hp
        · exact hpost

/-! ## Landings -/

/-- A declaration lands only on nodes for the last part of its URI, and media types fan out only at
its end, exactly if no placeholder that opens a longer URI has led to the node of a media type. -/
theorem atLastPart_iff (format : Format) (resources : List ResourceDecl) (ids : Identifiers)
    (decl : ResourceDecl) :
    (history format resources ids).draft = build format resources ids ∧
    ((∀ landing ∈ (history format resources ids).landings, landing.decl = decl →
        landing.AtLastPart format (build format resources ids).tree) ↔
      ∀ chain start rest, Lineage resources (decl :: chain) →
        (build format resources ids).tree.LandsOn format chain start →
        Uri.parts decl.relativeUri = Uri.mediaTypePlaceholder :: rest →
        (∃ value ∈ decl.mediaTypes, ∃ node, (build format resources ids).tree.follow? format start
          [mediaTypeSegment value] = some node) → rest = []) := by
  rw [← draft_history]
  refine ⟨rfl, ?_⟩
  constructor
  · rintro h chain start rest hlineage hstart hparts ⟨value, hvalue, node, hnode⟩
    have hroute : [mediaTypeSegment value] ∈ decl.routes := by
      have hlisted : decl.mediaTypes.isEmpty = false := by
        rw [List.isEmpty_eq_false_iff]
        exact List.ne_nil_of_mem hvalue
      rw [ResourceDecl.routes, hparts, routes, if_pos ⟨rfl, hlisted⟩]
      exact List.mem_append_left _ (List.mem_map_of_mem hvalue)
    have hlanding : ⟨start, node, decl⟩ ∈ (history format resources ids).landings :=
      mem_landings_iff.mpr ⟨chain, hlineage, hstart, _, hroute, hnode⟩
    exact (h _ hlanding rfl).fanOut [] rest value hparts hvalue hnode
  · rintro h landing hlanding rfl
    obtain ⟨chain, hlineage, hstart, route, hroute, hlast⟩ := mem_landings_iff.mp hlanding
    constructor
    · intro part hpart
      rcases route_cases hroute with ⟨rest, hparts, value, hvalue, rfl⟩ | hends
      · obtain rfl := h chain _ rest hlineage hstart hparts ⟨value, hvalue, _, hlast⟩
        obtain ⟨node, hnode, hsegment⟩ := segment_of_follow? hlast rfl
        rw [hparts, List.getLast?_singleton, Option.some.injEq] at hpart
        exact ⟨node, hnode, Or.inr ⟨hpart.symm, Or.inr ⟨value, hvalue, hsegment⟩⟩⟩
      · obtain ⟨segment, hend, hstands⟩ := hends part hpart
        obtain ⟨node, hnode, rfl⟩ := segment_of_follow? hlast hend
        exact ⟨node, hnode, hstands⟩
    · intro pre post value hparts hvalue hnode
      rcases Uri.parts_placeholder hparts with rfl | hpost
      · exact h chain _ post hlineage hstart hparts ⟨value, hvalue, _, hnode⟩
      · exact hpost

/-- A placeholder that lists a media type and opens a longer URI. -/
def openedDecl : ResourceDecl where
  relativeUri := "\x7bmediaTypeExtension\x7d/users"
  uriParameters := .ofList [("mediaTypeExtension", { enum := some [.text "json"] })]
  methods := [{ method := "get" }]

/-- The method for users is also found at the node of the media type, halfway to the users. -/
theorem openedDecl_lands_halfway :
    (build plainFormat [openedDecl] .fresh).warnings = [] ∧
      (Uri.parts openedDecl.relativeUri).getLast? = some "/users" ∧
      ∃ landing ∈ (history plainFormat [openedDecl] .fresh).landings,
        landing.decl = openedDecl ∧
        ((build plainFormat [openedDecl] .fresh).tree.nodes[landing.node]?.map fun node =>
          (node.segment, node.methods.keys)) = some (".json", ["get"]) ∧
        ¬landing.AtLastPart plainFormat (build plainFormat [openedDecl] .fresh).tree := by
  have hlast : (Uri.parts openedDecl.relativeUri).getLast? = some "/users" := by decide
  have hnode : ((build plainFormat [openedDecl] .fresh).tree.nodes[1]?.map fun node =>
      (node.segment, node.methods.keys)) = some (".json", ["get"]) := by decide +kernel
  refine ⟨by decide +kernel, hlast, ⟨root, 1, openedDecl⟩, ?_, rfl, hnode, ?_⟩
  · refine mem_landings_iff.mpr ⟨[], .top (List.mem_singleton_self _), .root, [".json"], ?_, ?_⟩
    · decide
    · rw [Journal.tree, draft_history]
      decide +kernel
  · intro h
    obtain ⟨node, hfound, hstands⟩ := h.segment _ hlast
    simp only [hfound, Option.map_some, Option.some.injEq, Prod.mk.injEq] at hnode
    rw [hnode.1] at hstands
    rcases hstands with hsame | ⟨hplaceholder, -⟩
    · exact absurd hsame (by decide)
    · exact absurd hplaceholder (by decide)

end ClientGen.Tree
