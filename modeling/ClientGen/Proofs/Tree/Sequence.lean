import ClientGen.Proofs.Tree.Landing

/-!
# The order of landings

A build lands declarations in an order that the finished tree shows: the declarations come one after
the other, the routes of each one after the other, so those of listed media types before the one for
all others, and a declaration that lands comes before what it nests. This file reads the sequence of
landings off a tree and shows that it is the one in the journal of the build.
-/

namespace ClientGen.Tree

variable {format : Format} {journal middle later : Journal} {n start : Nat}
  {arrive : Tree → Nat → List Landing} {land : Nat → Journal → Journal}

/-- What arriving at the ends of routes contributes, route by route; a route without an end
contributes nothing. -/
def alongRoutes (tree : Tree) (format : Format) (start : Nat) (routes : List (List String))
    (arrive : Nat → List Landing) : List Landing :=
  routes.flatMap fun route => ((tree.follow? format start route).map arrive).getD []

mutual

/-- The landings of a declaration and of what it nests in a tree, in the order of a build. -/
def landingsOf (tree : Tree) (format : Format) : ResourceDecl → Nat → List Landing
  | ⟨relativeUri, displayName, uriParameters, methods, description, resources⟩, start =>
    let decl : ResourceDecl :=
      ⟨relativeUri, displayName, uriParameters, methods, description, resources⟩
    alongRoutes tree format start decl.routes fun last =>
      ⟨start, last, decl⟩ :: landingsOfAll tree format resources last

/-- The landings of declarations and of what they nest in a tree, in the order of a build. -/
def landingsOfAll (tree : Tree) (format : Format) : List ResourceDecl → Nat → List Landing
  | [], _ => []
  | decl :: rest, start =>
    landingsOf tree format decl start ++ landingsOfAll tree format rest start

end

/-- A declaration lands at the end of each of its routes, before what it nests does. -/
theorem landingsOf_eq (tree : Tree) (format : Format) (decl : ResourceDecl) (start : Nat) :
    landingsOf tree format decl start = alongRoutes tree format start decl.routes fun last =>
      ⟨start, last, decl⟩ :: landingsOfAll tree format decl.resources last := by
  obtain ⟨relativeUri, displayName, uriParameters, methods, description, resources⟩ := decl
  rw [landingsOf]

/-- The ends of more routes come after those of the first. -/
theorem alongRoutes_append (tree : Tree) (first second : List (List String))
    (arrive : Nat → List Landing) : tree.alongRoutes format start (first ++ second) arrive =
      tree.alongRoutes format start first arrive ++ tree.alongRoutes format start second arrive :=
  List.flatMap_append

/-- Routes with a common first part are followed from its end. -/
theorem alongRoutes_map_append {tree : Tree} {first : List String}
    (hfirst : tree.follow? format start first = some n) (routes : List (List String))
    (arrive : Nat → List Landing) :
    tree.alongRoutes format start (routes.map (first ++ ·)) arrive =
      tree.alongRoutes format n routes arrive := by
  simp only [alongRoutes, List.flatMap_map, follow?_append, hfirst, Option.bind_some]

/-- Routes contribute nothing if their common first part leads nowhere. -/
theorem alongRoutes_map_append_of_none {tree : Tree} {first : List String}
    (hfirst : tree.follow? format start first = none) (routes : List (List String))
    (arrive : Nat → List Landing) :
    tree.alongRoutes format start (routes.map (first ++ ·)) arrive = [] := by
  simp [alongRoutes, List.flatMap_map, follow?_append, hfirst]

/-! ## Parts of a build -/

/-- A part of a build that goes along routes. What it adds to the landings can be read off every
later tree. -/
structure Notes (format : Format) (arrive : Tree → Nat → List Landing) (start : Nat)
    (routes : List (List String)) (journal later : Journal) : Prop where
  wellFormed : later.tree.WellFormed
  extends_tree : journal.tree.Extends later.tree
  landings_eq : ∀ final : Tree, later.tree.Extends final → later.landings =
    journal.landings ++ final.alongRoutes format start routes (arrive final)

/-- Without routes nothing is noted. -/
theorem Notes.nil (hwf : journal.tree.WellFormed) :
    Notes format arrive start [] journal journal where
  wellFormed := hwf
  extends_tree := .refl _
  landings_eq _ _ := (List.append_nil _).symm

/-- Landings along more routes are noted after those along the first. -/
theorem Notes.append {first second : List (List String)}
    (h : Notes format arrive start first journal middle)
    (h' : Notes format arrive start second middle later) :
    Notes format arrive start (first ++ second) journal later where
  wellFormed := h'.wellFormed
  extends_tree := h.extends_tree.trans h'.extends_tree
  landings_eq final hext := by
    rw [h'.landings_eq final hext, h.landings_eq final (h'.extends_tree.trans hext),
      alongRoutes_append, List.append_assoc]

/-- A step of a walk notes nothing. It leads where its segment leads in every later tree. -/
theorem step_leads (hwf : journal.tree.WellFormed) (hn : n < journal.tree.nodes.size)
    (relativeUri : String) (params : OrderedMap Parameter) (segment : String) :
    ∃ went next, journal.step format relativeUri params n segment = (went, next) ∧
      went.tree.WellFormed ∧ journal.tree.Extends went.tree ∧ went.landings = journal.landings ∧
      (∀ last, next = some last → last < went.tree.nodes.size) ∧
      ∀ final : Tree, went.tree.Extends final →
        final.follow? format n (Uri.dropSlashes [segment]) = next := by
  have hpart (h : segment ≠ "/") : Uri.dropSlashes [segment] = [segment] := by
    simp [Uri.dropSlashes, h]
  rcases step_cases format hwf relativeUri params n segment with
    ⟨hslash, hstep⟩ | ⟨hslash, child, hchild, hstep⟩ | ⟨hslash, key, hkey, hfree, hstep⟩ |
    ⟨hslash, warning, hrefused, hstep⟩ <;> rw [Journal.step, hstep]
  · refine ⟨_, _, rfl, hwf, .refl _, rfl, ?_, fun final _ => ?_⟩
    · rintro last ⟨⟩
      exact hn
    · simp [Uri.dropSlashes, hslash]
  · refine ⟨_, _, rfl, hwf, .refl _, rfl, ?_, fun final hext => ?_⟩
    · rintro last ⟨⟩
      obtain ⟨key, node, -, hin, -⟩ := childAlong?_eq_some_iff.mp hchild
      exact (hwf.lt_child hin).2
    · rw [hpart hslash, follow?_singleton]
      exact hext.childAlong? hchild
  · refine ⟨_, _, rfl, hwf.attach hn hfree rfl, extends_grow hn hfree, rfl, ?_,
      fun final hext => ?_⟩
    · rintro last ⟨⟩
      rw [Journal.tree, size_grow]
      exact Nat.lt_succ_self _
    · rw [hpart hslash, follow?_singleton]
      exact hext.childAlong? (childAlong?_grow params hn hkey hfree)
  · refine ⟨_, _, rfl, hwf, .refl _, rfl, by simp, fun final hext => ?_⟩
    rw [hpart hslash, follow?_singleton]
    exact hrefused.childAlong?_eq_none hext

/-- A step puts its segment in front of the routes gone along afterwards. -/
theorem notes_goOn {next : Nat → Journal → Journal} {rest : List (List String)}
    (hwf : journal.tree.WellFormed) (hn : n < journal.tree.nodes.size) (relativeUri : String)
    (params : OrderedMap Parameter) (segment : String)
    (hnext : ∀ went last, went.tree.WellFormed → last < went.tree.nodes.size →
      Notes format arrive last rest went (next last went)) :
    Notes format arrive n (rest.map (Uri.dropSlashes [segment] ++ ·)) journal
      (goOn next (journal.step format relativeUri params n segment)) := by
  obtain ⟨went, reached, hstep, hwfWent, hext, hsame, hlt, hleads⟩ :=
    step_leads hwf hn relativeUri params segment
  rw [hstep]
  cases reached with
  | none =>
    refine ⟨hwfWent, hext, fun final hfinal => ?_⟩
    rw [alongRoutes_map_append_of_none (hleads final hfinal), List.append_nil]
    exact hsame
  | some last =>
    have hrest := hnext went last hwfWent (hlt last rfl)
    refine ⟨hrest.wellFormed, hext.trans hrest.extends_tree, fun final hfinal => ?_⟩
    rw [alongRoutes_map_append (hleads final (hrest.extends_tree.trans hfinal)), ← hsame]
    exact hrest.landings_eq final hfinal

/-- The walk over media types goes along the route of each. -/
theorem notes_fan (hwf : journal.tree.WellFormed) (hn : n < journal.tree.nodes.size)
    (relativeUri : String) (params : OrderedMap Parameter) (values : List Json)
    (hland : ∀ went last, went.tree.WellFormed → last < went.tree.nodes.size →
      Notes format arrive last [[]] went (land last went)) :
    Notes format arrive n (values.map fun value => [mediaTypeSegment value]) journal
      (values.foldl (fun journal value => goOn land
        (journal.step format relativeUri params n (mediaTypeSegment value))) journal) := by
  induction values generalizing journal with
  | nil => exact .nil hwf
  | cons value rest ih =>
    have hfirst := notes_goOn hwf hn relativeUri params (mediaTypeSegment value) hland
    rw [dropSlashes_mediaTypeSegment] at hfirst
    exact hfirst.append (ih hfirst.wellFormed (hfirst.extends_tree.lt_size hn))

/-- A walk goes along the routes of its parts. -/
theorem notes_walk (hwf : journal.tree.WellFormed) (hn : n < journal.tree.nodes.size)
    (relativeUri : String) (params : OrderedMap Parameter) (segments : List String)
    (hland : ∀ went last, went.tree.WellFormed → last < went.tree.nodes.size →
      Notes format arrive last [[]] went (land last went)) :
    Notes format arrive n (routes (takeMediaTypes params).1 (Uri.dropSlashes segments)) journal
      (walk (fun params n segment journal => journal.step format relativeUri params n segment) land
        segments params n journal) := by
  induction segments generalizing params n journal with
  | nil => exact hland journal n hwf hn
  | cons segment rest ih =>
    rw [walk]
    rcases fanOut_cases segment params with
      ⟨rfl, hlisted, params', htaken, hfan⟩ | ⟨hplain, params', htaken, hfan⟩
    · rw [routes_dropSlashes_placeholder hlisted]
      simp only [hfan]
      have hfirst := notes_fan hwf hn relativeUri params' (takeMediaTypes params).1 hland
      have hother : [otherMediaTypes :: Uri.dropSlashes rest] =
          (routes (takeMediaTypes params').1 (Uri.dropSlashes rest)).map
            (Uri.dropSlashes [otherMediaTypes] ++ ·) := by
        rw [htaken, routes_nil]
        rfl
      rw [hother]
      exact hfirst.append (notes_goOn hfirst.wellFormed (hfirst.extends_tree.lt_size hn) _ _ _
        fun went last hwfWent hlast => ih hwfWent hlast params')
    · rw [routes_dropSlashes_cons hplain, ← htaken]
      simp only [hfan]
      exact notes_goOn hwf hn _ _ _ fun went last hwfWent hlast => ih hwfWent hlast params'

/-! ## Whole builds -/

mutual

/-- Placing a declaration notes its landings and those of what it nests. -/
theorem notes_record (format : Format) (decl : ResourceDecl) (start : Nat) (journal : Journal)
    (hwf : journal.tree.WellFormed) (hstart : start < journal.tree.nodes.size) :
    Notes format
      (fun tree last => ⟨start, last, decl⟩ :: landingsOfAll tree format decl.resources last)
      start decl.routes journal (record format decl start journal) := by
  obtain ⟨relativeUri, displayName, uriParameters, methods, description, nested⟩ := decl
  let decl : ResourceDecl :=
    ⟨relativeUri, displayName, uriParameters, methods, description, nested⟩
  have hroutes : routes (takeMediaTypes (Parameter.ofTable uriParameters)).1
      (Uri.dropSlashes (Uri.segments relativeUri)) = decl.routes := by
    rw [takeMediaTypes_ofTable decl]
    rfl
  rw [record, ← hroutes]
  refine notes_walk hwf hstart relativeUri _ _ fun went last hwfWent hlast => ?_
  have hext : went.tree.Extends (went.land format ⟨start, last, decl⟩).tree :=
    extends_populate _ _ _ _
  obtain ⟨hwfNested, hextNested, hnested⟩ := notes_recordAll format nested last
    (went.land format ⟨start, last, decl⟩) (hwfWent.populate format last decl) (hext.lt_size hlast)
  refine ⟨hwfNested, hext.trans hextNested, fun final hfinal => ?_⟩
  rw [hnested final hfinal]
  simp [Journal.land, alongRoutes, decl]

/-- Placing declarations one after the other notes the landings of all. -/
theorem notes_recordAll (format : Format) (decls : List ResourceDecl) (start : Nat)
    (journal : Journal) (hwf : journal.tree.WellFormed) (hstart : start < journal.tree.nodes.size) :
    (recordAll format decls start journal).tree.WellFormed ∧
      journal.tree.Extends (recordAll format decls start journal).tree ∧
      ∀ final : Tree, (recordAll format decls start journal).tree.Extends final →
        (recordAll format decls start journal).landings =
          journal.landings ++ landingsOfAll final format decls start := by
  cases decls with
  | nil =>
    rw [recordAll]
    exact ⟨hwf, .refl _, fun final _ => by rw [landingsOfAll, List.append_nil]⟩
  | cons decl rest =>
    have hfirst := notes_record format decl start journal hwf hstart
    obtain ⟨hwfRest, hextRest, hrest⟩ := notes_recordAll format rest start
      (record format decl start journal) hfirst.wellFormed (hfirst.extends_tree.lt_size hstart)
    rw [recordAll]
    refine ⟨hwfRest, hfirst.extends_tree.trans hextRest, fun final hfinal => ?_⟩
    rw [hrest final hfinal, hfirst.landings_eq final (hextRest.trans hfinal), landingsOfAll,
      landingsOf_eq, List.append_assoc]

end

/-- The landings of a build are those that its tree shows, in their order. -/
theorem landings_history (format : Format) (resources : List ResourceDecl) (ids : Identifiers) :
    (history format resources ids).landings =
      landingsOfAll (build format resources ids).tree format resources root := by
  rw [← draft_history]
  exact (notes_recordAll format resources root (fresh format ids) (wellFormed_withRoot _)
    (wellFormed_withRoot _).size_pos).2.2 _ (.refl _)

end ClientGen.Tree
