import ClientGen.Proofs.Tree.Walk

/-!
# Placing declarations

To place a declaration is to try its routes, and to place what it nests at every node that it lands
on. By recursion over the nested declarations, a finished build has tried every route from every
node that a declaration can start from. Three consequences are drawn here: whatever is built is a
tree, a build without warnings has lost no declaration, and further declarations only add to what
was built.
-/

namespace ClientGen.Tree

variable {format : Format} {resources : List ResourceDecl} {ids : Identifiers}
  {journal final : Journal} {decl : ResourceDecl} {chain : List ResourceDecl} {n start last : Nat}
  {route : List String}

mutual

/-- All routes of a declaration have been tried from a node, and those of the declarations that it
nests from the nodes that it landed on. -/
def Settled (format : Format) : ResourceDecl → Nat → Journal → Prop
  | ⟨relativeUri, displayName, uriParameters, methods, description, resources⟩, start, final =>
    let decl : ResourceDecl :=
      ⟨relativeUri, displayName, uriParameters, methods, description, resources⟩
    ∀ route ∈ decl.routes, Settles format (fun final last =>
      ⟨start, last, decl⟩ ∈ final.landings ∧ AllSettled format resources last final)
      start route final

/-- All routes of declarations have been tried from a node. -/
def AllSettled (format : Format) : List ResourceDecl → Nat → Journal → Prop
  | [], _, _ => True
  | decl :: rest, start, final =>
    Settled format decl start final ∧ AllSettled format rest start final

end

/-- Of declarations that are settled each is settled. -/
theorem AllSettled.of_mem {decls : List ResourceDecl} (h : AllSettled format decls start final)
    (hdecl : decl ∈ decls) : Settled format decl start final := by
  induction decls with
  | nil => cases hdecl
  | cons first rest ih =>
    rw [AllSettled] at h
    rcases List.mem_cons.mp hdecl with rfl | hdecl
    · exact h.1
    · exact ih h.2 hdecl

/-- A route of a settled declaration that leads to a node has made the declaration land there. -/
theorem Settled.landed (h : Settled format decl start final) (hroute : route ∈ decl.routes)
    (hlast : final.tree.follow? format start route = some last) :
    ⟨start, last, decl⟩ ∈ final.landings ∧ AllSettled format decl.resources last final := by
  obtain ⟨relativeUri, displayName, uriParameters, methods, description, resources⟩ := decl
  rw [Settled] at h
  have hsettles := h route hroute
  rw [Settles, hlast] at hsettles
  exact hsettles

/-- Without warnings every route of a settled declaration leads to a node. -/
theorem Settled.leads (h : Settled format decl start final) (hroute : route ∈ decl.routes)
    (hquiet : final.warnings = []) : ∃ last, final.tree.follow? format start route = some last := by
  obtain ⟨relativeUri, displayName, uriParameters, methods, description, resources⟩ := decl
  rw [Settled] at h
  have hsettles := h route hroute
  cases hlast : final.tree.follow? format start route with
  | some last => exact ⟨last, rfl⟩
  | none =>
    rw [Settles, hlast] at hsettles
    exact absurd hquiet hsettles.1

/-- Wherever a route of a settled declaration has come to, the key of its next part is taken. -/
theorem Settled.exists_child? (h : Settled format decl start final) {first rest : List String}
    {part key : String} (hroute : first ++ part :: rest ∈ decl.routes)
    (hfirst : final.tree.follow? format start first = some n)
    (hkey : Uri.segmentKey? format part = some key) :
    ∃ child, final.tree.child? n key = some child := by
  obtain ⟨relativeUri, displayName, uriParameters, methods, description, resources⟩ := decl
  rw [Settled] at h
  have hsettles := h _ hroute
  rw [Settles] at hsettles
  split at hsettles
  next last hlast =>
    rw [follow?_append, hfirst, Option.bind_some, follow?_cons, Option.bind_eq_some_iff] at hlast
    obtain ⟨child, hchild, -⟩ := hlast
    exact ⟨child, child?_of_childAlong? hchild hkey⟩
  next => exact hsettles.2.exists_child? hfirst hkey

/-- A declaration can land wherever its routes lead, if what it nests can be placed there. -/
theorem canLand_nested (hwf : journal.tree.WellFormed)
    (hlineage : Lineage resources (decl :: chain))
    (hstart : journal.tree.LandsOn format chain start)
    (hnested : ∀ (later : Journal) (last : Nat), later.tree.WellFormed →
      later.tree.LandsOn format (decl :: chain) last →
      Develops format resources later (recordAll format decl.resources last later) ∧
        ∀ final, (recordAll format decl.resources last later).Extends final →
          AllSettled format decl.resources last final) :
    CanLand format resources
      (fun final last => ⟨start, last, decl⟩ ∈ final.landings ∧
        AllSettled format decl.resources last final)
      (fun n journal => recordAll format decl.resources n (journal.land format ⟨start, n, decl⟩))
      start decl.routes journal := by
  intro route hroute later last hlater hlast
  have hstart' := hstart.mono hlater.extends.tree
  have hlanded : Develops format resources later (later.land format ⟨start, last, decl⟩) :=
    .single (.land later hlineage hstart' hroute hlast)
  have hext := hlanded.extends.tree
  obtain ⟨hdevelops, hsettled⟩ := hnested (later.land format ⟨start, last, decl⟩) last
    (hlanded.wellFormed (hlater.wellFormed hwf))
    (.land (hstart'.mono hext) hroute (hext.follow? hlast))
  refine tries_land (hlanded.trans hdevelops) fun final hfinal => ⟨?_, hsettled final hfinal⟩
  have hnoted : ⟨start, last, decl⟩ ∈ (later.land format ⟨start, last, decl⟩).landings :=
    List.mem_append_right _ (List.mem_singleton_self _)
  exact (hdevelops.extends.trans hfinal).landings.subset hnoted

mutual

/-- Placing a declaration develops the journal and settles the declaration once and for all. -/
theorem record_settles (decl : ResourceDecl) (chain : List ResourceDecl) (start : Nat)
    (journal : Journal) (hwf : journal.tree.WellFormed)
    (hlineage : Lineage resources (decl :: chain))
    (hstart : journal.tree.LandsOn format chain start) :
    Develops format resources journal (record format decl start journal) ∧
      ∀ final, (record format decl start journal).Extends final →
        Settled format decl start final := by
  obtain ⟨relativeUri, displayName, uriParameters, methods, description, nested⟩ := decl
  let decl : ResourceDecl :=
    ⟨relativeUri, displayName, uriParameters, methods, description, nested⟩
  have hroutes : routes (takeMediaTypes (Parameter.ofTable uriParameters)).1
      (Uri.dropSlashes (Uri.segments relativeUri)) = decl.routes := by
    rw [takeMediaTypes_ofTable decl]
    rfl
  have hland := canLand_nested hwf hlineage hstart fun later last hwfLater hlast =>
    recordAll_settles nested (decl :: chain) last later hwfLater
      (fun inner hinner => .nested hlineage hinner) hlast
  have hway : ∀ route ∈ decl.routes, OnWay format resources journal.tree decl start route :=
    fun route hroute => ⟨chain, start, [], hlineage, hstart, hroute, rfl⟩
  have hoffers : decl.Offers (Parameter.ofTable uriParameters) := Or.inl rfl
  have htries := tries_walk hwf (hstart.lt_size hwf) hoffers _
    (hroutes ▸ hway) (hroutes ▸ hland)
  rw [hroutes] at htries
  rw [record]
  refine ⟨htries.develops, fun final hext => ?_⟩
  rw [Settled]
  exact htries.settles final hext

/-- Placing declarations one after the other settles all of them. -/
theorem recordAll_settles (decls : List ResourceDecl) (chain : List ResourceDecl) (start : Nat)
    (journal : Journal) (hwf : journal.tree.WellFormed)
    (hlineage : ∀ decl ∈ decls, Lineage resources (decl :: chain))
    (hstart : journal.tree.LandsOn format chain start) :
    Develops format resources journal (recordAll format decls start journal) ∧
      ∀ final, (recordAll format decls start journal).Extends final →
        AllSettled format decls start final := by
  cases decls with
  | nil =>
    rw [recordAll]
    exact ⟨.refl, fun _ _ => by simp only [AllSettled]⟩
  | cons decl rest =>
    obtain ⟨hfirst, hsettled⟩ :=
      record_settles decl chain start journal hwf (hlineage decl List.mem_cons_self) hstart
    obtain ⟨hrest, hsettledRest⟩ := recordAll_settles rest chain start
      (record format decl start journal) (hfirst.wellFormed hwf)
      (fun inner hinner => hlineage inner (List.mem_cons_of_mem _ hinner))
      (hstart.mono hfirst.extends.tree)
    rw [recordAll]
    refine ⟨hfirst.trans hrest, fun final hext => ?_⟩
    rw [AllSettled]
    exact ⟨hsettled final (hrest.extends.trans hext), hsettledRest final hext⟩

end

/-! ## Whole builds -/

/-- The journal that a build starts with. -/
def fresh (format : Format) (ids : Identifiers) : Journal where
  draft :=
    { tree := withRoot (format.nextId ids "resource").1
      ids := (format.nextId ids "resource").2
      warnings := [] }
  landings := []

/-- A build starts with a fresh journal, develops it, and settles all declarations. -/
theorem history_settles (format : Format) (resources : List ResourceDecl) (ids : Identifiers) :
    Develops format resources (fresh format ids) (history format resources ids) ∧
      AllSettled format resources root (history format resources ids) := by
  obtain ⟨hdevelops, hsettled⟩ := recordAll_settles resources [] root (fresh format ids)
    (wellFormed_withRoot _) (fun _ => .top) .root
  exact ⟨hdevelops, hsettled _ (.refl _)⟩

/-- What every change of a well-formed tree keeps holds of a build if it holds at its start. -/
theorem history_keeps {P : Journal → Prop}
    (hchange : ∀ journal later, Change format resources journal later →
      journal.tree.WellFormed → P journal → P later)
    (hfresh : P (fresh format ids)) : P (history format resources ids) := by
  have hkept := (history_settles format resources ids).1.keeps
    (P := fun journal => journal.tree.WellFormed ∧ P journal)
    (fun _ _ hstep h => ⟨hstep.wellFormed h.1, hchange _ _ hstep h.1 h.2⟩)
  exact (hkept ⟨wellFormed_withRoot _, hfresh⟩).2

/-- The tree of a journal is well-formed. -/
theorem history_wellFormed (format : Format) (resources : List ResourceDecl) (ids : Identifiers) :
    (history format resources ids).tree.WellFormed :=
  (history_settles format resources ids).1.wellFormed (wellFormed_withRoot _)

/-- A built tree is well-formed. -/
theorem build_wellFormed (format : Format) (resources : List ResourceDecl) (ids : Identifiers) :
    (build format resources ids).tree.WellFormed := by
  rw [← draft_history]
  exact history_wellFormed format resources ids

/-- Whatever is declared, the nodes that are built form one tree: each is reached from the root by
the keys on its path, has its place among the children of one earlier node, and has no other. -/
theorem build_rooted (format : Format) (resources : List ResourceDecl) (ids : Identifiers) :
    (build format resources ids).tree.Rooted :=
  (build_wellFormed format resources ids).rooted

/-! ## Builds of more declarations -/

/-- Declarations are placed one after the other. -/
theorem placeAll_append (format : Format) (xs ys : List ResourceDecl) (n : Nat) (draft : Draft) :
    placeAll format (xs ++ ys) n draft = placeAll format ys n (placeAll format xs n draft) := by
  induction xs generalizing draft with
  | nil => rw [List.nil_append, placeAll]
  | cons x xs ih => rw [List.cons_append, placeAll, placeAll, ih]

/-- A build goes on with more resources at the root. -/
theorem build_append (format : Format) (first second : List ResourceDecl) (ids : Identifiers) :
    build format (first ++ second) ids =
      placeAll format second root (build format first ids) :=
  placeAll_append format first second root _

/-- Later declarations only add to what earlier ones produced. Nodes keep their places, their
children and the keys of their methods are continued, and so are the methods and the warnings. -/
theorem build_append_extends (format : Format) (first second : List ResourceDecl)
    (ids : Identifiers) :
    (build format first ids).tree.Extends (build format (first ++ second) ids).tree ∧
      (build format first ids).warnings <+: (build format (first ++ second) ids).warnings := by
  have hdevelops : Develops format second (history format first ids) _ :=
    (recordAll_settles second [] root _ (history_wellFormed format first ids)
      (fun _ => .top) .root).1
  have hext := hdevelops.extends
  have hlast : (recordAll format second root (history format first ids)).draft =
      build format (first ++ second) ids := by
    rw [draft_recordAll, draft_history, build_append]
  rw [← hlast, ← draft_history]
  exact ⟨hext.tree, hext.warnings⟩

end ClientGen.Tree
