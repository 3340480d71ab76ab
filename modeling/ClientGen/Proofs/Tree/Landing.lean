import ClientGen.Proofs.Tree.Methods
import ClientGen.Proofs.Tree.Placement

/-!
# Where declarations have landed

The finished tree alone tells where declarations have landed: the landings of a build are exactly
the ends of their routes from the nodes where their outer declarations landed. A node has exactly
the methods of the declarations that landed on it, and without warnings all routes have an end.
-/

namespace ClientGen.Tree

variable {format : Format} {resources : List ResourceDecl} {ids : Identifiers}
  {journal later final : Journal} {landing : Landing} {decl : ResourceDecl}
  {chain : List ResourceDecl} {start : Nat}

/-! ## Landings noted in a journal -/

/-- The declaration of a landing has a route that leads from its start to its node. -/
def Landing.Sound (format : Format) (resources : List ResourceDecl) (tree : Tree)
    (landing : Landing) : Prop :=
  ∃ chain, Lineage resources (landing.decl :: chain) ∧ tree.LandsOn format chain landing.start ∧
    ∃ route ∈ landing.decl.routes, tree.follow? format landing.start route = some landing.node

/-- A landing stays sound when the tree is extended. -/
theorem Landing.Sound.mono {tree later : Tree} (h : landing.Sound format resources tree)
    (hext : tree.Extends later) : landing.Sound format resources later := by
  obtain ⟨chain, hlineage, hstart, route, hroute, hlast⟩ := h
  exact ⟨chain, hlineage, hstart.mono hext, route, hroute, hext.follow? hlast⟩

/-- A journal accounts for its tree: its landings lead to the nodes that they name, and the methods
of a node are those of the declarations that landed there. -/
structure Journal.Accounts (format : Format) (resources : List ResourceDecl) (journal : Journal) :
    Prop where
  sound : ∀ landing ∈ journal.landings, landing.Sound format resources journal.tree
  hasMethod_iff : ∀ n key, journal.tree.HasMethod n key ↔ ∃ landing ∈ journal.landings,
    landing.node = n ∧ ∃ method ∈ landing.decl.methods, format.writeName method.method = key

/-- A fresh journal accounts for the root. -/
theorem fresh_accounts (format : Format) (resources : List ResourceDecl) (ids : Identifiers) :
    (fresh format ids).Accounts format resources where
  sound landing hlanding := by cases hlanding
  hasMethod_iff n key := by
    constructor
    · rintro ⟨node, hnode, hcontains⟩
      have hroot : node = { (default : Node) with id := (format.nextId ids "resource").1 } := by
        have hmem := Array.mem_of_getElem? hnode
        simpa [fresh, Journal.tree, withRoot] using hmem
      rw [hroot] at hcontains
      cases hcontains
    · rintro ⟨landing, hlanding, -⟩
      cases hlanding

/-- Every change keeps the account. -/
theorem Change.accounts (h : Change format resources journal later)
    (hwf : journal.tree.WellFormed) (haccounts : journal.Accounts format resources) :
    later.Accounts format resources := by
  have hext := h.extends.tree
  cases h with
  | warn => exact ⟨haccounts.sound, haccounts.hasMethod_iff⟩
  | grow hn =>
    refine ⟨fun landing hlanding => (haccounts.sound landing hlanding).mono hext, fun n key => ?_⟩
    exact (hasMethod_attach_iff hn rfl).trans (haccounts.hasMethod_iff n key)
  | @land decl chain start last route hlineage hstart hroute hlast =>
    have hlt : last < journal.tree.nodes.size := hwf.follow?_lt_size (hstart.lt_size hwf) hlast
    constructor
    · intro landing hlanding
      rcases List.mem_append.mp hlanding with hold | hnew
      · exact (haccounts.sound landing hold).mono hext
      · rw [List.mem_singleton.mp hnew]
        exact Landing.Sound.mono ⟨chain, hlineage, hstart, route, hroute, hlast⟩ hext
    · intro n key
      refine (hasMethod_populate_iff hlt decl).trans ?_
      rw [← Journal.tree, haccounts.hasMethod_iff n key]
      simp only [Journal.land, List.mem_append, List.mem_singleton, or_and_right, exists_or,
        exists_eq_left, eq_comm (b := n)]

/-- The journal of a build accounts for its tree. -/
theorem history_accounts (format : Format) (resources : List ResourceDecl) (ids : Identifiers) :
    (history format resources ids).Accounts format resources :=
  history_keeps (fun _ _ hchange => hchange.accounts) (fresh_accounts format resources ids)

/-! ## Landings of a whole build -/

/-- Every declaration is settled from every node that the declarations around it lead to. -/
theorem history_settled (hlineage : Lineage resources (decl :: chain))
    (hstart : (history format resources ids).tree.LandsOn format chain start) :
    Settled format decl start (history format resources ids) := by
  have hall := (history_settles format resources ids).2
  generalize hdecls : decl :: chain = decls at hlineage
  induction hlineage generalizing decl chain start with
  | top hdecl =>
    obtain ⟨rfl, rfl⟩ := List.cons.inj hdecls
    cases hstart
    exact hall.of_mem hdecl
  | nested _ hdecl ih =>
    obtain ⟨rfl, rfl⟩ := List.cons.inj hdecls
    cases hstart with
    | land houter hroute hlast =>
      obtain ⟨-, hnested⟩ := (ih houter rfl).landed hroute hlast
      exact hnested.of_mem hdecl

/-- A declaration has landed exactly where its routes lead. -/
theorem mem_landings_iff : landing ∈ (history format resources ids).landings ↔
    landing.Sound format resources (history format resources ids).tree := by
  constructor
  · exact (history_accounts format resources ids).sound landing
  · rintro ⟨chain, hlineage, hstart, route, hroute, hlast⟩
    exact ((history_settled hlineage hstart).landed hroute hlast).1

/-- A node has exactly the methods of the declarations that landed on it. -/
theorem hasMethod_build_iff {n : Nat} {key : String} :
    (build format resources ids).tree.HasMethod n key ↔
      ∃ landing ∈ (history format resources ids).landings, landing.node = n ∧
        ∃ method ∈ landing.decl.methods, format.writeName method.method = key := by
  rw [← draft_history]
  exact (history_accounts format resources ids).hasMethod_iff n key

/-! ## Builds without warnings -/

/-- Without warnings a declaration lands somewhere if the declarations around it do. -/
theorem exists_landsOn_cons (hquiet : (history format resources ids).warnings = [])
    (hlineage : Lineage resources (decl :: chain))
    (hstart : (history format resources ids).tree.LandsOn format chain start) :
    ∃ n, (history format resources ids).tree.LandsOn format (decl :: chain) n := by
  obtain ⟨route, hroute⟩ := List.exists_mem_of_ne_nil _ (routes_ne_nil _ _ : decl.routes ≠ [])
  obtain ⟨last, hlast⟩ := (history_settled hlineage hstart).leads hroute hquiet
  exact ⟨last, .land hstart hroute hlast⟩

/-- Without warnings nested declarations land somewhere. -/
theorem exists_landsOn (hquiet : (history format resources ids).warnings = [])
    (hlineage : Lineage resources chain) :
    ∃ n, (history format resources ids).tree.LandsOn format chain n := by
  induction hlineage with
  | top hdecl => exact exists_landsOn_cons hquiet (.top hdecl) .root
  | nested houter hdecl ih =>
    obtain ⟨start, hstart⟩ := ih
    exact exists_landsOn_cons hquiet (.nested houter hdecl) hstart

/-- No declaration is lost silently. Without warnings, every declaration has nodes to start from,
and from each of them every one of its routes leads over nodes with the route's parts as their
segments to a node that has all methods of the declaration. -/
theorem landed_of_warnings_eq_nil (hquiet : (build format resources ids).warnings = [])
    (hlineage : Lineage resources (decl :: chain)) :
    (∃ start, (build format resources ids).tree.LandsOn format chain start) ∧
      ∀ start, (build format resources ids).tree.LandsOn format chain start →
        ∀ route ∈ decl.routes, ∃ last node,
          (build format resources ids).tree.follow? format start route = some last ∧
          (build format resources ids).tree.nodes[last]? = some node ∧
          ∀ method ∈ decl.methods,
            node.methods.contains (format.writeName method.method) = true := by
  rw [← draft_history] at hquiet ⊢
  refine ⟨?_, fun start hstart route hroute => ?_⟩
  · obtain ⟨n, hn⟩ := exists_landsOn hquiet hlineage
    cases hn with
    | land hstart => exact ⟨_, hstart⟩
  · have hsettled := history_settled hlineage hstart
    obtain ⟨last, hlast⟩ := hsettled.leads hroute hquiet
    have hwf := history_wellFormed format resources ids
    have hlt := hwf.follow?_lt_size (hstart.lt_size hwf) hlast
    refine ⟨last, _, hlast, Array.getElem?_eq_getElem hlt, fun method hmethod => ?_⟩
    have hlanded := (hsettled.landed hroute hlast).1
    obtain ⟨node, hnode, hcontains⟩ :=
      ((history_accounts format resources ids).hasMethod_iff last _).mpr
        ⟨_, hlanded, rfl, method, hmethod, rfl⟩
    obtain rfl := Option.some.inj ((Array.getElem?_eq_getElem hlt).symm.trans hnode)
    exact hcontains

/-- A format that leaves URIs and names as they are. -/
def plainFormat : Format := ⟨id, id, none⟩

/-- The removal of whatever it is nested in. -/
def removalDecl : ResourceDecl where
  relativeUri := "/"
  methods := [{ method := "delete" }]

/-- Exports in two media types, which can be removed. -/
def exportsDecl : ResourceDecl where
  relativeUri := "/exports\x7bmediaTypeExtension\x7d"
  uriParameters := .ofList [("mediaTypeExtension", { enum := some [.text "json", .text ".xml"] })]
  methods := [{ method := "get" }]
  resources := [removalDecl]

/-- A user, who has exports. -/
def userDecl : ResourceDecl where
  relativeUri := "/\x7bid\x7d"
  resources := [exportsDecl]

/-- All users. -/
def usersDecl : ResourceDecl where
  relativeUri := "/users/"
  resources := [userDecl]

/-- A removal that is nested below a fan-out loses none of its places. -/
theorem removalDecl_landed :
    (build plainFormat [usersDecl] .fresh).warnings = [] ∧
    Lineage [usersDecl] [removalDecl, exportsDecl, userDecl, usersDecl] ∧
    (∃ start, (build plainFormat [usersDecl] .fresh).tree.LandsOn plainFormat
      [exportsDecl, userDecl, usersDecl] start) ∧
    ∀ start, (build plainFormat [usersDecl] .fresh).tree.LandsOn plainFormat
        [exportsDecl, userDecl, usersDecl] start →
      ∀ route ∈ removalDecl.routes, ∃ last node,
        (build plainFormat [usersDecl] .fresh).tree.follow? plainFormat start route = some last ∧
        (build plainFormat [usersDecl] .fresh).tree.nodes[last]? = some node ∧
        ∀ method ∈ removalDecl.methods,
          node.methods.contains (plainFormat.writeName method.method) = true := by
  have hquiet : (build plainFormat [usersDecl] .fresh).warnings = [] := by decide +kernel
  have husers : Lineage [usersDecl] [usersDecl] := .top (List.mem_singleton_self _)
  have huser : Lineage [usersDecl] [userDecl, usersDecl] :=
    .nested husers (List.mem_singleton_self _)
  have hexports : Lineage [usersDecl] [exportsDecl, userDecl, usersDecl] :=
    .nested huser (List.mem_singleton_self _)
  have hremoval := Lineage.nested hexports (List.mem_singleton_self removalDecl)
  exact ⟨hquiet, hremoval, landed_of_warnings_eq_nil hquiet hremoval⟩

end ClientGen.Tree
