import ClientGen.Proofs.Context

/-!
# Clients apart from their identifiers

Identifiers are only handed out: no decision of a build looks at one. If formats write URIs and
names alike, then whatever their numberings answer and whatever they were asked before, the clients
that they lead to are the same once the identifiers are erased. A numbering of a language's own
leaves the plain one alone.
-/

namespace ClientGen

namespace Tree

variable {format other : Format} {ids ids' : Identifiers}

/-! ## What the identifiers do not reach -/

/-- A listing follows the children, whatever the identifiers. -/
theorem listStack_mapIds (rename : String → String) (tree : Tree) (listed : Array Nat)
    (stack : List Nat) :
    (tree.mapIds rename).listStack listed stack = tree.listStack listed stack := by
  fun_induction tree.listStack listed stack with
  | case1 => rw [listStack]
  | case2 listed n stack hlt ih =>
    rw [listStack, size_mapIds, dif_pos hlt]
    simp only [mapIds, Array.getElem?_map]
    cases tree.nodes[n]? with
    | none => rfl
    | some node => exact ih node
  | case3 listed n stack hle => rw [listStack, size_mapIds, dif_neg hle]

/-- Renaming identifiers keeps the listing of resources. -/
theorem flatten?_mapIds (rename : String → String) (tree : Tree) (n : Nat) :
    (tree.mapIds rename).flatten? n = tree.flatten? n := by
  rw [flatten?, listStack_mapIds, flatten?]

/-- Renaming identifiers keeps the methods below a resource. -/
theorem methodsBelow_mapIds (rename : String → String) (tree : Tree) (n : Nat) :
    (tree.mapIds rename).methodsBelow n = tree.methodsBelow n := by
  have hmethods (m : Nat) : (tree.mapIds rename).nodes[m]?.map (fun node => node.methods.values) =
      tree.nodes[m]?.map fun node => node.methods.values := by
    simp only [mapIds, Array.getElem?_map, Option.map_map]
    rfl
  simp only [methodsBelow, flatten?_mapIds, hmethods]

/-! ## Any two numberings -/

/-- Erased identifiers are equal, whatever is asked for and whatever was asked for before. -/
theorem renumbers_erased (huri : format.writeUri = other.writeUri)
    (hname : format.writeName = other.writeName) :
    Renumbers (fun _ => "") (fun _ _ => True) format other where
  writeUri_eq := huri
  writeName_eq := hname
  nextId _ _ := ⟨rfl, trivial⟩

/-- A numbering of a language's own gives the same answers beside any two states of the plain
numbering, and changes neither. -/
theorem renumbers_own {own : CustomNumbering} (hown : format.numbering = some own)
    (numbering numbering' : Numbering) :
    Renumbers id (fun ids ids' => ids.custom = ids'.custom ∧ ids.numbering = numbering ∧
      ids'.numbering = numbering') format format where
  writeUri_eq := rfl
  writeName_eq := rfl
  nextId stem hids := by
    obtain ⟨hcustom, hleft, hright⟩ := hids
    simp only [Format.nextId, Identifiers.next, hown, hcustom, hleft, hright, and_self]

/-- A format with a numbering of its own does not consult the plain numbering: whatever was numbered
plainly, the build has the same result and leaves the plain numbering as it was. -/
theorem build_with_numbering {own : CustomNumbering} (hown : format.numbering = some own)
    (resources : List ResourceDecl) (ids : Identifiers) (numbering : Numbering) :
    build format resources { ids with numbering } =
      { build format resources ids with
        ids := { (build format resources ids).ids with numbering } } := by
  have h := (renumbers_own hown numbering ids.numbering).build resources
    (show ({ ids with numbering } : Identifiers).custom = ids.custom ∧
      ({ ids with numbering } : Identifiers).numbering = numbering ∧
      ids.numbering = ids.numbering from ⟨rfl, rfl, rfl⟩)
  obtain ⟨htree, hwarnings, hcustom, hplain, -⟩ := h
  rw [mapIds_id, mapIds_id] at htree
  generalize build format resources { ids with numbering } = draft at *
  obtain ⟨tree, ⟨plain, custom⟩, warnings⟩ := draft
  obtain rfl := htree
  obtain rfl := hwarnings
  obtain rfl := hcustom
  obtain rfl := hplain
  rfl

end Tree

namespace Context

/-- A client in which no identifier is left. -/
def eraseIds (context : Context) : Context :=
  { context with id := "", tree := context.tree.mapIds fun _ => "" }

/-- Formats that write URIs and names alike lead to clients that differ at most in their
identifiers, whatever is numbered in which way and whatever was numbered before. If a language
numbers in a way of its own, the plain numbering is not consulted, and it is left as the reset has
made it. -/
theorem build_eraseIds_eq {format other : Format} (huri : format.writeUri = other.writeUri)
    (hname : format.writeName = other.writeName) (spec : Specification) (ids ids' : Identifiers) :
    (build format spec ids).1.eraseIds = (build other spec ids').1.eraseIds ∧
      ∀ own, other.numbering = some own → (build other spec ids').2.numbering = .fresh ∧
        ∀ (resources : List ResourceDecl) (numbering : Numbering),
          Tree.build other resources { ids' with numbering } =
            { Tree.build other resources ids' with
              ids := { (Tree.build other resources ids').ids with numbering } } := by
  constructor
  · have hbuilds (a b : Identifiers) : Tree.Draft.Renumbered (fun _ => "") (fun _ _ => True)
        (Tree.build format spec.resources a) (Tree.build other spec.resources b) :=
      (Tree.renumbers_erased huri hname).build spec.resources trivial
    obtain ⟨htree, hwarnings, -⟩ := hbuilds (format.nextId ids.reset "client").2
      (other.nextId ids'.reset "client").2
    have hresources := congrArg (Tree.flatten? · Tree.root) htree
    have hmethods := congrArg (Tree.methodsBelow · Tree.root) htree
    simp only [Tree.flatten?_mapIds, Tree.methodsBelow_mapIds] at hresources hmethods
    simp only [build, eraseIds, Uri.sanitize, huri, htree, hwarnings, hresources, hmethods]
  · intro own hown
    refine ⟨?_, fun resources numbering => Tree.build_with_numbering hown resources ids' numbering⟩
    have hclient : (other.nextId ids'.reset "client").2.numbering = .fresh := by
      simp only [Format.nextId, Identifiers.next, hown]
      rfl
    have hbuild := Tree.build_with_numbering hown spec.resources
      (other.nextId ids'.reset "client").2 .fresh
    rw [← hclient] at hbuild
    exact (congrArg (fun draft => draft.ids.numbering) hbuild).trans hclient

/-- A format that hands out the same identifier every time. -/
def constantFormat : Format :=
  { Tree.plainFormat with numbering := some fun _ _ => "id" }

/-- The client of the users is the same with one identifier for everything. -/
theorem usersSpec_eraseIds :
    Tree.plainFormat.writeUri = constantFormat.writeUri ∧
      Tree.plainFormat.writeName = constantFormat.writeName ∧
      constantFormat.numbering = some (fun _ _ => "id") ∧
      (build Tree.plainFormat usersSpec .fresh).1.eraseIds =
        (build constantFormat usersSpec usedIdentifiers).1.eraseIds ∧
      (build constantFormat usersSpec usedIdentifiers).2.numbering = .fresh := by
  have huri : Tree.plainFormat.writeUri = constantFormat.writeUri := rfl
  have hname : Tree.plainFormat.writeName = constantFormat.writeName := rfl
  obtain ⟨hsame, hown⟩ := build_eraseIds_eq huri hname usersSpec .fresh usedIdentifiers
  exact ⟨huri, hname, rfl, hsame, (hown _ rfl).1⟩

end Context

end ClientGen
