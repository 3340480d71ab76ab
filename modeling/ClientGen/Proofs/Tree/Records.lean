import ClientGen.Proofs.Identifier
import ClientGen.Proofs.Tree.Landing

/-!
# The records of methods

When a declaration lands, a method is made for each of its method declarations, under the next
identifier. Of those with one key only the last becomes a record of the tree. This file keeps all
methods that are made while a tree is built, in their order, next to the records: the records are
among them, and for every resource and key the last record is the last method that was made. If
identifiers are numbered plainly, the methods that are made are numbered without a gap.
-/

namespace ClientGen.Tree

variable {format : Format} {resources : List ResourceDecl} {ids : Identifiers} {draft : Draft}
  {journal later : Journal} {made : List Method} {first n : Nat} {key : String}

/-- A method was made from a declaration, for the resource given with it. -/
def MadeFrom (format : Format) (declared : Nat × MethodDecl) (method : Method) : Prop :=
  ∃ id, method = methodOf format declared.1 id declared.2

/-- Every method that is introduced was made from its declaration. -/
theorem introduced_madeFrom (format : Format) (resource : Nat) (decls : List MethodDecl)
    (ids : Identifiers) : List.Forall₂ (MadeFrom format) (decls.map fun decl => (resource, decl))
      (introduced format resource decls ids).1 := by
  induction decls generalizing ids with
  | nil => exact .nil
  | cons decl rest ih => exact .cons ⟨_, rfl⟩ (ih _)

/-- Plainly numbered methods take the next numbers. -/
theorem map_id_introduced (hplain : format.numbering = none) (resource : Nat)
    (decls : List MethodDecl) (ids : Identifiers) :
    (introduced format resource decls ids).1.map Method.id =
        (List.range' (ids.numbering.issued.count "method") decls.length).map
          (fun k => "method" ++ toString k) ∧
      (introduced format resource decls ids).2.numbering.issued =
        List.replicate decls.length "method" ++ ids.numbering.issued := by
  induction decls generalizing ids with
  | nil => exact ⟨rfl, rfl⟩
  | cons decl rest ih =>
    have hnext := Format.nextId_of_plain hplain ids "method"
    obtain ⟨hids, hissued⟩ := ih { ids with numbering := ⟨"method" :: ids.numbering.issued⟩ }
    constructor
    · simpa [introduced, hnext, List.range'_succ, methodOf] using hids
    · simpa [introduced, hnext, List.replicate_succ'] using hissued

/-! ## Records of a tree -/

/-- Adding methods appends records. -/
theorem toList_methods_addMethods (tree : Tree) (n : Nat) (methods : List Method) :
    (methods.foldl (fun tree method => tree.addMethod n method) tree).methods.toList =
      tree.methods.toList ++ methods := by
  induction methods generalizing tree with
  | nil => simp
  | cons method rest ih =>
    rw [List.foldl_cons, ih]
    simp [addMethod, modifyNode]

/-- Populating a node appends the methods of the declaration to the records. -/
theorem toList_methods_populate (draft : Draft) (format : Format) (n : Nat) (decl : ResourceDecl) :
    (draft.populate format n decl).tree.methods.toList = draft.tree.methods.toList ++
      (OrderedMap.collect Method.key (introduced format n decl.methods draft.ids).1).values := by
  have hmethods := toList_methods_addMethods draft.tree n
    (methodsOf format n decl.methods draft.ids).1.values
  rw [methodsOf_eq] at hmethods
  simp only [Draft.populate, methodsOf_eq]
  split <;> exact hmethods

/-- Populating a node asks for the identifiers of its methods. -/
theorem ids_populate (draft : Draft) (format : Format) (n : Nat) (decl : ResourceDecl) :
    (draft.populate format n decl).ids = (introduced format n decl.methods draft.ids).2 := by
  simp only [Draft.populate, methodsOf_eq]

/-- A method belongs to a resource and a key. -/
def isFor (n : Nat) (key : String) (method : Method) : Bool :=
  method.resource == n && method.key == key

/-- Of the methods that a declaration introduces, the last one for a key becomes a record. -/
theorem getLast?_filter_collect_introduced (resource : Nat) (decls : List MethodDecl)
    (ids : Identifiers) (n : Nat) (key : String) :
    ((OrderedMap.collect Method.key (introduced format resource decls ids).1).values.filter
        (isFor n key)).getLast? =
      ((introduced format resource decls ids).1.filter (isFor n key)).getLast? := by
  set methods := (introduced format resource decls ids).1 with hmethods
  have hresource : ∀ method ∈ methods, method.resource = resource :=
    fun _ hmethod => resource_of_mem_introduced hmethod
  have hresource' : ∀ method ∈ (OrderedMap.collect Method.key methods).values,
      method.resource = resource :=
    fun method hmethod => hresource method (OrderedMap.values_collect_subperm.subset hmethod)
  by_cases hn : resource = n
  · have hkey {xs : List Method} (hxs : ∀ method ∈ xs, method.resource = resource) :
        xs.filter (isFor n key) = xs.filter fun method => method.key = key := by
      refine List.filter_congr fun method hmethod => ?_
      rw [Bool.eq_iff_iff]
      simp [isFor, hxs method hmethod, hn]
    rw [hkey hresource, hkey hresource', OrderedMap.getLast?_filter_values_collect]
  · have hnone {xs : List Method} (hxs : ∀ method ∈ xs, method.resource = resource) :
        xs.filter (isFor n key) = [] := by
      refine List.filter_eq_nil_iff.mpr fun method hmethod => ?_
      simp [isFor, hxs method hmethod, hn]
    rw [hnone hresource, hnone hresource']

/-! ## Builds -/

/-- The method declarations of landings, each with the node that it landed on. -/
def declared (landings : List Landing) : List (Nat × MethodDecl) :=
  landings.flatMap fun landing => landing.decl.methods.map fun decl => (landing.node, decl)

/-- The methods that have been made for the landings of a journal, the first with the number
`first`. Some of them have not become records, but never the last one for its resource and key. -/
structure Journal.Makes (format : Format) (first : Nat) (journal : Journal) (made : List Method) :
    Prop where
  madeFrom : List.Forall₂ (MadeFrom format) (declared journal.landings) made
  last_eq : ∀ n key, (journal.tree.methods.toList.filter (isFor n key)).getLast? =
    (made.filter (isFor n key)).getLast?
  records_subperm : journal.tree.methods.toList.Subperm made
  map_id : format.numbering = none →
    made.map Method.id = (List.range' first made.length).map fun k => "method" ++ toString k
  next_eq : format.numbering = none →
    journal.draft.ids.numbering.issued.count "method" = first + made.length

/-- A landing makes the methods that its declaration introduces. -/
theorem Journal.Makes.land (h : journal.Makes format first made) (landing : Landing) :
    (journal.land format landing).Makes format first
      (made ++ (introduced format landing.node landing.decl.methods journal.draft.ids).1) := by
  have hmadeFrom := introduced_madeFrom format landing.node landing.decl.methods journal.draft.ids
  have hrecords : (journal.land format landing).tree.methods.toList = _ :=
    toList_methods_populate journal.draft format landing.node landing.decl
  have hids : (journal.land format landing).draft.ids = _ :=
    ids_populate journal.draft format landing.node landing.decl
  have hlength := hmadeFrom.length_eq
  rw [List.length_map] at hlength
  constructor
  · rw [Journal.land, declared, List.flatMap_append, List.flatMap_singleton]
    exact List.rel_append h.madeFrom hmadeFrom
  · intro n key
    rw [hrecords, List.filter_append, List.filter_append, List.getLast?_append,
      List.getLast?_append, getLast?_filter_collect_introduced]
    rw [← h.last_eq n key]
    rfl
  · rw [hrecords]
    exact List.Subperm.append h.records_subperm OrderedMap.values_collect_subperm
  · intro hplain
    obtain ⟨hnumbers, -⟩ :=
      map_id_introduced hplain landing.node landing.decl.methods journal.draft.ids
    rw [List.map_append, h.map_id hplain, hnumbers, h.next_eq hplain, List.length_append, ← hlength,
      ← List.map_append, List.range'_append_1]
  · intro hplain
    obtain ⟨-, hissued⟩ :=
      map_id_introduced hplain landing.node landing.decl.methods journal.draft.ids
    rw [hids, hissued, List.count_append, List.count_replicate_self, h.next_eq hplain,
      List.length_append, ← hlength]
    omega

/-- Every change keeps account of the methods that are made. -/
theorem Change.makes (h : Change format resources journal later)
    (hmakes : ∃ made, journal.Makes format first made) :
    ∃ made, later.Makes format first made := by
  obtain ⟨made, hmade⟩ := hmakes
  cases h with
  | warn => exact ⟨made, hmade.madeFrom, hmade.last_eq, hmade.records_subperm, hmade.map_id,
      hmade.next_eq⟩
  | grow =>
    refine ⟨made, hmade.madeFrom, hmade.last_eq, hmade.records_subperm, hmade.map_id,
      fun hplain => ?_⟩
    rw [← hmade.next_eq hplain, Draft.grow, Format.nextId_of_plain hplain]
    simp
  | land => exact ⟨_, hmade.land _⟩

/-- A build makes a method for every method declaration that landed. -/
theorem history_makes (format : Format) (resources : List ResourceDecl) (ids : Identifiers) :
    ∃ made, (history format resources ids).Makes format
      (ids.numbering.issued.count "method") made := by
  refine history_keeps (P := fun journal => ∃ made, journal.Makes format _ made)
    (fun _ _ hchange _ => hchange.makes) ⟨[], .nil, fun _ _ => rfl, List.Subperm.refl [],
      fun _ => rfl, fun hplain => ?_⟩
  rw [fresh, Format.nextId_of_plain hplain]
  simp

end ClientGen.Tree
