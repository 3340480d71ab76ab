import ClientGen.Proofs.Tree.Faithful
import ClientGen.Proofs.Tree.Records
import ClientGen.Proofs.Tree.Sequence

/-!
# Numbers of nodes and methods

If identifiers are numbered plainly, the nodes of a tree have the numbers of their positions. The
numbers of the methods show how many were made before, also of those that did not become records,
so they leave gaps but never come twice.
-/

namespace ClientGen.Tree

variable {format : Format} {resources : List ResourceDecl} {ids : Identifiers}
  {journal later : Journal} {made : List Method} {first : Nat}

/-- The nodes of a journal are numbered in their order, the first with the number `first`. -/
structure Journal.NumbersNodes (first : Nat) (journal : Journal) : Prop where
  node_id : ∀ {n : Nat} {node : Node}, journal.tree.nodes[n]? = some node →
    node.id = "resource" ++ toString (first + n)
  next_eq : journal.draft.ids.numbering.issued.count "resource" =
    first + journal.tree.nodes.size

/-- Every change keeps the nodes numbered; methods do not count among them. -/
theorem Change.numbersNodes (hplain : format.numbering = none)
    (h : Change format resources journal later) (hnumbers : journal.NumbersNodes first) :
    later.NumbersNodes first := by
  have hext := h.extends.tree
  cases h with
  | warn => exact ⟨hnumbers.node_id, hnumbers.next_eq⟩
  | grow hn hkey hfree =>
    constructor
    · intro i node hnode
      rcases getElem?_grow_cases hn hfree hnode with ⟨old, hold, hnext⟩ | ⟨rfl, rfl⟩
      · rw [hnext.id_eq, hnumbers.node_id hold]
      · rw [Format.nextId_of_plain hplain]
        simp only [nodeOf, hnumbers.next_eq]
        rfl
    · rw [Journal.tree, size_grow, Draft.grow, Format.nextId_of_plain hplain]
      simp only [List.count_cons_self, hnumbers.next_eq]
      rfl
  | @land decl chain start last =>
    have hsize := size_populate journal.draft format last decl
    constructor
    · intro i node hnode
      have hi := (Array.getElem?_eq_some_iff.mp hnode).1
      rw [Journal.tree, Journal.land, hsize] at hi
      obtain ⟨old, hold, hnext⟩ := hext.exists_old hi hnode
      rw [hnext.id_eq, hnumbers.node_id hold]
    · obtain ⟨-, hissued⟩ := map_id_introduced hplain last decl.methods journal.draft.ids
      rw [Journal.tree, Journal.land, hsize, ids_populate, hissued, List.count_append,
        List.count_eq_zero.mpr (by simp [List.mem_replicate]), hnumbers.next_eq, Nat.zero_add]
      rfl

/-- The root has the number that follows the identifiers before. -/
theorem fresh_numbersNodes (hplain : format.numbering = none) (ids : Identifiers) :
    (fresh format ids).NumbersNodes (ids.numbering.issued.count "resource") where
  node_id {n node} hnode := by
    have hlt : n < 1 := (Array.getElem?_eq_some_iff.mp hnode).1
    obtain rfl : n = 0 := by omega
    obtain rfl : { (default : Node) with id := (format.nextId ids "resource").1 } = node :=
      Option.some.inj hnode
    rw [Format.nextId_of_plain hplain, Nat.add_zero]
  next_eq := by
    rw [fresh, Format.nextId_of_plain hplain]
    simp [Journal.tree, withRoot]

/-- In a plainly numbered tree a node has the number of its position. -/
theorem id_of_getElem?_build (hplain : format.numbering = none) {n : Nat} {node : Node}
    (hnode : (build format resources ids).tree.nodes[n]? = some node) :
    node.id = "resource" ++ toString (ids.numbering.issued.count "resource" + n) := by
  have hnumbers : (history format resources ids).NumbersNodes _ :=
    history_keeps (fun _ _ hchange _ => hchange.numbersNodes hplain) (fresh_numbersNodes hplain ids)
  rw [← draft_history] at hnode
  exact hnumbers.node_id hnode

/-- The nodes of a built tree are numbered in their order. -/
theorem map_id_nodes_build (hplain : format.numbering = none) (resources : List ResourceDecl)
    (ids : Identifiers) : (build format resources ids).tree.nodes.toList.map Node.id =
      (List.range' (ids.numbering.issued.count "resource")
        (build format resources ids).tree.nodes.size).map fun k => "resource" ++ toString k := by
  refine List.ext_getElem (by simp) fun n hn _ => ?_
  rw [List.length_map, Array.length_toList] at hn
  simp [id_of_getElem?_build hplain (Array.getElem?_eq_getElem hn)]

/-- In a plainly numbered tree the records have different numbers of methods that were made for the
declarations that landed. -/
theorem map_id_methods_build (hplain : format.numbering = none) (resources : List ResourceDecl)
    (ids : Identifiers) : ((build format resources ids).tree.methods.toList.map Method.id).Subperm
      ((List.range' (ids.numbering.issued.count "method")
        (declared
          (landingsOfAll (build format resources ids).tree format resources root)).length).map
        fun k => "method" ++ toString k) := by
  obtain ⟨made, hmade⟩ := history_makes format resources ids
  have hlength := hmade.madeFrom.length_eq
  rw [landings_history] at hlength
  rw [hlength, ← hmade.map_id hplain, ← draft_history format resources ids, ← Journal.tree]
  obtain ⟨kept, hperm, hsublist⟩ := hmade.records_subperm
  exact ⟨kept.map Method.id, hperm.map Method.id, hsublist.map Method.id⟩

end ClientGen.Tree
