import ClientGen.Helper.Standard
import ClientGen.Proofs.Text.Words
import ClientGen.Proofs.Tree.Numbering
import ClientGen.Proofs.Tree.Preorder
import ClientGen.Proofs.Tree.Renaming

/-!
# Identifiers of a client

A client is built after its numbering was reset. If identifiers are numbered plainly, they are the
same whatever was numbered before, and no two of them are equal. The classes of a JavaScript client
are named after the identifiers of its resources and have different names as well.
-/

namespace ClientGen

/-- Identifiers of three kinds that are numbered apart are all different. -/
theorem nodup_numbered (nodes methods : Nat) {ids : List String}
    (hids : ids.Subperm ((List.range methods).map fun k => "method" ++ toString k)) :
    (("client" ++ toString 0) ::
      ((List.range nodes).map (fun k => "resource" ++ toString k) ++ ids)).Nodup := by
  obtain ⟨kept, hperm, hsublist⟩ := hids
  have hnodup : ids.Nodup := by
    rw [← hperm.nodup_iff]
    exact hsublist.nodup (List.nodup_range.map (numbered_injective "method"))
  have hmethods : ∀ id ∈ ids, ∃ k : Nat, id = "method" ++ toString k := by
    intro id hid
    obtain ⟨k, -, rfl⟩ := List.mem_map.mp (hsublist.subset (hperm.mem_iff.mpr hid))
    exact ⟨k, rfl⟩
  rw [List.nodup_cons, List.nodup_append, List.mem_append, not_or]
  refine ⟨⟨?_, ?_⟩, List.nodup_range.map (numbered_injective "resource"), hnodup, ?_⟩
  · rintro hmem
    obtain ⟨k, -, hk⟩ := List.mem_map.mp hmem
    exact numbered_ne rfl rfl (by decide) k 0 hk
  · rintro hmem
    obtain ⟨k, hk⟩ := hmethods _ hmem
    exact numbered_ne rfl rfl (by decide) 0 k hk
  · rintro _ hnode id hid rfl
    obtain ⟨n, -, rfl⟩ := List.mem_map.mp hnode
    obtain ⟨k, hk⟩ := hmethods _ hid
    exact numbered_ne rfl rfl (by decide) n k hk

namespace Context

variable {format : Format} {context : Context}

/-- All identifiers of a client: its own, those of its resources and those of its methods. -/
def identifiers (context : Context) : List String :=
  context.id :: (context.tree.nodes.toList.map Node.id ++
    context.tree.methods.toList.map Method.id)

/-- What the helper `pascal_case` makes of the identifier of a resource, as a JavaScript client
names the class of the resource. -/
def className (context : Context) (n : Nat) : Except TemplateError Value :=
  (StandardHelper.style .pascal).call context
    [(context.viewMember? (.resource n) "id").getD .undefined]

/-- A client whose identifiers are numbered plainly from zero on. -/
structure Numbered (spec : Specification) (format : Format) (context : Context) : Prop where
  id_eq : context.id = "client0"
  /-- A resource has the number of its position. -/
  node_id : ∀ {n : Nat} {node : Node}, context.tree.nodes[n]? = some node →
    node.id = "resource" ++ toString n
  /-- A method has a number less than the number of method declarations that landed on resources. -/
  method_id : ∀ method ∈ context.tree.methods.toList, ∃ k < (Tree.declared
      (Tree.landingsOfAll context.tree format spec.resources Tree.root)).length,
    method.id = "method" ++ toString k
  nodup_identifiers : context.identifiers.Nodup
  className_eq : ∀ n ∈ context.allResources,
    context.className n = .ok (.text ("Resource" ++ toString n))
  nodup_classNames : (context.allResources.map context.className).Nodup

/-- A case style applied to a text. -/
theorem call_style_text (caseStyle : Text.CaseStyle) (context : Context) (s : String) :
    (StandardHelper.style caseStyle).call context [.text s] = .ok (.text (caseStyle.apply s)) := by
  simp [StandardHelper.call, StandardHelper.onText, StandardHelper.onFirst, Value.isAbsent,
    Value.display, Value.expand, Value.plainText]

/-- The class of a numbered resource has its number. -/
theorem className_of_numbered {n : Nat} {node : Node} (hnode : context.tree.nodes[n]? = some node)
    (hid : node.id = "resource" ++ toString n) :
    context.className n = .ok (.text ("Resource" ++ toString n)) := by
  have hsmall : ∀ d ∈ 'r' :: ['e', 's', 'o', 'u', 'r', 'c', 'e'], Text.isSmall d = true :=
    List.all_eq_true.mp (by decide)
  have hchars : "resource".toList = 'r' :: ['e', 's', 'o', 'u', 'r', 'c', 'e'] := by decide
  have hpascal := Text.pascal_numbered hchars hsmall n
  have hmember : context.viewMember? (.resource n) "id" = some (.text node.id) := by
    rw [viewMember?, hnode]
    rfl
  have hname : String.ofList ('r'.toUpper :: ['e', 's', 'o', 'u', 'r', 'c', 'e']) = "Resource" := by
    decide
  rw [className, hmember, Option.getD_some, call_style_text, hid, hpascal, hname]

/-- A client does not depend on what was plainly numbered before. -/
theorem build_eq_fresh (hplain : format.numbering = none) (spec : Specification)
    (ids : Identifiers) : (build format spec ids).1 = (build format spec .fresh).1 := by
  have hclient (ids : Identifiers) := Format.nextId_of_plain hplain ids.reset "client"
  obtain ⟨htree, hwarnings⟩ := Tree.build_eq_of_numbering_eq hplain spec.resources
    (show (format.nextId ids.reset "client").2.numbering =
      (format.nextId Identifiers.fresh.reset "client").2.numbering by rw [hclient, hclient]; rfl)
  have hid : (format.nextId ids.reset "client").1 =
      (format.nextId Identifiers.fresh.reset "client").1 := by rw [hclient, hclient]; rfl
  simp only [build, htree, hwarnings, hid]

/-- Whatever is described and whatever was numbered before, a plainly numbered client has the
identifiers that its reset numbering gives it, all of them different. -/
theorem build_numbered (hplain : format.numbering = none) (spec : Specification)
    (ids : Identifiers) : (build format spec ids).1.Numbered spec format ∧
      (build format spec ids).1 = (build format spec .fresh).1 := by
  refine ⟨?_, build_eq_fresh hplain spec ids⟩
  let issued := (format.nextId ids.reset "client").2
  let draft := Tree.build format spec.resources issued
  have hclient := Format.nextId_of_plain hplain ids.reset "client"
  have hissued : issued.numbering.issued = ["client"] := by simp only [issued, hclient]; rfl
  have hresource : issued.numbering.issued.count "resource" = 0 := by rw [hissued]; decide
  have hmethod : issued.numbering.issued.count "method" = 0 := by rw [hissued]; decide
  have hid : (build format spec ids).1.id = "client" ++ toString 0 := by
    simp only [build, hclient]
    rfl
  have hnode {n : Nat} {node : Node} (h : draft.tree.nodes[n]? = some node) :
      node.id = "resource" ++ toString n := by
    rw [Tree.id_of_getElem?_build hplain h, hresource, Nat.zero_add]
  have hnodes := Tree.map_id_nodes_build hplain spec.resources issued
  have hmethods := Tree.map_id_methods_build hplain spec.resources issued
  rw [hresource, ← List.range_eq_range'] at hnodes
  rw [hmethod, ← List.range_eq_range'] at hmethods
  have hwf : draft.tree.WellFormed := Tree.build_wellFormed _ _ _
  have hlisted : (build format spec ids).1.allResources = draft.tree.preorder Tree.root := by
    show (draft.tree.flatten? Tree.root).getD [] = _
    rw [hwf.flatten?_root, Option.getD_some]
  have hclass : ∀ n ∈ (build format spec ids).1.allResources,
      (build format spec ids).1.className n = .ok (.text ("Resource" ++ toString n)) := by
    intro n hn
    rw [hlisted, hwf.preorder_root_perm.mem_iff, List.mem_range] at hn
    have hget := Array.getElem?_eq_getElem hn
    exact className_of_numbered hget (hnode hget)
  refine ⟨hid.trans (by decide), hnode, ?_, ?_, hclass, ?_⟩
  · intro method hmethod
    obtain ⟨kept, hperm, hsublist⟩ := hmethods
    have hin := hsublist.subset (hperm.mem_iff.mpr (List.mem_map_of_mem hmethod))
    obtain ⟨k, hk, hk'⟩ := List.mem_map.mp hin
    exact ⟨k, List.mem_range.mp hk, hk'.symm⟩
  · rw [identifiers, hid]
    show (_ :: (draft.tree.nodes.toList.map Node.id ++ _)).Nodup
    rw [hnodes]
    exact nodup_numbered _ _ hmethods
  · rw [List.map_congr_left hclass, hlisted]
    refine (hwf.nodup_preorder hwf.size_pos).map fun n m hsame => ?_
    exact numbered_injective "Resource" (by simpa using hsame)

/-- Users, for a client of their own. -/
def usersSpec : Specification where
  resources := [Tree.usersDecl]

/-- Identifiers after some that were handed out for other clients. -/
def usedIdentifiers : Identifiers where
  numbering := ⟨["method", "resource", "resource", "client", "client"]⟩
  custom := []

/-- The identifiers of the users do not depend on those of other clients. -/
theorem usersSpec_numbered :
    Tree.plainFormat.numbering = none ∧
      (build Tree.plainFormat usersSpec usedIdentifiers).1.Numbered usersSpec Tree.plainFormat ∧
      (build Tree.plainFormat usersSpec usedIdentifiers).1 =
        (build Tree.plainFormat usersSpec .fresh).1 :=
  ⟨rfl, build_numbered rfl usersSpec usedIdentifiers⟩

end Context

end ClientGen
