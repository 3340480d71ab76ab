import ClientGen.Helper.Standard
import ClientGen.Proofs.Tree.Ownership
import ClientGen.Proofs.Value.Writing

/-!
# Resources written in full

A resource lists its children but not its parent, and a method does not list its resource. So
writing a resource comes to an end although resources and methods refer back to each other, and the
object of the root has nested in it, in the order of the lists of a client, the objects of all
resources and of all methods.
-/

namespace ClientGen

namespace Json

variable {key : String} {json inner : Json}

/-- The values of the object that an object has under a key. -/
def nested (key : String) (json : Json) : List Json :=
  ((json.get? key).map fun inner => inner.members.map Prod.snd).getD []

/-- A member is smaller than its object. -/
theorem sizeOf_lt_of_mem_members {member : String × Json} (h : member ∈ json.members) :
    sizeOf member.2 < sizeOf json := by
  cases json with
  | object members => exact sizeOf_lt_of_mem h
  | null | bool _ | number _ | text _ | array _ => cases h

/-- What is found under a key is a member with it. -/
theorem mem_members_of_get? (h : json.get? key = some inner) : (key, inner) ∈ json.members := by
  cases json with
  | object members =>
    obtain ⟨before, after, hmembers, -⟩ := List.lookup_eq_some_iff.mp h
    simp [Json.members, hmembers]
  | null | bool _ | number _ | text _ | array _ => cases h

/-- Something is found exactly under the keys of members. -/
theorem isSome_get?_iff : (json.get? key).isSome ↔ key ∈ json.members.map Prod.fst := by
  cases json with
  | object members =>
    rw [get?, List.lookup_isSome_iff]
    simp [Json.members]
  | null | bool _ | number _ | text _ | array _ => simp [get?, Json.members]

/-- A nested object is smaller than the one around it. -/
theorem sizeOf_lt_of_mem_nested (h : inner ∈ json.nested key) : sizeOf inner < sizeOf json := by
  rw [nested] at h
  cases hget : json.get? key with
  | none => simp [hget] at h
  | some outer =>
    simp only [hget, Option.map_some, Option.getD_some] at h
    obtain ⟨member, hmember, rfl⟩ := List.mem_map.mp h
    exact Nat.lt_trans (sizeOf_lt_of_mem_members hmember)
      (sizeOf_lt_of_mem_members (mem_members_of_get? hget))

/-- An object and those nested under a key in it, in these and so on: each before those nested in
it. -/
def descend (key : String) (json : Json) : List Json :=
  json :: ((json.nested key).attach.map fun inner => descend key inner.1).flatten
termination_by json
decreasing_by exact sizeOf_lt_of_mem_nested inner.2

/-- An object comes before those nested in it. -/
theorem descend_eq (key : String) (json : Json) :
    json.descend key = json :: (json.nested key).flatMap (descend key) := by
  rw [descend, List.flatMap_def, List.attach_map_val (f := descend key)]

end Json

namespace Value

variable {context : Context} {json : Json}

/-! ## Members of views that are written -/

section Views

variable {part : View} {name : String} {members : List (String × Value)}

/-- In lists that are related item by item, every item on the right has one on the left. -/
theorem exists_left_of_forall₂ {α β : Type} {R : α → β → Prop} {xs : List α} {ys : List β} {y : β}
    (h : List.Forall₂ R xs ys) (hy : y ∈ ys) : ∃ x ∈ xs, R x y := by
  induction h with
  | nil => cases hy
  | @cons x y' xs ys hxy _ ih =>
    rcases List.mem_cons.mp hy with rfl | hy
    · exact ⟨x, List.mem_cons_self, hxy⟩
    · obtain ⟨x, hx, hxy⟩ := ih hy
      exact ⟨x, List.mem_cons_of_mem _ hx, hxy⟩

/-- The members of the object of a view have the names that the view lists. -/
theorem Serializes.view_names (hs : Serializes context (.view part) json) :
    json.members.map Prod.fst = Context.viewNames part := by
  cases hs with
  | whole h => cases h
  | items h _ => cases h
  | @members _ members jsons h hnames _ =>
    refine hnames.symm.trans (List.map_injective_iff.mpr (fun _ _ => Option.some.inj) ?_)
    have hlisted := congrArg (List.map Prod.fst) (Parts.members.inj h)
    simpa [List.map_map, Function.comp_def] using hlisted.symm

/-- Each of them is what the member of the view is written as. -/
theorem Serializes.view_member (hs : Serializes context (.view part) json)
    (hname : name ∈ Context.viewNames part) : ∃ value inner,
      context.viewMember? part name = some value ∧ json.get? name = some inner ∧
        Serializes context value inner := by
  rw [← hs.view_names, ← Json.isSome_get?_iff] at hname
  obtain ⟨inner, hinner⟩ := Option.isSome_iff_exists.mp hname
  have hmem := Json.mem_members_of_get? hinner
  cases hs with
  | whole h => cases h
  | items h _ => cases h
  | @members _ members jsons h hnames hmembers =>
    obtain ⟨⟨name', value⟩, hmember, hsame, hs⟩ :=
      exists_left_of_forall₂ (forall₂_members hnames hmembers) hmem
    obtain rfl : name' = name := hsame
    have hlisted : (some name', some value) ∈ (Context.viewNames part).map fun name =>
        (some name, context.viewMember? part name) := by
      rw [Parts.members.inj h]
      exact List.mem_map_of_mem (f := fun m : String × Value => (some m.1, some m.2)) hmember
    obtain ⟨_, -, hsame⟩ := List.mem_map.mp hlisted
    obtain ⟨hname', hvalue⟩ := Prod.mk.inj hsame
    obtain rfl := Option.some.inj hname'
    exact ⟨value, inner, hvalue, hinner, hs⟩

/-- The values of a record are written in their order. -/
theorem Serializes.view_nested (hs : Serializes context (.view part) json)
    (hname : name ∈ Context.viewNames part)
    (hvalue : context.viewMember? part name = some (.record members)) :
    List.Forall₂ (Serializes context) (members.map Prod.snd) (json.nested name) := by
  obtain ⟨value, inner, hvalue', hinner, hs⟩ := hs.view_member hname
  obtain rfl := Option.some.inj (hvalue'.symm.trans hvalue)
  obtain ⟨jsons, rfl, hmembers⟩ := hs.of_members (parts_record members)
  rw [Json.nested, hinner, Option.map_some, Option.getD_some, Json.members,
    List.forall₂_map_left_iff, List.forall₂_map_right_iff]
  exact hmembers.imp fun _ _ hmember => hmember.2

end Views

end Value

namespace Context

variable {context : Context} {node : Node} {n m : Nat} {json : Json}

/-! ## Resources and methods can be written -/

/-- A method that there is can be written: it lists nothing that refers to a resource. -/
theorem serializable_method {method : Method} (hmethod : context.tree.methods[m]? = some method) :
    Value.Serializable context (.view (.method m)) := by
  refine Value.serializable_view fun name hname => ?_
  obtain ⟨json, hvalue⟩ := Value.exists_methodMember hname method
  refine ⟨_, ?_, Value.serializable_ofJson context json⟩
  rw [viewMember?, hmethod, Option.bind_some, hvalue]

/-- A resource can be written: it lists its methods, and its children come after it. -/
theorem serializable_resource (hwf : context.tree.WellFormed) (howns : context.OwnsMethods) :
    ∀ n < context.tree.nodes.size, Value.Serializable context (.view (.resource n)) := by
  refine hwf.induction_children fun n node hnode ih => ?_
  refine Value.serializable_view fun name hname => ?_
  rw [viewMember?, hnode, Option.bind_some]
  by_cases hmethods : name = "methods"
  · rw [hmethods]
    refine ⟨_, rfl, Value.serializable_record fun member hmember => ?_⟩
    obtain ⟨entry, hentry, rfl⟩ := List.mem_map.mp hmember
    obtain ⟨method, hmethod, -⟩ :=
      howns.records ⟨node, hnode, OrderedMap.get?_eq_some_iff.mpr hentry⟩
    exact serializable_method hmethod
  by_cases hchildren : name = "children"
  · rw [hchildren]
    refine ⟨_, rfl, Value.serializable_record fun member hmember => ?_⟩
    obtain ⟨entry, hentry, rfl⟩ := List.mem_map.mp hmember
    exact ih entry.2 (List.mem_map_of_mem hentry)
  · obtain ⟨json, hvalue⟩ := Value.exists_resourceMember hname hmethods hchildren node
    exact ⟨_, hvalue, Value.serializable_ofJson context json⟩

/-! ## What is nested in the object of a resource -/

/-- The objects under a member of a resource that is a table of views are those of the views. -/
theorem serializes_table (hnode : context.tree.nodes[n]? = some node)
    (hs : Value.Serializes context (.view (.resource n)) json) {name : String}
    (hname : name ∈ resourceNames) {table : OrderedMap Nat} {part : Nat → View}
    (htable : resourceMember? node name =
      some (.record (table.entries.map fun entry => (entry.1, .view (part entry.2))))) :
    List.Forall₂ (fun i object => Value.Serializes context (.view (part i)) object)
      table.values (json.nested name) := by
  have hmember : context.viewMember? (.resource n) name =
      some (.record (table.entries.map fun entry => (entry.1, .view (part entry.2)))) := by
    rw [viewMember?, hnode, Option.bind_some, htable]
  have hnested := hs.view_nested hname hmember
  simp only [List.map_map, List.forall₂_map_left_iff, Function.comp_apply] at hnested
  rwa [OrderedMap.values, List.forall₂_map_left_iff]

/-- The objects nested in that of a resource are those of its children. -/
theorem serializes_children (hnode : context.tree.nodes[n]? = some node)
    (hs : Value.Serializes context (.view (.resource n)) json) :
    List.Forall₂ (fun child object => Value.Serializes context (.view (.resource child)) object)
      node.children.values (json.nested "children") :=
  serializes_table hnode hs (by decide) rfl

/-- The methods nested in the object of a resource are those of the resource. -/
theorem serializes_methods (hnode : context.tree.nodes[n]? = some node)
    (hs : Value.Serializes context (.view (.resource n)) json) :
    List.Forall₂ (fun m object => Value.Serializes context (.view (.method m)) object)
      (context.tree.methodsAt n) (json.nested "methods") := by
  rw [Tree.methodsAt, hnode, Option.map_some, Option.getD_some]
  exact serializes_table hnode hs (by decide) rfl

/-- The objects nested under the children of a resource, and so on, are those of the resources
listed from it. -/
theorem serializes_descend (hwf : context.tree.WellFormed) :
    ∀ n < context.tree.nodes.size, ∀ json, Value.Serializes context (.view (.resource n)) json →
      List.Forall₂ (fun n object => Value.Serializes context (.view (.resource n)) object)
        (context.tree.preorder n) (json.descend "children") := by
  refine hwf.induction_children fun n node hnode ih json hs => ?_
  rw [hwf.preorder_eq hnode, Json.descend_eq]
  exact .cons hs (List.rel_flatMap
    ((List.forall₂_and_left _ _).mpr ⟨ih, serializes_children hnode hs⟩)
    fun child object hchild => hchild.1 object hchild.2)

/-! ## The object of a client -/

/-- An object shows a part of a context: it is what the part is written as, it has the part's
identifier, and it has just the members that the part lists, to which no reference back belongs. -/
structure ShownAs (context : Context) (part : View) (object : Json) : Prop where
  serializes : Value.Serializes context (.view part) object
  id_eq : ∃ id, context.viewMember? part "id" = some (.text id) ∧
    object.get? "id" = some (.text id)
  names_eq : object.members.map Prod.fst = viewNames part
  parent_eq : object.get? "parent" = none
  resource_eq : object.get? "resource" = none

/-- What a part is written as shows it. -/
theorem ShownAs.of_serializes {part : View} (hs : Value.Serializes context (.view part) json) :
    context.ShownAs part json := by
  obtain ⟨hid, hparent, hresource⟩ : "id" ∈ viewNames part ∧ "parent" ∉ viewNames part ∧
      "resource" ∉ viewNames part := by
    cases part <;> simp [viewNames, resourceNames, methodNames]
  obtain ⟨value, inner, hvalue, hinner, hs'⟩ := hs.view_member hid
  obtain ⟨id, rfl⟩ : ∃ id, value = .text id := by
    cases part with
    | resource n =>
      obtain ⟨node, -, hmember⟩ := Option.bind_eq_some_iff.mp hvalue
      exact ⟨node.id, (Option.some.inj hmember).symm⟩
    | method m =>
      obtain ⟨method, -, hmember⟩ := Option.bind_eq_some_iff.mp hvalue
      exact ⟨method.id, (Option.some.inj hmember).symm⟩
  obtain rfl : inner = .text id := hs'.of_whole rfl
  rw [← hs.view_names, ← Json.isSome_get?_iff, Option.not_isSome_iff_eq_none] at hparent hresource
  exact ⟨hs, ⟨id, hvalue, hinner⟩, hs.view_names, hparent, hresource⟩

/-- What it means that the resources of a client are written in full. -/
structure Written (context : Context) (json : Json) : Prop where
  serializes : Value.Serializes context (.view (.resource Tree.root)) json
  unique : ∀ {other : Json}, Value.Serializes context (.view (.resource Tree.root)) other →
    other = json
  /-- The helper for JSON writes the object, compact or with the blanks asked for. -/
  stringify : ∀ args, StandardHelper.stringify.call context (.view (.resource Tree.root) :: args) =
    let width := StandardHelper.indentWidth (.view (.resource Tree.root) :: args)
    .ok (.text (if width = 0 then json.compact else json.indented width))
  /-- From the object on, the objects under the children show the listed resources. -/
  resources : List.Forall₂ (fun n object => context.ShownAs (.resource n) object)
    context.allResources (json.descend "children")
  /-- In the same order, the objects under their methods show the listed methods. -/
  methods : List.Forall₂ (fun m object => context.ShownAs (.method m) object)
    context.allMethods ((json.descend "children").flatMap (Json.nested "methods"))

/-- References back can be looked up by their names. -/
structure RefersBack (context : Context) : Prop where
  root_parent : (Value.view (.resource Tree.root)).member context "parent" = .ok .none
  parent : ∀ n ∈ context.allResources, n ≠ Tree.root → ∃ p ∈ context.allResources,
    context.tree.IsParent n p ∧
      (Value.view (.resource n)).member context "parent" = .ok (.view (.resource p))
  resource : ∀ m ∈ context.allMethods, ∃ n ∈ context.allResources, m ∈ context.tree.methodsAt n ∧
    (Value.view (.method m)).member context "resource" = .ok (.view (.resource n))

/-- What the root is written as is the context as it is to be written. -/
theorem written_of_serializes (h : context.Listed)
    (hs : Value.Serializes context (.view (.resource Tree.root)) json) : context.Written json := by
  have hwf := h.wellFormed
  have hjson := hs.toJson? hwf
  have hresources := serializes_descend hwf Tree.root hwf.size_pos json hs
  rw [← h.allResources_eq] at hresources
  have hnodes : ∀ n ∈ context.allResources, ∃ node, context.tree.nodes[n]? = some node := by
    intro n hn
    exact ⟨_, Array.getElem?_eq_getElem (h.mem_allResources_iff.mp hn)⟩
  refine ⟨hs, fun hother => ?_, fun args => ?_, hresources.imp fun _ _ => .of_serializes, ?_⟩
  · exact Option.some.inj ((hother.toJson? hwf).symm.trans hjson)
  · simp only [StandardHelper.call, StandardHelper.onFirst, StandardHelper.jsonText, hjson]
    rfl
  · rw [h.allMethods_eq]
    refine List.rel_flatMap ((List.forall₂_and_left _ _).mpr ⟨hnodes, hresources⟩) ?_
    rintro n object ⟨⟨node, hnode⟩, hs⟩
    exact (serializes_methods hnode hs).imp fun _ _ => .of_serializes

/-- In a listed context references back can be looked up by their names. -/
theorem refersBack (h : context.Listed) : context.RefersBack := by
  have hwf := h.wellFormed
  refine ⟨?_, fun n hn hroot => ?_, fun m hm => ?_⟩
  · have hnode := Array.getElem?_eq_getElem (show Tree.root < _ from hwf.size_pos)
    have hparent := hwf.root_parent hnode
    simp [Value.member, Value.member?, viewMember?, hnode, resourceMember?, hparent]
  · have hlisted := h.mem_allResources_iff.mp hn
    have hnode := Array.getElem?_eq_getElem hlisted
    obtain ⟨p, hparent, hlt, -⟩ := hwf.parent_child hnode hroot
    refine ⟨p, h.mem_allResources_iff.mpr (Nat.lt_trans hlt hlisted), ⟨_, hnode, hparent⟩, ?_⟩
    simp [Value.member, Value.member?, viewMember?, hnode, resourceMember?, hparent]
  · rw [h.allMethods_eq, List.mem_flatMap] at hm
    obtain ⟨n, hn, hm⟩ := hm
    obtain ⟨key, hrefers⟩ := Tree.mem_methodsAt_iff.mp hm
    obtain ⟨method, hmethod, hresource, -⟩ := h.ownsMethods.records hrefers
    refine ⟨n, hn, hm, ?_⟩
    simp [Value.member, Value.member?, viewMember?, hmethod, methodMember?, hresource]

/-- Whatever is described, the resources of a client are written in full. -/
theorem build_written (format : Format) (spec : Specification) (ids : Identifiers) :
    let context := (build format spec ids).1
    (∀ options, context.member? options "resources" = some (.view (.resource Tree.root))) ∧
      (∃ json, context.Written json) ∧ context.RefersBack := by
  intro context
  have h : context.Listed := build_listed format spec ids
  obtain ⟨json, hs⟩ :=
    serializable_resource h.wellFormed h.ownsMethods Tree.root h.wellFormed.size_pos
  exact ⟨fun _ => rfl, ⟨json, written_of_serializes h hs⟩, refersBack h⟩

end Context

end ClientGen
