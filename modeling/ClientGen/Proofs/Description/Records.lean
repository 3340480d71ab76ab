import ClientGen.Description.Decode
import ClientGen.Description.Encode
import ClientGen.Description.Layout
import ClientGen.Proofs.Json.Fitting

/-!
# Records as JSON and back

A record is written by a slot for each of its fields, in the order of their declaration; the slots
that are not filled are left out. The fields are found again under their keys, so a description is
what its JSON declares.
-/

namespace ClientGen

namespace Json

/-! ## Slots -/

section Slots

variable {α : Type} {key : String} {slots : List (String × Option Json)}

/-- The slot of a list, which is not filled if the list is empty. -/
def listSlot (encode : α → Json) (values : List α) : Option Json :=
  if values.isEmpty then none else some (.array (values.map encode))

/-- The slot of a table, which is not filled if the table is empty. -/
def tableSlot (encode : α → Json) (table : OrderedMap α) : Option Json :=
  if table.isEmpty then none else some (ofTable encode table)

/-- An optional member is a slot, filled if the value is set. -/
theorem memberIfSet_eq (key : String) (encode : α → Json) (value : Option α) :
    memberIfSet key encode value = setMembers [(key, value.map encode)] := by
  cases value <;> rfl

/-- A member for a list is a slot, filled if the list has items. -/
theorem memberIfAny_eq (key : String) (encode : α → Json) (values : List α) :
    memberIfAny key encode values = setMembers [(key, listSlot encode values)] := by
  rw [memberIfAny, listSlot]
  split <;> rfl

/-- A member for a table is a slot, filled if the table has keys. -/
theorem memberIfKeys_eq (key : String) (encode : α → Json) (table : OrderedMap α) :
    memberIfKeys key encode table = setMembers [(key, tableSlot encode table)] := by
  rw [memberIfKeys, tableSlot]
  split <;> rfl

/-- A member alone is a filled slot. -/
theorem singleton_eq (key : String) (v : Json) : [(key, v)] = setMembers [(key, some v)] := rfl

/-- A member before those of slots is a filled slot before them. -/
theorem cons_setMembers (key : String) (v : Json) (slots : List (String × Option Json)) :
    (key, v) :: setMembers slots = setMembers ((key, some v) :: slots) := rfl

/-- The members of slots come after those of the slots before them. -/
theorem setMembers_append (slots slots' : List (String × Option Json)) :
    setMembers slots ++ setMembers slots' = setMembers (slots ++ slots') :=
  List.filterMap_append.symm

/-- What is found under the key of a slot is what fills it. -/
theorem get?_setMembers (h : (slots.map Prod.fst).Nodup) :
    (Json.object (setMembers slots)).get? key = (slots.lookup key).join := by
  simp only [get?]
  induction slots with
  | nil => rfl
  | cons slot rest ih =>
    obtain ⟨k, value⟩ := slot
    obtain ⟨hnew, hrest⟩ := List.nodup_cons.mp h
    rw [OrderedMap.lookup_cons_eq_ite]
    cases value with
    | none =>
      have hskip : setMembers ((k, none) :: rest) = setMembers rest := rfl
      rw [hskip, ih hrest]
      split
      next hkey =>
        have hnone : rest.lookup key = none := by
          rw [List.lookup_eq_none_iff]
          intro other hother
          have hne : key ≠ other.1 := fun heq =>
            hnew (hkey.symm.trans heq ▸ List.mem_map_of_mem hother)
          simpa using hne
        rw [hnone]
        rfl
      next => rfl
    | some v =>
      rw [← cons_setMembers, OrderedMap.lookup_cons_eq_ite, ih hrest]
      split <;> rfl

end Slots

end Json

open Json (listSlot tableSlot setMembers)

/-! ## The slots of the records -/

/-- No record of a description has two fields with one key. -/
theorem Description.nodup_keys (name : Description.Record) :
    ((Description.fields name).map Field.key).Nodup := by
  cases name <;> decide

/-- The slots of a parameter. -/
def ParameterDecl.slots (p : ParameterDecl) : List (String × Option Json) :=
  [("displayName", p.displayName.map .text),
    ("type", p.type.map .text),
    ("enum", p.enum.map .array),
    ("pattern", p.pattern.map .text),
    ("minLength", p.minLength.map .ofNat),
    ("maxLength", p.maxLength.map .ofNat),
    ("minimum", p.minimum.map .real),
    ("maximum", p.maximum.map .real),
    ("example", p.sample.map id),
    ("repeat", some (.bool p.isRepeated)),
    ("required", some (.bool p.isRequired)),
    ("default", p.default.map id),
    ("description", p.description.map .text)]

/-- The slots of a method. -/
def MethodDecl.slots (m : MethodDecl) : List (String × Option Json) :=
  [("method", some (.text m.method)),
    ("protocols", listSlot .text m.protocols),
    ("responses", tableSlot id m.responses),
    ("body", m.body.map id),
    ("headers", tableSlot ParameterDecl.toJson m.headers),
    ("queryParameters", tableSlot ParameterDecl.toJson m.queryParameters),
    ("securedBy", listSlot id m.securedBy),
    ("description", m.description.map .text)]

/-- The slots of a resource. -/
def ResourceDecl.slots (r : ResourceDecl) : List (String × Option Json) :=
  [("relativeUri", some (.text r.relativeUri)),
    ("displayName", r.displayName.map .text),
    ("uriParameters", tableSlot ParameterDecl.toJson r.uriParameters),
    ("methods", listSlot MethodDecl.toJson r.methods),
    ("description", r.description.map .text),
    ("resources", listSlot ResourceDecl.toJson r.resources)]

/-- The slots of a security scheme. -/
def SecurityScheme.slots (s : SecurityScheme) : List (String × Option Json) :=
  [("type", some (.text s.type)),
    ("description", s.description.map .text),
    ("settings", tableSlot id s.settings),
    ("describedBy", s.describedBy.map id)]

/-- The slots of a chapter of prose. -/
def Documentation.slots (d : Documentation) : List (String × Option Json) :=
  [("title", some (.text d.title)), ("content", some (.text d.content))]

/-- The slots of a description. -/
def Specification.slots (s : Specification) : List (String × Option Json) :=
  [("title", some (.text s.title)),
    ("version", s.version.map .text),
    ("baseUri", s.baseUri.map .text),
    ("baseUriParameters", tableSlot ParameterDecl.toJson s.baseUriParameters),
    ("resources", listSlot ResourceDecl.toJson s.resources),
    ("securitySchemes", listSlot (Json.ofTable SecurityScheme.toJson) s.securitySchemes),
    ("documentation", listSlot Documentation.toJson s.documentation)]

/-- Nested resources are written one by one. -/
theorem ResourceDecl.toItems_eq_map (resources : List ResourceDecl) :
    ResourceDecl.toItems resources = resources.map ResourceDecl.toJson := by
  induction resources with
  | nil => rfl
  | cons resource rest ih => rw [toItems, ih, List.map_cons]

/-- The member for nested resources is a slot, filled if there are any. -/
theorem ResourceDecl.nested_eq (resources : List ResourceDecl) :
    (if resources.isEmpty then [] else [("resources", Json.array (toItems resources))]) =
      setMembers [("resources", listSlot toJson resources)] := by
  rw [toItems_eq_map, ← Json.memberIfAny_eq, Json.memberIfAny]

/-- A parameter is written with the members that its slots set. -/
theorem ParameterDecl.toJson_eq (p : ParameterDecl) : p.toJson = .object (setMembers p.slots) := by
  simp only [toJson, Json.memberIfSet_eq, Json.singleton_eq, Json.cons_setMembers,
    Json.setMembers_append]
  rfl

/-- A method is written with the members that its slots set. -/
theorem MethodDecl.toJson_eq (m : MethodDecl) : m.toJson = .object (setMembers m.slots) := by
  simp only [toJson, Json.memberIfSet_eq, Json.memberIfAny_eq, Json.memberIfKeys_eq,
    Json.singleton_eq, Json.setMembers_append]
  rfl

/-- A resource is written with the members that its slots set. -/
theorem ResourceDecl.toJson_eq (r : ResourceDecl) : r.toJson = .object (setMembers r.slots) := by
  obtain ⟨relativeUri, displayName, uriParameters, methods, description, resources⟩ := r
  rw [toJson, nested_eq]
  simp only [Json.memberIfSet_eq, Json.memberIfAny_eq, Json.memberIfKeys_eq,
    Json.singleton_eq, Json.setMembers_append]
  rfl

/-- A security scheme is written with the members that its slots set. -/
theorem SecurityScheme.toJson_eq (s : SecurityScheme) :
    s.toJson = .object (setMembers s.slots) := by
  simp only [toJson, Json.memberIfSet_eq, Json.memberIfKeys_eq, Json.singleton_eq,
    Json.setMembers_append]
  rfl

/-- A chapter of the documentation is written with the members that its slots set. -/
theorem Documentation.toJson_eq (d : Documentation) : d.toJson = .object (setMembers d.slots) := rfl

/-- A specification is written with the members that its slots set. -/
theorem Specification.toJson_eq (s : Specification) : s.toJson = .object (setMembers s.slots) := by
  rw [toJson, ResourceDecl.nested_eq]
  simp only [Json.memberIfSet_eq, Json.memberIfAny_eq, Json.memberIfKeys_eq,
    Json.singleton_eq, Json.setMembers_append]
  rfl

/-! ## Reading the slots -/

namespace Json

variable {α : Type}

/-- An optional text is read from the slot that it is written to. -/
theorem bind_text?_map (value : Option String) : (value.map text).bind text? = value := by
  cases value <;> rfl

/-- An optional number is read from the slot that it is written to. -/
theorem bind_nat?_map (value : Option Nat) : (value.map ofNat).bind nat? = value := by
  cases value with
  | none => rfl
  | some n => simp [ofNat, int, nat?]

/-- An optional double is read from the slot that it is written to. -/
theorem bind_float?_map (value : Option Float) : (value.map real).bind float? = value := by
  cases value <;> rfl

/-- An optional list is read from the slot that it is written to. -/
theorem map_items_map (value : Option (List Json)) : (value.map array).map items = value := by
  cases value <;> rfl

/-- A list is found in its slot again. -/
theorem items_listSlot (encode : α → Json) (values : List α) :
    ((listSlot encode values).map items).getD [] = values.map encode := by
  cases values <;> rfl

/-- A list is decoded from the values that it is encoded as. -/
theorem map_map_eq_self {encode : α → Json} {decode : Json → α} (h : ∀ x, decode (encode x) = x)
    (values : List α) : (values.map encode).map decode = values := by
  rw [List.map_map, Function.comp_def]
  simp only [h, List.map_id']

/-- A table is found in its slot again. -/
theorem members_tableSlot (encode : α → Json) (table : OrderedMap α) :
    ((tableSlot encode table).map members).getD [] =
      (table.mapEntries fun _ => encode).entries := by
  obtain ⟨entries, hkeys⟩ := table
  cases entries <;> rfl

/-- A table is decoded from the slot that it is encoded to. -/
theorem mapEntries_tableSlot {encode : α → Json} {decode : Json → α}
    (h : ∀ x, decode (encode x) = x) (table : OrderedMap α) :
    (OrderedMap.ofList (((tableSlot encode table).map members).getD [])).mapEntries
      (fun _ => decode) = table := by
  rw [members_tableSlot, OrderedMap.ofList_entries, OrderedMap.mapEntries_mapEntries_self h]

/-- A table is decoded from the object that it is encoded as. -/
theorem tableAt_ofTable {encode : α → Json} {decode : Json → α} (h : ∀ x, decode (encode x) = x)
    (table : OrderedMap α) :
    (OrderedMap.ofList (ofTable encode table).members).mapEntries (fun _ => decode) = table := by
  have hmembers : (ofTable encode table).members = (table.mapEntries fun _ => encode).entries := rfl
  rw [hmembers, OrderedMap.ofList_entries, OrderedMap.mapEntries_mapEntries_self h]

end Json

/-- Nested resources are read one by one. -/
theorem ResourceDecl.ofItems_eq_map (items : List Json) :
    ResourceDecl.ofItems items = items.map ResourceDecl.ofJson := by
  induction items with
  | nil => rfl
  | cons item rest ih => rw [ofItems, ih, List.map_cons]

/-- A list of resources is read from the items of its JSON. -/
theorem ResourceDecl.listOfJson_eq (value : Json) :
    ResourceDecl.listOfJson value = value.items.map ResourceDecl.ofJson := by
  cases value with
  | array items => exact ofItems_eq_map items
  | _ => rfl

/-- A slot for nested resources is read as its items are, or as none. -/
theorem ResourceDecl.listAt_eq (slot : Option Json) :
    (slot.map ResourceDecl.listOfJson).getD [] =
      ((slot.map Json.items).getD []).map ResourceDecl.ofJson := by
  cases slot with
  | none => rfl
  | some value => exact listOfJson_eq value

/-- Nested resources are read from the items under their key. -/
theorem ResourceDecl.nestedIn_eq (members : List (String × Json)) :
    ResourceDecl.nestedIn members =
      ((Json.object members).itemsAt "resources").map ResourceDecl.ofJson := by
  simp only [Json.itemsAt, Json.get?]
  induction members with
  | nil => rfl
  | cons member rest ih =>
    obtain ⟨key, value⟩ := member
    rw [nestedIn, OrderedMap.lookup_cons_eq_ite]
    by_cases hkey : key = "resources"
    · rw [if_pos hkey, if_pos hkey.symm, listOfJson_eq]
      rfl
    · rw [if_neg hkey, if_neg (Ne.symm hkey), ih]

/-- A resource is read field by field. -/
theorem ResourceDecl.ofJson_eq (value : Json) : ResourceDecl.ofJson value =
    { relativeUri := (value.textAt? "relativeUri").getD ""
      displayName := value.textAt? "displayName"
      uriParameters := value.tableAt ParameterDecl.ofJson "uriParameters"
      methods := (value.itemsAt "methods").map MethodDecl.ofJson
      description := value.textAt? "description"
      resources := (value.itemsAt "resources").map ResourceDecl.ofJson } := by
  cases value with
  | object members => rw [ofJson, nestedIn_eq]
  | _ => rfl

/-! ## Descriptions are what their JSON declares -/

/-- The JSON of a parameter has under each key what its slots have there. -/
theorem ParameterDecl.get?_toJson (p : ParameterDecl) (key : String) :
    p.toJson.get? key = (p.slots.lookup key).join := by
  rw [toJson_eq, Json.get?_setMembers]
  exact Description.nodup_keys .parameter

/-- A parameter is read from its JSON. -/
theorem ParameterDecl.ofJson_toJson (p : ParameterDecl) : ParameterDecl.ofJson p.toJson = p := by
  simp only [ofJson, Json.textAt?, Json.flagAt, get?_toJson, slots, List.lookup_cons,
    String.reduceBEq, Option.join_some, Json.bind_text?_map, Json.bind_nat?_map,
    Json.bind_float?_map, Json.map_items_map, Option.map_id, id]
  rfl

/-- The JSON of a method has under each key what its slots have there. -/
theorem MethodDecl.get?_toJson (m : MethodDecl) (key : String) :
    m.toJson.get? key = (m.slots.lookup key).join := by
  rw [toJson_eq, Json.get?_setMembers]
  exact Description.nodup_keys .method

/-- A method is read from its JSON. -/
theorem MethodDecl.ofJson_toJson (m : MethodDecl) : MethodDecl.ofJson m.toJson = m := by
  have hprotocols : (m.protocols.map Json.text).filterMap Json.text? = m.protocols := by
    rw [List.filterMap_map]
    exact List.filterMap_some
  have hany : ∀ v : Json, id (id v) = v := fun _ => rfl
  simp only [ofJson, Json.textAt?, Json.itemsAt, Json.tableAt, get?_toJson, slots, List.lookup_cons,
    String.reduceBEq, Option.join_some, Json.bind_text?_map, Json.items_listSlot, hprotocols,
    Json.mapEntries_tableSlot ParameterDecl.ofJson_toJson, Json.mapEntries_tableSlot hany,
    Option.map_id, List.map_id]
  rfl

/-- The JSON of a resource has under each key what its slots have there. -/
theorem ResourceDecl.get?_toJson (r : ResourceDecl) (key : String) :
    r.toJson.get? key = (r.slots.lookup key).join := by
  rw [toJson_eq, Json.get?_setMembers]
  exact Description.nodup_keys .resource

mutual

/-- A resource is read from its JSON, with the resources nested in it. -/
theorem ResourceDecl.ofJson_toJson : ∀ r : ResourceDecl, ResourceDecl.ofJson r.toJson = r
  | ⟨relativeUri, displayName, uriParameters, methods, description, resources⟩ => by
    have hnested := map_ofJson_toJson resources
    simp only [ofJson_eq, Json.textAt?, Json.itemsAt, Json.tableAt, get?_toJson, slots,
      List.lookup_cons, String.reduceBEq, Option.join_some, Json.bind_text?_map,
      Json.mapEntries_tableSlot ParameterDecl.ofJson_toJson,
      Json.items_listSlot, Json.map_map_eq_self MethodDecl.ofJson_toJson, hnested]
    rfl

/-- Resources are read from their JSON one by one. -/
theorem ResourceDecl.map_ofJson_toJson :
    ∀ rs : List ResourceDecl, (rs.map ResourceDecl.toJson).map ResourceDecl.ofJson = rs
  | [] => rfl
  | r :: rs => by
    rw [List.map_cons, List.map_cons, ofJson_toJson r, map_ofJson_toJson rs]

end

/-- A security scheme is read from its JSON. -/
theorem SecurityScheme.ofJson_toJson (s : SecurityScheme) : SecurityScheme.ofJson s.toJson = s := by
  have hget (key : String) : s.toJson.get? key = (s.slots.lookup key).join := by
    rw [toJson_eq, Json.get?_setMembers]
    exact Description.nodup_keys .securityScheme
  have hany : ∀ v : Json, id (id v) = v := fun _ => rfl
  simp only [ofJson, Json.textAt?, Json.tableAt, hget, slots, List.lookup_cons, String.reduceBEq,
    Option.join_some, Json.bind_text?_map, Json.mapEntries_tableSlot hany, Option.map_id]
  rfl

/-- A chapter of the documentation is read from its JSON. -/
theorem Documentation.ofJson_toJson (d : Documentation) : Documentation.ofJson d.toJson = d := rfl

/-- A description is what its JSON declares. -/
theorem Specification.ofJson_toJson (s : Specification) : Specification.ofJson s.toJson = s := by
  have hget (key : String) : s.toJson.get? key = (s.slots.lookup key).join := by
    rw [toJson_eq, Json.get?_setMembers]
    exact Description.nodup_keys .specification
  have hschemes (table : OrderedMap SecurityScheme) :
      SecurityScheme.entryOfJson (Json.ofTable SecurityScheme.toJson table) = table :=
    Json.tableAt_ofTable SecurityScheme.ofJson_toJson table
  simp only [ofJson, Json.textAt?, Json.itemsAt, Json.tableAt, hget, slots, List.lookup_cons,
    String.reduceBEq, Option.join_some, Json.bind_text?_map, ResourceDecl.listAt_eq,
    Json.mapEntries_tableSlot ParameterDecl.ofJson_toJson, Json.items_listSlot,
    Json.map_map_eq_self ResourceDecl.ofJson_toJson, Json.map_map_eq_self hschemes,
    Json.map_map_eq_self Documentation.ofJson_toJson]
  rfl

end ClientGen
