import ClientGen.Proofs.Tree.Path
import ClientGen.Proofs.Value
import Mathlib.Data.List.Forall2

/-!
# Writing values as JSON

A value is written by asking for its parts, which are written in the same way. A view is asked for
the members that it lists, and these may be views again. Where this comes to an end, its result is
the JSON of the value laid out in full.
-/

namespace ClientGen

namespace Json

/-- A member is smaller than its object. -/
theorem sizeOf_lt_of_mem {members : List (String × Json)} {member : String × Json}
    (h : member ∈ members) : sizeOf member.2 < sizeOf (object members) := by
  have hlt := List.sizeOf_lt_of_mem h
  obtain ⟨name, value⟩ := member
  simp only [Prod.mk.sizeOf_spec, object.sizeOf_spec] at hlt ⊢
  omega

end Json

namespace Value

variable {context : Context} {value : Value} {json : Json}

/-! ## Writing a value -/

/-- What a value is written from. -/
inductive Parts where
  | whole (json : Json)
  | items (items : List Value)
  /-- The names and values of members, of which some may be missing. -/
  | members (members : List (Option String × Option Value))

/-- Members none of which is missing. -/
def Parts.record (members : List (String × Value)) : Parts :=
  .members (members.map fun member => (some member.1, some member.2))

/-- What is asked for to write a value. A view is asked for the members that it lists. -/
def parts (context : Context) : Value → Parts
  | .undefined | .none => .whole .null
  | .flag b => .whole (.bool b)
  | .number n => .whole (.number n.toJson)
  | .text s | .markup s | .helper s => .whole (.text s)
  | .list items | .series items => .items items
  | .map entries | .object _ _ entries =>
    .members (entries.map fun entry => (memberName? entry.1, some entry.2))
  | .view part =>
    .members ((Context.viewNames part).map fun name => (some name, context.viewMember? part name))

/-- A value is written as JSON: no part is missing, and writing the parts comes to an end. -/
inductive Serializes (context : Context) : Value → Json → Prop where
  | whole {value : Value} {json : Json} (h : value.parts context = .whole json) :
    Serializes context value json
  | items {value : Value} {items : List Value} {jsons : List Json}
      (h : value.parts context = .items items)
      (hitems : List.Forall₂ (Serializes context) items jsons) :
    Serializes context value (.array jsons)
  | members {value : Value} {members : List (String × Value)} {jsons : List (String × Json)}
      (h : value.parts context = .record members)
      (hnames : members.map Prod.fst = jsons.map Prod.fst)
      (hmembers : List.Forall₂ (Serializes context) (members.map Prod.snd)
        (jsons.map Prod.snd)) :
    Serializes context value (.object jsons)

/-- Members with the same names and related values are related. -/
theorem forall₂_members {R : Value → Json → Prop} {members : List (String × Value)}
    {jsons : List (String × Json)} (hnames : members.map Prod.fst = jsons.map Prod.fst)
    (hvalues : List.Forall₂ R (members.map Prod.snd) (jsons.map Prod.snd)) :
    List.Forall₂ (fun member json => member.1 = json.1 ∧ R member.2 json.2) members jsons := by
  induction members generalizing jsons with
  | nil =>
    rw [List.map_eq_nil_iff.mp hnames.symm]
    exact .nil
  | cons member rest ih =>
    cases jsons with
    | nil => cases hnames
    | cons json jsons =>
      obtain ⟨hname, hnames⟩ := List.cons.inj hnames
      obtain ⟨hvalue, hvalues⟩ := List.forall₂_cons.mp hvalues
      exact .cons ⟨hname, hvalue⟩ (ih hnames hvalues)

/-- What holds of a value if it holds of its parts holds of all values that are written. -/
@[induction_eliminator]
theorem Serializes.induction {motive : ∀ value json, Serializes context value json → Prop}
    (whole : ∀ {value : Value} {json : Json} (h : value.parts context = .whole json),
      motive value json (.whole h))
    (items : ∀ {value : Value} {items : List Value} {jsons : List Json}
      (h : value.parts context = .items items)
      (hitems : List.Forall₂ (Serializes context) items jsons),
      List.Forall₂ (fun value json => ∃ h, motive value json h) items jsons →
        motive value (.array jsons) (.items h hitems))
    (members : ∀ {value : Value} {members : List (String × Value)} {jsons : List (String × Json)}
      (h : value.parts context = .record members)
      (hnames : members.map Prod.fst = jsons.map Prod.fst)
      (hmembers : List.Forall₂ (Serializes context) (members.map Prod.snd) (jsons.map Prod.snd)),
      List.Forall₂ (fun member json => member.1 = json.1 ∧ ∃ h, motive member.2 json.2 h)
        members jsons → motive value (.object jsons) (.members h hnames hmembers))
    {value : Value} {json : Json} (h : Serializes context value json) : motive value json h :=
  @Serializes.rec context motive
    (fun values jsons _ => List.Forall₂ (fun value json => ∃ h, motive value json h) values jsons)
    (fun h => whole h) (fun h hitems ih => items h hitems ih)
    (fun h hnames hmembers ih => members h hnames hmembers (forall₂_members hnames ih))
    .nil (fun h _ ih ihs => .cons ⟨h, ih⟩ ihs) value json h

/-- A record consists of one list of members only. -/
theorem Parts.record_inj {members others : List (String × Value)}
    (h : Parts.record members = .record others) : members = others := by
  refine List.map_injective_iff.mpr ?_ (Parts.members.inj h)
  rintro ⟨name, value⟩ ⟨name', value'⟩ hsame
  simpa using hsame

/-- A record consists of its members. -/
theorem parts_record (members : List (String × Value)) :
    (record members).parts context = .record members := by
  simp only [record, entriesOf, parts, Parts.record, List.map_map]
  rfl

/-- What needs no parts is written as it is. -/
theorem Serializes.of_whole {inner : Json} (hs : Serializes context value json)
    (h : value.parts context = .whole inner) : json = inner := by
  cases hs with
  | whole h' => exact Parts.whole.inj (h'.symm.trans h)
  | items h' _ => cases h.symm.trans h'
  | members h' _ _ => cases h.symm.trans h'

/-- What has members is written as an object with the same names. -/
theorem Serializes.of_members {members : List (String × Value)}
    (hs : Serializes context value json) (h : value.parts context = .record members) :
    ∃ jsons, json = .object jsons ∧
      List.Forall₂ (fun member json => member.1 = json.1 ∧ Serializes context member.2 json.2)
        members jsons := by
  cases hs with
  | whole h' => cases h.symm.trans h'
  | items h' _ => cases h.symm.trans h'
  | @members _ others jsons h' hnames hmembers =>
    obtain rfl := Parts.record_inj (h.symm.trans h')
    exact ⟨jsons, rfl, forall₂_members hnames hmembers⟩

/-! ## The values that can be written -/

/-- A value is written as some JSON. -/
def Serializable (context : Context) (value : Value) : Prop :=
  ∃ json, Serializes context value json

/-- Values that can be written one by one can be written together. -/
theorem exists_serializesAll {items : List Value} (h : ∀ item ∈ items, Serializable context item) :
    ∃ jsons, List.Forall₂ (Serializes context) items jsons := by
  induction items with
  | nil => exact ⟨[], .nil⟩
  | cons item rest ih =>
    obtain ⟨json, hjson⟩ := h item List.mem_cons_self
    obtain ⟨jsons, hjsons⟩ := ih fun item hitem => h item (List.mem_cons_of_mem _ hitem)
    exact ⟨json :: jsons, .cons hjson hjsons⟩

/-- A list can be written if its items can. -/
theorem serializable_list {items : List Value} (h : ∀ item ∈ items, Serializable context item) :
    Serializable context (.list items) := by
  obtain ⟨jsons, hjsons⟩ := exists_serializesAll h
  exact ⟨_, .items rfl hjsons⟩

/-- A value that consists of members can be written if they can. -/
theorem serializable_of_parts {members : List (String × Value)}
    (hparts : value.parts context = .record members)
    (h : ∀ member ∈ members, Serializable context member.2) : Serializable context value := by
  have hvalues : ∀ item ∈ members.map Prod.snd, Serializable context item := by
    intro item hitem
    obtain ⟨member, hmember, rfl⟩ := List.mem_map.mp hitem
    exact h member hmember
  obtain ⟨jsons, hjsons⟩ := exists_serializesAll hvalues
  have hlength : (members.map Prod.fst).length = jsons.length := by
    rw [← hjsons.length_eq, List.length_map, List.length_map]
  refine ⟨.object ((members.map Prod.fst).zip jsons), .members hparts ?_ ?_⟩
  · rw [List.map_fst_zip (Nat.le_of_eq hlength)]
  · rwa [List.map_snd_zip (Nat.le_of_eq hlength.symm)]

/-- A record can be written if its members can. -/
theorem serializable_record {members : List (String × Value)}
    (h : ∀ member ∈ members, Serializable context member.2) :
    Serializable context (.record members) :=
  serializable_of_parts (parts_record members) h

/-- A view can be written if the members that it lists are there and can be written. -/
theorem serializable_view {part : View} (h : ∀ name ∈ Context.viewNames part,
      ∃ value, context.viewMember? part name = some value ∧ Serializable context value) :
    Serializable context (.view part) := by
  let members := (Context.viewNames part).map fun name =>
    (name, (context.viewMember? part name).getD .undefined)
  have hparts : (view part).parts context = .record members := by
    simp only [parts, Parts.record, members, List.map_map]
    refine congrArg _ (List.map_congr_left fun name hname => ?_)
    obtain ⟨value, hvalue, -⟩ := h name hname
    simp [hvalue]
  refine serializable_of_parts hparts fun member hmember => ?_
  obtain ⟨name, hname, rfl⟩ := List.mem_map.mp hmember
  obtain ⟨value, hvalue, hs⟩ := h name hname
  simpa [hvalue] using hs

/-- A value from JSON can be written. -/
theorem serializable_ofJson (context : Context) (json : Json) :
    Serializable context (ofJson json) := by
  cases json with
  | null | bool _ | number _ | text _ => exact ⟨_, .whole rfl⟩
  | array items =>
    rw [ofJson, ofItems_eq_map]
    refine serializable_list fun item hitem => ?_
    obtain ⟨inner, hinner, rfl⟩ := List.mem_map.mp hitem
    exact serializable_ofJson context inner
  | object members =>
    rw [ofJson, ofMembers_eq_entriesOf]
    refine serializable_record fun member hmember => ?_
    obtain ⟨inner, hinner, rfl⟩ := List.mem_map.mp hmember
    exact serializable_ofJson context inner.2
termination_by sizeOf json
decreasing_by
  · have hlt := List.sizeOf_lt_of_mem hinner
    rw [Json.array.sizeOf_spec]
    omega
  · exact Json.sizeOf_lt_of_mem hinner

/-! ## Members of resources and methods -/

/-- A list that is encoded is a list of values from JSON. -/
theorem ofJson_array {α : Type} (encode : α → Json) (items : List α) :
    ofJson (.array (items.map encode)) = list (items.map fun item => ofJson (encode item)) := by
  rw [ofJson, ofItems_eq_map, List.map_map]
  rfl

/-- A table that is encoded is a table of values from JSON. -/
theorem ofJson_table {α : Type} (encode : α → Json) (table : OrderedMap α) :
    ofJson (.object (table.entries.map fun entry => (entry.1, encode entry.2))) =
      Context.tableValue encode table := by
  rw [ofJson, ofMembers_eq_entriesOf, List.map_map]
  rfl

/-- The members that a method lists are JSON. -/
theorem exists_methodMember {name : String} (hname : name ∈ Context.methodNames) (method : Method) :
    ∃ json, Context.methodMember? method name = some (ofJson json) := by
  simp only [Context.methodNames, List.mem_cons, List.not_mem_nil, or_false] at hname
  rcases hname with rfl | rfl | rfl | rfl | rfl | rfl | rfl | rfl | rfl | rfl
  · exact ⟨.text method.id, rfl⟩
  · exact ⟨.text method.key, rfl⟩
  · exact ⟨.text method.verb, rfl⟩
  · exact ⟨_, congrArg some (ofJson_array .text method.protocols).symm⟩
  · exact ⟨_, congrArg some (ofJson_table _ method.responses).symm⟩
  · refine ⟨method.body.getD .null, ?_⟩
    rw [Context.methodMember?]
    cases method.body <;> rfl
  · exact ⟨_, congrArg some (ofJson_table _ method.headers).symm⟩
  · exact ⟨_, congrArg some (ofJson_table _ method.queryParameters).symm⟩
  · exact ⟨_, congrArg some (ofJson_array (fun json => json) method.securedBy).symm⟩
  · exact ⟨.text method.description, rfl⟩

/-- The members that a resource lists are JSON but for its methods and its children. -/
theorem exists_resourceMember {name : String} (hname : name ∈ Context.resourceNames)
    (hmethods : name ≠ "methods") (hchildren : name ≠ "children") (node : Node) :
    ∃ json, Context.resourceMember? node name = some (ofJson json) := by
  simp only [Context.resourceNames, List.mem_cons, List.not_mem_nil, or_false] at hname
  rcases hname with rfl | rfl | rfl | rfl | rfl | rfl | rfl
  · exact ⟨.text node.id, rfl⟩
  · exact ⟨.text node.key, rfl⟩
  · exact ⟨.text node.relativeUri, rfl⟩
  · exact ⟨_, congrArg some (ofJson_array Parameter.toJson node.uriParameters).symm⟩
  · exact ⟨.text node.description, rfl⟩
  · exact absurd rfl hmethods
  · exact absurd rfl hchildren

/-! ## Writing runs to the same JSON -/

/-- The views among members are expanded one by one. -/
theorem expandEntries_entriesOf (context : Context) (members : List (String × Value)) :
    expandEntries context (entriesOf members) =
      entriesOf (members.map fun member => (member.1, member.2.expand context)) := by
  induction members with
  | nil => rfl
  | cons member rest ih =>
    rw [List.map_cons]
    simp only [entriesOf, List.map_cons] at ih ⊢
    rw [expandEntries, ih]
    rfl

/-- The views in a record are expanded member by member. -/
theorem expand_record (context : Context) (members : List (String × Value)) :
    (record members).expand context =
      record (members.map fun member => (member.1, member.2.expand context)) := by
  rw [record, expand, expandEntries_entriesOf, record]

/-- A part of a context is laid out with the members that it lists, each laid out in turn. -/
theorem viewEntries_eq (hwf : context.tree.WellFormed) (part : View) :
    context.viewEntries part = (Context.viewNames part).filterMap fun name =>
      (context.viewMember? part name).map fun value => (name, value.expand context) := by
  cases part with
  | method m =>
    simp only [Context.viewEntries, Context.methodEntries, Context.viewMember?, Context.viewNames]
    cases hmethod : context.tree.methods[m]? with
    | none => simp
    | some method =>
      refine List.filterMap_congr fun name hname => ?_
      obtain ⟨json, hvalue⟩ := exists_methodMember hname method
      rw [Option.bind_some, hvalue, Option.map_some, Option.map_some, expand_ofJson]
  | resource n =>
    simp only [Context.viewEntries, Context.viewMember?, Context.viewNames]
    rw [Context.resourceEntries]
    split
    next hn =>
      have hnode := Array.getElem?_eq_getElem hn
      refine List.filterMap_congr fun name hname => ?_
      rw [hnode, Option.bind_some]
      split
      next =>
        simp only [Context.resourceMember?, Option.map_some, expand_record, List.map_map]
        rfl
      next =>
        simp only [Context.resourceMember?, Option.map_some, expand_record, List.map_map]
        refine congrArg (fun members => some ("children", record members))
          (List.map_congr_left fun entry hentry => ?_)
        have hlt := (hwf.lt_child (Tree.child?_eq_some_iff.mpr ⟨_, hnode, hentry⟩)).1
        rw [dif_pos hlt]
        rfl
      next name hmethods hchildren =>
        obtain ⟨json, hvalue⟩ := exists_resourceMember hname hmethods hchildren _
        rw [hvalue, Option.map_some, Option.map_some, expand_ofJson]
    next hn => simp [Array.getElem?_eq_none (Nat.le_of_not_lt hn)]

/-- Items that run to JSON run to an array. -/
theorem plainItems?_expandItems {items : List Value} {jsons : List Json}
    (h : List.Forall₂ (fun item json => item.toJson? context = some json) items jsons) :
    plainItems? (expandItems context items) = some jsons := by
  induction h with
  | nil => rfl
  | @cons item json items jsons hitem _ ih =>
    rw [toJson?] at hitem
    rw [expandItems, plainItems?, hitem, ih]
    rfl

/-- A key gives a member its name before and after it is laid out. -/
theorem memberName?_expand (key : Value) : memberName? (key.expand context) = memberName? key := by
  cases key <;> rfl

/-- Entries that run to JSON run to an object. -/
theorem plainMembers?_expandEntries {entries : List (Value × Value)}
    {members : List (String × Value)} {jsons : List (String × Json)}
    (hentries : entries.map (fun entry => (memberName? entry.1, some entry.2)) =
      members.map fun member => (some member.1, some member.2))
    (h : List.Forall₂ (fun member json => member.1 = json.1 ∧
      member.2.toJson? context = some json.2) members jsons) :
    plainMembers? (expandEntries context entries) = some jsons := by
  induction h generalizing entries with
  | nil =>
    rw [List.map_eq_nil_iff.mp hentries]
    rfl
  | @cons member json members jsons hmember _ ih =>
    obtain ⟨⟨key, value⟩, rest, rfl, hentry, hrest⟩ := List.map_eq_cons_iff.mp hentries
    obtain ⟨hkey, hvalue⟩ := Prod.mk.inj hentry
    obtain rfl := Option.some.inj hvalue
    obtain ⟨hname, hjson⟩ := hmember
    rw [toJson?] at hjson
    rw [expandEntries, plainMembers?, memberName?_expand, hkey, hname, hjson, ih hrest]
    rfl

/-- The members that a view lists, once all of them are there, are those that it is laid out
with. -/
theorem expand_view {part : View} {members : List (String × Value)}
    (hwf : context.tree.WellFormed) (hparts : (view part).parts context = .record members) :
    (view part).expand context = (record members).expand context := by
  rw [expand, viewEntries_eq hwf, expand_record]
  congr 1
  have hlisted : ((Context.viewNames part).map fun name =>
      (some name, context.viewMember? part name)) =
        members.map fun member => (some member.1, some member.2) := Parts.members.inj hparts
  calc _ = ((Context.viewNames part).map fun name =>
        (some name, context.viewMember? part name)).filterMap (fun listed =>
          listed.1.bind fun name => listed.2.map fun value => (name, value.expand context)) := by
        rw [List.filterMap_map]
        rfl
    _ = _ := by
        rw [hlisted, List.filterMap_map, ← List.filterMap_eq_map]
        rfl

/-- What a value is written as is the JSON that it runs to. -/
theorem Serializes.toJson? (hwf : context.tree.WellFormed) (h : Serializes context value json) :
    value.toJson? context = some json := by
  induction h with
  | @whole value json h =>
    cases value <;> cases h <;> rfl
  | @items value items jsons h _ ih =>
    have hitems := plainItems?_expandItems (ih.imp fun _ _ hjson => hjson.2)
    cases value <;> cases h <;> exact congrArg (Option.map Json.array) hitems
  | @members value members jsons h _ _ ih =>
    have hjsons := ih.imp fun _ _ hmember => And.intro hmember.1 hmember.2.2
    cases value with
    | map entries | object _ _ entries =>
      exact congrArg (Option.map Json.object)
        (plainMembers?_expandEntries (Parts.members.inj h) hjsons)
    | view part =>
      rw [Value.toJson?, expand_view hwf h]
      refine congrArg (Option.map Json.object) (plainMembers?_expandEntries ?_ hjsons)
      rw [entriesOf, List.map_map]
      rfl
    | _ => cases h

end Value

end ClientGen
