import ClientGen.Proofs.OrderedMap
import ClientGen.Value.Part

/-!
# JSON among the values of templates

A value that comes from JSON has no views in it, is written as the JSON that it comes from, and has
the members of its object. The records that tables and nodes are shown as have distinct keys, so
that each key leads to its own value.
-/

namespace ClientGen.Value

variable {context : Context}

/-! ## Values without views -/

mutual

/-- There is nothing to lay out in a JSON value. -/
theorem expand_ofJson (context : Context) :
    ∀ json : Json, (ofJson json).expand context = ofJson json
  | .null | .bool _ | .number _ | .text _ => rfl
  | .array items => by rw [ofJson, expand, expandItems_ofItems]
  | .object members => by rw [ofJson, expand, expandEntries_ofMembers]

/-- Items from JSON have no views to expand. -/
theorem expandItems_ofItems (context : Context) :
    ∀ items : List Json, expandItems context (ofItems items) = ofItems items
  | [] => rfl
  | item :: rest => by rw [ofItems, expandItems, expand_ofJson, expandItems_ofItems]

/-- Members from JSON have no views to expand. -/
theorem expandEntries_ofMembers (context : Context) :
    ∀ members : List (String × Json), expandEntries context (ofMembers members) = ofMembers members
  | [] => rfl
  | (key, value) :: rest => by
    rw [ofMembers, expandEntries, expand_ofJson, expandEntries_ofMembers]
    rfl

end

/-- A number from JSON is written as itself. -/
theorem toJson_ofJson_number (n : JsonNumber) : (Number.ofJson n).toJson = n := by
  cases n <;> rfl

mutual

/-- A JSON value is itself as JSON. -/
theorem plainJson?_ofJson : ∀ json : Json, (ofJson json).plainJson? = some json
  | .null | .bool _ | .text _ => rfl
  | .number n => by rw [ofJson, plainJson?, toJson_ofJson_number]
  | .array items => by rw [ofJson, plainJson?, plainItems?_ofItems, Option.map_some]
  | .object members => by rw [ofJson, plainJson?, plainMembers?_ofMembers, Option.map_some]

/-- Items from JSON are written as themselves. -/
theorem plainItems?_ofItems : ∀ items : List Json, plainItems? (ofItems items) = some items
  | [] => rfl
  | item :: rest => by
    rw [ofItems, plainItems?, plainJson?_ofJson, plainItems?_ofItems]
    rfl

/-- Members from JSON are written as themselves. -/
theorem plainMembers?_ofMembers :
    ∀ members : List (String × Json), plainMembers? (ofMembers members) = some members
  | [] => rfl
  | (key, value) :: rest => by
    rw [ofMembers, plainMembers?, plainJson?_ofJson, plainMembers?_ofMembers]
    rfl

end

/-- A JSON value is written as it is. -/
theorem toJson?_ofJson (context : Context) (json : Json) :
    (ofJson json).toJson? context = some json := by
  rw [toJson?, expand_ofJson, plainJson?_ofJson]

/-- Items are made from JSON one by one. -/
theorem ofItems_eq_map (items : List Json) : ofItems items = items.map ofJson := by
  induction items with
  | nil => rfl
  | cons item rest ih => rw [ofItems, ih, List.map_cons]

/-- A text is printed as it is. -/
@[simp] theorem display_text (context : Context) (s : String) : (text s).display context = s := rfl

/-! ## Members of records -/

section Records

variable {name : String} {members : List (String × Value)} {json : List (String × Json)}

/-- The members of a record are found under their names. -/
theorem lookupName_entriesOf : lookupName (entriesOf members) name = members.lookup name := by
  induction members with
  | nil => rfl
  | cons member rest ih =>
    rw [OrderedMap.lookup_cons_eq_ite, ← ih]
    by_cases hname : member.1 = name
    · simp [lookupName, entriesOf, text?, hname]
    · simp [lookupName, entriesOf, text?, hname, Ne.symm hname]

/-- The members of a record are looked up under their names. -/
theorem member?_record : (record members).member? context name = members.lookup name :=
  lookupName_entriesOf

/-- A name that no member has stands for nothing. -/
theorem member_record : (record members).member context name =
    .ok ((members.lookup name).getD .undefined) := by
  rw [member, member?_record]
  cases members.lookup name <;> rfl

/-- Members are made from JSON one by one, each under its name. -/
theorem ofMembers_eq_entriesOf (json : List (String × Json)) :
    ofMembers json = entriesOf (json.map fun member => (member.1, ofJson member.2)) := by
  induction json with
  | nil => rfl
  | cons member rest ih => rw [ofMembers, ih]; rfl

/-- Changing all values changes what is looked up under a key. -/
theorem lookup_map_snd {α β : Type} (f : α → β) (entries : List (String × α)) (key : String) :
    (entries.map fun entry => (entry.1, f entry.2)).lookup key = (entries.lookup key).map f := by
  induction entries with
  | nil => rfl
  | cons entry rest ih =>
    rw [List.map_cons, OrderedMap.lookup_cons_eq_ite, OrderedMap.lookup_cons_eq_ite, ih]
    split <;> rfl

/-- The members of a JSON object are found under their names. -/
theorem member_object : (ofJson (.object json)).member context name =
    .ok (((json.lookup name).map ofJson).getD .undefined) := by
  have hrecord : ofJson (.object json) =
      record (json.map fun member => (member.1, ofJson member.2)) := by
    rw [ofJson, ofMembers_eq_entriesOf, record]
  rw [hrecord, member_record, lookup_map_snd]

/-- Members after one that may be missing and has another name are found as if it were not there. -/
theorem lookup_memberIfSet_append {α : Type} {key : String} (hne : name ≠ key) (encode : α → Json)
    (value : Option α) (json : List (String × Json)) :
    (Json.memberIfSet key encode value ++ json).lookup name = json.lookup name := by
  cases value with
  | none => rfl
  | some x => exact (OrderedMap.lookup_cons_eq_ite _ _).trans (if_neg hne)

/-- A member that may be missing is found if it is there. -/
theorem lookup_memberIfSet_append_self {α : Type} (encode : α → Json) (value : Option α)
    (json : List (String × Json)) :
    (Json.memberIfSet name encode value ++ json).lookup name =
      (value.map encode).or (json.lookup name) := by
  cases value with
  | none => rfl
  | some x => exact (OrderedMap.lookup_cons_eq_ite _ _).trans (if_pos rfl)

/-- Two texts are one key if they are equal. -/
theorem sameKey_text (context : Context) (s t : String) :
    (text s).sameKey context (text t) = (s == t) := rfl

/-- An entry is looked up under its name as a text. -/
theorem lookupKey_entriesOf (context : Context) (members : List (String × Value)) (name : String) :
    lookupKey context (entriesOf members) (text name) = members.lookup name := by
  induction members with
  | nil => rfl
  | cons member rest ih =>
    rw [OrderedMap.lookup_cons_eq_ite, ← ih]
    by_cases hname : member.1 = name
    · simp [lookupKey, entriesOf, sameKey_text, hname]
    · simp [lookupKey, entriesOf, sameKey_text, hname, Ne.symm hname]

/-- The pairs of a map are its keys with their values. -/
theorem pairs?_record {table : OrderedMap Value} : (record table.entries).pairs? context =
    some (table.entries.map fun entry => list [text entry.1, entry.2]) := by
  simp only [pairs?, record, isMap, if_true, iterate?, Option.map_some, Option.some.injEq,
    entriesOf, List.map_map]
  refine List.map_congr_left fun entry hentry => ?_
  have hfound : lookupKey context (entriesOf table.entries) (text entry.1) = some entry.2 := by
    rw [lookupKey_entriesOf]
    exact OrderedMap.get?_eq_some_iff.mpr hentry
  simp only [Function.comp_apply, item?]
  rw [← entriesOf, hfound, Option.getD_some]

end Records

end ClientGen.Value
