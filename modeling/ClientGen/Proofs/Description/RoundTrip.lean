import ClientGen.Description.Read
import ClientGen.Proofs.Description.Reading
import ClientGen.Proofs.Description.Records

/-!
# Reading what is written

What is read as a description, in whatever spelling and with whatever fields left out, fits the
layout again after it is decoded and encoded. So the JSON of a description that was read is read as
the same description, if its doubles are read as they are printed.
-/

namespace ClientGen

namespace Json

/-! ## Slots that fit -/

section Slots

variable {Record : Type} {fields : Fields Record} {depth : Nat} {key : String}
  {presence : Presence} {slot : Option Json}

/-- Whether a field may have what fills its slot. -/
def SlotFits (fields : Fields Record) (depth : Nat) (field : Field Record) : Option Json → Prop
  | some v => FieldFits fields depth field v
  | none => field.presence ≠ .required

/-- Slots that fit the fields of a record are its members in order. -/
theorem inOrder_setMembers {declared : List (Field Record)} {slots : List (String × Option Json)}
    (h : List.Forall₂ (fun f slot => f.key = slot.1 ∧ SlotFits fields depth f slot.2)
      declared slots) : InOrder fields depth declared (setMembers slots) := by
  induction h with
  | nil => exact InOrder.nil (List.forall_mem_nil _)
  | @cons f slot declared slots hslot _ ih =>
    obtain ⟨key, value⟩ := slot
    obtain ⟨rfl, hfit⟩ := hslot
    cases value with
    | none => exact ih.skip hfit
    | some v => exact ih.cons hfit

/-- What is found under the keys of a record's fields fits them. -/
theorem Fits.slots {name : Record} {v : Json} (h : Fits fields (depth + 1) (.record name) v)
    (hfields : ((fields name).map Field.key).Nodup) :
    ∀ f ∈ fields name, SlotFits fields depth f (v.get? f.key) := by
  cases h with
  | @record _ _ members hkeys hrequired hset hvalues =>
    intro f hf
    have hfind := find?_key_eq_some hfields hf
    let table : OrderedMap Json := ⟨members, hkeys⟩
    change SlotFits fields depth f (table.get? f.key)
    cases hget : table.get? f.key with
    | none =>
      intro hpresence
      exact OrderedMap.get?_eq_none_iff.mp hget
        (missingKeys_eq_nil_iff.mp hrequired f hf hpresence)
    | some v =>
      have hmem : (f.key, v) ∈ members := OrderedMap.get?_eq_some_iff.mp hget
      obtain ⟨g, hg, hnull⟩ := hset _ hmem
      obtain rfl := Option.some.inj (hfind.symm.trans hg)
      exact ⟨hvalues _ hmem f hfind, hnull⟩

/-- Any text fits a field for a text. -/
theorem slotFits_text (s : String) :
    SlotFits fields depth ⟨key, .text, presence⟩ (some (.text s)) :=
  ⟨.text, fun _ => Json.noConfusion⟩

/-- Any flag fits a field for a flag. -/
theorem slotFits_flag (b : Bool) :
    SlotFits fields depth ⟨key, .flag, presence⟩ (some (.bool b)) :=
  ⟨.flag, fun _ => Json.noConfusion⟩

/-- What fits a field for a text does so after it is decoded and encoded. -/
theorem SlotFits.text (h : SlotFits fields depth ⟨key, .text, presence⟩ slot) :
    SlotFits fields depth ⟨key, .text, presence⟩ ((slot.bind text?).map .text) := by
  cases slot with
  | none => exact h
  | some v =>
    obtain ⟨hfit, -⟩ := h
    cases hfit
    exact slotFits_text _

/-- What fits a field for a count does so after it is decoded and encoded. -/
theorem SlotFits.count (h : SlotFits fields depth ⟨key, .count, presence⟩ slot) :
    SlotFits fields depth ⟨key, .count, presence⟩ ((slot.bind nat?).map ofNat) := by
  cases slot with
  | none => exact h
  | some v =>
    obtain ⟨hfit, hnull⟩ := h
    cases hfit with
    | @count _ n hpos hword =>
      have hnat : (int n).nat? = some n.toNat := if_pos hpos
      have hback : ofNat n.toNat = int n := congrArg int (Int.toNat_of_nonneg hpos)
      rw [Option.bind_some, hnat, Option.map_some, hback]
      exact ⟨.count hpos hword, hnull⟩

/-- What fits a field for a double does so after it is decoded and encoded. -/
theorem SlotFits.real (h : SlotFits fields depth ⟨key, .real, presence⟩ slot) :
    SlotFits fields depth ⟨key, .real, presence⟩ ((slot.bind float?).map .real) := by
  cases slot with
  | none => exact h
  | some v =>
    obtain ⟨hfit, hnull⟩ := h
    cases hfit
    exact ⟨.real, hnull⟩

/-- What fits a field for any value does so after it is decoded and encoded. -/
theorem SlotFits.any (h : SlotFits fields depth ⟨key, .any, presence⟩ slot) :
    SlotFits fields depth ⟨key, .any, presence⟩ (slot.map id) := by
  rwa [Option.map_id]

/-- What fits a field for a list does so after its items are listed. -/
theorem SlotFits.items {item : Schema Record}
    (h : SlotFits fields depth ⟨key, .list item, presence⟩ slot) :
    SlotFits fields depth ⟨key, .list item, presence⟩ ((slot.map Json.items).map .array) := by
  cases slot with
  | none => exact h
  | some v =>
    obtain ⟨hfit, hnull⟩ := h
    cases hfit with
    | list hitems => exact ⟨.list hitems, hnull⟩

variable {α : Type} {encode : α → Json} {decode : Json → α} {item : Schema Record}

/-- A list whose items fit after they are decoded and encoded does so as well. -/
theorem SlotFits.list (h : SlotFits fields depth ⟨key, .list item, presence⟩ slot)
    (hpresence : presence ≠ .required)
    (hitem : ∀ {d : Nat} {v : Json}, d < depth → Fits fields d item v →
      Fits fields d item (encode (decode v))) :
    SlotFits fields depth ⟨key, .list item, presence⟩
      (listSlot encode (((slot.map Json.items).getD []).map decode)) := by
  cases slot with
  | none => exact hpresence
  | some v =>
    obtain ⟨hfit, hnull⟩ := h
    cases hfit with
    | @list d _ items hitems =>
      cases items with
      | nil => exact hpresence
      | cons v rest =>
        refine ⟨.list fun w hw => ?_, fun _ => Json.noConfusion⟩
        simp only [List.map_map, List.mem_map, Function.comp_apply] at hw
        obtain ⟨v', hv', rfl⟩ := hw
        exact hitem (Nat.lt_succ_self d) (hitems v' hv')

/-- A list of values that fits a field does so after it is left out where it is empty. -/
theorem SlotFits.values (h : SlotFits fields depth ⟨key, .list item, presence⟩ slot)
    (hpresence : presence ≠ .required) :
    SlotFits fields depth ⟨key, .list item, presence⟩
      (listSlot id ((slot.map Json.items).getD [])) := by
  have hsame : SlotFits fields depth ⟨key, .list item, presence⟩
      (listSlot id (((slot.map Json.items).getD []).map id)) := h.list hpresence fun _ hv => hv
  rwa [List.map_id] at hsame

/-- A list of texts that fits a field does so after it is decoded and encoded. -/
theorem SlotFits.texts (h : SlotFits fields depth ⟨key, .list .text, presence⟩ slot)
    (hpresence : presence ≠ .required) :
    SlotFits fields depth ⟨key, .list .text, presence⟩
      (listSlot .text (((slot.map Json.items).getD []).filterMap text?)) := by
  cases slot with
  | none => exact hpresence
  | some v =>
    obtain ⟨hfit, hnull⟩ := h
    cases hfit with
    | @list d _ items hitems =>
      rw [listSlot]
      split
      · exact hpresence
      · refine ⟨.list fun w hw => ?_, fun _ => Json.noConfusion⟩
        obtain ⟨s, -, rfl⟩ := List.mem_map.mp hw
        exact .text

/-- A table whose values fit after they are decoded and encoded does so as well. -/
theorem Fits.ofTable {v : Json} (h : Fits fields depth (.table item) v)
    (hvalue : ∀ {d : Nat} {v : Json}, d < depth → Fits fields d item v →
      Fits fields d item (encode (decode v))) :
    Fits fields depth (.table item)
      (ofTable encode ((OrderedMap.ofList v.members).mapEntries fun _ => decode)) := by
  cases h with
  | @table d _ members hkeys hvalues =>
    have hlist : OrderedMap.ofList members = ⟨members, hkeys⟩ :=
      OrderedMap.ofList_entries ⟨members, hkeys⟩
    simp only [Json.members, hlist, Json.ofTable, OrderedMap.mapEntries, List.map_map]
    refine .table ?_ fun m hm => ?_
    · simpa [List.map_map, Function.comp_def] using hkeys
    · obtain ⟨m', hm', rfl⟩ := List.mem_map.mp hm
      exact hvalue (Nat.lt_succ_self d) (hvalues m' hm')

/-- A table whose values fit after they are decoded and encoded does so as well. -/
theorem SlotFits.table (h : SlotFits fields depth ⟨key, .table item, presence⟩ slot)
    (hpresence : presence ≠ .required)
    (hvalue : ∀ {d : Nat} {v : Json}, d < depth → Fits fields d item v →
      Fits fields d item (encode (decode v))) :
    SlotFits fields depth ⟨key, .table item, presence⟩
      (tableSlot encode ((OrderedMap.ofList ((slot.map Json.members).getD [])).mapEntries
        fun _ => decode)) := by
  rw [tableSlot]
  split
  · exact hpresence
  · cases slot with
    | none => contradiction
    | some v => exact ⟨h.fits.ofTable hvalue, fun _ => Json.noConfusion⟩

end Slots

end Json

/-! ## Descriptions that fit -/

open Json (Fits SlotFits inOrder_setMembers)

/-- A record fits only where a level of nesting is left. -/
theorem Json.Fits.exists_depth {depth : Nat} {name : Description.Record} {v : Json}
    (h : Fits Description.fields depth (.record name) v) : ∃ d, depth = d + 1 := by
  cases h
  exact ⟨_, rfl⟩

/-- A parameter that fits the layout does so after it is decoded and encoded. -/
theorem ParameterDecl.fits_toJson {depth : Nat} {v : Json}
    (h : Fits Description.fields depth (.record .parameter) v) :
    Fits Description.fields depth (.record .parameter) (ParameterDecl.ofJson v).toJson := by
  obtain ⟨depth, rfl⟩ := h.exists_depth
  have hslots := h.slots (Description.nodup_keys _)
  simp only [Description.fields, List.forall_mem_cons] at hslots
  obtain ⟨hdisplayName, htype, henum, hpattern, hminLength, hmaxLength, hminimum, hmaximum,
    hsample, -, -, hdefault, hdescription, -⟩ := hslots
  rw [toJson_eq]
  refine (inOrder_setMembers ?_).fits_record (Description.nodup_keys _)
  refine .cons ⟨rfl, hdisplayName.text⟩ ?_
  refine .cons ⟨rfl, htype.text⟩ ?_
  refine .cons ⟨rfl, henum.items⟩ ?_
  refine .cons ⟨rfl, hpattern.text⟩ ?_
  refine .cons ⟨rfl, hminLength.count⟩ ?_
  refine .cons ⟨rfl, hmaxLength.count⟩ ?_
  refine .cons ⟨rfl, hminimum.real⟩ ?_
  refine .cons ⟨rfl, hmaximum.real⟩ ?_
  refine .cons ⟨rfl, hsample.any⟩ ?_
  refine .cons ⟨rfl, Json.slotFits_flag _⟩ ?_
  refine .cons ⟨rfl, Json.slotFits_flag _⟩ ?_
  refine .cons ⟨rfl, hdefault.any⟩ ?_
  exact .cons ⟨rfl, hdescription.text⟩ .nil

/-- A method that fits the layout does so after it is decoded and encoded. -/
theorem MethodDecl.fits_toJson {depth : Nat} {v : Json}
    (h : Fits Description.fields depth (.record .method) v) :
    Fits Description.fields depth (.record .method) (MethodDecl.ofJson v).toJson := by
  obtain ⟨depth, rfl⟩ := h.exists_depth
  have hslots := h.slots (Description.nodup_keys _)
  simp only [Description.fields, List.forall_mem_cons] at hslots
  obtain ⟨-, hprotocols, hresponses, hbody, hheaders, hqueries, hsecuredBy, hdescription, -⟩ :=
    hslots
  rw [toJson_eq]
  refine (inOrder_setMembers ?_).fits_record (Description.nodup_keys _)
  refine .cons ⟨rfl, Json.slotFits_text _⟩ ?_
  refine .cons ⟨rfl, hprotocols.texts (by decide)⟩ ?_
  refine .cons ⟨rfl, hresponses.table (by decide) fun _ hv => hv⟩ ?_
  refine .cons ⟨rfl, hbody.any⟩ ?_
  refine .cons ⟨rfl, hheaders.table (by decide) fun _ hv => ParameterDecl.fits_toJson hv⟩ ?_
  refine .cons ⟨rfl, hqueries.table (by decide) fun _ hv => ParameterDecl.fits_toJson hv⟩ ?_
  refine .cons ⟨rfl, hsecuredBy.values (by decide)⟩ ?_
  exact .cons ⟨rfl, hdescription.text⟩ .nil

/-- The nesting of resources is the nesting of their JSON, on which the induction is. -/
theorem ResourceDecl.fits_toJson {depth : Nat} {v : Json}
    (h : Fits Description.fields depth (.record .resource) v) :
    Fits Description.fields depth (.record .resource) (ResourceDecl.ofJson v).toJson := by
  induction depth using Nat.strongRecOn generalizing v with
  | ind depth ih =>
    obtain ⟨depth, rfl⟩ := h.exists_depth
    have hslots := h.slots (Description.nodup_keys _)
    simp only [Description.fields, List.forall_mem_cons] at hslots
    obtain ⟨-, hdisplayName, hparameters, hmethods, hdescription, hresources, -⟩ := hslots
    rw [toJson_eq, ofJson_eq]
    refine (inOrder_setMembers ?_).fits_record (Description.nodup_keys _)
    refine .cons ⟨rfl, Json.slotFits_text _⟩ ?_
    refine .cons ⟨rfl, hdisplayName.text⟩ ?_
    refine .cons ⟨rfl, hparameters.table (by decide) fun _ hv => ParameterDecl.fits_toJson hv⟩ ?_
    refine .cons ⟨rfl, hmethods.list (by decide) fun _ hv => MethodDecl.fits_toJson hv⟩ ?_
    refine .cons ⟨rfl, hdescription.text⟩ ?_
    exact .cons ⟨rfl, hresources.list (by decide) fun hd hv => ih _ (Nat.lt_succ_of_lt hd) hv⟩ .nil

/-- A security scheme that fits the layout does so after it is decoded and encoded. -/
theorem SecurityScheme.fits_toJson {depth : Nat} {v : Json}
    (h : Fits Description.fields depth (.record .securityScheme) v) :
    Fits Description.fields depth (.record .securityScheme) (SecurityScheme.ofJson v).toJson := by
  obtain ⟨depth, rfl⟩ := h.exists_depth
  have hslots := h.slots (Description.nodup_keys _)
  simp only [Description.fields, List.forall_mem_cons] at hslots
  obtain ⟨-, hdescription, hsettings, hdescribedBy, -⟩ := hslots
  rw [toJson_eq]
  refine (inOrder_setMembers ?_).fits_record (Description.nodup_keys _)
  refine .cons ⟨rfl, Json.slotFits_text _⟩ ?_
  refine .cons ⟨rfl, hdescription.text⟩ ?_
  refine .cons ⟨rfl, hsettings.table (by decide) fun _ hv => hv⟩ ?_
  exact .cons ⟨rfl, hdescribedBy.any⟩ .nil

/-- A chapter that fits the layout does so after it is decoded and encoded. -/
theorem Documentation.fits_toJson {depth : Nat} {v : Json}
    (h : Fits Description.fields depth (.record .documentation) v) :
    Fits Description.fields depth (.record .documentation) (Documentation.ofJson v).toJson := by
  obtain ⟨depth, rfl⟩ := h.exists_depth
  rw [toJson_eq]
  refine (inOrder_setMembers ?_).fits_record (Description.nodup_keys _)
  refine .cons ⟨rfl, Json.slotFits_text _⟩ ?_
  exact .cons ⟨rfl, Json.slotFits_text _⟩ .nil

/-- A description that fits the layout does so after it is decoded and encoded. -/
theorem Specification.fits_toJson {depth : Nat} {v : Json}
    (h : Fits Description.fields depth (.record .specification) v) :
    Fits Description.fields depth (.record .specification) (Specification.ofJson v).toJson := by
  obtain ⟨depth, rfl⟩ := h.exists_depth
  have hslots := h.slots (Description.nodup_keys _)
  simp only [Description.fields, List.forall_mem_cons] at hslots
  obtain ⟨-, hversion, hbaseUri, hparameters, hresources, hschemes, hdocumentation, -⟩ := hslots
  rw [toJson_eq, ofJson, ResourceDecl.listAt_eq]
  refine (inOrder_setMembers ?_).fits_record (Description.nodup_keys _)
  refine .cons ⟨rfl, Json.slotFits_text _⟩ ?_
  refine .cons ⟨rfl, hversion.text⟩ ?_
  refine .cons ⟨rfl, hbaseUri.text⟩ ?_
  refine .cons ⟨rfl, hparameters.table (by decide) fun _ hv => ParameterDecl.fits_toJson hv⟩ ?_
  refine .cons ⟨rfl, hresources.list (by decide) fun _ hv => ResourceDecl.fits_toJson hv⟩ ?_
  refine .cons ⟨rfl, hschemes.list (by decide) fun _ hv =>
    hv.ofTable fun _ hw => SecurityScheme.fits_toJson hw⟩ ?_
  exact .cons ⟨rfl, hdocumentation.list (by decide) fun _ hv => Documentation.fits_toJson hv⟩ .nil

/-! ## Round trips -/

namespace Specification

variable {text : String} {spec : Specification}

/-- A text is read as the description that its JSON is decoded to, if that has a title. -/
theorem ofJsonText_eq_ok_iff : ofJsonText text = .ok spec ↔
    ∃ v, Json.readWithin Description.fields 127 (.record .specification) text = .ok v ∧
      withTitle (ofJson v) = .ok spec := by
  rw [ofJsonText, Json.read_eq_readWithin]
  cases Json.readWithin Description.fields 127 (.record .specification) text <;> simp

/-- The JSON of a description that was read fits the layout. -/
theorem fits_of_ofJsonText (h : ofJsonText text = .ok spec) :
    Fits Description.fields 127 (.record .specification) spec.toJson ∧
      withTitle spec = .ok spec := by
  obtain ⟨v, hread, htitle⟩ := ofJsonText_eq_ok_iff.mp h
  have hspec : ofJson v = spec := (withTitle_eq_ok_iff.mp htitle).1
  have hfit := fits_toJson (Json.fits_of_readWithin Description.nodup_keys hread)
  rw [hspec] at hfit htitle
  exact ⟨hfit, htitle⟩

/-- A description that was read is read as itself, in whatever way its JSON is spelled. -/
theorem ofJsonText_spelled {written : String} (h : ofJsonText text = .ok spec)
    (hwritten : spec.toJson.Spells written.toList) : ofJsonText written = .ok spec := by
  obtain ⟨hfit, htitle⟩ := fits_of_ofJsonText h
  refine ofJsonText_eq_ok_iff.mpr ⟨_, Json.readWithin_spelled hfit hwritten, ?_⟩
  rw [ofJson_toJson, htitle]

/-- A description that was read is read as itself from the texts that are printed for it, compact or
indented, if its doubles are read as they are printed. -/
theorem ofJsonText_printed (h : ofJsonText text = .ok spec)
    (hreals : ∀ x, JsonNumber.real x ∈ spec.toJson.numbers → Json.ReadsBack (.real x)) :
    ofJsonText spec.toJson.compact = .ok spec ∧
      ∀ width, ofJsonText (spec.toJson.indented width) = .ok spec := by
  have hnumbers := (fits_of_ofJsonText h).1.readsBack hreals
  constructor
  · refine ofJsonText_spelled h ?_
    rw [Json.compact, String.toList_ofList]
    exact Json.spells_compactChars _ hnumbers
  · intro width
    refine ofJsonText_spelled h ?_
    rw [Json.indented, String.toList_ofList]
    exact Json.spells_indentedChars width 0 _ hnumbers

/-- A description with a resource that is written as a list of its fields. -/
def petsText : String :=
  "\x7b\"title\":\"Pets\",\"version\":null,\"resources\":[[\"/pets\",null," ++
    "\x7b\"limit\":\x7b\"minimum\":0.5,\"default\":[1,\x7b\"a\":null\x7d]\x7d\x7d," ++
    "[\x7b\"method\":\"get\",\"responses\":\x7b\x7d\x7d],null," ++
    "[\x7b\"relativeUri\":\"/\x7bid\x7d\"\x7d]]]\x7d"

/-- The description of the pets is read from its text, and again from its printed JSON. -/
theorem ofJsonText_printed_pets : ∃ spec, ofJsonText petsText = .ok spec ∧
    ofJsonText spec.toJson.compact = .ok spec ∧
      ∀ width, ofJsonText (spec.toJson.indented width) = .ok spec := by
  have hread : ((ofJsonText petsText).map fun spec =>
      spec.toJson.numbers.all fun n => decide (Json.ReadsBack n)) = .ok true := by
    decide +kernel
  obtain ⟨spec, hspec, hall⟩ := Json.map_eq_ok_iff.mp hread
  have hnumbers : ∀ n ∈ spec.toJson.numbers, Json.ReadsBack n := by simpa using hall
  exact ⟨spec, hspec, ofJsonText_printed hspec fun x hx => hnumbers _ hx⟩

end Specification

end ClientGen
