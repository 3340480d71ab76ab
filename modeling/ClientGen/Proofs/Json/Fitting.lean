import ClientGen.Proofs.Json.Reading

/-!
# What is read by a schema fits it

Whether a record is written as a table or as a list of its fields, what is read for it are set
fields, each of them once and all that must be given among them. The reader keeps this up from one
member to the next.
-/

namespace ClientGen.Json

section Schemas

variable {Record : Type} {fields : Fields Record} {given rest : List Char}

/-! ## Members of a record -/

/-- What is read for a field fits it, and only a field that may be null is not set. -/
def GivenFits (fields : Fields Record) (depth : Nat) (field : Field Record) : Option Json → Prop
  | some v => FieldFits fields depth field v
  | none => field.presence.isNullable = true

/-- Members of a record that are read so far, the last one first. -/
structure MembersFit (fields : Fields Record) (depth : Nat) (name : Record)
    (members : List (String × Option Json)) : Prop where
  nodup_keys : (members.map Prod.fst).Nodup
  fits : ∀ m ∈ members, ∃ f, (fields name).find? (fun f => f.key == m.1) = some f ∧
    GivenFits fields depth f m.2

/-- Members that are read for the fields of a record in their order. -/
structure InOrder (fields : Fields Record) (depth : Nat) (declared : List (Field Record))
    (members : List (String × Json)) : Prop where
  sublist : (members.map Prod.fst).Sublist (declared.map Field.key)
  required : missingKeys declared (members.map Prod.fst) = []
  fits : ∀ m ∈ members, ∃ f ∈ declared, f.key = m.1 ∧ FieldFits fields depth f m.2

/-- No members are in order if no field is required. -/
theorem InOrder.nil {depth : Nat} {declared : List (Field Record)}
    (h : ∀ f ∈ declared, f.presence ≠ .required) : InOrder fields depth declared [] where
  sublist := List.nil_sublist _
  required := missingKeys_eq_nil_iff.mpr fun f hf hpresence => absurd hpresence (h f hf)
  fits := List.forall_mem_nil _

/-- A field that is not set is passed over. -/
theorem InOrder.skip {depth : Nat} {field : Field Record} {declared : List (Field Record)}
    {members : List (String × Json)} (h : InOrder fields depth declared members)
    (hfield : field.presence ≠ .required) : InOrder fields depth (field :: declared) members where
  sublist := h.sublist.cons field.key
  required := by
    refine missingKeys_eq_nil_iff.mpr (List.forall_mem_cons.mpr ⟨?_, ?_⟩)
    · intro hpresence
      exact absurd hpresence hfield
    · exact missingKeys_eq_nil_iff.mp h.required
  fits := by
    intro m hm
    obtain ⟨f, hf, hfits⟩ := h.fits m hm
    exact ⟨f, List.mem_cons_of_mem _ hf, hfits⟩

/-- A field that is set comes before the fields after it. -/
theorem InOrder.cons {depth : Nat} {field : Field Record} {declared : List (Field Record)}
    {members : List (String × Json)} {v : Json} (h : InOrder fields depth declared members)
    (hv : FieldFits fields depth field v) :
    InOrder fields depth (field :: declared) ((field.key, v) :: members) where
  sublist := h.sublist.cons_cons field.key
  required := by
    refine missingKeys_eq_nil_iff.mpr (List.forall_mem_cons.mpr ⟨?_, ?_⟩)
    · intro _
      exact List.mem_cons_self
    · intro f hf hpresence
      exact List.mem_cons_of_mem _ (missingKeys_eq_nil_iff.mp h.required f hf hpresence)
  fits := by
    refine List.forall_mem_cons.mpr ⟨⟨field, List.mem_cons_self, rfl, hv⟩, ?_⟩
    intro m hm
    obtain ⟨f, hf, hfits⟩ := h.fits m hm
    exact ⟨f, List.mem_cons_of_mem _ hf, hfits⟩

/-- A field is found under its key, if no other has that key. -/
theorem find?_key_eq_some {declared : List (Field Record)} {f : Field Record}
    (hkeys : (declared.map Field.key).Nodup) (hf : f ∈ declared) :
    declared.find? (fun g => g.key == f.key) = some f := by
  induction declared with
  | nil => cases hf
  | cons g rest ih =>
    obtain ⟨hnew, hrest⟩ := List.nodup_cons.mp hkeys
    obtain rfl | hmem := List.mem_cons.mp hf
    · simp
    · have hne : g.key ≠ f.key := fun heq => hnew (heq ▸ List.mem_map_of_mem hmem)
      rw [List.find?_cons_of_neg (by simpa using hne), ih hrest hmem]

/-- Members in the order of the fields of a record fit the record. -/
theorem InOrder.fits_record {depth : Nat} {name : Record} {members : List (String × Json)}
    (h : InOrder fields depth (fields name) members)
    (hfields : ((fields name).map Field.key).Nodup) :
    Fits fields (depth + 1) (.record name) (.object members) := by
  refine .ofMembers (hfields.sublist h.sublist) h.required fun m hm => ?_
  obtain ⟨f, hf, hkey, hfit⟩ := h.fits m hm
  exact ⟨f, hkey ▸ find?_key_eq_some hfields hf, hfit⟩

/-- The members that are set. -/
def setMembers (members : List (String × Option Json)) : List (String × Json) :=
  members.filterMap fun m => m.2.map fun v => (m.1, v)

/-- A member is set if its slot is filled. -/
theorem mem_setMembers {members : List (String × Option Json)} {m : String × Json} :
    m ∈ setMembers members ↔ (m.1, some m.2) ∈ members := by
  simp only [setMembers, List.mem_filterMap, Option.map_eq_some_iff]
  constructor
  · rintro ⟨⟨key, value⟩, hmem, v, rfl, rfl⟩
    exact hmem
  · intro hmem
    exact ⟨_, hmem, m.2, rfl, rfl⟩

/-- Members that are set stand in the order of their slots. -/
theorem keys_setMembers_sublist (members : List (String × Option Json)) :
    ((setMembers members).map Prod.fst).Sublist (members.map Prod.fst) := by
  induction members with
  | nil => exact List.Sublist.slnil
  | cons m rest ih =>
    obtain ⟨key, _ | v⟩ := m
    · exact ih.cons key
    · exact ih.cons_cons key

/-- The fields that are not set are none of those that must be given. -/
theorem MembersFit.fits_record {depth : Nat} {name : Record}
    {members : List (String × Option Json)} (h : MembersFit fields depth name members)
    (hfields : ((fields name).map Field.key).Nodup)
    (hrequired : missingKeys (fields name) (members.map Prod.fst) = []) :
    Fits fields (depth + 1) (.record name) (.object (setMembers members.reverse)) := by
  rw [missingKeys_eq_nil_iff] at hrequired
  refine .ofMembers ?_ (missingKeys_eq_nil_iff.mpr fun f hf hpresence => ?_) fun m hm => ?_
  · have hnodup : (members.reverse.map Prod.fst).Nodup := by
      simpa [List.map_reverse] using h.nodup_keys
    exact hnodup.sublist (keys_setMembers_sublist _)
  · obtain ⟨⟨key, value⟩, hmem, hkey⟩ := List.mem_map.mp (hrequired f hf hpresence)
    obtain ⟨g, hg, hgiven⟩ := h.fits _ hmem
    simp only at hkey hg hgiven
    obtain rfl : f = g := by
      rw [hkey, find?_key_eq_some hfields hf] at hg
      exact Option.some.inj hg
    cases value with
    | none => simp [GivenFits, Presence.isNullable, hpresence] at hgiven
    | some v =>
      exact List.mem_map.mpr ⟨(key, v), mem_setMembers.mpr (List.mem_reverse.mpr hmem), hkey⟩
  · exact h.fits _ (List.mem_reverse.mp (mem_setMembers.mp hm))

/-- What is found and then changed was found before, with the same rest. -/
theorem mapFound_eq_ok_iff {α β : Type} {x : Except Fault (Found α)} {f : α → β} {b : β} :
    (x.map fun (a, rest) => (f a, rest)) = .ok (b, rest) ↔ ∃ a, x = .ok (a, rest) ∧ f a = b := by
  rw [map_eq_ok_iff]
  constructor
  · rintro ⟨⟨a, rest'⟩, hx, heq⟩
    obtain ⟨hb, rfl⟩ := Prod.mk.inj heq
    exact ⟨a, hx, hb⟩
  · rintro ⟨a, hx, rfl⟩
    exact ⟨(a, rest), hx, rfl⟩

/-- What is found in one step more was found before, with the same rest. -/
theorem bindFound_eq_ok_iff {α β : Type} {x : Except Fault (Found α)} {f : α → β} {b : β} :
    (x >>= fun (a, rest) => .ok (f a, rest)) = .ok (b, rest) ↔
      ∃ a, x = .ok (a, rest) ∧ f a = b := by
  have hmap : (x >>= fun (a, rest) => .ok (f a, rest)) = x.map fun (a, rest) => (f a, rest) := by
    cases x <;> rfl
  rw [hmap, mapFound_eq_ok_iff]

/-- A number that is read as something is a double or an integer of at most 64 bits. -/
theorem exists_of_readNumberAs {α : Type} {convert? : JsonNumber → Option α} {x : α}
    (h : readNumberAs convert? given = .ok (x, rest)) : ∃ n, IsMachine n ∧ convert? n = some x := by
  unfold readNumberAs at h
  split at h
  next c tail hgiven =>
    split at h
    next hc =>
      obtain ⟨⟨n, after⟩, hread, h⟩ := bind_eq_ok_iff.mp h
      simp only at h
      split at h
      next y hy =>
        obtain ⟨rfl, rfl⟩ := Prod.mk.inj (Except.ok.inj h)
        exact ⟨n, isMachine_of_readNumber hread, hy⟩
      next => cases h
    next => cases h
  next => cases h

/-- Only where a null may stand is one scanned. -/
theorem isNullable_of_scanNull? {presence : Presence} {scanned : Except Fault (List Char)}
    (h : scanNull? presence given = some scanned) : presence.isNullable = true := by
  unfold scanNull? at h
  split at h
  next hnullable _ => exact hnullable
  next => cases h

/-- What a value of any kind is read from. -/
inductive ReadAsAny (fields : Fields Record) (fuel depth : Nat) (given rest : List Char) :
    Json → Prop where
  | null {tail : List Char} : skipBlanks given = 'n' :: tail →
    ReadAsAny fields fuel depth given rest .null
  | flag {b : Bool} : ReadAsAny fields fuel depth given rest (.bool b)
  | text {s : String} : ReadAsAny fields fuel depth given rest (.text s)
  | number {n : JsonNumber} : IsMachine n → ReadAsAny fields fuel depth given rest (.number n)
  | list {inner : Nat} {items : List Json} {tail : List Char} : depth = inner + 1 →
    readItems fields fuel inner .any true tail = .ok (items, rest) →
    ReadAsAny fields fuel depth given rest (.array items)
  | table {inner : Nat} {members : List (String × Json)} {tail : List Char} : depth = inner + 1 →
    readEntries fields fuel inner .any true [] tail = .ok (members, rest) →
    ReadAsAny fields fuel depth given rest (.object members)

/-- A value of any kind is read from one of the forms of JSON. -/
theorem readAsAny_of_readValue {fuel depth : Nat} {v : Json}
    (h : readValue fields (fuel + 1) depth .any given = .ok (v, rest)) :
    ReadAsAny fields fuel depth given rest v := by
  rw [readValue] at h
  split at h
  next => cases h
  next c tail hgiven =>
    split at h
    case h_1 =>
      obtain ⟨_, -, heq⟩ := map_eq_ok_iff.mp h
      obtain ⟨rfl, -⟩ := Prod.mk.inj heq
      exact .null hgiven
    case h_2 | h_3 =>
      obtain ⟨_, -, heq⟩ := map_eq_ok_iff.mp h
      obtain ⟨rfl, -⟩ := Prod.mk.inj heq
      exact .flag
    case h_4 =>
      obtain ⟨s, -, rfl⟩ := mapFound_eq_ok_iff.mp h
      exact .text
    case h_5 =>
      cases depth with
      | zero => cases h
      | succ depth =>
        obtain ⟨items, hread, rfl⟩ := bindFound_eq_ok_iff.mp h
        exact .list rfl hread
    case h_6 =>
      cases depth with
      | zero => cases h
      | succ depth =>
        obtain ⟨members, hread, rfl⟩ := bindFound_eq_ok_iff.mp h
        exact .table rfl hread
    case h_7 =>
      split at h
      next =>
        obtain ⟨n, hread, rfl⟩ := mapFound_eq_ok_iff.mp h
        exact .number (isMachine_of_readNumber hread)
      next => cases h

/-- Only a text that starts as null does is read as null. -/
theorem exists_of_readValue_null {fuel depth : Nat}
    (h : readValue fields fuel depth .any given = .ok (.null, rest)) :
    ∃ tail, skipBlanks given = 'n' :: tail := by
  cases fuel with
  | zero => simp [readValue] at h
  | succ fuel =>
    cases readAsAny_of_readValue h with
    | null hgiven => exact ⟨_, hgiven⟩

mutual

/-- Whatever is read fits the schema that it is read by. -/
theorem fits_of_readValue (hfields : ∀ name, ((fields name).map Field.key).Nodup) :
    ∀ (fuel : Nat) {depth : Nat} {schema : Schema Record} {v : Json} {given rest : List Char},
    readValue fields fuel depth schema given = .ok (v, rest) → Fits fields depth schema v
  | 0, _, _, _, _, _, h => by simp [readValue] at h
  | fuel + 1, depth, schema, v, given, rest, h => by
    cases schema with
    | text =>
      rw [readValue] at h
      obtain ⟨s, -, rfl⟩ := mapFound_eq_ok_iff.mp h
      exact .text
    | count =>
      rw [readValue] at h
      obtain ⟨n, hread, rfl⟩ := mapFound_eq_ok_iff.mp h
      obtain ⟨i | x, hword, hconvert⟩ := exists_of_readNumberAs hread
      · obtain ⟨hpos, heq⟩ := Option.ite_none_right_eq_some.mp hconvert
        obtain rfl := Option.some.inj heq
        exact .count hpos hword
      · cases hconvert
    | real =>
      rw [readValue] at h
      obtain ⟨x, -, rfl⟩ := mapFound_eq_ok_iff.mp h
      exact .real
    | flag =>
      rw [readValue] at h
      obtain ⟨b, -, rfl⟩ := mapFound_eq_ok_iff.mp h
      exact .flag
    | any =>
      cases readAsAny_of_readValue h with
      | null => exact .anyNull
      | flag => exact .anyFlag
      | text => exact .anyText
      | number hword => exact .anyNumber hword
      | list hdepth hread =>
        rw [hdepth]
        exact .anyList (fits_of_readItems hfields fuel hread)
      | table hdepth hread =>
        obtain ⟨hkeys, hvalues⟩ := fits_of_readEntries hfields fuel []
          List.nodup_nil (List.forall_mem_nil _) hread
        rw [hdepth]
        exact .anyTable hkeys hvalues
    | choice words =>
      rw [readValue] at h
      obtain ⟨⟨s, after⟩, -, h⟩ := bind_eq_ok_iff.mp h
      simp only at h
      split at h
      next hword =>
        obtain ⟨rfl, rfl⟩ := Prod.mk.inj (Except.ok.inj h)
        exact .choice hword
      next => cases h
    | list item =>
      rw [readValue] at h
      split at h
      next =>
        cases depth with
        | zero => cases h
        | succ depth =>
          obtain ⟨items, hread, rfl⟩ := bindFound_eq_ok_iff.mp h
          exact .list (fits_of_readItems hfields fuel hread)
      next => cases h
    | table value =>
      rw [readValue] at h
      split at h
      next =>
        cases depth with
        | zero => cases h
        | succ depth =>
          obtain ⟨members, hread, rfl⟩ := bindFound_eq_ok_iff.mp h
          obtain ⟨hkeys, hvalues⟩ := fits_of_readEntries hfields fuel []
            List.nodup_nil (List.forall_mem_nil _) hread
          exact .table hkeys hvalues
      next => cases h
    | record name =>
      rw [readValue] at h
      split at h
      next =>
        cases depth with
        | zero => cases h
        | succ depth =>
          obtain ⟨members, hread, rfl⟩ := bindFound_eq_ok_iff.mp h
          exact fits_of_readMembers hfields fuel []
            ⟨List.nodup_nil, List.forall_mem_nil _⟩ hread
      next =>
        cases depth with
        | zero => cases h
        | succ depth =>
          obtain ⟨members, hread, rfl⟩ := bindFound_eq_ok_iff.mp h
          exact (fits_of_readFields hfields fuel hread).fits_record (hfields name)
      next => cases h
termination_by structural fuel => fuel

/-- The items that are read for a list fit it. -/
theorem fits_of_readItems (hfields : ∀ name, ((fields name).map Field.key).Nodup) :
    ∀ (fuel : Nat) {depth : Nat} {item : Schema Record} {isFirst : Bool} {items : List Json}
    {given rest : List Char},
    readItems fields fuel depth item isFirst given = .ok (items, rest) →
    ∀ v ∈ items, Fits fields depth item v
  | 0, _, _, _, _, _, _, h => by simp [readItems] at h
  | fuel + 1, depth, item, isFirst, items, given, rest, h => by
    rw [readItems] at h
    obtain ⟨next | next, -, h⟩ := bind_eq_ok_iff.mp h
    · obtain ⟨rfl, -⟩ := Prod.mk.inj (Except.ok.inj h)
      exact List.forall_mem_nil _
    · obtain ⟨⟨v, after⟩, hv, h⟩ := bind_eq_ok_iff.mp h
      obtain ⟨⟨values, after⟩, hvalues, h⟩ := bind_eq_ok_iff.mp h
      obtain ⟨rfl, -⟩ := Prod.mk.inj (Except.ok.inj h)
      exact List.forall_mem_cons.mpr
        ⟨fits_of_readValue hfields fuel hv, fits_of_readItems hfields fuel hvalues⟩
termination_by structural fuel => fuel

/-- The entries that are read for a table fit it, and no key is read twice. -/
theorem fits_of_readEntries (hfields : ∀ name, ((fields name).map Field.key).Nodup) :
    ∀ (fuel : Nat) (entries : List (String × Json)) {depth : Nat} {value : Schema Record}
    {isFirst : Bool} {members : List (String × Json)} {given rest : List Char},
    (entries.map Prod.fst).Nodup → (∀ m ∈ entries, Fits fields depth value m.2) →
    readEntries fields fuel depth value isFirst entries given = .ok (members, rest) →
    (members.map Prod.fst).Nodup ∧ ∀ m ∈ members, Fits fields depth value m.2
  | 0, _, _, _, _, _, _, _, _, _, h => by simp [readEntries] at h
  | fuel + 1, entries, depth, value, isFirst, members, given, rest, hkeys, hvalues, h => by
    rw [readEntries] at h
    obtain ⟨next | next, -, h⟩ := bind_eq_ok_iff.mp h
    · obtain ⟨rfl, -⟩ := Prod.mk.inj (Except.ok.inj h)
      exact ⟨hkeys, hvalues⟩
    · obtain ⟨⟨key, afterKey⟩, -, h⟩ := bind_eq_ok_iff.mp h
      obtain ⟨afterColon, -, h⟩ := bind_eq_ok_iff.mp h
      obtain ⟨⟨v, after⟩, hv, h⟩ := bind_eq_ok_iff.mp h
      refine fits_of_readEntries hfields fuel _ (nodup_keys_insertEntry key v hkeys) ?_ h
      intro m hm
      obtain rfl | hm := OrderedMap.mem_insertEntry hm
      · exact fits_of_readValue hfields fuel hv
      · exact hvalues m hm
termination_by structural fuel => fuel

/-- The members that are read for a record fit it, if those read before do. -/
theorem fits_of_readMembers (hfields : ∀ name, ((fields name).map Field.key).Nodup) :
    ∀ (fuel : Nat) (read : List (String × Option Json)) {depth : Nat} {name : Record}
    {isFirst : Bool} {members : List (String × Json)} {given rest : List Char},
    MembersFit fields depth name read →
    readMembers fields fuel depth (fields name) isFirst read given = .ok (members, rest) →
    Fits fields (depth + 1) (.record name) (.object members)
  | 0, _, _, _, _, _, _, _, _, h => by simp [readMembers] at h
  | fuel + 1, read, depth, name, isFirst, members, given, rest, hread, h => by
    rw [readMembers] at h
    obtain ⟨next | next, -, h⟩ := bind_eq_ok_iff.mp h
    · simp only at h
      split at h
      next hrequired =>
        obtain ⟨rfl, -⟩ := Prod.mk.inj (Except.ok.inj h)
        exact hread.fits_record (hfields name) hrequired
      next => cases h
    · obtain ⟨⟨key, afterKey⟩, -, h⟩ := bind_eq_ok_iff.mp h
      simp only at h
      split at h
      next =>
        obtain ⟨afterColon, -, h⟩ := bind_eq_ok_iff.mp h
        obtain ⟨after, -, h⟩ := bind_eq_ok_iff.mp h
        exact fits_of_readMembers hfields fuel _ hread h
      next field hfield =>
        split at h
        next => cases h
        next hnew =>
          obtain ⟨afterColon, -, h⟩ := bind_eq_ok_iff.mp h
          obtain ⟨⟨value, after⟩, hvalue, h⟩ := bind_eq_ok_iff.mp h
          refine fits_of_readMembers hfields fuel _ ⟨?_, ?_⟩ h
          · exact List.nodup_cons.mpr ⟨by simpa using hnew, hread.nodup_keys⟩
          · exact List.forall_mem_cons.mpr
              ⟨⟨field, hfield, fits_of_readField hfields fuel hvalue⟩, hread.fits⟩
termination_by structural fuel => fuel

/-- The fields that are read for a record written as a list are in order. -/
theorem fits_of_readFields (hfields : ∀ name, ((fields name).map Field.key).Nodup) :
    ∀ (fuel : Nat) {depth : Nat} {isFirst : Bool} {declared : List (Field Record)}
    {members : List (String × Json)} {given rest : List Char},
    readFields fields fuel depth isFirst declared given = .ok (members, rest) →
    InOrder fields depth declared members
  | 0, _, _, _, _, _, _, h => by simp [readFields] at h
  | fuel + 1, depth, isFirst, declared, members, given, rest, h => by
    cases declared with
    | nil =>
      rw [readFields] at h
      obtain ⟨after, -, heq⟩ := map_eq_ok_iff.mp h
      obtain ⟨rfl, -⟩ := Prod.mk.inj heq
      exact ⟨List.Sublist.slnil, rfl, List.forall_mem_nil _⟩
    | cons field declared =>
      rw [readFields] at h
      obtain ⟨next | next, -, h⟩ := bind_eq_ok_iff.mp h
      · simp only at h
        split at h
        next hends =>
          obtain ⟨rfl, -⟩ := Prod.mk.inj (Except.ok.inj h)
          refine InOrder.nil fun f hf hpresence => ?_
          have hend := List.all_eq_true.mp hends f hf
          rw [hpresence] at hend
          cases hend
        next => cases h
      · obtain ⟨⟨value, afterValue⟩, hvalue, h⟩ := bind_eq_ok_iff.mp h
        obtain ⟨⟨others, after⟩, hothers, h⟩ := bind_eq_ok_iff.mp h
        obtain ⟨rfl, -⟩ := Prod.mk.inj (Except.ok.inj h)
        have hgiven := fits_of_readField hfields fuel hvalue
        have hrest := fits_of_readFields hfields fuel hothers
        cases value with
        | none =>
          refine hrest.skip fun hpresence => ?_
          rw [GivenFits, hpresence] at hgiven
          cases hgiven
        | some v => exact hrest.cons hgiven
termination_by structural fuel => fuel

/-- What is read for a field fits it, as a null that may stand there is passed over. -/
theorem fits_of_readField (hfields : ∀ name, ((fields name).map Field.key).Nodup) :
    ∀ (fuel : Nat) {depth : Nat} {field : Field Record} {value : Option Json}
    {given rest : List Char}, readField fields fuel depth field given = .ok (value, rest) →
    GivenFits fields depth field value
  | 0, _, _, _, _, _, h => by simp [readField] at h
  | fuel + 1, depth, field, value, given, rest, h => by
    rw [readField] at h
    split at h
    next scanned hscanned =>
      obtain ⟨after, -, heq⟩ := map_eq_ok_iff.mp h
      obtain ⟨rfl, -⟩ := Prod.mk.inj heq
      exact isNullable_of_scanNull? hscanned
    next hscanned =>
      obtain ⟨v, hv, rfl⟩ := mapFound_eq_ok_iff.mp h
      have hfit := fits_of_readValue hfields fuel hv
      refine ⟨hfit, ?_⟩
      rintro hnullable rfl
      have hany : field.schema = .any := by
        generalize field.schema = schema at hfit
        cases hfit
        rfl
      rw [hany] at hv
      obtain ⟨tail, hgiven⟩ := exists_of_readValue_null hv
      simp [scanNull?, hnullable, hgiven] at hscanned
termination_by structural fuel => fuel

end

/-! ## Whole texts -/

/-- Whatever a text is read as fits the schema. -/
theorem fits_of_readWithin (hfields : ∀ name, ((fields name).map Field.key).Nodup) {depth : Nat}
    {schema : Schema Record} {v : Json} {text : String}
    (h : readWithin fields depth schema text = .ok v) : Fits fields depth schema v := by
  obtain ⟨⟨value, after⟩, hread, h⟩ := bind_eq_ok_iff.mp h
  simp only at h
  split at h
  next =>
    obtain rfl := Except.ok.inj h
    exact fits_of_readValue hfields _ hread
  next => cases h

end Schemas

end ClientGen.Json
